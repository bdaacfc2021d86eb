import ExprLang.Node.Machine
import ExprLang.Proofs.OperatorReading
import ExprLang.Proofs.ParserSteps

/-!
# What the instructions of the machine do

A trail is sound when its cursors stay within the tokens and the greatest depth and never go back.  A run from a sound
trail *agrees* with a parser when it ends with any fuel from some amount on, on a sound trail that extends the first, with
the error of the parser or else with results that a relation ties together (`Agrees`).  It may also break, but only by an
overflow, and only where a word does not hold the number of the tokens or where one of them stops.  There is one rule for
each instruction: what is left of the run has to agree from the trail that the instruction leaves.
-/

namespace ExprLang.Machine

variable {α β γ δ : Type} {tokens : List Token} {t t' : Trail}

/-- The cursors of a trail are within the tokens and the greatest depth, and none is before an earlier one. -/
structure Trail.Sound (tokens : List Token) (t : Trail) : Prop where
  within : ∀ c ∈ t.cursors, c.position ≤ tokens.length ∧ c.depth ≤ maxDepth
  forward : t.cursors.Pairwise fun later earlier => earlier.position ≤ later.position

/-- Words hold the number of the tokens and where each of them stops. -/
structure Addressable (tokens : List Token) : Prop where
  length : tokens.length ≤ maxWord
  fits : ∀ u ∈ tokens, u.range.Fits

/-- A range fits if those of the tokens do. -/
def Bounded (tokens : List Token) (r : Range) : Prop := Addressable tokens → r.Fits

theorem bounded_token {u : Token} (h : u ∈ tokens) : Bounded tokens u.range := fun ha => ha.fits u h

theorem Bounded.cover {r s : Range} (hr : Bounded tokens r) (hs : Bounded tokens s) : Bounded tokens (r.cover s) :=
  fun ha => (hr ha).cover (hs ha)

/-- A trail has gone on past the cursor of another and is back at its depth. -/
structure Trail.Passes (t t' : Trail) : Prop where
  forward : t.now.position < t'.now.position
  depth : t'.now.depth = t.now.depth

namespace Trail

theorem sound_start (tokens : List Token) : start.Sound tokens where
  within := by simp [start, cursors]
  forward := List.pairwise_singleton ..

@[simp] theorem position_past (n : Nat) : (t.past n).now.position = t.now.position + n := rfl

@[simp] theorem depth_past (n : Nat) : (t.past n).now.depth = t.now.depth := rfl

@[simp] theorem position_toDepth (depth : Nat) : (t.toDepth depth).now.position = t.now.position := rfl

@[simp] theorem depth_toDepth (depth : Nat) : (t.toDepth depth).now.depth = depth := rfl

theorem length_rest : (t.rest tokens).length = tokens.length - t.now.position := List.length_drop

theorem mem_of_rest {u : Token} (h : u ∈ t.rest tokens) : u ∈ tokens := List.mem_of_mem_drop h

@[simp] theorem rest_past (n : Nat) : (t.past n).rest tokens = (t.rest tokens).drop n := List.drop_drop.symm

@[simp] theorem rest_toDepth (depth : Nat) : (t.toDepth depth).rest tokens = t.rest tokens := rfl

theorem mem_cursors_now (t : Trail) : t.now ∈ t.cursors := List.mem_cons_self ..

theorem Sound.position_le (h : t.Sound tokens) : t.now.position ≤ tokens.length := (h.within _ t.mem_cursors_now).1

theorem Sound.depth_le (h : t.Sound tokens) : t.now.depth ≤ maxDepth := (h.within _ t.mem_cursors_now).2

/-- A trail stays sound when the cursor moves forward within the bounds. -/
theorem Sound.push (h : t.Sound tokens) {c : Cursor} (hforward : t.now.position ≤ c.position)
    (hposition : c.position ≤ tokens.length) (hdepth : c.depth ≤ maxDepth) : (t.push c).Sound tokens where
  within := List.forall_mem_cons.2 ⟨⟨hposition, hdepth⟩, h.within⟩
  forward := by
    refine List.pairwise_cons.2 ⟨fun earlier hearlier => ?_, h.forward⟩
    rcases List.mem_cons.1 hearlier with rfl | hbefore
    · exact hforward
    · exact Nat.le_trans ((List.pairwise_cons.1 h.forward).1 earlier hbefore) hforward

/-- What a sound trail has been extended to is not before it. -/
theorem Sound.position_le_of_suffix (h : t'.Sound tokens) (hsuffix : t.cursors <:+ t'.cursors) :
    t.now.position ≤ t'.now.position := by
  rcases List.mem_cons.1 (hsuffix.subset t.mem_cursors_now) with heq | hbefore
  · rw [heq]
  · exact (List.pairwise_cons.1 h.forward).1 _ hbefore

end Trail

/-! ### Runs one after the other -/

theorem outcome_bind_ok {action : Run α} {next : α → Run γ} {a : α} (h : action.outcome t = some (.ok a, t')) :
    (action >>= next).outcome t = (next a).outcome t' := by
  change (action.outcome t).bind _ = _
  rw [h]
  rfl

theorem outcome_bind_error {action : Run α} {next : α → Run γ} {s : Stop}
    (h : action.outcome t = some (.error s, t')) : (action >>= next).outcome t = some (.error s, t') := by
  change (action.outcome t).bind _ = _
  rw [h]
  rfl

/-- With enough fuel, a run from a trail ends with an outcome and a trail. -/
def Ends (action : Nat → Run α) (t : Trail) (outcome : Except Stop α) (t' : Trail) : Prop :=
  ∃ n, ∀ fuel, n ≤ fuel → (action fuel).outcome t = some (outcome, t')

namespace Ends

variable {action : Nat → Run α} {next : Nat → α → Run γ} {outcome : Except Stop γ} {a : α} {t'' : Trail}

theorem succ {outcome : Except Stop α} (h : Ends (fun fuel => action (fuel + 1)) t outcome t') :
    Ends action t outcome t' := by
  obtain ⟨n, h⟩ := h
  refine ⟨n + 1, fun fuel hfuel => ?_⟩
  obtain ⟨fuel, rfl⟩ : ∃ k, fuel = k + 1 := Nat.exists_eq_succ_of_ne_zero (by omega)
  exact h fuel (by omega)

theorem bind (h : Ends action t (.ok a) t') (hnext : Ends (fun fuel => next fuel a) t' outcome t'') :
    Ends (fun fuel => action fuel >>= next fuel) t outcome t'' := by
  obtain ⟨n, h⟩ := h
  obtain ⟨m, hnext⟩ := hnext
  refine ⟨max n m, fun fuel hfuel => ?_⟩
  rw [outcome_bind_ok (h fuel (by omega)), hnext fuel (by omega)]

theorem bind_error {s : Stop} (h : Ends action t (.error s) t') :
    Ends (fun fuel => action fuel >>= next fuel) t (.error s) t' := by
  obtain ⟨n, h⟩ := h
  exact ⟨n, fun fuel hfuel => outcome_bind_error (h fuel hfuel)⟩

theorem const {action : Run α} {outcome : Except Stop α} (h : action.outcome t = some (outcome, t')) :
    Ends (fun _ => action) t outcome t' := ⟨0, fun _ _ => h⟩

end Ends

/-- A run has broken by an overflow, which takes tokens that are not addressable. -/
def Overflowed (tokens : List Token) (outcome : Except Stop α) : Prop :=
  outcome = .error (.broken .overflow) ∧ ¬ Addressable tokens

/-- From a sound trail, a run ends as a parser does, unless it overflows: with its error, or with a result and on a trail
that are tied to its result. -/
def Agrees (tokens : List Token) (action : Nat → Run α) (t : Trail) (parsed : Except SyntaxError β)
    (tied : α → β → Trail → Prop) : Prop :=
  t.Sound tokens → ∃ outcome t', Ends action t outcome t' ∧ t'.Sound tokens ∧ t.cursors <:+ t'.cursors ∧
    (Overflowed tokens outcome ∨
      match parsed with
      | .ok b => ∃ a, outcome = .ok a ∧ tied a b t'
      | .error e => outcome = .error (.rejected e))

namespace Agrees

variable {action : Nat → Run α} {next : Nat → α → Run γ} {parsed : Except SyntaxError β}
  {rest : β → Except SyntaxError δ} {tied : α → β → Trail → Prop} {tied' : γ → δ → Trail → Prop}
  {result : Except SyntaxError δ}

protected theorem pure {a : α} {b : β} (h : tied a b t) : Agrees tokens (fun _ => pure a) t (.ok b) tied :=
  fun hsound => ⟨_, _, .const rfl, hsound, List.suffix_rfl, .inr ⟨a, rfl, h⟩⟩

protected theorem reject {e : SyntaxError} : Agrees tokens (fun _ => (reject e : Run α)) t (.error e) tied :=
  fun hsound => ⟨_, _, .const rfl, hsound, List.suffix_rfl, .inr rfl⟩

/-- A sum that no word holds, of numbers that words hold if the tokens are addressable. -/
theorem overflow {parsed : Except SyntaxError β} (h : ¬ Addressable tokens) :
    Agrees tokens (fun _ => (throw (.broken .overflow) : Run α)) t parsed tied :=
  fun hsound => ⟨_, _, .const rfl, hsound, List.suffix_rfl, .inl ⟨rfl, h⟩⟩

/-- A call takes one from the fuel. -/
theorem succ (h : Agrees tokens (fun fuel => action (fuel + 1)) t parsed tied) : Agrees tokens action t parsed tied := by
  intro hsound
  obtain ⟨outcome, t', hends, h⟩ := h hsound
  exact ⟨outcome, t', hends.succ, h⟩

protected theorem bind (h : Agrees tokens action t parsed tied)
    (hnext : ∀ a b t', t'.Sound tokens → t.cursors <:+ t'.cursors → tied a b t' →
      Agrees tokens (fun fuel => next fuel a) t' (rest b) tied') :
    Agrees tokens (fun fuel => action fuel >>= next fuel) t (parsed >>= rest) tied' := by
  intro hsound
  obtain ⟨outcome, t', hends, hsound', hsuffix, ⟨rfl, hoverflow⟩ | h⟩ := h hsound
  · exact ⟨_, t', hends.bind_error, hsound', hsuffix, .inl ⟨rfl, hoverflow⟩⟩
  cases parsed with
  | error e =>
    subst h
    exact ⟨_, t', hends.bind_error, hsound', hsuffix, .inr rfl⟩
  | ok b =>
    obtain ⟨a, rfl, htied⟩ := h
    obtain ⟨outcome, t'', hends', hsound'', hsuffix', h'⟩ := hnext a b t' hsound' hsuffix htied hsound'
    exact ⟨outcome, t'', hends.bind hends', hsound'', hsuffix.trans hsuffix', h'⟩

/-- What the machine does behind a run that agrees with all of a parser. -/
theorem bind_pure {tied' : γ → β → Trail → Prop} (h : Agrees tokens action t parsed tied)
    (hnext : ∀ a b t', t'.Sound tokens → t.cursors <:+ t'.cursors → tied a b t' →
      Agrees tokens (fun fuel => next fuel a) t' (.ok b) tied') :
    Agrees tokens (fun fuel => action fuel >>= next fuel) t parsed tied' := by
  have hbind : Agrees tokens (fun fuel => action fuel >>= next fuel) t (parsed >>= Except.ok) tied' := h.bind hnext
  cases parsed <;> exact hbind

/-- What the parser makes of a result of its own. -/
theorem tie {tied' : α → δ → Trail → Prop} (h : Agrees tokens action t parsed tied)
    (hrest : ∀ a b t', tied a b t' → ∃ d, rest b = .ok d ∧ tied' a d t') :
    Agrees tokens action t (parsed >>= rest) tied' := by
  intro hsound
  obtain ⟨outcome, t', hends, hsound', hsuffix, ⟨rfl, hoverflow⟩ | h⟩ := h hsound
  · exact ⟨_, t', hends, hsound', hsuffix, .inl ⟨rfl, hoverflow⟩⟩
  refine ⟨outcome, t', hends, hsound', hsuffix, .inr ?_⟩
  cases parsed with
  | error e => exact h
  | ok b =>
    obtain ⟨a, rfl, htied⟩ := h
    obtain ⟨d, hd, htied'⟩ := hrest a b t' htied
    change match rest b with | .ok d => _ | .error e => _
    rw [hd]
    exact ⟨a, rfl, htied'⟩

theorem mono {tied' : α → β → Trail → Prop} (h : Agrees tokens action t parsed tied)
    (htied : ∀ a b t', tied a b t' → tied' a b t') : Agrees tokens action t parsed tied' := by
  have htie : Agrees tokens action t (parsed >>= Except.ok) tied' :=
    h.tie fun a b t' hab => ⟨b, rfl, htied a b t' hab⟩
  cases parsed <;> exact htie

/-! ### The cursor -/

theorem cursor {next : Nat → Cursor → Run γ} (h : Agrees tokens (fun fuel => next fuel t.now) t result tied') :
    Agrees tokens (fun fuel => cursor >>= next fuel) t result tied' := h

/-- A move of the cursor that keeps the trail sound. -/
theorem move {next : Nat → Unit → Run γ} {f : Trail → Trail} {c : Cursor} (hf : f t = t.push c)
    (hpush : t.Sound tokens → (t.push c).Sound tokens)
    (h : Agrees tokens (fun fuel => next fuel ()) (f t) result tied') :
    Agrees tokens (fun fuel => modify f >>= next fuel) t result tied' := by
  intro hsound
  rw [hf] at h
  obtain ⟨outcome, t', hends, hsound', hsuffix, h⟩ := h (hpush hsound)
  have hmodify : (modify f : Run Unit).outcome t = some (.ok (), t.push c) := by
    rw [← hf]
    rfl
  exact ⟨outcome, t', (Ends.const hmodify).bind hends, hsound', (List.suffix_cons ..).trans hsuffix, h⟩

theorem setDepth {next : Nat → Unit → Run γ} {depth : Nat} (hdepth : depth ≤ maxDepth)
    (h : Agrees tokens (fun fuel => next fuel ()) (t.toDepth depth) result tied') :
    Agrees tokens (fun fuel => setDepth depth >>= next fuel) t result tied' :=
  move rfl (fun hsound => hsound.push (Nat.le_refl _) hsound.position_le hdepth) h

/-! ### Words -/

theorem plus {next : Nat → Nat → Run γ} {m n : Nat} (hword : Addressable tokens → m + n ≤ maxWord)
    (h : Agrees tokens (fun fuel => next fuel (m + n)) t result tied') :
    Agrees tokens (fun fuel => plus m n >>= next fuel) t result tied' := by
  unfold Machine.plus
  by_cases hsum : m + n ≤ maxWord
  · simp only [if_pos hsum]
    exact h
  · simp only [if_neg hsum]
    exact overflow fun ha => hsum (hword ha)

theorem minus {next : Nat → Nat → Run γ} {m n : Nat} (hle : n ≤ m)
    (h : Agrees tokens (fun fuel => next fuel (m - n)) t result tied') :
    Agrees tokens (fun fuel => minus m n >>= next fuel) t result tied' := by
  simp only [Machine.minus, if_pos hle]
  exact h

theorem cover {next : Nat → Range → Run γ} {r s : Range} (hr : Bounded tokens r) (hs : Bounded tokens s)
    (h : Agrees tokens (fun fuel => next fuel (r.cover s)) t result tied') :
    Agrees tokens (fun fuel => cover r s >>= next fuel) t result tied' := by
  unfold Machine.cover
  by_cases hfits : r.Fits ∧ s.Fits
  · simp only [Range.cover?_eq_some hfits.1 hfits.2]
    exact h
  · simp only [Range.cover?_eq_none hfits]
    exact overflow fun ha => hfits ⟨hr ha, hs ha⟩

theorem advance {next : Nat → Unit → Run γ} {n : Nat} (hn : n ≤ (t.rest tokens).length)
    (h : Agrees tokens (fun fuel => next fuel ()) (t.past n) result tied') :
    Agrees tokens (fun fuel => advance n >>= next fuel) t result tied' := by
  intro hsound
  have hposition : t.now.position + n ≤ tokens.length := by
    have hle := hsound.position_le
    rw [Trail.length_rest] at hn
    omega
  revert hsound
  simp only [Machine.advance, bind_assoc]
  refine cursor (plus (fun ha => Nat.le_trans hposition ha.length) ?_)
  exact move rfl (fun hsound => hsound.push (Nat.le_add_right ..) hposition hsound.depth_le) h

/-- A construct opens while the budget lasts. -/
theorem descend {next : Nat → Unit → Run γ} {b offset : Nat} (hb : b + 1 + t.now.depth = maxDepth)
    (h : Agrees tokens (fun fuel => next fuel ()) (t.toDepth (t.now.depth + 1)) result tied') :
    Agrees tokens (fun fuel => descend offset >>= next fuel) t result tied' := by
  have hdepth : t.now.depth + 1 ≤ maxDepth := by omega
  simp only [Machine.descend, bind_assoc]
  refine cursor ?_
  simp only [if_neg (show ¬ t.now.depth = maxDepth by omega), bind_assoc]
  exact plus (fun _ => Nat.le_trans hdepth (by decide)) (setDepth hdepth h)

theorem descend_limit {next : Nat → Unit → Run γ} {offset : Nat} (hb : 0 + t.now.depth = maxDepth) :
    Agrees tokens (fun fuel => Machine.descend offset >>= next fuel) t (.error (.unexpectedToken offset)) tied' := by
  simp only [Machine.descend, bind_assoc]
  refine cursor ?_
  simp only [if_pos (show t.now.depth = maxDepth by omega)]
  have hreject : Agrees tokens (fun _ => (reject (.unexpectedToken offset) : Run Unit)) t
      (.error (.unexpectedToken offset)) fun _ (_ : δ) _ => False := Agrees.reject
  exact hreject.bind_pure fun _ _ _ _ _ hfalse => hfalse.elim

theorem ascend {next : Nat → Unit → Run γ} {depth : Nat} (hdepth : t.now.depth = depth + 1)
    (h : Agrees tokens (fun fuel => next fuel ()) (t.toDepth depth) result tied') :
    Agrees tokens (fun fuel => ascend >>= next fuel) t result tied' := by
  intro hsound
  have hle := hsound.depth_le
  revert hsound
  simp only [Machine.ascend, bind_assoc]
  refine cursor (minus (by omega) ?_)
  rw [hdepth, Nat.add_sub_cancel]
  exact setDepth (by omega) h

/-! ### The tokens -/

theorem peek {next : Nat → Option Token → Run γ}
    (h : Agrees tokens (fun fuel => next fuel (t.rest tokens).head?) t result tied') :
    Agrees tokens (fun fuel => peek tokens >>= next fuel) t result tied' := by
  rw [Trail.rest, List.head?_drop] at h
  exact h

theorem peekSymbol {c : Char} {next : Nat → Option Token → Run γ}
    (h : Agrees tokens (fun fuel => next fuel ((t.rest tokens).head?.filter (·.isSymbol c))) t result tied') :
    Agrees tokens (fun fuel => peekSymbol tokens c >>= next fuel) t result tied' := by
  simp only [Machine.peekSymbol, bind_assoc]
  exact peek h

theorem current {u : Token} {us : List Token} {next : Nat → Token → Run γ} (hrest : t.rest tokens = u :: us)
    (h : Agrees tokens (fun fuel => next fuel u) t result tied') :
    Agrees tokens (fun fuel => current tokens >>= next fuel) t result tied' := by
  simp only [Machine.current, bind_assoc]
  refine peek ?_
  rw [hrest]
  exact h

theorem matchOperator {table : OperatorTable} {next : Nat → Option BinaryOp → Run γ}
    (h : Agrees tokens (fun fuel => next fuel (Parser.globalRule table (t.rest tokens))) t result tied') :
    Agrees tokens (fun fuel => matchOperator tokens table >>= next fuel) t result tied' := by
  simp only [Machine.matchOperator, bind_assoc]
  refine cursor ?_
  intro hsound
  simp only [if_pos hsound.position_le]
  exact h hsound

/-- What is read is the token at the cursor, and the cursor is behind it. -/
theorem nextRequired :
    Agrees tokens (fun _ => nextRequired tokens) t (Parser.next (t.rest tokens)) fun u x t' =>
      x = (u, t'.rest tokens) ∧ t' = t.past 1 ∧ Bounded tokens u.range := by
  unfold Machine.nextRequired
  refine peek ?_
  cases hrest : t.rest tokens with
  | nil => exact Agrees.reject
  | cons u us =>
    refine advance (by rw [hrest]; exact Nat.le_add_left ..) (Agrees.pure ⟨?_, rfl, ?_⟩)
    · rw [Trail.rest_past, hrest]
      rfl
    · exact bounded_token (Trail.mem_of_rest (hrest ▸ List.mem_cons_self ..))

theorem expectSymbol {c : Char} :
    Agrees tokens (fun _ => expectSymbol tokens c) t (Parser.expect c (t.rest tokens)) fun range x t' =>
      x = (range, t'.rest tokens) ∧ t' = t.past 1 ∧ Bounded tokens range := by
  refine nextRequired.bind ?_
  rintro u _ t' - - ⟨rfl, rfl, hu⟩
  simp only
  split
  · exact Agrees.pure ⟨rfl, rfl, hu⟩
  · exact Agrees.reject

end Agrees

end ExprLang.Machine
