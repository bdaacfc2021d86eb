import ExprLang.Proofs.Outcomes
import ExprLang.Regex.Engine

/-!
# What the language relies on in an engine

The theory of the language holds with any engine.  What is documented of one (`Regex.Engine.Lawful`) carries over to the
methods that reach it: a text is split into pieces that stand in it one after the other, and not at all if the test of
the same regular expression fails (`StringMethod.run_split_regex`).  The engine of automata is lawful
(`Regex.Engine.automata_lawful`), because a match does not stop before it starts (`Regex.Automaton.run_ordered`).
-/

namespace ExprLang

namespace Regex

/-! ### Matches of automata -/

namespace Automaton

variable {m : Automaton} {before after : Option Char} {place : Nat} {text : List Char}

/-- The threads have started at the latest at a place. -/
def Started (place : Nat) (threads : List (Nat × Nat)) : Prop := ∀ thread ∈ threads, thread.2 ≤ place

/-- A match does not stop before it starts. -/
def Ordered (found : Option (Nat × Nat)) : Prop := ∀ span ∈ found, span.1 ≤ span.2

/-- All threads that wait after a state has been entered waited before or have the start of this one. -/
theorem mem_waiting_enter {start depth s : Nat} {t : Threads} {thread : Nat × Nat}
    (h : thread ∈ (m.enter before after start depth s t).waiting) : thread ∈ t.waiting ∨ thread.2 = start := by
  induction depth generalizing s t with
  | zero => exact .inl h
  | succ depth ih =>
    obtain ⟨entered, waiting⟩ := t
    rw [enter] at h
    split at h
    · exact .inl h
    split at h
    · exact .inl h
    · exact (List.mem_cons.1 h).symm.imp_right fun h => by rw [h]
    · exact (List.mem_cons.1 h).symm.imp_right fun h => by rw [h]
    · split at h
      · exact ih (t := ⟨entered.setIfInBounds s true, waiting⟩) h
      · exact .inl h
    · rcases ih h with h | h
      · exact ih (t := ⟨entered.setIfInBounds s true, waiting⟩) h
      · exact .inr h

theorem Started.enter {start depth s : Nat} {t : Threads} (h : Started place t.waiting) (hstart : start ≤ place) :
    Started place (m.enter before after start depth s t).waiting := by
  intro thread hthread
  rcases mem_waiting_enter hthread with hold | hnew
  · exact h thread hold
  · exact Nat.le_trans (Nat.le_of_eq hnew) hstart

theorem Started.enterAll {depth : Nat} {threads : List (Nat × Nat)} {t : Threads} (h : Started place t.waiting)
    (hthreads : Started place threads) :
    Started place (threads.foldl (fun t (s, start) => m.enter before after start depth s t) t).waiting := by
  induction threads generalizing t with
  | nil => exact h
  | cons thread threads ih =>
    have hthread := hthreads thread (List.mem_cons_self ..)
    exact ih (h.enter hthread) fun other hother => hthreads other (List.mem_cons_of_mem _ hother)

theorem upToAccept_started {threads : List (Nat × Nat)} (h : Started place threads) :
    Started place (m.upToAccept threads).1 ∧ ∀ start ∈ (m.upToAccept threads).2, start ≤ place := by
  induction threads with
  | nil => exact ⟨nofun, nofun⟩
  | cons thread threads ih =>
    obtain ⟨s, start⟩ := thread
    obtain ⟨hlive, haccepted⟩ := ih fun other hother => h other (List.mem_cons_of_mem _ hother)
    have hstart : start ≤ place := h (s, start) (List.mem_cons_self ..)
    rw [upToAccept]
    split
    · refine ⟨nofun, fun start' hstart' => ?_⟩
      cases hstart'
      exact hstart
    · refine ⟨fun other hother => ?_, haccepted⟩
      rcases List.mem_cons.1 hother with rfl | hother
      · exact hstart
      · exact hlive other hother

theorem Started.step {c : Char} {threads : List (Nat × Nat)} (h : Started place threads) :
    Started (place + 1) (threads.filterMap (m.step c)) := by
  intro thread hthread
  obtain ⟨old, hold, hstep⟩ := List.mem_filterMap.1 hthread
  have hle := h old hold
  rw [Automaton.step] at hstep
  split at hstep
  · split at hstep
    · cases hstep
      exact Nat.le_succ_of_le hle
    · cases hstep
  · cases hstep

/-- The threads that go on from a place in a search have started by then, and so has the one that accepts. -/
theorem round_started {depth : Nat} {threads live : List (Nat × Nat)} {first : Bool} {accepted : Option Nat}
    {old all : Threads} (hthreads : Started place threads)
    (hold : old = threads.foldl (fun t (s, start) => m.enter before after start depth s t)
      ⟨Array.replicate m.states.size false, []⟩)
    (hall : all = if first then m.enter before after place depth m.start old else old)
    (hsplit : m.upToAccept all.waiting.reverse = (live, accepted)) :
    Started place live ∧ ∀ start ∈ accepted, start ≤ place := by
  have hentered : Started place old.waiting := hold ▸ Started.enterAll nofun hthreads
  have hstarted : Started place all.waiting := by
    rw [hall]
    split
    · exact hentered.enter (Nat.le_refl _)
    · exact hentered
  have hupTo := upToAccept_started (m := m) fun thread h => hstarted thread (List.mem_reverse.1 h)
  rwa [hsplit] at hupTo

theorem ordered_accepted {best : Option (Nat × Nat)} (hbest : Ordered best) (accepted : Option Nat) :
    (∀ start ∈ accepted, start ≤ place) →
      Ordered (match accepted with | some start => some (start, place) | none => best) := by
  intro haccepted
  cases accepted with
  | none => exact hbest
  | some start =>
    intro span hspan
    cases hspan
    exact haccepted start rfl

/-- A search finds what it has found already or a match of one of its threads. -/
theorem run_ordered {threads : List (Nat × Nat)} {best : Option (Nat × Nat)} (hthreads : Started place threads)
    (hbest : Ordered best) : Ordered (m.run before place threads best text) := by
  fun_induction run m before place threads best text with
  | case1 => exact ordered_accepted hbest _ (round_started hthreads rfl rfl ‹_›).2
  | case2 => exact ordered_accepted hbest _ (round_started hthreads rfl rfl ‹_›).2
  | case3 =>
    rename_i ih
    obtain ⟨hlive, haccepted⟩ := round_started hthreads rfl rfl ‹_›
    exact ih hlive.step (ordered_accepted hbest _ haccepted)

theorem next?_ordered {lastEnd : Option Nat} : Ordered (m.next? before place lastEnd text) := by
  rw [next?.eq_def]
  split
  · exact nofun
  · rename_i first last hrun
    have hfirst : Ordered (some (first, last)) := hrun ▸ run_ordered nofun nofun
    split
    · split
      · exact nofun
      · exact run_ordered nofun nofun
    · exact hfirst

theorem pieces_ne_nil {fuel : Nat} {lastEnd : Option Nat} : m.pieces fuel before place lastEnd text ≠ [] := by
  cases fuel with
  | zero => exact List.cons_ne_nil _ _
  | succ fuel =>
    rw [pieces]
    split <;> exact List.cons_ne_nil _ _

/-- Since a match does not stop before it starts, the pieces stand in the text one after the other. -/
theorem flatten_pieces_sublist {fuel : Nat} {lastEnd : Option Nat} :
    (m.pieces fuel before place lastEnd text).flatten.Sublist text := by
  fun_induction pieces m fuel before place lastEnd text with
  | case1 => simp
  | case2 => simp
  | case3 fuel before place lastEnd text first last hnext ih =>
    have hle : first ≤ last := next?_ordered (first, last) hnext
    have hrest : (text.drop (last - place)).Sublist (text.drop (first - place)) :=
      List.drop_sublist_drop_left text (Nat.sub_le_sub_right hle place)
    have hpieces := (ih.trans hrest).append_left (text.take (first - place))
    rwa [List.take_append_drop] at hpieces

/-- Automata do with texts what is documented of matchers. -/
theorem matcher_lawful (m : Automaton) : m.matcher.Lawful where
  split_of_isMatch_eq_false text h := by
    have hfind : m.run none 0 [] none text = none := by simpa [matcher, isMatch, find?] using h
    simp [matcher, split, pieces, next?, hfind]
  split_ne_nil text := pieces_ne_nil
  flatten_split_sublist text := flatten_pieces_sublist

end Automaton

theorem Engine.automata_lawful : Engine.automata.Lawful := by
  intro options pattern m h
  simp only [Engine.automata] at h
  split at h
  · split at h
    · cases h
      exact Automaton.matcher_lawful _
    · cases h
  · cases h

/-- The regular expressions of a lawful engine. -/
theorem Engine.Lawful.of_compile {e : Engine} {pattern flags : String} {re : Regex} (h : e.Lawful)
    (hre : compile e pattern flags = .ok re) : re.matcher.Lawful := by
  rw [compile] at hre
  cases hflags : readFlags [] {} flags.toList with
  | error fault =>
    rw [hflags] at hre
    cases hre
  | ok options =>
    simp only [hflags, bind, Except.bind] at hre
    cases hbuild : e.build options pattern with
    | error reason =>
      rw [hbuild] at hre
      cases hre
    | ok matcher =>
      rw [hbuild] at hre
      cases hre
      exact h options pattern matcher hbuild

end Regex

/-! ### Methods that reach an engine -/

variable {e : Regex.Engine} {pattern flags : String} {v : Value} {l l' : Ledger}

/-- What an engine has made of a literal is a regular expression with a lawful matcher, if the engine is lawful. -/
theorem RegexSupport.exists_of_build_engine (h : e.Lawful)
    (hv : ((engine e).build pattern flags).outcome l = (.ok v, l')) :
    ∃ id re, v = .regex id re ∧ re.matcher.Lawful := by
  rw [build] at hv
  split at hv
  · rename_i re hre
    cases hv
    exact ⟨_, re, rfl, h.of_compile hre⟩
  · cases hv

/-- A text is split by a regular expression into pieces that stand in it one after the other.  If the test of the regular
expression fails on the text, it is not split at all. -/
theorem StringMethod.run_split_regex (h : e.Lawful)
    (hv : ((RegexSupport.engine e).build pattern flags).outcome l = (.ok v, l')) (text : List Char) :
    ∃ pieces : List (List Char), pieces ≠ [] ∧ pieces.flatten.Sublist text ∧
      split.run text [v] = Eval.newArray (pieces.map fun piece => .string (String.ofList piece)) ∧
      ∀ argument : Value, argument.chars = text → testRegex v [argument] = pure (.bool false) → pieces = [text] := by
  obtain ⟨id, re, rfl, hre⟩ := RegexSupport.exists_of_build_engine h hv
  refine ⟨re.matcher.split text, hre.split_ne_nil text, hre.flatten_split_sublist text, rfl, ?_⟩
  rintro argument rfl htest
  refine hre.split_of_isMatch_eq_false _ ?_
  have houtcome : (Except.ok (.bool (re.matcher.isMatch argument.chars)) : Except EvalError Value) = .ok (.bool false) :=
    congrArg (fun answer : Eval Value => (answer.outcome l).1) htest
  simpa using houtcome

end ExprLang
