import ExprLang.Proofs.ExactNumbers
import ExprLang.Proofs.SortedInsertion
import ExprLang.Value.Equality
import ExprLang.Value.Json
import Mathlib.Data.List.Forall2

/-!
# Values and their JSON values

* The JSON value of a value comes back: whatever is read from it has it as its JSON value (`Value.comesBack_toJson`).
  The entries of its objects are in order already, so inserting them again changes nothing, and an integer is that of
  the number read from it.
* A plain value, made of null, truth values, finite numbers, strings, arrays and objects, is alike what is read from
  its JSON value (`Value.IsPlain.survivesJson`).  Zero loses its sign, and the entries of an object are put in
  order.

Values are read with identities for their arrays and objects.  Neither fact depends on them, so both are stated about
what can be read with some identities (`Value.ReadFrom`).
-/

namespace ExprLang

/-! ### Numbers -/

namespace Number

theorem eqv_self {x : Number} (h : x.isFinite = true) : x.eqv x = true := by
  cases x with
  | nan => cases h
  | signed s p => simp [eqv, compare?, rank?]

/-- A whole number equals the number nearest to it as an integer. -/
theorem eqv_ofInt_toInt {x : Number} (h : x.isIntegral = true) : (ofInt x.toInt).eqv x = true := by
  rw [ofInt_toInt h]
  cases x with
  | nan => cases h
  | signed s p =>
    split
    · rename_i hzero
      rw [isZero_signed.1 hzero]
      cases s <;> decide +kernel
    · exact eqv_self (by grind [isIntegral, isFinite])

end Number

namespace Json

/-- What a JSON number is for the number that it is made of. -/
theorem ofNumber_cases (x : Number) :
    (x.isFinite = false ∧ ofNumber x = null) ∨ (x.isIntegral = true ∧ ofNumber x = int x.toInt) ∨
      (x.isFinite = true ∧ ofNumber x = double x) := by
  unfold ofNumber
  grind

theorem ofNumber_zero (negative : Bool) : ofNumber (.zero negative) = int 0 := by
  have hfinite : (Number.zero negative).isFinite = true := by cases negative <;> decide +kernel
  have hint : (Number.zero negative).isIntegral = true := by cases negative <;> decide +kernel
  have hsmall : Number.compare? (Number.zero false) (.ofNat (Nat.pow 2 53)) = some .lt := by decide +kernel
  have htoInt : (Number.zero negative).toInt = 0 := by cases negative <;> decide +kernel
  have habs : (Number.zero negative).abs = Number.zero false := rfl
  rw [ofNumber, hfinite, hint, habs, hsmall, htoInt]
  rfl

/-- The integer of a number is that of the number read from it. -/
theorem ofNumber_ofInt {x : Number} (h : x.isIntegral = true) (hx : ofNumber x = int x.toInt) :
    ofNumber (.ofInt x.toInt) = int x.toInt := by
  rw [Number.ofInt_toInt h]
  split
  · rename_i hzero
    obtain ⟨negative, rfl⟩ : ∃ negative, x = .zero negative := by
      cases x with
      | nan => cases h
      | signed s p => exact ⟨s, congrArg _ (Number.isZero_signed.1 hzero)⟩
    rw [← hx, ofNumber_zero, ofNumber_zero]
  · exact hx

end Json

/-! ### What is read from a JSON value -/

namespace Value

/-- A value is read from a JSON value, with some identities for its arrays and objects. -/
def ReadFrom (j : Json) (v : Value) : Prop := ∃ c, ((ofJson j).run c).1 = v

/-- An entry is read from an entry with the same key. -/
def EntryReadFrom (e : String × Json) (e' : String × Value) : Prop := e'.1 = e.1 ∧ ReadFrom e.2 e'.2

theorem forall₂_itemsOfJson (items : List Json) (c : Nat) :
    List.Forall₂ ReadFrom items ((itemsOfJson items).run c).1 := by
  induction items generalizing c with
  | nil => exact .nil
  | cons j items ih => exact .cons ⟨c, rfl⟩ (ih _)

theorem forall₂_entriesOfJson (entries : List (String × Json)) (c : Nat) :
    List.Forall₂ EntryReadFrom entries ((entriesOfJson entries).run c).1 := by
  induction entries generalizing c with
  | nil => exact .nil
  | cons e entries ih => exact .cons ⟨rfl, c, rfl⟩ (ih _)

theorem ReadFrom.exists_array {items : List Json} {w : Value} (h : ReadFrom (.array items) w) :
    ∃ id ws, w = array id ws ∧ List.Forall₂ ReadFrom items ws := by
  obtain ⟨c, rfl⟩ := h
  exact ⟨_, _, rfl, forall₂_itemsOfJson items c⟩

theorem ReadFrom.exists_object {entries : List (String × Json)} {w : Value} (h : ReadFrom (.object entries) w) :
    ∃ id es, w = object id es ∧ List.Forall₂ EntryReadFrom entries es := by
  obtain ⟨c, rfl⟩ := h
  exact ⟨_, _, rfl, forall₂_entriesOfJson entries c⟩

end Value

/-! ### JSON values that come back -/

namespace Json

open Value

/-- Whatever is read from a JSON value has it as its JSON value. -/
def ComesBack (j : Json) : Prop := ∀ w, ReadFrom j w → w.toJson = j

theorem comesBack_ofNumber (x : Number) : (ofNumber x).ComesBack := by
  rcases ofNumber_cases x with ⟨-, hx⟩ | ⟨h, hx⟩ | ⟨-, hx⟩
  · rw [hx]
    rintro w ⟨c, rfl⟩
    rfl
  · rw [hx]
    rintro w ⟨c, rfl⟩
    exact ofNumber_ofInt h hx
  · rw [hx]
    rintro w ⟨c, rfl⟩
    exact hx

theorem comesBack_array {items : List Json} (h : ∀ j ∈ items, j.ComesBack) : (array items).ComesBack := by
  intro w hw
  obtain ⟨id, ws, rfl, hws⟩ := hw.exists_array
  have hitems : itemsToJson ws = items := by
    have hall := (List.forall₂_and_left _ _).2 ⟨h, hws⟩
    clear h hw hws
    induction hall with
    | nil => rfl
    | cons hj _ ih => rw [itemsToJson, hj.1 _ hj.2, ih]
  rw [toJson, hitems]

theorem comesBack_object {entries : List (String × Json)} (hsorted : (Entries.keys entries).Pairwise (· < ·))
    (h : ∀ e ∈ entries, e.2.ComesBack) : (object entries).ComesBack := by
  intro w hw
  obtain ⟨id, es, rfl, hes⟩ := hw.exists_object
  have hentries : entriesToJson es = entries := by
    have hall := (List.forall₂_and_left _ _).2 ⟨h, hes⟩
    clear hsorted h hw hes
    induction hall with
    | nil => rfl
    | @cons e e' _ _ he _ ih =>
      obtain ⟨key, v⟩ := e'
      obtain ⟨hback, rfl, hv⟩ := he
      rw [entriesToJson, hback v hv, ih]
  rw [toJson, hentries, ofEntries_eq, insertAll_of_pairwise (by rwa [List.nil_append]), List.nil_append]

end Json

namespace Value

mutual

/-- The JSON value of a value comes back. -/
theorem comesBack_toJson : (v : Value) → v.toJson.ComesBack
  | undefined | null | function .. | bool _ | string _ | regex .. => by
    rintro w ⟨c, rfl⟩
    rfl
  | number x => Json.comesBack_ofNumber x
  | array _ items => Json.comesBack_array (comesBack_itemsToJson items)
  | object _ entries => by
    refine Json.comesBack_object (Json.pairwise_keys_insertAll .nil) fun e he => ?_
    exact comesBack_entriesToJson entries e ((Json.mem_insertAll he).resolve_left List.not_mem_nil)

theorem comesBack_itemsToJson : (items : List Value) → ∀ j ∈ itemsToJson items, j.ComesBack
  | [], _, hj => absurd hj List.not_mem_nil
  | v :: items, j, hj => by
    rcases List.mem_cons.1 hj with rfl | hj
    · exact comesBack_toJson v
    · exact comesBack_itemsToJson items j hj

theorem comesBack_entriesToJson : (entries : List (String × Value)) → ∀ e ∈ entriesToJson entries, e.2.ComesBack
  | [], _, he => absurd he List.not_mem_nil
  | (_, v) :: entries, e, he => by
    rcases List.mem_cons.1 he with rfl | he
    · exact comesBack_toJson v
    · exact comesBack_entriesToJson entries e he

end

/-! ### Plain values -/

/-- A value made of null, truth values, finite numbers, strings, arrays, and objects whose keys are distinct. -/
inductive IsPlain : Value → Prop where
  | null : IsPlain null
  | bool (b : Bool) : IsPlain (bool b)
  | number {x : Number} (h : x.isFinite = true) : IsPlain (number x)
  | string (s : String) : IsPlain (string s)
  | array (id : Nat) {items : List Value} (h : ∀ v ∈ items, IsPlain v) : IsPlain (array id items)
  | object (id : Nat) {entries : List (String × Value)} (hkeys : (Entries.keys entries).Nodup)
      (h : ∀ e ∈ entries, IsPlain e.2) : IsPlain (object id entries)

/-- Whatever is read from the JSON value of a value is alike the value. -/
def SurvivesJson (v : Value) : Prop := ∀ w, ReadFrom v.toJson w → w.alike v = true

theorem survivesJson_number {x : Number} (h : x.isFinite = true) : (number x).SurvivesJson := by
  change ∀ w, ReadFrom (.ofNumber x) w → _
  rcases Json.ofNumber_cases x with ⟨hx, -⟩ | ⟨hint, hx⟩ | ⟨-, hx⟩
  · simp [h] at hx
  · rw [hx]
    rintro w ⟨c, rfl⟩
    exact Number.eqv_ofInt_toInt hint
  · rw [hx]
    rintro w ⟨c, rfl⟩
    exact Number.eqv_self h

theorem itemsToJson_eq_map (items : List Value) : itemsToJson items = items.map toJson := by
  induction items with
  | nil => rfl
  | cons v items ih => rw [itemsToJson, ih, List.map_cons]

theorem entriesToJson_eq_map (entries : List (String × Value)) :
    entriesToJson entries = entries.map fun e => (e.1, e.2.toJson) := by
  induction entries with
  | nil => rfl
  | cons e entries ih => rw [entriesToJson, ih, List.map_cons]

theorem survivesJson_array (id : Nat) {items : List Value} (h : ∀ v ∈ items, v.SurvivesJson) :
    (array id items).SurvivesJson := by
  intro w hw
  obtain ⟨id', ws, rfl, hws⟩ := hw.exists_array
  rw [itemsToJson_eq_map, List.forall₂_map_left_iff] at hws
  have hall := (List.forall₂_and_left _ _).2 ⟨h, hws⟩
  rw [alike]
  clear h hw hws
  induction hall with
  | nil => rfl
  | cons hv _ ih => rw [alikeItems, hv.1 _ hv.2, ih, Bool.and_self]

/-- Entries that are read from JSON values of some entries of an object have values alike those in the object. -/
theorem alikeEntries_of_forall₂ {entries es : List (String × Value)} {js : List (String × Json)}
    (hkeys : (Entries.keys entries).Nodup) (h : ∀ e ∈ entries, e.2.SurvivesJson)
    (hjs : ∀ e ∈ js, ∃ v, (e.1, v) ∈ entries ∧ e.2 = v.toJson) (hes : List.Forall₂ EntryReadFrom js es) :
    alikeEntries es entries = true := by
  have hall := (List.forall₂_and_left _ _).2 ⟨hjs, hes⟩
  clear hjs hes
  induction hall with
  | nil => rfl
  | @cons e e' _ _ he _ ih =>
    obtain ⟨key, w⟩ := e'
    obtain ⟨⟨v, hv, hjson⟩, rfl, hread⟩ := he
    rw [hjson] at hread
    rw [alikeEntries, Entries.lookup_of_mem hkeys hv, ih, Bool.and_true]
    exact h _ hv w hread

theorem survivesJson_object (id : Nat) {entries : List (String × Value)} (hkeys : (Entries.keys entries).Nodup)
    (h : ∀ e ∈ entries, e.2.SurvivesJson) : (object id entries).SurvivesJson := by
  intro w hw
  obtain ⟨id', es, rfl, hes⟩ := hw.exists_object
  have hperm : (Json.insertAll [] (entriesToJson entries)).Perm (entriesToJson entries) := by
    refine Json.insertAll_perm ?_
    rw [List.nil_append, entriesToJson_eq_map, Entries.keys, List.map_map]
    exact hkeys
  have hlength : es.length = entries.length := by
    rw [← hes.length_eq, ← Json.insertAll, hperm.length_eq, entriesToJson_eq_map, List.length_map]
  rw [alike, hlength, beq_self_eq_true, Bool.true_and]
  refine alikeEntries_of_forall₂ hkeys h (fun e he => ?_) hes
  have hmem := hperm.mem_iff.1 he
  rw [entriesToJson_eq_map, List.mem_map] at hmem
  obtain ⟨f, hf, rfl⟩ := hmem
  exact ⟨f.2, hf, rfl⟩

theorem IsPlain.survivesJson {v : Value} (h : v.IsPlain) : v.SurvivesJson := by
  induction h with
  | null =>
    rintro w ⟨c, rfl⟩
    rfl
  | bool b =>
    rintro w ⟨c, rfl⟩
    exact beq_self_eq_true b
  | number hx => exact survivesJson_number hx
  | string s =>
    rintro w ⟨c, rfl⟩
    exact beq_self_eq_true s
  | array id _ ih => exact survivesJson_array id ih
  | object id hkeys _ ih => exact survivesJson_object id hkeys ih

/-- A JSON value that is made of a value comes back, and a plain value comes back from it but for identities, the sign
of zero and the order of entries. -/
theorem toJson_roundTrip (v : Value) (c : Nat) :
    ((ofJson v.toJson).run c).1.toJson = v.toJson ∧
      (v.IsPlain → ((ofJson v.toJson).run c).1.alike v = true) := by
  have hread : ReadFrom v.toJson ((ofJson v.toJson).run c).1 := ⟨c, rfl⟩
  exact ⟨comesBack_toJson v _ hread, fun h => h.survivesJson _ hread⟩

/-- An object whose entries are not in order, with an array that holds `-0`. -/
def unordered : Value :=
  object 0 [("b", array 1 [number (.zero true), null, bool true]), ("a", string "text")]

theorem alike_of_unordered : unordered.IsPlain ∧ ((ofJson unordered.toJson).run 2).1.alike unordered = true := by
  have hitems : ∀ v ∈ [number (.zero true), null, bool true], IsPlain v := by
    simp only [List.forall_mem_cons]
    exact ⟨.number (by decide +kernel), .null, .bool true, by simp⟩
  have hplain : unordered.IsPlain := by
    refine .object 0 (by decide) ?_
    simp only [List.forall_mem_cons]
    exact ⟨.array 1 hitems, .string _, by simp⟩
  exact ⟨hplain, (toJson_roundTrip unordered 2).2 hplain⟩

end Value

end ExprLang
