import ExprLang.Proofs.Occurrences
import ExprLang.Proofs.SequenceSlices

/-!
# Splitting and joining

A separator that is neither undefined nor a regular expression counts by its text, for `split` as for `join`
(`Value.splitText_of_text`, `Value.joinItems_of_text`); undefined keeps the string whole, and an empty text cuts it into
characters.  The pieces joined with the same separator make the string again (`Value.joinItems_splitText`), and strings
without a character come back when they are joined with it and split (`Value.splitText_joinItems`).
-/

namespace ExprLang

namespace Value

variable {host : Host} {v : Value} {text : List Char} {texts : List (List Char)} {c : Char}

/-! ### Separators -/

theorem splitText_of_text (hundefined : v.isUndefined = false) (hregex : v.asRegex? = none) (text : List Char) :
    StringMethod.splitText text (some v) =
      match v.chars with
      | [] => text.map ([·])
      | c :: separator => Text.splitOn c separator text := by
  cases v with
  | undefined => cases hundefined
  | regex => cases hregex
  | _ => rfl

theorem joinItems_of_text (hundefined : v.isUndefined = false) (items : List Value) :
    ArrayMethod.joinItems items (some v) = v.chars.intercalate (itemTexts items) := by
  cases v with
  | undefined => cases hundefined
  | _ => rfl

/-- A text that is not empty cuts at its leftmost occurrences. -/
theorem cuts_splitText (hundefined : v.isUndefined = false) (hregex : v.asRegex? = none) (hne : v.chars ≠ []) :
    Text.Cuts v.chars text (StringMethod.splitText text (some v)) := by
  obtain ⟨c, separator, hchars⟩ := List.exists_cons_of_ne_nil hne
  rw [splitText_of_text hundefined hregex, hchars]
  exact Text.cuts_splitOn c separator text

/-! ### There and back -/

theorem joinItems_splitText (hregex : v.asRegex? = none) :
    ArrayMethod.joinItems ((StringMethod.splitText text (some v)).map fun t => string (String.ofList t)) (some v) =
      text := by
  by_cases hundefined : v.isUndefined = false
  · rw [joinItems_of_text hundefined, itemTexts_map_string]
    by_cases hempty : v.chars = []
    · rw [splitText_of_text hundefined hregex, hempty]
      exact intercalate_nil_map_singleton text
    · exact (cuts_splitText hundefined hregex hempty).intercalate_eq
  · -- undefined separates nothing, and the comma of `join` has no second item to stand before
    cases v with
    | undefined =>
      have hwhole : StringMethod.splitText text (some undefined) = [text] := rfl
      rw [hwhole]
      show [','].intercalate (itemTexts _) = text
      rw [itemTexts_map_string, List.intercalate_singleton]
    | _ => exact absurd rfl hundefined

theorem splitText_joinItems (hne : texts ≠ []) (h : ∀ t ∈ texts, c ∉ t) :
    StringMethod.splitText
      (ArrayMethod.joinItems (texts.map fun t => string (String.ofList t)) (some (string (String.singleton c))))
      (some (string (String.singleton c))) = texts := by
  have hchars : (string (String.singleton c)).chars = [c] := String.toList_singleton c
  rw [joinItems_of_text rfl, itemTexts_map_string, splitText_of_text rfl rfl, hchars]
  exact Text.splitOn_eq_iff.2 (Text.cuts_intercalate hne h)

/-! ### Calls -/

theorem callMethod_join (id : Nat) (items : List Value) (v : Value) :
    ((array id items).callMethod host "join" [v]).Returns
      (· = string (String.ofList (ArrayMethod.joinItems items (some v)))) :=
  callMethod_array .join (Eval.returns_pure _)

/-- Splitting a string and joining the pieces. -/
def splitJoin (host : Host) (s : String) (separator : Value) : Eval Value := do
  let pieces ← (string s).callMethod host "split" [separator]
  pieces.callMethod host "join" [separator]

/-- Joining strings and splitting the result. -/
def joinSplit (host : Host) (id : Nat) (pieces : List String) (separator : Value) : Eval Value := do
  let joined ← (array id (pieces.map string)).callMethod host "join" [separator]
  joined.callMethod host "split" [separator]

theorem splitJoin_returns (s : String) (hregex : v.asRegex? = none) : (splitJoin host s v).Returns (· = string s) := by
  refine (callMethod_splitText s v).bind_array fun id => ?_
  have hjoin := @callMethod_join host id
    ((StringMethod.splitText s.toList (some v)).map fun t => string (String.ofList t)) v
  rwa [joinItems_splitText hregex, String.ofList_toList] at hjoin

/-- The pieces of a string, none of which contains the separator. -/
theorem callMethod_split_not_occurs (s : String) (hundefined : v.isUndefined = false) (hregex : v.asRegex? = none)
    (hne : v.text ≠ "") :
    ((string s).callMethod host "split" [v]).Returns fun a =>
      ∃ id, ∃ pieces : List String, a = array id (pieces.map string) ∧
        ∀ piece ∈ pieces, ¬ v.text.toList <:+: piece.toList := by
  have hchars : v.chars ≠ [] := by
    intro hempty
    exact hne (congrArg String.ofList hempty)
  refine (callMethod_splitText s v).mono fun a ha => ?_
  obtain ⟨id, rfl⟩ := ha
  refine ⟨id, (StringMethod.splitText s.toList (some v)).map String.ofList, by rw [List.map_map]; rfl, ?_⟩
  intro piece hpiece
  obtain ⟨t, ht, rfl⟩ := List.mem_map.1 hpiece
  rw [text, String.toList_ofList, String.toList_ofList]
  exact (cuts_splitText hundefined hregex hchars).not_occurs hchars t ht

theorem map_string_eq (pieces : List String) :
    pieces.map string = (pieces.map String.toList).map fun t => string (String.ofList t) := by
  rw [List.map_map]
  exact List.map_congr_left fun piece _ => congrArg string String.ofList_toList.symm

theorem joinSplit_returns (id : Nat) {pieces : List String} (hne : pieces ≠ [])
    (h : ∀ piece ∈ pieces, c ∉ piece.toList) :
    (joinSplit host id pieces (string (String.singleton c))).Returns fun a => ∃ id, a = array id (pieces.map string) := by
  have hne' : pieces.map String.toList ≠ [] := mt List.map_eq_nil_iff.1 hne
  have h' : ∀ t ∈ pieces.map String.toList, c ∉ t := List.forall_mem_map.2 h
  refine (callMethod_join id (pieces.map string) _).bind_eq ?_
  have hsplit := @callMethod_splitText host (String.ofList (ArrayMethod.joinItems (pieces.map string)
    (some (string (String.singleton c))))) (string (String.singleton c))
  rw [String.toList_ofList, map_string_eq, splitText_joinItems hne' h'] at hsplit
  rwa [map_string_eq]

/-- Splitting is undone by joining for every separator but a regular expression, and a separator with a text is in none
of the pieces.  Joining with a character is undone by splitting for strings that do not contain it. -/
theorem split_join_inverse (host : Host) :
    (∀ (s : String) (v : Value), v.asRegex? = none →
      (splitJoin host s v).Returns (· = string s) ∧
        (v.isUndefined = false → v.text ≠ "" →
          ((string s).callMethod host "split" [v]).Returns fun a =>
            ∃ id, ∃ pieces : List String, a = array id (pieces.map string) ∧
              ∀ piece ∈ pieces, ¬ v.text.toList <:+: piece.toList)) ∧
      ∀ (c : Char) (id : Nat) (pieces : List String), pieces ≠ [] → (∀ piece ∈ pieces, c ∉ piece.toList) →
        (joinSplit host id pieces (string (String.singleton c))).Returns fun a =>
          ∃ id, a = array id (pieces.map string) := by
  refine ⟨fun s v hregex => ⟨splitJoin_returns s hregex, fun hundefined hne => ?_⟩, fun c id pieces hne h => ?_⟩
  · exact callMethod_split_not_occurs s hundefined hregex hne
  · exact joinSplit_returns id hne h

/-- Overlapping occurrences, and empty pieces at the ends. -/
theorem split_join_inverse_overlap :
    let host : Host := ⟨fun _ _ _ => pure undefined⟩
    let v := array 0 [string "aa"]
    (splitJoin host "aaab" v).Returns (· = string "aaab") ∧
      ((string "aaab").callMethod host "split" [v]).Returns (fun a =>
        ∃ id, ∃ pieces : List String, a = array id (pieces.map string) ∧
          ∀ piece ∈ pieces, ¬ v.text.toList <:+: piece.toList) ∧
      (joinSplit host 0 ["", "b", ""] (string (String.singleton 'a'))).Returns fun a =>
        ∃ id, a = array id [string "", string "b", string ""] := by
  intro host v
  have htext : v.text ≠ "" := by decide +kernel
  obtain ⟨hsplit, hjoin⟩ := split_join_inverse host
  obtain ⟨hback, hpieces⟩ := hsplit "aaab" v rfl
  exact ⟨hback, hpieces rfl htext, hjoin 'a' 0 ["", "b", ""] (by decide) (by decide)⟩

end Value

end ExprLang
