import ExprLang.Proofs.LexicalFaults
import ExprLang.Proofs.RegexGate
import ExprLang.Proofs.TokenSlices

/-!
# The names that an expression can read

* An identifier is a word that is neither reserved nor a literal (`Lexer.isIdentifier_of_lexeme?`).
* The names that a tree reads and its operators `typeof` are the identifiers of its tokens that do not stand behind a
  point, in the same order (`wordMarking`).
* The names of an expression are listed in increasing order (`Node.pairwise_names`).

So a source is a name to be read exactly if it is an identifier other than `typeof`, and the names of an expression are
the identifiers that stand free in its source (`Expression.names_iff_free`).
-/

open ExprLang.Parser

namespace ExprLang

/-! ### Identifiers -/

/-- The words that are literals. -/
def literalWords : List String := ["true", "false", "null", "undefined", "NaN", "Infinity"]

/-- Letters, digits and underscores with no digit in front, neither reserved nor a literal. -/
structure IsIdentifier (x : String) : Prop where
  shape : ∃ c cs, x.toList = c :: cs ∧ (c.isAlpha ∨ c = '_') ∧ ∀ d ∈ cs, d.isAlphanum ∨ d = '_'
  unreserved : x ∉ reservedWords
  notLiteral : x ∉ literalWords

/-- An identifier that is not the operator `typeof`. -/
def IsName (x : String) : Prop := IsIdentifier x ∧ x ≠ "typeof"

namespace Lexer

variable {x : String}

theorem wordLexeme?_eq_identifier_iff {word : String} :
    wordLexeme? word = some (.identifier x) ↔ x = word ∧ word ∉ reservedWords ∧ word ∉ literalWords := by
  unfold wordLexeme?
  split
  case h_7 => simp_all [literalWords, eq_comm, and_comm]
  all_goals simp [literalWords]

theorem isIdentifier_of_lexeme? {c : Char} {allowed : Bool} {text : List Char} {n : Nat}
    (h : lexeme? allowed c text = some (.identifier x, n)) : IsIdentifier x := by
  cases scanned_of_lexeme? h with
  | word hw hl =>
    obtain ⟨rfl, hreserved, hliteral⟩ := wordLexeme?_eq_identifier_iff.1 hl
    refine ⟨⟨c, text.takeWhile isWordPart, ?_, ?_, fun d hd => ?_⟩, hreserved, hliteral⟩
    · rw [String.toList_ofList, List.takeWhile_cons, if_pos (isWordPart_of_isWordStart hw)]
    · simpa [isWordStart] using hw
    · simpa [isWordPart] using List.mem_takeWhile_imp hd

end Lexer

/-- An identifier is the only token of its text. -/
theorem tokenize_of_isIdentifier {x : String} (h : IsIdentifier x) :
    ∃ length, tokenize x = .ok [⟨.identifier x, 0, length⟩] := by
  obtain ⟨⟨c, cs, hx, hc, hcs⟩, hreserved, hliteral⟩ := h
  have hstart : Lexer.isWordStart c = true := by simpa [Lexer.isWordStart] using hc
  have hpart := Lexer.isWordPart_of_isWordStart hstart
  have hblank : Unicode.isBlank c = false := by
    rw [Bool.eq_false_iff]
    intro hb
    rw [Lexer.isWordPart_of_isBlank hb] at hpart
    cases hpart
  have hword : (c :: cs).takeWhile Lexer.isWordPart = c :: cs := by
    rw [List.takeWhile_eq_self_iff]
    intro d hd
    rcases List.mem_cons.1 hd with rfl | hd
    · exact hpart
    · simpa [Lexer.isWordPart] using hcs d hd
  have hquote : ¬ (c = '\x27' ∨ c = '\x22') := by
    rintro (rfl | rfl) <;> revert hstart <;> decide
  have hlexeme : Lexer.lexeme? true c (cs ++ []) = some (.identifier x, cs.length + 1) := by
    rw [List.append_nil, Lexer.lexeme?_of_isWordStart hquote (Lexer.not_startsNumber_of_isWordStart hstart) hstart,
      hword, ← hx, String.ofList_toList, Lexer.wordLexeme?_eq_identifier_iff.2 ⟨rfl, hreserved, hliteral⟩, hx]
    rfl
  have hreads := Lexer.reads_alone hblank hlexeme
  rw [← hx] at hreads
  exact ⟨_, Lexer.scan_eq_ok_iff.2 hreads⟩

/-! ### Words of trees -/

/-- What an identifier is in an expression: a name or the operator `typeof`. -/
inductive Word where
  | name (x : String)
  | typeOf

/-- The name that a node reads, or the operator `typeof`. -/
def Node.word? : Node → Option Word
  | .context _ x => some (.name x)
  | .unary _ op _ => if op = .typeOf then some .typeOf else none
  | _ => none

/-- The word of an identifier. -/
def Token.word? (t : Token) : Option Word :=
  match t.lexeme with
  | .identifier x => some (if x = "typeof" then .typeOf else .name x)
  | _ => none

/-- Each name that is read and each operator `typeof` marks its node and its token.  The name of a member stands behind
a point. -/
def wordMarking : Marking Word where
  ofNode := Node.word?
  ofToken behind t := if behind then none else t.word?
  withRange n r := by cases n <;> rfl
  symbol h behind := by simp [Token.word?, lexeme_of_isSymbol h]
  sign {t op} h r n := by
    unfold unaryOp? at h
    split at h
    case h_4 word ht =>
      rw [Option.ite_none_right_eq_some] at h
      obtain ⟨rfl, hop⟩ := h
      cases hop
      simp [Token.word?, ht, Node.word?]
    case h_5 => cases h
    all_goals
      cases h
      simp [Token.word?, *, Node.word?]
  literal h := by simp [Token.word?, h, Node.word?]
  name h hword := by simp [Token.word?, h, hword, Node.word?]
  regex h := by simp [Token.word?, h, Node.word?]
  key _ := rfl
  property _ _ _ := rfl
  call _ _ _ := rfl
  array _ _ := rfl
  binary _ _ _ _ := rfl
  ternary _ _ _ _ := rfl

/-- The words of the identifiers among tokens that do not stand directly behind a point. -/
def freeWords (ts : List Token) : List Word := wordMarking.tokens false ts

/-- An identifier stands among tokens, and not directly behind a point. -/
def StandsFree (x : String) (ts : List Token) : Prop :=
  ∃ before t after, ts = before ++ t :: after ∧ t.lexeme = .identifier x ∧
    ∀ u, before.getLast? = some u → u.isSymbol '.' = false

theorem name_mem_freeWords_iff {x : String} {ts : List Token} :
    .name x ∈ freeWords ts ↔ x ≠ "typeof" ∧ StandsFree x ts := by
  have hword (t : Token) : t.word? = some (.name x) ↔ t.lexeme = .identifier x ∧ x ≠ "typeof" := by
    unfold Token.word?
    split
    · rename_i y hy
      split <;> simp_all
      grind
    · simp_all
  have hlast (before : List Token) (t : Token) :
      wordMarking.ofToken (before.getLast?.elim false fun u => u.isSymbol '.') t = some (.name x) ↔
        (t.lexeme = .identifier x ∧ x ≠ "typeof") ∧ ∀ u, before.getLast? = some u → u.isSymbol '.' = false := by
    rw [← hword]
    cases before.getLast? with
    | none => simp [wordMarking]
    | some u => cases hu : u.isSymbol '.' <;> simp [wordMarking, hu]
  rw [freeWords, Marking.mem_tokens_iff]
  simp only [hlast, StandsFree]
  grind

/-- The names that a tree reads and its operators `typeof` are the words of its tokens, in the same order. -/
theorem words_of_parse {allowRegex : Bool} {ts : List Token} {n : Node} (h : parse allowRegex ts = .ok n) :
    n.walk.filterMap Node.word? = freeWords ts := by
  obtain ⟨d, rfl, -⟩ := exists_derivation_of_parse h
  have key := (d.marks_eq wordMarking trivial).trans (congrArg freeWords d.taken_eq)
  simpa [Marking.nodes, Phrase.trees, Node.walkAll, wordMarking] using key

/-- A name alone is the expression that reads it. -/
theorem parse_name (allowRegex : Bool) {t : Token} {x : String} (ht : t.lexeme = .identifier x) (hx : x ≠ "typeof") :
    parse allowRegex [t] = .ok (.context t.range x) := by
  obtain ⟨us, hus, d, hd, hcharge⟩ :=
    (Derivation.name t x ht hx : Derivation allowRegex .primary [t] []).subexpression_of_primary
  obtain rfl : us = [t] := by
    have := d.length_lt
    exact hus.eq_of_length_le (by simpa [Nat.lt_iff_add_one_le] using this)
  rw [parse_of_derivation d (Nat.le_trans hcharge (Nat.zero_le _)), hd]
  rfl

/-! ### Names in increasing order -/

namespace Node

/-- The names of a node are listed in increasing order. -/
theorem pairwise_names (n : Node) : n.names.Pairwise (· < ·) := by
  unfold names
  induction n.walk.filterMap contextName? with
  | nil => exact .nil
  | cons x names ih => exact pairwise_insertName ih

theorem mem_names_iff_word {n : Node} {x : String} : x ∈ n.names ↔ .name x ∈ n.walk.filterMap word? := by
  have hword (m : Node) : m.word? = some (.name x) ↔ m.contextName? = some x := by
    cases m with
    | unary r op operand => simp [word?, contextName?]
    | _ => simp [word?, contextName?]
  rw [mem_names, List.mem_filterMap]
  exact exists_congr fun m => and_congr_right fun _ => (hword m).symm

end Node

namespace Expression

/-- What is read is a name, and names are read exactly where identifiers stand free. -/
theorem names_iff_free (source : String) (regex : RegexSupport) :
    ((∃ e r, compile source regex = .ok e ∧ e.root = .context r source) ↔ IsName source) ∧
    ∀ e, compile source regex = .ok e →
      (∀ x ∈ e.names, IsName x) ∧ e.names.Pairwise (· < ·) ∧
      ∃ ts, tokenize source = .ok ts ∧ e.root.walk.filterMap Node.word? = freeWords ts ∧
        ∀ x, x ∈ e.names ↔ x ≠ "typeof" ∧ StandsFree x ts := by
  have hcompiled (e : Expression) (he : compile source regex = .ok e) :
      (∀ x ∈ e.names, IsName x) ∧ e.names.Pairwise (· < ·) ∧
      ∃ ts, tokenize source = .ok ts ∧ e.root.walk.filterMap Node.word? = freeWords ts ∧
        ∀ x, x ∈ e.names ↔ x ≠ "typeof" ∧ StandsFree x ts := by
    obtain ⟨ts, hts, hroot, -, -⟩ := compile_eq_ok_iff.1 he
    have hwords := words_of_parse hroot
    have hnames (x : String) : x ∈ e.names ↔ x ≠ "typeof" ∧ StandsFree x ts := by
      rw [names, Node.mem_names_iff_word, hwords, name_mem_freeWords_iff]
    refine ⟨fun x hx => ?_, Node.pairwise_names _, ts, hts, hwords, hnames⟩
    obtain ⟨hx, before, t, after, rfl, ht, -⟩ := (hnames x).1 hx
    obtain ⟨_, _, _, _, _, -, -, -, -, hl⟩ :=
      (Lexer.scan_eq_ok_iff.1 hts).exists_lexeme_of_mem (List.mem_append_right _ (List.mem_cons_self ..))
    rw [ht] at hl
    exact ⟨Lexer.isIdentifier_of_lexeme? hl, hx⟩
  refine ⟨⟨?_, fun hname => ?_⟩, hcompiled⟩
  · rintro ⟨e, r, he, hroot⟩
    refine (hcompiled e he).1 source ?_
    rw [names, Node.mem_names, hroot]
    exact ⟨.context r source, by simp [Node.walk], rfl⟩
  · obtain ⟨length, hts⟩ := tokenize_of_isIdentifier hname.1
    have hroot := parse_name regex.isEnabled (t := ⟨.identifier source, 0, length⟩) rfl hname.2
    exact ⟨⟨source, _, regex⟩, _, compile_eq_ok_iff.2 ⟨_, hts, hroot, rfl, rfl⟩, rfl⟩

end Expression

end ExprLang
