import ScriptSession.Proofs.Script.Borders
import ScriptSession.Proofs.Script.Grammar
import ScriptSession.Proofs.Script.Likeness

/-!
# Expressions written out

The text of an expression is read as that expression, apart from places, if all of it can be written
at all (`Expr.Writable`): its words are names, its strings need no code points and its lists do not
go deeper than groups may be nested (`text_reads_back`).

No piece of such a text takes in the blank or the parenthesis behind it. So the text of a list is
read item by item (`Expr.Writable.readsAs`), and the tokens of an item give the item back wherever
there is room for its groups (`Expr.Writable.gives`).
-/
namespace ScriptSession.Script

/-! ## What can be written -/

def isIdentifier : List Char → Bool
  | [] => false
  | c :: rest => isIdentifierStart c && rest.all isIdentifierPart

/-- Words that are read as constants. -/
def constantNames : List String := ["true", "false", "nil"]

/-- A character that shows as its code point between quotes. -/
def ShowsCodePoint (c : Char) : Prop := ['\\', 'u', '{'] <+: Text.quotedChar c

instance (c : Char) : Decidable (ShowsCodePoint c) := inferInstanceAs (Decidable (_ <+: _))

namespace Expr

/-- An expression whose text is a text of the language, with lists inside each other `n` times at
most. -/
inductive Writable : Nat → Expr → Prop where
  | int {n value s} : Writable n (.int value s)
  | str {n text s} : (∀ c ∈ text.toList, ¬ ShowsCodePoint c) → Writable n (.str text s)
  | bool {n value s} : Writable n (.bool value s)
  | nil {n s} : Writable n (.nil s)
  | word {n name s} : isIdentifier name.toList = true → name ∉ constantNames →
      Writable n (.word name s)
  | list {n head rest s} : Writable n head → (∀ item ∈ rest, Writable n item) →
      Writable (n + 1) (.list head rest s)

/-- The same expression, wherever it stands. -/
abbrev Alike : Expr → Expr → Prop := Like fun _ _ => True

mutual

/-- The tokens of the text of an expression. -/
def kinds : Expr → List TokenKind
  | int value _ => [.int value]
  | str text _ => [.str text]
  | bool value _ => [.word (if value then "true" else "false")]
  | nil _ => [.word "nil"]
  | word name _ => [.word name]
  | list head rest _ => .openParen :: (kinds head ++ kindsOfRest rest) ++ [.closeParen]

def kindsOfRest : List Expr → List TokenKind
  | [] => []
  | item :: rest => kinds item ++ kindsOfRest rest

end

end Expr

/-! ## Single pieces -/

/-- Characters that have a meaning of their own, whatever stands behind them. -/
def specialChars : List Char := [' ', '\t', '\r', '\n', ';', '#', '\\', '(', ')', '"']

theorem split_ordinary {c : Char} (ordinary : c ∉ specialChars) (rest : List Char) :
    Lexeme.split c rest =
      if c.isDigit || (c = '-' && startsWithDigit rest) then
        (.number (c :: (splitDigits rest).1), (splitDigits rest).2)
      else if isIdentifierStart c then
        (.word (c :: rest.takeWhile isIdentifierPart), rest.dropWhile isIdentifierPart)
      else (.stray c, rest) := by
  simp only [specialChars, List.mem_cons, List.not_mem_nil, or_false, not_or] at ordinary
  simp [Lexeme.split, isBlankInLine, isSeparator, ordinary]

theorem splitDigits_digits {digits : List Char} (h : ∀ c ∈ digits, c.isDigit = true) :
    splitDigits digits = (digits, []) := by
  fun_induction splitDigits digits <;> simp_all

theorem ordinary_of_isDigit {c : Char} (digit : c.isDigit = true) : c ∉ specialChars := by
  intro special
  have none : specialChars.all (!·.isDigit) = true := by decide
  have other := List.all_eq_true.mp none c special
  rw [digit] at other
  cases other

theorem lexemes_digits {c : Char} {digits : List Char} (h : ∀ d ∈ c :: digits, d.isDigit = true) :
    lexemes (c :: digits) = [.number (c :: digits)] := by
  have first : c.isDigit = true := h c List.mem_cons_self
  have others := splitDigits_digits fun d mem => h d (List.mem_cons_of_mem c mem)
  rw [lexemes, split_ordinary (ordinary_of_isDigit first), others]
  simp [first, lexemes]

theorem lexemes_negative {c : Char} {digits : List Char} (h : ∀ d ∈ c :: digits, d.isDigit = true) :
    lexemes ('-' :: c :: digits) = [.number ('-' :: c :: digits)] := by
  have first : startsWithDigit (c :: digits) = true := h c List.mem_cons_self
  rw [lexemes, split_ordinary (by decide), splitDigits_digits h]
  simp [first, lexemes]

/-- No character before the letters starts an identifier. -/
theorem le_of_isIdentifierStart {c : Char} (h : isIdentifierStart c = true) : 65 ≤ c.toNat := by
  rcases Nat.lt_or_ge c.toNat 65 with low | high
  · have other : c ≠ '_' := by
      rintro rfl
      revert low
      decide
    have none : Text.isXidStart c = false := by
      unfold Text.isXidStart Text.xidStartRanges Text.Ranges.has
      rw [if_pos (by omega)]
    simp [isIdentifierStart, other, none] at h
  · exact high

theorem lexemes_identifier {c : Char} {rest : List Char} (start : isIdentifierStart c = true)
    (parts : ∀ d ∈ rest, isIdentifierPart d = true) :
    lexemes (c :: rest) = [.word (c :: rest)] := by
  have high := le_of_isIdentifierStart start
  have ordinary : c ∉ specialChars := by
    intro special
    have early : (specialChars.all fun c => c.toNat < 65 || c = '\\') = true := by decide
    have early := List.all_eq_true.mp early c special
    rw [Bool.or_eq_true, decide_eq_true_eq, decide_eq_true_eq] at early
    rcases early with low | rfl
    · exact absurd high (Nat.not_le.mpr low)
    · revert start
      decide +kernel
  have digit : c.isDigit = false := by
    refine Bool.eq_false_iff.mpr fun digit => ?_
    have range : 48 ≤ c.toNat ∧ c.toNat ≤ 57 := by
      simpa [Char.isDigit, UInt32.le_iff_toNat_le] using digit
    omega
  have sign : c ≠ '-' := by
    rintro rfl
    revert high
    decide
  have all : rest.takeWhile isIdentifierPart = rest := by
    rw [← List.append_nil rest, List.takeWhile_append_of_pos parts, List.takeWhile_nil]
  have none : rest.dropWhile isIdentifierPart = [] := by
    rw [← List.append_nil rest, List.dropWhile_append_of_pos parts, List.dropWhile_nil]
  rw [lexemes, split_ordinary ordinary, all, none]
  simp [digit, sign, start, lexemes]

/-- A character is escaped by one letter or stands for itself, if it does not show as its code
point. -/
theorem quotedChar_cases {c : Char} (plain : ¬ ShowsCodePoint c) :
    (∃ letter, Text.quotedChar c = ['\\', letter] ∧ escapeMeaning? letter = some [c]) ∨
    (Text.quotedChar c = [c] ∧ c ≠ '\\' ∧ c ≠ '"' ∧ c ≠ '\n') := by
  unfold ShowsCodePoint at plain
  unfold Text.quotedChar at plain ⊢
  split
  · exact .inl ⟨_, rfl, rfl⟩
  · exact .inl ⟨_, rfl, rfl⟩
  · exact .inl ⟨_, rfl, rfl⟩
  · exact .inl ⟨_, rfl, rfl⟩
  · exact .inl ⟨_, rfl, rfl⟩
  · exact .inl ⟨_, rfl, rfl⟩
  · rename_i quote backslash line _ _ _
    split
    · exact .inr ⟨rfl, backslash, quote, line⟩
    · rename_i unprinted
      simp [unprinted] at plain

/-- The characters of a string between quotes, with the closing quote behind them. -/
theorem splitString_quoted {chars : List Char} (plain : ∀ c ∈ chars, ¬ ShowsCodePoint c) :
    ∃ parts, splitString (chars.flatMap Text.quotedChar ++ ['"']) = (parts, .closed, []) ∧
      parts.flatMap StringPart.meaning = chars ∧ ∀ p, escapeErrors p parts = [] := by
  induction chars with
  | nil => exact ⟨[], rfl, rfl, fun _ => rfl⟩
  | cons c rest ih =>
    obtain ⟨parts, split, meaning, right⟩ := ih fun d mem => plain d (List.mem_cons_of_mem c mem)
    rcases quotedChar_cases (plain c List.mem_cons_self) with
      ⟨letter, shows, stands⟩ | ⟨shows, backslash, quote, line⟩
    · refine ⟨.escaped letter :: parts, ?_, ?_, fun p => ?_⟩
      · rw [List.flatMap_cons, shows, List.append_assoc, List.cons_append, List.cons_append,
          List.nil_append, splitString, split]
      · rw [List.flatMap_cons, StringPart.meaning, stands, meaning]
        rfl
      · rw [escapeErrors, stands]
        exact right _
    · refine ⟨.plain c :: parts, ?_, ?_, fun p => right _⟩
      · rw [List.flatMap_cons, shows, List.append_assoc, List.cons_append, List.nil_append,
          splitString_plain backslash quote line, split]
      · rw [List.flatMap_cons, meaning]
        rfl

theorem lexemes_quoted {chars : List Char} {parts : List StringPart}
    (split : splitString (chars.flatMap Text.quotedChar ++ ['"']) = (parts, .closed, [])) :
    lexemes ('"' :: chars.flatMap Text.quotedChar ++ ['"']) = [.string parts .closed] := by
  have first : Lexeme.split '"' (chars.flatMap Text.quotedChar ++ ['"']) =
      (.string parts .closed, []) := by
    simp [Lexeme.split, isBlankInLine, isSeparator, split]
  rw [List.cons_append, lexemes, first, lexemes]

/-! ## Numbers -/

theorem numberDigits_digits {digits : List Char} (h : ∀ d ∈ digits, d.isDigit = true) :
    numberDigits digits = digits := by
  refine List.filter_eq_self.mpr fun d mem => ?_
  have other : d ≠ '_' := by
    rintro rfl
    cases h '_' mem
  simpa using other

theorem numberValue_digits {digits : List Char} (h : ∀ d ∈ digits, d.isDigit = true) :
    numberValue digits = digitsValue digits := by
  have unsigned : digits.head? ≠ some '-' := by
    intro first
    cases h '-' (List.mem_of_mem_head? first)
  rw [numberValue, numberDigits_digits h]
  split
  · exact absurd rfl unsigned
  · rfl

theorem numberValue_negative {digits : List Char} (h : ∀ d ∈ digits, d.isDigit = true) :
    numberValue ('-' :: digits) = -(digitsValue digits : Int) := by
  have signed : numberDigits ('-' :: digits) = '-' :: numberDigits digits := rfl
  rw [numberValue, signed, numberDigits_digits h]
  rfl

theorem int64?_toInt (value : Int64) : int64? value.toInt = some value := by
  rw [int64?, if_pos ⟨value.minValue_le_toInt, value.toInt_le⟩, Int64.ofInt_toInt]

theorem digits_of_nat (n : Nat) : ∃ c rest, n.repr.toList = c :: rest ∧
    (∀ d ∈ c :: rest, d.isDigit = true) ∧ digitsValue (c :: rest) = n := by
  obtain ⟨c, rest, eq⟩ := List.exists_cons_of_ne_nil (Nat.toDigits_ne_nil (n := n) (b := 10))
  refine ⟨c, rest, Nat.toList_repr.trans eq, fun d mem => ?_, ?_⟩
  · exact Nat.isDigit_of_mem_toDigits (by decide) (by decide) (eq ▸ mem)
  · rw [← eq]
    exact Nat.ofDigitChars_toDigits (by decide) (by decide)

/-- The digits of an integer are one piece, which stands for it. -/
theorem lexemes_int (value : Int) :
    lexemes (toString value).toList = [.number (toString value).toList] ∧
    numberValue (toString value).toList = value ∧
    ∀ d ∈ (toString value).toList, d = '-' ∨ d.isDigit = true := by
  cases value with
  | ofNat n =>
    obtain ⟨c, rest, eq, digits, stands⟩ := digits_of_nat n
    have text : (toString (Int.ofNat n)).toList = c :: rest := eq
    rw [text]
    refine ⟨lexemes_digits digits, ?_, fun d mem => .inr (digits d mem)⟩
    rw [numberValue_digits digits, stands]
    rfl
  | negSucc n =>
    obtain ⟨c, rest, eq, digits, stands⟩ := digits_of_nat (n + 1)
    have text : (toString (Int.negSucc n)).toList = '-' :: c :: rest := by
      rw [← eq]
      exact String.toList_append
    rw [text]
    refine ⟨lexemes_negative digits, ?_, fun d mem => ?_⟩
    · rw [numberValue_negative digits, stands]
      rfl
    · exact (List.mem_cons.mp mem).imp_right (digits d)

/-! ## Texts that are read as tokens -/

/-- Pieces that are right wherever they start, and what tokens they are. -/
structure Spells (pieces : List Lexeme) (kinds : List TokenKind) : Prop where
  right : ∀ p, errorsFrom p pieces = []
  kinds : ∀ p, (tokensFrom p pieces).map (·.kind) = kinds

theorem Spells.append {a b : List Lexeme} {kinds more : List TokenKind} (h : Spells a kinds)
    (next : Spells b more) : Spells (a ++ b) (kinds ++ more) where
  right p := by rw [errorsFrom_append, h.right, next.right, List.append_nil]
  kinds p := by rw [tokensFrom_append, List.map_append, h.kinds, next.kinds]

/-- No word or number goes on into the text. -/
def Apart (rest : List Char) : Prop := ∀ d ∈ rest.head?, isIdentifierPart d = false

theorem apart_nil : Apart [] := nofun

theorem apart_cons {d : Char} (apart : isIdentifierPart d = false) (rest : List Char) :
    Apart (d :: rest) := by
  rintro _ ⟨⟩
  exact apart

/-- The text is read as these tokens, whatever stands apart behind it. -/
def ReadsAs (text : List Char) (kinds : List TokenKind) : Prop :=
  ∃ pieces, Spells pieces kinds ∧
    ∀ rest, Apart rest → lexemes (text ++ rest) = pieces ++ lexemes rest

namespace ReadsAs

variable {text more : List Char} {kinds next : List TokenKind}

/-- A single piece that leaves nothing open. -/
theorem piece {l : Lexeme} (single : lexemes text = [l])
    (last : ∀ c ∈ text.getLast?, c ≠ '\\' ∧ c ≠ '\r') (ended : ¬ l.RunsOn)
    (spells : Spells [l] kinds) : ReadsAs text kinds := by
  refine ⟨[l], spells, fun rest apart => ?_⟩
  cases rest with
  | nil => rw [List.append_nil, single, lexemes, List.append_nil]
  | cons d rest =>
    have border : Border text d := by
      refine ⟨apart d rfl, unjoined_of_getLast? last, .inr ?_⟩
      rw [single]
      rintro _ ⟨⟩
      exact ended
    rw [lexemes_border rest border, single]

theorem append (h : ReadsAs text kinds) (later : ReadsAs more next)
    (apart : ∀ rest, Apart rest → Apart (more ++ rest)) :
    ReadsAs (text ++ more) (kinds ++ next) := by
  obtain ⟨pieces, spells, read⟩ := h
  obtain ⟨pieces', spells', read'⟩ := later
  refine ⟨pieces ++ pieces', spells.append spells', fun rest behind => ?_⟩
  rw [List.append_assoc, read _ (apart rest behind), read' rest behind, List.append_assoc]

theorem empty : ReadsAs [] [] := ⟨[], ⟨fun _ => rfl, fun _ => rfl⟩, fun _ _ => rfl⟩

theorem behindBlank (h : ReadsAs text kinds) : ReadsAs (' ' :: text) kinds := by
  obtain ⟨pieces, spells, read⟩ := h
  refine ⟨.blank ' ' :: pieces, ⟨fun p => spells.right _, fun p => spells.kinds _⟩, ?_⟩
  intro rest apart
  rw [List.cons_append, List.cons_append, ← read rest apart, lexemes]
  rfl

theorem inParens (h : ReadsAs text kinds) :
    ReadsAs ('(' :: text ++ [')']) (.openParen :: kinds ++ [.closeParen]) := by
  obtain ⟨pieces, spells, read⟩ := h
  have closing : Spells [.closeParen] [.closeParen] := ⟨fun _ => rfl, fun _ => rfl⟩
  have opening : Spells [.openParen] [.openParen] := ⟨fun _ => rfl, fun _ => rfl⟩
  refine ⟨.openParen :: pieces ++ [.closeParen], (opening.append spells).append closing, ?_⟩
  intro rest _
  have inner := read (')' :: rest) (apart_cons (by decide +kernel) rest)
  have close : lexemes (')' :: rest) = .closeParen :: lexemes rest := by
    rw [lexemes]
    rfl
  rw [close] at inner
  rw [List.cons_append, List.cons_append, List.append_assoc, List.singleton_append, lexemes]
  change .openParen :: lexemes (text ++ ')' :: rest) = _
  rw [inner]
  simp

theorem int (value : Int64) : ReadsAs (toString value.toInt).toList [.int value] := by
  obtain ⟨single, stands, chars⟩ := lexemes_int value.toInt
  generalize (toString value.toInt).toList = literal at single stands chars ⊢
  refine piece single (fun c last => ?_) nofun ⟨fun p => ?_, fun p => ?_⟩
  · rcases chars c (List.mem_of_getLast? last) with rfl | digit
    · decide
    · constructor <;> rintro rfl <;> cases digit
  · simp [errorsFrom, located, Lexeme.errors, stands, int64?_toInt]
  · simp [tokensFrom, located, Lexeme.token?, stands, int64?_toInt]

theorem quoted {text : String} (plain : ∀ c ∈ text.toList, ¬ ShowsCodePoint c) :
    ReadsAs (Text.quoted text).toList [.str text] := by
  obtain ⟨parts, split, meaning, right⟩ := splitString_quoted plain
  rw [Text.quoted, String.toList_ofList]
  refine piece (lexemes_quoted split) (fun c last => ?_) (fun open' => open' rfl)
    ⟨fun p => ?_, fun p => ?_⟩
  · rw [List.getLast?_concat] at last
    cases last
    decide
  · simp [errorsFrom, located, Lexeme.errors, right]
  · simp [tokensFrom, located, Lexeme.token?, meaning]

theorem identifier {name : String} (h : isIdentifier name.toList = true) :
    ReadsAs name.toList [.word name] := by
  have back : String.ofList name.toList = name := String.ofList_toList
  cases chars : name.toList with
  | nil =>
    rw [chars] at h
    cases h
  | cons c rest =>
    rw [chars] at h back
    obtain ⟨start, parts⟩ := Bool.and_eq_true_iff.mp h
    have parts := List.all_eq_true.mp parts
    refine piece (lexemes_identifier start parts) (fun d last => ?_) nofun
      ⟨fun p => rfl, fun p => ?_⟩
    · have plain : isIdentifierStart d = true ∨ isIdentifierPart d = true := by
        rcases List.mem_cons.mp (List.mem_of_getLast? last) with rfl | mem
        · exact .inl start
        · exact .inr (parts d mem)
      constructor <;> rintro rfl <;> revert plain <;> decide +kernel
    · simp [tokensFrom, located, Lexeme.token?, back]

end ReadsAs

namespace Expr

theorem apart_textOfRest (items : List Expr) {rest : List Char} (apart : Apart rest) :
    Apart ((textOfRest items).toList ++ rest) := by
  cases items with
  | nil => simpa [textOfRest] using apart
  | cons item others =>
    simp only [textOfRest, String.toList_append]
    exact apart_cons (by decide +kernel) _

theorem readsAs_rest {items : List Expr}
    (h : ∀ item ∈ items, ReadsAs item.text.toList item.kinds) :
    ReadsAs (textOfRest items).toList (kindsOfRest items) := by
  induction items with
  | nil => exact .empty
  | cons item rest ih =>
    have first := (h item List.mem_cons_self).behindBlank
    have later := ih fun other mem => h other (List.mem_cons_of_mem item mem)
    have chars : (textOfRest (item :: rest)).toList =
        ' ' :: item.text.toList ++ (textOfRest rest).toList := by
      simp [textOfRest, String.toList_append]
    rw [chars, kindsOfRest]
    exact first.append later fun _ => apart_textOfRest rest

theorem Writable.readsAs {n : Nat} {e : Expr} (h : e.Writable n) :
    ReadsAs e.text.toList e.kinds := by
  induction h with
  | @int n value s =>
    rw [text, kinds]
    exact .int value
  | str plain =>
    rw [text, kinds]
    exact .quoted plain
  | @bool n value s =>
    rw [text, kinds]
    cases value with
    | true => exact .identifier (by decide +kernel)
    | false => exact .identifier (by decide +kernel)
  | nil =>
    rw [text, kinds]
    exact .identifier (by decide +kernel)
  | word name =>
    rw [text, kinds]
    exact .identifier name
  | @list n head rest s first others ihFirst ihOthers =>
    have within := ihFirst.append (readsAs_rest ihOthers) fun _ => apart_textOfRest rest
    have chars : (Expr.list head rest s).text.toList =
        '(' :: (head.text.toList ++ (textOfRest rest).toList) ++ [')'] := by
      simp [text, String.toList_append]
    rw [chars, kinds]
    exact within.inParens

/-! ## Tokens that give an item -/

/-- The tokens are read as one item, wherever there is room for `n` more groups. -/
def Gives (n : Nat) (kinds : List TokenKind) (e : Expr) : Prop :=
  ∀ {tokens : List Token} {r : Reading} {groups : List OpenGroup}, tokens.map (·.kind) = kinds →
    r.nesting = .groups groups → groups.length + n ≤ maxNesting →
    ∃ item, item.Alike e ∧ tokens.foldl Reading.read r = r.addItem groups item

/-- Items one after another are added to the group they stand in. -/
theorem foldl_rest {n : Nat} {items : List Expr} (h : ∀ item ∈ items, Gives n item.kinds item)
    {tokens : List Token} (kinds : tokens.map (·.kind) = kindsOfRest items) {r : Reading}
    {group : OpenGroup} {outer : List OpenGroup} (nesting : r.nesting = .groups (group :: outer))
    (room : (group :: outer).length + n ≤ maxNesting) :
    ∃ found, List.Forall₂ Alike found items ∧ tokens.foldl Reading.read r =
      { r with
        nesting := .groups ({ group with items := found.reverse ++ group.items } :: outer) } := by
  induction items generalizing tokens r group with
  | nil =>
    obtain rfl := List.map_eq_nil_iff.mp kinds
    refine ⟨[], .nil, ?_⟩
    rw [List.foldl_nil, List.reverse_nil, List.nil_append, ← nesting]
  | cons item rest ih =>
    obtain ⟨first, later, rfl, firstKinds, laterKinds⟩ := List.map_eq_append_iff.mp kinds
    obtain ⟨item', alike, step⟩ := h item List.mem_cons_self firstKinds nesting room
    obtain ⟨found, alikes, steps⟩ := ih (fun other mem => h other (List.mem_cons_of_mem item mem))
      laterKinds (r := r.addItem (group :: outer) item') rfl room
    refine ⟨item' :: found, .cons alike alikes, ?_⟩
    rw [List.foldl_append, step, steps]
    simp [Reading.addItem]

theorem gives_leaf {n : Nat} {kind : TokenKind} {e : Expr} (make : Span → Expr)
    (alike : ∀ s, (make s).Alike e) (leaf : ∀ s, Leaf ⟨kind, s⟩ (make s)) : Gives n [kind] e := by
  intro tokens r groups kinds nesting _
  obtain ⟨⟨kind, s⟩, rfl, rfl⟩ := List.map_eq_singleton_iff.mp kinds
  exact ⟨make s, alike s, Reading.read_leaf nesting (leaf s)⟩

/-- A group gives the list of what stands in it. -/
theorem gives_list {n : Nat} {head : Expr} {rest : List Expr} (first : Gives n head.kinds head)
    (others : ∀ item ∈ rest, Gives n item.kinds item) (s : Span) :
    Gives (n + 1) (list head rest s).kinds (.list head rest s) := by
  intro tokens r groups spelled nesting room
  rw [kinds, List.cons_append] at spelled
  obtain ⟨⟨_, start⟩, tokens, rfl, rfl, closed⟩ := List.map_eq_cons_iff.mp spelled
  obtain ⟨inner, closing, rfl, innerKinds, closes⟩ := List.map_eq_append_iff.mp closed
  obtain ⟨⟨_, stop⟩, rfl, rfl⟩ := List.map_eq_singleton_iff.mp closes
  obtain ⟨front, back, rfl, frontKinds, backKinds⟩ := List.map_eq_append_iff.mp innerKinds
  have few : groups.length < maxNesting := by omega
  have within : groups.length + 1 + n ≤ maxNesting := by omega
  obtain ⟨head', alike, step⟩ := first frontKinds
    (r := { r with nesting := .groups (⟨start, []⟩ :: groups) }) rfl within
  obtain ⟨rest', alikes, steps⟩ := foldl_rest others backKinds
    (r := { r with nesting := .groups (⟨start, [head']⟩ :: groups) }) rfl within
  refine ⟨.list head' rest' (start.merge stop), .list alike alikes trivial, ?_⟩
  -- The head is the first item of the group that the opening starts, so it stands last there.
  have behindHead : front.foldl Reading.read (r.read ⟨.openParen, start⟩) =
      { r with nesting := .groups (⟨start, [head']⟩ :: groups) } := by
    rw [Reading.read_opening nesting few rfl, step]
    rfl
  rw [List.foldl_cons, List.foldl_append, List.foldl_append, behindHead, steps, List.foldl_cons,
    List.foldl_nil, Reading.read_closing rfl rfl]
  simp [Reading.addItem, Expr.group]

theorem Writable.gives {n : Nat} {e : Expr} (h : e.Writable n) : Gives n e.kinds e := by
  induction h with
  | @int n value s =>
    rw [kinds]
    exact gives_leaf (.int value) (fun s => .int trivial) fun s => .int rfl
  | @str n text s _ =>
    rw [kinds]
    exact gives_leaf (.str text) (fun s => .str trivial) fun s => .str rfl
  | @bool n value s =>
    rw [kinds]
    refine gives_leaf (.bool value) (fun s => .bool trivial) fun s => ?_
    cases value with
    | true => exact .yes rfl
    | false => exact .no rfl
  | nil =>
    rw [kinds]
    exact gives_leaf .nil (fun s => .nil trivial) fun s => .nil rfl
  | @word n name s identifier other =>
    simp only [constantNames, List.mem_cons, List.not_mem_nil, or_false, not_or] at other
    obtain ⟨yes, no, nil⟩ := other
    rw [kinds]
    exact gives_leaf (.word name) (fun s => .word trivial) fun s => .word rfl yes no nil
  | list _ _ ihFirst ihOthers => exact gives_list ihFirst ihOthers _

end Expr

/-- The text of an expression is one statement, which is the expression again apart from places. -/
theorem text_reads_back {e : Expr} (h : e.Writable maxNesting) :
    ∃ tokens s, tokenize e.text = .ok tokens ∧ parse tokens = .ok [s] ∧ s.expr.Alike e := by
  obtain ⟨pieces, spells, read⟩ := h.readsAs
  have all : lexemes e.text.toList = pieces := by
    simpa [lexemes] using read [] apart_nil
  have tokenized : tokenize e.text = .ok (tokensFrom .first pieces) := by
    rw [tokenize_eq_ok, all]
    exact ⟨spells.right _, rfl⟩
  have room : ([] : List OpenGroup).length + maxNesting ≤ maxNesting := by simp
  obtain ⟨item, alike, reads⟩ := h.gives (spells.kinds .first) (r := {}) rfl room
  refine ⟨_, ⟨item⟩, tokenized, ?_, alike⟩
  rw [parse, reads]
  rfl

/-- A call with the least integer, a string full of escapes and a group inside it. -/
def writtenCall : Expr :=
  let s := Span.point .first
  .list (.word "set-item!" s)
    [.int Int64.minValue s, .str "a \"b\"\\\n(é" s, .list (.nil s) [.bool true s] s] s

theorem written_call_reads_back :
    writtenCall.Writable maxNesting ∧
    writtenCall.text = "(set-item! -9223372036854775808 \"a \\\"b\\\"\\\\\\n(é\" (nil true))" ∧
    ∃ tokens s, tokenize writtenCall.text = .ok tokens ∧ parse tokens = .ok [s] ∧
      s.expr.Alike writtenCall := by
  have writable : writtenCall.Writable maxNesting := by
    refine .list (.word (by decide +kernel) (by decide)) fun item mem => ?_
    simp only [List.mem_cons, List.not_mem_nil, or_false] at mem
    rcases mem with rfl | rfl | rfl
    · exact .int
    · have plain : ("a \"b\"\\\n(é".toList.all fun c => ¬ ShowsCodePoint c) = true := by
        decide +kernel
      exact .str (by simpa only [List.all_eq_true, decide_eq_true_eq] using plain)
    · refine .list .nil fun item mem => ?_
      rw [List.mem_singleton.mp mem]
      exact .bool
  exact ⟨writable, by decide +kernel, text_reads_back writable⟩

end ScriptSession.Script
