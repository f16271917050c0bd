import ScriptSession.Proofs.Script.Borders

/-!
# Where tokens stand

The rules for what is written in a text are said here without reading it from left to right: how the
place behind some characters is counted (`Position.behind`), what a token of a kind looks like
(`Spelled`) and what may stand between tokens (`Trivia`).

A text that is read as tokens is laid out by them (`Laid`): each token has a stretch of its own, which
spells it, and around the stretches there is trivia only. The first piece of a text is one of the two
(`piece_cases`), hence so is every piece (`laid_pieces`).
-/
namespace ScriptSession

/-! ## Places -/

/-- The place behind some characters at the start of a text: lines end with line breaks, and columns
count the characters since the last one. -/
def Position.behind (before : List Char) : Position where
  line := 1 + before.count '\n'
  column := 1 + (before.reverse.takeWhile (· ≠ '\n')).length
  offset := total Char.utf8Size before

theorem Position.after_behind (before : List Char) (c : Char) :
    (behind before).after c = behind (before ++ [c]) := by
  have offset : total Char.utf8Size (before ++ [c]) = total Char.utf8Size before + c.utf8Size :=
    total_append ..
  unfold after behind
  rw [offset, List.reverse_append, List.reverse_singleton, List.singleton_append, List.count_append,
    List.takeWhile_cons]
  by_cases ends : c = '\n'
  · subst ends
    rfl
  · simp [ends, Nat.add_comm]

theorem Position.afterAll_behind (before text : List Char) :
    (behind before).afterAll text = behind (before ++ text) := by
  induction text generalizing before with
  | nil => rw [List.append_nil]; rfl
  | cons c rest ih =>
    have step : (behind before).afterAll (c :: rest) = ((behind before).after c).afterAll rest := rfl
    rw [step, after_behind, ih, List.append_assoc, List.singleton_append]

namespace Script

/-- A stretch of a text, with what stands in front of it and behind it. -/
structure Stretch where
  before : List Char
  own : List Char
  rest : List Char

namespace Stretch

def text (part : Stretch) : List Char := part.before ++ part.own ++ part.rest

/-- The first byte. -/
def firstByte (part : Stretch) : Nat := total Char.utf8Size part.before

/-- The first byte that does not belong to the stretch any more. -/
def byteBehind (part : Stretch) : Nat := part.firstByte + total Char.utf8Size part.own

/-- The place of the first character. -/
def start (part : Stretch) : Position := .behind part.before

/-- The place of the last character. -/
def last (part : Stretch) : Position := .behind (part.before ++ part.own.dropLast)

end Stretch

/-! ## What tokens look like -/

/-- Further digits of a number, perhaps with single underscores in front of them; `n` is the number
without them and `m` the number with them. -/
inductive Digits : Nat → List Char → Nat → Prop where
  | none {n} : Digits n [] n
  | digit {n c rest m} : c.isDigit = true → Digits (10 * n + (c.toNat - '0'.toNat)) rest m →
      Digits n (c :: rest) m
  | underscore {n c rest m} : c.isDigit = true → Digits n (c :: rest) m →
      Digits n ('_' :: c :: rest) m

/-- The letters that stand for a character behind a backslash. -/
def escapes : List (Char × Char) :=
  [('n', '\n'), ('t', '\t'), ('r', '\r'), ('\\', '\\'), ('"', '"'), ('0', '\x00')]

/-- What stands between quotes, and the text that it stands for. -/
inductive Quotes : List Char → List Char → Prop where
  | none : Quotes [] []
  | plain {c rest text} : c ≠ '"' → c ≠ '\\' → c ≠ '\n' → Quotes rest text →
      Quotes (c :: rest) (c :: text)
  | escape {letter c rest text} : (letter, c) ∈ escapes → Quotes rest text →
      Quotes ('\\' :: letter :: rest) (c :: text)
  | join {rest text} : Quotes rest text → Quotes ('\\' :: '\n' :: rest) text

/-- The characters that a token of a kind is written with. -/
inductive Spelled : List Char → TokenKind → Prop where
  | openParen : Spelled ['('] .openParen
  | closeParen : Spelled [')'] .closeParen
  | separator {c} : c = '\n' ∨ c = ';' → Spelled [c] .separator
  | number {c digits n} {value : Int64} : c.isDigit = true → Digits 0 (c :: digits) n →
      value.toInt = n → Spelled (c :: digits) (.int value)
  | negative {c digits n} {value : Int64} : c.isDigit = true → Digits 0 (c :: digits) n →
      value.toInt = -(n : Int) → Spelled ('-' :: c :: digits) (.int value)
  | word {c rest} : isIdentifierStart c = true → (∀ d ∈ rest, isIdentifierPart d = true) →
      Spelled (c :: rest) (.word (String.ofList (c :: rest)))
  | string {body text} : Quotes body text → Spelled ('"' :: body ++ ['"']) (.str (String.ofList text))

/-- The token takes in all that it can: a word does not go on behind it, and no number does. -/
def Ends : TokenKind → List Char → Prop
  | .word _, rest => ∀ c ∈ rest.head?, isIdentifierPart c = false
  | .int _, rest => startsWithDigit rest = false ∧
      ∀ more, rest = '_' :: more → startsWithDigit more = false
  | _, _ => True

/-- What a backslash joins: a line break, perhaps behind a carriage return, or the end of the text. -/
def EndsLine (lineEnd rest : List Char) : Prop :=
  lineEnd = ['\n'] ∨ lineEnd = ['\r', '\n'] ∨ (lineEnd = [] ∨ lineEnd = ['\r']) ∧ rest = []

/-- Blanks, comments and line joins, in front of the rest of a text. A comment takes in all of its
line. -/
inductive Trivia : List Char → List Char → Prop where
  | none {rest} : Trivia [] rest
  | blank {c gap rest} : c = ' ' ∨ c = '\t' ∨ c = '\r' → Trivia gap rest → Trivia (c :: gap) rest
  | comment {body gap rest} : '\n' ∉ body → (∀ c ∈ (gap ++ rest).head?, c = '\n') →
      Trivia gap rest → Trivia ('#' :: body ++ gap) rest
  | join {lineEnd gap rest} : EndsLine lineEnd (gap ++ rest) → Trivia gap rest →
      Trivia ('\\' :: lineEnd ++ gap) rest

/-- A token stands on the stretch of the text that spells it. The offset of its end is that of the
first byte behind it, unless it has one character only. -/
structure Token.StandsOn (t : Token) (part : Stretch) : Prop where
  spelled : Spelled part.own t.kind
  ends : Ends t.kind part.rest
  start : t.span.start = part.start
  stop : t.span.stop = { part.last with
    offset := if part.own.length = 1 then part.firstByte else part.byteBehind }

/-- Tokens one behind the other, with nothing but trivia around them, from a place in the text to its
end. -/
inductive Laid : List Char → List (Token × Stretch) → List Char → Prop where
  | none {before gap} : Trivia gap [] → Laid before [] gap
  | token {before gap t own rest more} : Trivia gap (own ++ rest) →
      t.StandsOn ⟨before ++ gap, own, rest⟩ → Laid (before ++ gap ++ own) more rest →
      Laid before ((t, ⟨before ++ gap, own, rest⟩) :: more) (gap ++ own ++ rest)

/-! ## Numbers and strings -/

theorem startsWithDigit_iff {cs : List Char} :
    startsWithDigit cs = true ↔ ∃ c rest, cs = c :: rest ∧ c.isDigit = true := by
  cases cs <;> simp [startsWithDigit]

theorem splitDigits_cons {c : Char} (digit : c.isDigit = true) (rest : List Char) :
    splitDigits (c :: rest) = (c :: (splitDigits rest).1, (splitDigits rest).2) := by
  cases rest <;> simp [splitDigits, digit]

theorem numberDigits_cons {c : Char} (digit : c.isDigit = true) (rest : List Char) :
    numberDigits (c :: rest) = c :: numberDigits rest := by
  have kept : c ≠ '_' := by
    rintro rfl
    cases digit
  simp [numberDigits, kept]

theorem numberValue_unsigned {c : Char} (digit : c.isDigit = true) (rest : List Char) :
    numberValue (c :: rest) = digitsValue (numberDigits (c :: rest)) := by
  have unsigned : c ≠ '-' := by
    rintro rfl
    cases digit
  rw [numberValue, numberDigits_cons digit]
  split
  · rename_i same
    exact absurd (List.cons.inj same).1 unsigned
  · rfl

/-- The digits that are split off count on from any number in front of them. -/
theorem digits_splitDigits (cs : List Char) (n : Nat) :
    Digits n (splitDigits cs).1 ((numberDigits (splitDigits cs).1).foldl
      (fun n c => 10 * n + (c.toNat - '0'.toNat)) n) := by
  fun_induction splitDigits cs generalizing n with
  | case1 => exact .none
  | case2 c digit =>
    rw [numberDigits_cons digit]
    exact .digit digit .none
  | case3 => exact .none
  | case4 c d rest goes digits rest' split ih =>
    rw [split] at ih
    rcases Bool.or_eq_true_iff.mp goes with digit | underscore
    · rw [numberDigits_cons digit]
      exact .digit digit (ih _)
    · obtain ⟨same, digit⟩ := by simpa using underscore
      subst same
      rw [splitDigits_cons digit] at split
      obtain ⟨rfl, -⟩ := Prod.mk.inj split
      exact .underscore digit (ih n)
  | case5 => exact .none

/-- No number goes on behind the digits that are split off. -/
theorem ends_splitDigits (cs : List Char) (value : Int64) : Ends (.int value) (splitDigits cs).2 := by
  fun_induction splitDigits cs with
  | case1 | case2 =>
    refine ⟨rfl, ?_⟩
    rintro _ ⟨⟩
  | case3 c other =>
    refine ⟨by simpa [startsWithDigit] using other, ?_⟩
    rintro _ ⟨⟩
    rfl
  | case4 c d rest goes digits rest' split ih => rwa [split] at ih
  | case5 c d rest stays =>
    simp only [Bool.or_eq_true, Bool.and_eq_true, decide_eq_true_eq, not_or, not_and,
      Bool.not_eq_true] at stays
    refine ⟨stays.1, ?_⟩
    rintro _ ⟨⟩
    exact stays.2 rfl

theorem toInt_of_int64? {n : Int} {value : Int64} (h : int64? n = some value) : value.toInt = n := by
  unfold int64? at h
  split at h
  · rename_i range
    cases h
    have bound : Int64.maxValue.toInt < 2 ^ 63 := by decide
    exact Int64.toInt_ofInt_of_le range.1 (Int.lt_of_le_of_lt range.2 bound)
  · cases h

/-- A number in range is spelled by its literal. -/
theorem spelled_number {c : Char} {rest : List Char}
    (starts : c.isDigit = true ∨ c = '-' ∧ startsWithDigit rest = true)
    (right : (int64? (numberValue (c :: (splitDigits rest).1))).isSome = true) :
    Spelled (c :: (splitDigits rest).1)
      (.int ((int64? (numberValue (c :: (splitDigits rest).1))).getD 0)) := by
  obtain ⟨value, fits⟩ := Option.isSome_iff_exists.mp right
  rw [fits]
  have exact := toInt_of_int64? fits
  rcases starts with digit | ⟨rfl, digits⟩
  · have own := digits_splitDigits (c :: rest) 0
    rw [splitDigits_cons digit] at own
    exact .number digit own (exact.trans (numberValue_unsigned digit _))
  · obtain ⟨d, rest, rfl, digit⟩ := startsWithDigit_iff.mp digits
    have own := digits_splitDigits (d :: rest) 0
    rw [splitDigits_cons digit] at own exact ⊢
    exact .negative digit own exact

/-- What a letter behind a backslash stands for. -/
theorem escapeMeaning?_cases {letter : Char} (known : (escapeMeaning? letter).isSome = true) :
    letter = '\n' ∧ escapeMeaning? letter = some [] ∨
    ∃ c, (letter, c) ∈ escapes ∧ escapeMeaning? letter = some [c] := by
  unfold escapeMeaning? at known ⊢
  split at known <;> simp_all [escapes]

/-- The parts of a string whose escapes are known. -/
theorem quotes_splitString (cs : List Char) (p : Position)
    (right : escapeErrors p (splitString cs).1 = []) :
    Quotes ((splitString cs).1.flatMap StringPart.text)
      ((splitString cs).1.flatMap StringPart.meaning) := by
  fun_induction splitString cs generalizing p with
  | case1 | case2 | case4 | case5 => exact .none
  | case3 c rest parts ending rest' split ih =>
    rw [split] at ih
    simp only [escapeErrors] at right
    split at right
    · rename_i known
      have later := ih _ right
      rcases escapeMeaning?_cases known with ⟨rfl, joins⟩ | ⟨d, listed, stands⟩
      · exact .join later
      · simp only [List.flatMap_cons, StringPart.meaning, stands]
        exact .escape listed later
    · cases right
  | case6 c rest backslash escaped quote line parts ending rest' split ih =>
    rw [split] at ih
    have plain : c ≠ '\\' := by
      rintro rfl
      cases rest with
      | nil => exact backslash rfl rfl
      | cons d rest => exact escaped d rest rfl rfl
    exact .plain quote plain line (ih _ right)

/-! ## Pieces -/

/-- The first piece of a text that starts with `c`, and the text behind it. -/
inductive FirstPiece (c : Char) (rest : List Char) : Lexeme → List Char → Prop where
  | blank : c = ' ' ∨ c = '\t' ∨ c = '\r' → FirstPiece c rest (.blank c) rest
  | separator : c = '\n' ∨ c = ';' → FirstPiece c rest (.separator c) rest
  | comment : c = '#' → FirstPiece c rest (.comment (rest.takeWhile (· ≠ '\n')))
      (rest.dropWhile (· ≠ '\n'))
  | join {lineEnd behind} : c = '\\' → lineEnd? rest = some (lineEnd, behind) →
      FirstPiece c rest (.join lineEnd) behind
  | openParen : c = '(' → FirstPiece c rest .openParen rest
  | closeParen : c = ')' → FirstPiece c rest .closeParen rest
  | string : c = '"' → FirstPiece c rest (.string (splitString rest).1 (splitString rest).2.1)
      (splitString rest).2.2
  | number : c.isDigit = true ∨ c = '-' ∧ startsWithDigit rest = true →
      FirstPiece c rest (.number (c :: (splitDigits rest).1)) (splitDigits rest).2
  | word : isIdentifierStart c = true → FirstPiece c rest
      (.word (c :: rest.takeWhile isIdentifierPart)) (rest.dropWhile isIdentifierPart)
  | stray : FirstPiece c rest (.stray c) rest

theorem firstPiece (c : Char) (rest : List Char) :
    FirstPiece c rest (Lexeme.split c rest).1 (Lexeme.split c rest).2 := by
  unfold Lexeme.split
  split
  · rename_i blank
    exact .blank (by simpa [isBlankInLine, or_assoc] using blank)
  split
  · rename_i separator
    exact .separator (by simpa [isSeparator] using separator)
  split
  · rename_i comment
    exact .comment comment
  split
  · rename_i backslash
    split
    · rename_i found
      exact .join backslash found
    · exact .stray
  split
  · rename_i opening
    exact .openParen opening
  split
  · rename_i closing
    exact .closeParen closing
  split
  · rename_i quote
    exact .string quote
  split
  · rename_i digits
    exact .number (by simpa using digits)
  split
  · rename_i start
    exact .word start
  · exact .stray

theorem endsLine_of_lineEnd? {cs lineEnd rest : List Char} (h : lineEnd? cs = some (lineEnd, rest)) :
    EndsLine lineEnd rest := by
  unfold lineEnd? at h
  split at h
  · cases h
    exact .inr (.inr ⟨.inl rfl, rfl⟩)
  · cases h
    exact .inl rfl
  · cases h
    exact .inr (.inr ⟨.inr rfl, rfl⟩)
  · cases h
    exact .inr (.inl rfl)
  · cases h

/-- What is left stops where the characters do. -/
theorem stops_dropWhile {p : Char → Bool} {cs : List Char} {d : Char}
    (mem : d ∈ (cs.dropWhile p).head?) : p d = false := by
  have stops := List.head?_dropWhile_not p cs
  rw [Option.mem_def.mp mem] at stops
  exact stops

theorem holds_takeWhile {p : Char → Bool} {cs : List Char} {d : Char} (mem : d ∈ cs.takeWhile p) :
    p d = true := List.all_eq_true.mp List.all_takeWhile d mem

/-- A piece without errors is trivia, whatever trivia comes behind it, or it is a token. -/
theorem piece_cases {c : Char} {cs : List Char} {l : Lexeme} {rest : List Char}
    (first : FirstPiece c cs l rest) {p : Position} (right : l.errors p = []) :
    ((∀ p, l.token? p = none) ∧ ∀ gap behind, gap ++ behind = rest → Trivia gap behind →
      Trivia (l.text ++ gap) behind) ∨
    ∃ kind, (∀ p, l.token? p = some ⟨kind, .ofText p l.text⟩) ∧ Spelled l.text kind ∧
      Ends kind rest := by
  cases first with
  | blank blank => exact .inl ⟨fun _ => rfl, fun gap behind _ => .blank blank⟩
  | separator separator => exact .inr ⟨_, fun _ => rfl, .separator separator, trivial⟩
  | comment =>
    refine .inl ⟨fun _ => rfl, fun gap behind split trivia => .comment ?_ ?_ trivia⟩
    · intro mem
      simpa using holds_takeWhile mem
    · rw [split]
      intro d mem
      simpa using stops_dropWhile mem
  | join backslash found =>
    refine .inl ⟨fun _ => rfl, fun gap behind split trivia => .join ?_ trivia⟩
    rw [split]
    exact endsLine_of_lineEnd? found
  | openParen => exact .inr ⟨_, fun _ => rfl, .openParen, trivial⟩
  | closeParen => exact .inr ⟨_, fun _ => rfl, .closeParen, trivial⟩
  | string =>
    simp only [Lexeme.errors, List.append_eq_nil_iff] at right
    have closed : (splitString cs).2.1 = .closed := by
      rcases right with ⟨-, ended⟩
      split at ended
      · assumption
      · cases ended
    rw [closed]
    exact .inr ⟨_, fun _ => rfl, .string (quotes_splitString cs _ right.1), trivial⟩
  | number starts =>
    have fits : (int64? (numberValue (c :: (splitDigits cs).1))).isSome = true := by
      simp only [Lexeme.errors] at right
      split at right
      · assumption
      · cases right
    exact .inr ⟨_, fun _ => rfl, spelled_number starts fits, ends_splitDigits cs _⟩
  | word start =>
    exact .inr ⟨_, fun _ => rfl, .word start fun d mem => holds_takeWhile mem,
      fun d mem => stops_dropWhile mem⟩
  | stray => cases right

theorem standsOn (before : List Char) {own rest : List Char} {kind : TokenKind} (some : own ≠ [])
    (spelled : Spelled own kind) (ends : Ends kind rest) :
    Token.StandsOn ⟨kind, .ofText (.behind before) own⟩ ⟨before, own, rest⟩ := by
  have single : own.dropLast.isEmpty = true ↔ own.length = 1 := by
    rw [List.isEmpty_iff, ← List.length_eq_zero_iff, List.length_dropLast]
    have := List.length_pos_iff.mpr some
    omega
  refine ⟨spelled, ends, ?_, ?_⟩
  · unfold Span.ofText
    split <;> rfl
  · unfold Span.ofText
    by_cases one : own.length = 1
    · have none := List.isEmpty_iff.mp (single.mpr one)
      simp only [Span.point, Stretch.last, none, List.append_nil, one]
      rfl
    · have offset : (Position.behind before).offset + total Char.utf8Size own =
          total Char.utf8Size before + total Char.utf8Size own := rfl
      simp only [single, one, if_false, Position.afterAll_behind, Stretch.last, Stretch.byteBehind,
        Stretch.firstByte, ← offset]
      simp only [Position.behind, total_append]

/-! ## Whole texts -/

/-- Trivia in front of what is laid out belongs to the first gap. -/
theorem Laid.widen {before text rest : List Char} {laid : List (Token × Stretch)}
    (h : Laid (before ++ text) laid rest)
    (trivia : ∀ gap behind, gap ++ behind = rest → Trivia gap behind → Trivia (text ++ gap) behind) :
    Laid before laid (text ++ rest) := by
  cases h with
  | none gap => exact .none (trivia _ _ (List.append_nil _) gap)
  | @token _ gap t own rest more around stands later =>
    rw [List.append_assoc before] at stands later ⊢
    have wide := trivia gap (own ++ rest) (List.append_assoc ..).symm around
    rw [← List.append_assoc text, ← List.append_assoc text]
    exact .token wide stands later

theorem laid_pieces (cs before : List Char)
    (right : errorsFrom (.behind before) (lexemes cs) = []) :
    ∃ laid, Laid before laid cs ∧
      laid.map (·.1) = tokensFrom (.behind before) (lexemes cs) := by
  fun_induction lexemes cs generalizing before with
  | case1 => exact ⟨[], .none .none, rfl⟩
  | case2 c rest ih =>
    rw [errorsFrom_cons, List.append_eq_nil_iff, Position.afterAll_behind] at right
    obtain ⟨laid, covers, tokens⟩ := ih _ right.2
    rw [tokensFrom_cons, Position.afterAll_behind, ← tokens]
    have text := Lexeme.split_append c rest
    rcases piece_cases (firstPiece c rest) right.1 with ⟨none, trivia⟩ | ⟨kind, token, spelled, ends⟩
    · have wide := covers.widen trivia
      rw [text] at wide
      exact ⟨laid, wide, by rw [none]; rfl⟩
    · have stands := standsOn before (Lexeme.text_split_ne_nil c rest) spelled ends
      have whole := @Laid.token before [] _ _ _ _ .none
        (by rwa [List.append_nil]) (by rwa [List.append_nil])
      rw [List.nil_append, text] at whole
      exact ⟨_, whole, by rw [token]; rfl⟩

theorem Spelled.ne_nil {own : List Char} {kind : TokenKind} (h : Spelled own kind) : own ≠ [] := by
  cases h <;> exact List.cons_ne_nil _ _

namespace Laid

variable {before rest : List Char} {laid : List (Token × Stretch)}

theorem standsOn (h : Laid before laid rest) : ∀ x ∈ laid, x.1.StandsOn x.2 := by
  induction h with
  | none => exact nofun
  | token _ stands _ ih =>
    intro x mem
    rcases List.mem_cons.mp mem with rfl | later
    · exact stands
    · exact ih x later

theorem text (h : Laid before laid rest) : ∀ x ∈ laid, x.2.text = before ++ rest := by
  induction h with
  | none => exact nofun
  | token _ _ _ ih =>
    intro x mem
    rcases List.mem_cons.mp mem with rfl | later
    · simp [Stretch.text]
    · simpa using ih x later

/-- No stretch reaches back over the place where the others start. -/
theorem le_firstByte (h : Laid before laid rest) :
    ∀ x ∈ laid, total Char.utf8Size before ≤ x.2.firstByte := by
  induction h with
  | none => exact nofun
  | token _ _ _ ih =>
    intro x mem
    rcases List.mem_cons.mp mem with rfl | later
    · simp [Stretch.firstByte, total_append]
    · have := ih x later
      simp only [total_append] at this
      omega

theorem inOrder (h : Laid before laid rest) :
    laid.Pairwise fun x y => x.2.byteBehind ≤ y.2.firstByte := by
  induction h with
  | none => exact .nil
  | token _ _ later ih =>
    refine .cons (fun y mem => ?_) ih
    have := later.le_firstByte y mem
    rwa [total_append] at this

end Laid

theorem total_utf8Size_pos {own : List Char} (some : own ≠ []) : 0 < total Char.utf8Size own := by
  obtain ⟨c, rest, rfl⟩ := List.exists_cons_of_ne_nil some
  rw [total_cons]
  have := c.utf8Size_pos
  omega

theorem laid_of_tokenize {text : String} {tokens : List Token} (ok : tokenize text = .ok tokens) :
    ∃ laid, laid.map (·.1) = tokens ∧ Laid [] laid text.toList := by
  obtain ⟨right, rfl⟩ := tokenize_eq_ok.mp ok
  obtain ⟨laid, covers, tokens⟩ := laid_pieces text.toList [] right
  exact ⟨laid, tokens, covers⟩

/-- The tokens of a text stand on stretches of it that spell them, one behind the other. Around
them are blanks, comments and line joins only. -/
theorem tokens_laid_out {text : String} {tokens : List Token} (ok : tokenize text = .ok tokens) :
    ∃ laid, laid.map (·.1) = tokens ∧ Laid [] laid text.toList ∧
      (∀ x ∈ laid, x.1.StandsOn x.2 ∧ x.2.text = text.toList ∧ x.2.firstByte < x.2.byteBehind) ∧
      laid.Pairwise fun x y => x.2.byteBehind ≤ y.2.firstByte := by
  obtain ⟨laid, tokens, covers⟩ := laid_of_tokenize ok
  refine ⟨laid, tokens, covers, fun x mem => ⟨covers.standsOn x mem, covers.text x mem, ?_⟩,
    covers.inOrder⟩
  have some := total_utf8Size_pos (covers.standsOn x mem).spelled.ne_nil
  exact Nat.lt_add_of_pos_right some

/-- A word with letters of two bytes, a join with a carriage return, a number with an underscore, a
comment, and a string over two lines with a parenthesis right behind it. -/
def overLines : String := "größe \\\r\n-1_0 #\n\"a\\\nb\")"

def overLinesTokens : List Token :=
  [⟨.word "größe", ⟨⟨1, 1, 0⟩, ⟨1, 5, 7⟩⟩⟩, ⟨.int (-10), ⟨⟨2, 1, 11⟩, ⟨2, 4, 15⟩⟩⟩,
    ⟨.separator, .point ⟨2, 7, 17⟩⟩, ⟨.str "ab", ⟨⟨3, 1, 18⟩, ⟨4, 2, 24⟩⟩⟩,
    ⟨.closeParen, .point ⟨4, 3, 24⟩⟩]

theorem over_lines_laid_out :
    tokenize overLines = .ok overLinesTokens ∧
    ∃ laid, laid.map (·.1) = overLinesTokens ∧ Laid [] laid overLines.toList ∧
      (∀ x ∈ laid, x.1.StandsOn x.2 ∧ x.2.text = overLines.toList ∧
        x.2.firstByte < x.2.byteBehind) ∧
      laid.Pairwise fun x y => x.2.byteBehind ≤ y.2.firstByte := by
  have ok : tokenize overLines = .ok overLinesTokens := tokenize_eq_ok.mpr (by decide +kernel)
  exact ⟨ok, tokens_laid_out ok⟩

end Script

end ScriptSession
