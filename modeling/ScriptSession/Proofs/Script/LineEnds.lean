import ScriptSession.Proofs.Script.Borders

/-!
# Carriage returns before line breaks

A text may break its lines with a carriage return and a line break instead of the line break alone
(`returned`). The return is read by whatever stands before it: as a blank, as the end of a comment or
of an open string, or as a part of the break that a backslash joins. None of these shows in the
tokens and errors, places apart (`Lexeme.split_returned`).

A backslash inside a string is the exception. It joins a line break, but a carriage return behind it
is an unknown escape, and the break after that cuts the string. So the two texts are read alike
exactly if no string goes on behind a backslash at the end of a line (`line_ends_alike`).
-/
namespace ScriptSession.Script

/-! ## Readings without places -/

/-- The kind of a piece's token, which is the same wherever the piece stands. -/
def Lexeme.kind? (l : Lexeme) : Option TokenKind := (l.token? .first).map (·.kind)

def Lexeme.causes (l : Lexeme) : List LexicalCause := (l.errors .first).map (·.cause)

def kinds (pieces : List Lexeme) : List TokenKind := pieces.filterMap Lexeme.kind?

def causes (pieces : List Lexeme) : List LexicalCause := pieces.flatMap Lexeme.causes

/-- The kinds of the tokens, or the causes of all errors. -/
abbrev Unplaced := Except (List LexicalCause) (List TokenKind)

/-- What a text is read as, but for the places. -/
def unplaced (text : String) : Unplaced :=
  match tokenize text with
  | .ok tokens => .ok (tokens.map (·.kind))
  | .error errors => .error (errors.map (·.cause))

theorem map_kind_token? (p : Position) (l : Lexeme) : (l.token? p).map (·.kind) = l.kind? := by
  cases l with
  | string parts ending => cases ending <;> rfl
  | _ => rfl

theorem map_cause_escapeErrors (p q : Position) (parts : List StringPart) :
    (escapeErrors p parts).map (·.cause) = (escapeErrors q parts).map (·.cause) := by
  induction parts generalizing p q with
  | nil => rfl
  | cons part rest ih =>
    cases part with
    | plain c => exact ih _ _
    | escaped c =>
      simp only [escapeErrors]
      split
      · exact ih _ _
      · rw [List.map_cons, List.map_cons, ih]

theorem map_cause_errors (p : Position) (l : Lexeme) : (l.errors p).map (·.cause) = l.causes := by
  cases l with
  | string parts ending =>
    simp only [Lexeme.causes, Lexeme.errors, List.map_append]
    rw [map_cause_escapeErrors _ (Position.first.after '"')]
    by_cases closed : ending = .closed
    · rw [if_pos closed, if_pos closed]
    · rw [if_neg closed, if_neg closed]
      rfl
  | number literal =>
    simp only [Lexeme.causes, Lexeme.errors]
    split <;> rfl
  | _ => rfl

theorem map_kind_tokensFrom (p : Position) (pieces : List Lexeme) :
    (tokensFrom p pieces).map (·.kind) = kinds pieces := by
  induction pieces generalizing p with
  | nil => rfl
  | cons l rest ih =>
    rw [tokensFrom_cons, List.map_append, ih, kinds, kinds, List.filterMap_cons,
      ← map_kind_token? p l]
    cases l.token? p <;> rfl

theorem map_cause_errorsFrom (p : Position) (pieces : List Lexeme) :
    (errorsFrom p pieces).map (·.cause) = causes pieces := by
  induction pieces generalizing p with
  | nil => rfl
  | cons l rest ih =>
    rw [errorsFrom_cons, List.map_append, ih, map_cause_errors]
    rfl

theorem unplaced_eq (text : String) :
    unplaced text = match causes (lexemes text.toList) with
      | [] => .ok (kinds (lexemes text.toList))
      | causes => .error causes := by
  rw [unplaced, tokenize_eq, lexedFrom, ← map_cause_errorsFrom .first, ← map_kind_tokensFrom .first]
  cases errorsFrom .first (lexemes text.toList) <;> rfl

theorem unplaced_eq_ok {text : String} {found : List TokenKind} :
    unplaced text = .ok found ↔
      causes (lexemes text.toList) = [] ∧ kinds (lexemes text.toList) = found := by
  rw [unplaced_eq]
  cases causes (lexemes text.toList) <;> simp

/-- One cause is enough to refuse a text. -/
theorem unplaced_eq_error {text : String} {found : List LexicalCause} :
    unplaced text = .error found ↔ causes (lexemes text.toList) = found ∧ found ≠ [] := by
  rw [unplaced_eq]
  cases causes (lexemes text.toList) with
  | nil =>
    constructor
    · intro refused
      cases refused
    · rintro ⟨rfl, some⟩
      exact absurd rfl some
  | cons cause rest =>
    constructor
    · intro refused
      cases refused
      exact ⟨rfl, List.cons_ne_nil cause rest⟩
    · rintro ⟨rfl, -⟩
      rfl

/-- What can be wrong with a piece. -/
inductive Lexeme.Wrong : Lexeme → LexicalCause → Prop where
  | stray (c) : Wrong (.stray c) (.unexpectedCharacter c)
  | number {literal} : int64? (numberValue literal) = none →
      Wrong (.number literal) (.numberOutOfRange (String.ofList (numberDigits literal)))
  | escape {c parts ending} : .escaped c ∈ parts → escapeMeaning? c = none →
      Wrong (.string parts ending) (.invalidEscape c)
  | unclosed {parts ending} : ending ≠ .closed → Wrong (.string parts ending) .unterminatedString

theorem mem_causes_escapeErrors {cause : LexicalCause} {p : Position} {parts : List StringPart} :
    cause ∈ (escapeErrors p parts).map (·.cause) ↔
      ∃ c, cause = .invalidEscape c ∧ .escaped c ∈ parts ∧ escapeMeaning? c = none := by
  induction parts generalizing p with
  | nil => simp [escapeErrors]
  | cons part rest ih =>
    cases part with
    | plain d => simp [escapeErrors, ih]
    | escaped d =>
      by_cases known : (escapeMeaning? d).isSome
      · simp only [escapeErrors, if_pos known, ih, List.mem_cons, StringPart.escaped.injEq]
        constructor
        · rintro ⟨c, rfl, later, unknown⟩
          exact ⟨c, rfl, .inr later, unknown⟩
        · rintro ⟨c, rfl, rfl | later, unknown⟩
          · simp [unknown] at known
          · exact ⟨c, rfl, later, unknown⟩
      · have unknown : escapeMeaning? d = none := by simpa using known
        simp only [escapeErrors, if_neg known, List.map_cons, List.mem_cons, ih,
          StringPart.escaped.injEq]
        constructor
        · rintro (rfl | ⟨c, rfl, later, unknown⟩)
          · exact ⟨d, rfl, .inl rfl, unknown⟩
          · exact ⟨c, rfl, .inr later, unknown⟩
        · rintro ⟨c, rfl, rfl | later, unknown⟩
          · exact .inl rfl
          · exact .inr ⟨c, rfl, later, unknown⟩

theorem Lexeme.mem_causes {l : Lexeme} {cause : LexicalCause} :
    cause ∈ l.causes ↔ l.Wrong cause := by
  constructor
  · intro mem
    cases l with
    | stray c =>
      cases List.mem_singleton.mp mem
      exact .stray c
    | number literal =>
      simp only [causes, errors] at mem
      split at mem
      · cases mem
      · rename_i range
        cases List.mem_singleton.mp mem
        exact .number (by simpa using range)
    | string parts ending =>
      simp only [causes, errors, List.map_append, List.mem_append, mem_causes_escapeErrors] at mem
      rcases mem with ⟨c, rfl, part, unknown⟩ | ending
      · exact .escape part unknown
      · split at ending
        · cases ending
        · rename_i ends
          cases List.mem_singleton.mp ending
          exact .unclosed ends
    | _ => cases mem
  · intro wrong
    cases wrong with
    | stray c => exact List.mem_singleton.mpr rfl
    | number range => simp [causes, errors, range]
    | escape part unknown =>
      simp only [causes, errors, List.map_append, List.mem_append]
      exact .inl (mem_causes_escapeErrors.mpr ⟨_, rfl, part, unknown⟩)
    | unclosed ends => simp [causes, errors, ends]

/-- An escape without a meaning stands in the text. -/
theorem mem_of_invalidEscape {c : Char} {text : List Char}
    (mem : .invalidEscape c ∈ causes (lexemes text)) : c ∈ text := by
  obtain ⟨l, there, mem⟩ := List.mem_flatMap.mp mem
  rw [← text_lexemes text]
  apply List.mem_flatMap.mpr
  refine ⟨l, there, ?_⟩
  cases Lexeme.mem_causes.mp mem with
  | @escape _ parts ending part unknown =>
    have inside : c ∈ parts.flatMap StringPart.text :=
      List.mem_flatMap.mpr ⟨_, part, by simp [StringPart.text]⟩
    simp [Lexeme.text, inside]

/-! ## Line breaks with a carriage return -/

/-- The same text with a carriage return before every line break. -/
def returned : List Char → List Char
  | [] => []
  | c :: rest => if c = '\n' then '\r' :: '\n' :: returned rest else c :: returned rest

theorem returned_break (rest : List Char) :
    returned ('\n' :: rest) = '\r' :: '\n' :: returned rest := by
  rw [returned, if_pos rfl]

theorem returned_other {c : Char} (other : c ≠ '\n') (rest : List Char) :
    returned (c :: rest) = c :: returned rest := by
  rw [returned, if_neg other]

/-- What is left of a text and of the same text with carriage returns. At a line break the return may
be ahead or behind. -/
inductive Resumes : List Char → List Char → Prop where
  | ahead (rest) : Resumes rest (returned rest)
  | behind (rest) : Resumes ('\n' :: rest) ('\n' :: returned rest)

section

variable {p : Char → Bool}

theorem takeWhile_returned (lineBreak : p '\n' = false) (carriage : p '\r' = false)
    (text : List Char) : (returned text).takeWhile p = text.takeWhile p := by
  induction text with
  | nil => rfl
  | cons c rest ih =>
    by_cases line : c = '\n'
    · subst line
      rw [returned_break, List.takeWhile_cons_of_neg, List.takeWhile_cons_of_neg]
      · exact Bool.eq_false_iff.mp lineBreak
      · exact Bool.eq_false_iff.mp carriage
    · rw [returned_other line, List.takeWhile_cons, List.takeWhile_cons, ih]

theorem dropWhile_returned (lineBreak : p '\n' = false) (carriage : p '\r' = false)
    (text : List Char) : (returned text).dropWhile p = returned (text.dropWhile p) := by
  induction text with
  | nil => rfl
  | cons c rest ih =>
    by_cases line : c = '\n'
    · subst line
      rw [List.dropWhile_cons_of_neg (Bool.eq_false_iff.mp lineBreak), returned_break,
        List.dropWhile_cons_of_neg (Bool.eq_false_iff.mp carriage)]
    · rw [returned_other line, List.dropWhile_cons, List.dropWhile_cons, ih]
      split
      · rfl
      · exact (returned_other line rest).symm

end

/-- A comment takes the carriage return in. -/
theorem dropLine_returned (text : List Char) :
    Resumes (text.dropWhile (· ≠ '\n')) ((returned text).dropWhile (· ≠ '\n')) := by
  induction text with
  | nil => exact .ahead []
  | cons c rest ih =>
    by_cases line : c = '\n'
    · subst line
      rw [returned_break]
      exact .behind rest
    · rw [returned_other line, List.dropWhile_cons_of_pos (by simpa using line),
        List.dropWhile_cons_of_pos (by simpa using line)]
      exact ih

theorem startsWithDigit_returned (text : List Char) :
    startsWithDigit (returned text) = startsWithDigit text := by
  cases text with
  | nil => rfl
  | cons c rest =>
    by_cases line : c = '\n'
    · subst line
      rfl
    · rw [returned_other line]
      rfl

theorem splitDigits_eq (c : Char) (rest : List Char) :
    splitDigits (c :: rest) =
      if c.isDigit || (c = '_' && startsWithDigit rest) then
        (c :: (splitDigits rest).1, (splitDigits rest).2)
      else ([], c :: rest) := by
  cases rest with
  | nil =>
    rw [splitDigits]
    simp [startsWithDigit, splitDigits]
  | cons d rest =>
    rw [splitDigits]
    rfl

theorem splitDigits_returned (text : List Char) :
    splitDigits (returned text) = ((splitDigits text).1, returned (splitDigits text).2) := by
  induction text with
  | nil => rfl
  | cons c rest ih =>
    by_cases line : c = '\n'
    · subst line
      rw [splitDigits_eq '\n', returned_break, splitDigits_eq '\r']
      exact congrArg (Prod.mk []) (returned_break rest).symm
    · rw [returned_other line, splitDigits_eq, splitDigits_eq, startsWithDigit_returned, ih]
      split
      · rfl
      · exact congrArg (Prod.mk []) (returned_other line rest).symm

theorem lineEnd?_returned {text : List Char} (plain : '\r' ∉ text) :
    (lineEnd? (returned text)).map (·.2) = (lineEnd? text).map (returned ·.2) := by
  cases text with
  | nil => rfl
  | cons c rest =>
    by_cases line : c = '\n'
    · subst line
      rw [returned_break]
      rfl
    · have carriage : c ≠ '\r' := fun same => plain (same ▸ List.mem_cons_self)
      rw [returned_other line, lineEnd?, lineEnd?]
      all_goals simp_all

/-! ## Strings -/

/-- A string as it is read, and the same one with carriage returns. They differ where a line break is
joined, or where one cuts the string: then the return before it belongs to the second one. -/
inductive StringAlike : List StringPart × StringEnd × List Char →
    List StringPart × StringEnd × List Char → Prop where
  | whole {parts} (ending rest) (unbroken : .escaped '\n' ∉ parts) :
      StringAlike (parts, ending, rest) (parts, ending, returned rest)
  | cut {parts} (rest) (unbroken : .escaped '\n' ∉ parts) :
      StringAlike (parts, .cut, '\n' :: rest) (parts ++ [.plain '\r'], .cut, '\n' :: returned rest)
  | joined {s s'} (line : .escaped '\n' ∈ s.1) (carriage : .escaped '\r' ∈ s'.1) : StringAlike s s'

theorem StringAlike.cons {s s' : List StringPart × StringEnd × List Char} {part : StringPart}
    (h : StringAlike s s') (other : part ≠ .escaped '\n') :
    StringAlike (part :: s.1, s.2.1, s.2.2) (part :: s'.1, s'.2.1, s'.2.2) := by
  have apart {parts : List StringPart} (unbroken : .escaped '\n' ∉ parts) :
      .escaped '\n' ∉ part :: parts := by
    intro mem
    rcases List.mem_cons.mp mem with same | later
    · exact other same.symm
    · exact unbroken later
  cases h with
  | whole ending rest unbroken => exact .whole ending rest (apart unbroken)
  | cut rest unbroken => exact .cut rest (apart unbroken)
  | joined line carriage =>
    exact .joined (List.mem_cons_of_mem part line) (List.mem_cons_of_mem part carriage)

theorem splitString_escaped (c : Char) (rest : List Char) : splitString ('\\' :: c :: rest) =
    (.escaped c :: (splitString rest).1, (splitString rest).2.1, (splitString rest).2.2) := by
  rw [splitString]

theorem splitString_returned (text : List Char) :
    StringAlike (splitString text) (splitString (returned text)) := by
  fun_induction splitString text with
  | case1 => exact .whole .cut [] List.not_mem_nil
  | case2 => exact .whole .cutAfterBackslash [] List.not_mem_nil
  | case3 c rest parts ending rest' split ih =>
    by_cases line : c = '\n'
    · subst line
      refine .joined List.mem_cons_self ?_
      rw [returned_other (by decide), returned_break, splitString_escaped]
      exact List.mem_cons_self
    · rw [returned_other (by decide), returned_other line, splitString_escaped]
      rw [split] at ih
      exact ih.cons fun same => line (StringPart.escaped.inj same)
  | case4 rest => exact .whole .closed rest List.not_mem_nil
  | case5 rest => exact .cut rest List.not_mem_nil
  | case6 c rest backslash escaped quote line parts ending rest' split ih =>
    have plain : c ≠ '\\' := by
      rintro rfl
      cases rest with
      | nil => exact backslash rfl rfl
      | cons d rest => exact escaped d rest rfl rfl
    rw [returned_other line, splitString_plain plain quote line]
    rw [split] at ih
    exact ih.cons StringPart.noConfusion

theorem escapeErrors_concat (p : Position) (parts : List StringPart) (c : Char) :
    escapeErrors p (parts ++ [.plain c]) = escapeErrors p parts := by
  induction parts generalizing p with
  | nil => rfl
  | cons part rest ih =>
    cases part with
    | plain d => exact ih _
    | escaped d =>
      rw [List.cons_append, escapeErrors, escapeErrors]
      simp only [ih]

/-! ## Pieces -/

/-- A string that goes on behind a backslash at the end of a line. -/
def Lexeme.GoesOn : Lexeme → Prop
  | .string parts _ => .escaped '\n' ∈ parts
  | _ => False

instance : DecidablePred Lexeme.GoesOn
  | .string parts _ => inferInstanceAs (Decidable (.escaped '\n' ∈ parts))
  | .blank _ | .comment _ | .join _ | .separator _ | .openParen | .closeParen | .number _ | .word _
  | .stray _ => inferInstanceAs (Decidable False)

/-- A first piece with the text behind it, and the same with carriage returns. -/
inductive PieceAlike : Lexeme × List Char → Lexeme × List Char → Prop where
  | alike {s s'} (ends : ¬ s.1.GoesOn) (kind : s'.1.kind? = s.1.kind?)
      (causes : s'.1.causes = s.1.causes) (resumes : Resumes s.2 s'.2) : PieceAlike s s'
  | broken {s s'} (goesOn : s.1.GoesOn) (escape : .invalidEscape '\r' ∈ s'.1.causes) :
      PieceAlike s s'

theorem StringAlike.piece {s s' : List StringPart × StringEnd × List Char} (h : StringAlike s s') :
    PieceAlike (.string s.1 s.2.1, s.2.2) (.string s'.1 s'.2.1, s'.2.2) := by
  cases h with
  | whole ending rest unbroken => exact .alike unbroken rfl rfl (.ahead rest)
  | cut rest unbroken =>
    refine .alike unbroken rfl ?_ (.behind rest)
    simp only [Lexeme.causes, Lexeme.errors, escapeErrors_concat]
  | joined line carriage =>
    exact .broken line (Lexeme.mem_causes.mpr (.escape carriage rfl))

theorem Lexeme.split_returned (c : Char) {rest : List Char} (plain : '\r' ∉ rest) :
    PieceAlike (split c rest) (split c (returned rest)) := by
  have same {l : Lexeme} (ends : ¬ l.GoesOn) (rest : List Char) :
      PieceAlike (l, rest) (l, returned rest) := .alike ends rfl rfl (.ahead rest)
  have break_apart : isIdentifierPart '\n' = false := by decide +kernel
  have return_apart : isIdentifierPart '\r' = false := by decide +kernel
  unfold split
  rw [startsWithDigit_returned, splitDigits_returned, takeWhile_returned break_apart return_apart,
    dropWhile_returned break_apart return_apart]
  by_cases blank : isBlankInLine c = true
  · simp only [if_pos blank]
    exact same id rest
  by_cases separator : isSeparator c = true
  · simp only [if_neg blank, if_pos separator]
    exact same id rest
  simp only [if_neg blank, if_neg separator]
  by_cases comment : c = '#'
  · simp only [if_pos comment]
    exact .alike id rfl rfl (dropLine_returned rest)
  simp only [if_neg comment]
  by_cases backslash : c = '\\'
  · have joined := lineEnd?_returned plain
    simp only [if_pos backslash]
    cases found : lineEnd? rest with
    | none =>
      cases found' : lineEnd? (returned rest) with
      | none => exact same id rest
      | some joins' =>
        rw [found, found'] at joined
        cases joined
    | some joins =>
      cases found' : lineEnd? (returned rest) with
      | none =>
        rw [found, found'] at joined
        cases joined
      | some joins' =>
        rw [found, found'] at joined
        have behind : joins'.2 = returned joins.2 := Option.some.inj joined
        refine .alike id rfl rfl ?_
        dsimp only
        rw [behind]
        exact .ahead joins.2
  simp only [if_neg backslash]
  by_cases opening : c = '('
  · simp only [if_pos opening]
    exact same id rest
  by_cases closing : c = ')'
  · simp only [if_neg opening, if_pos closing]
    exact same id rest
  simp only [if_neg opening, if_neg closing]
  by_cases quote : c = '"'
  · simp only [if_pos quote]
    exact (splitString_returned rest).piece
  simp only [if_neg quote]
  split
  · exact same id _
  split
  · exact same id _
  · exact same id rest

/-- Two texts as far as their places do not matter: alike, unless the first one has a string that goes
on over a line. -/
structure ReadsAlike (a b : List Char) : Prop where
  alike : (∀ l ∈ lexemes a, ¬ l.GoesOn) →
    kinds (lexemes b) = kinds (lexemes a) ∧ causes (lexemes b) = causes (lexemes a)
  broken : (∃ l ∈ lexemes a, l.GoesOn) → .invalidEscape '\r' ∈ causes (lexemes b)

theorem lexemes_cons (c : Char) (rest : List Char) :
    lexemes (c :: rest) = (Lexeme.split c rest).1 :: lexemes (Lexeme.split c rest).2 := by
  rw [lexemes]

/-- A carriage return by itself is a blank. -/
theorem reads_return (text : List Char) :
    kinds (lexemes ('\r' :: text)) = kinds (lexemes text) ∧
      causes (lexemes ('\r' :: text)) = causes (lexemes text) := by
  rw [lexemes_cons]
  exact ⟨rfl, rfl⟩

theorem Resumes.reads_cons {c : Char} {rest text : List Char} (h : Resumes (c :: rest) text) :
    kinds (lexemes text) = kinds (lexemes (c :: returned rest)) ∧
      causes (lexemes text) = causes (lexemes (c :: returned rest)) := by
  cases h with
  | ahead =>
    by_cases line : c = '\n'
    · subst line
      rw [returned_break]
      exact reads_return _
    · rw [returned_other line]
      exact ⟨rfl, rfl⟩
  | behind => exact ⟨rfl, rfl⟩

/-- By induction on the pieces of the first text. -/
theorem Resumes.readsAlike {a b : List Char} (h : Resumes a b) (plain : '\r' ∉ a) :
    ReadsAlike a b := by
  fun_induction lexemes a generalizing b with
  | case1 =>
    cases h
    refine ⟨fun _ => ⟨rfl, rfl⟩, ?_⟩
    rw [lexemes]
    rintro ⟨l, mem, -⟩
    cases mem
  | case2 c rest ih =>
    have plain_rest : '\r' ∉ rest := fun mem => plain (List.mem_cons_of_mem c mem)
    have plain_left : '\r' ∉ (Lexeme.split c rest).2 := by
      intro mem
      apply plain
      rw [← Lexeme.split_append c rest]
      exact List.mem_append_right _ mem
    obtain ⟨kinds_eq, causes_eq⟩ := h.reads_cons
    rw [lexemes_cons] at kinds_eq causes_eq
    cases Lexeme.split_returned c plain_rest with
    | alike ends kind causes resumes =>
      have later := ih resumes plain_left
      constructor
      · intro none
        rw [lexemes_cons] at none ⊢
        obtain ⟨kinds_later, causes_later⟩ := later.alike fun l mem =>
          none l (List.mem_cons_of_mem _ mem)
        rw [kinds_eq, causes_eq]
        simp only [Script.kinds, Script.causes, List.filterMap_cons, List.flatMap_cons, kind, causes]
          at kinds_later causes_later ⊢
        rw [kinds_later, causes_later]
        exact ⟨rfl, rfl⟩
      · rintro ⟨l, mem, goesOn⟩
        rw [lexemes_cons] at mem
        rw [causes_eq]
        rcases List.mem_cons.mp mem with rfl | below
        · exact absurd goesOn ends
        · exact List.mem_append_right _ (later.broken ⟨l, below, goesOn⟩)
    | broken goesOn escape =>
      constructor
      · intro none
        rw [lexemes_cons] at none
        exact absurd goesOn (none _ List.mem_cons_self)
      · intro _
        rw [causes_eq]
        exact List.mem_append_left _ escape

/-! ## Texts -/

/-- The text with a carriage return before every line break. -/
def withReturns (text : String) : String := String.ofList (returned text.toList)

/-- Carriage returns before the line breaks of a text make no difference exactly if no string goes on
over a line. If one does, the text with the returns is refused for a cause that the text itself does
not have. -/
theorem line_ends_alike (text : String) (plain : '\r' ∉ text.toList) :
    ((∀ l ∈ lexemes text.toList, ¬ l.GoesOn) → unplaced (withReturns text) = unplaced text) ∧
    ((∃ l ∈ lexemes text.toList, l.GoesOn) →
      ∃ causes, unplaced (withReturns text) = .error causes ∧ .invalidEscape '\r' ∈ causes ∧
        ∀ causes, unplaced text = .error causes → .invalidEscape '\r' ∉ causes) := by
  have reads := (Resumes.ahead text.toList).readsAlike plain
  have chars : (withReturns text).toList = returned text.toList := String.toList_ofList
  constructor
  · intro none
    obtain ⟨kinds, causes⟩ := reads.alike none
    rw [unplaced_eq, unplaced_eq, chars, kinds, causes]
  · intro some
    have escape := reads.broken some
    rw [← chars] at escape
    refine ⟨_, unplaced_eq_error.mpr ⟨rfl, List.ne_nil_of_mem escape⟩, escape, ?_⟩
    intro causes refused mem
    obtain ⟨rfl, -⟩ := unplaced_eq_error.mp refused
    exact plain (mem_of_invalidEscape mem)

/-- A comment, an open string and a joined break, each before a carriage return; and a string that
goes on. -/
theorem alike_around_breaks :
    '\r' ∉ "# c\nx \"a\n-1_0 \\\n?".toList ∧
    unplaced (withReturns "# c\nx \"a\n-1_0 \\\n?") =
      .error [.unterminatedString, .unexpectedCharacter '?'] ∧
    '\r' ∉ "\"\\\n#\\q".toList ∧
    ∃ causes, unplaced (withReturns "\"\\\n#\\q") = .error causes ∧
      .invalidEscape '\r' ∈ causes := by
  have plain : '\r' ∉ "# c\nx \"a\n-1_0 \\\n?".toList := by decide
  have plain' : '\r' ∉ "\"\\\n#\\q".toList := by decide
  have ends : ∀ l ∈ lexemes "# c\nx \"a\n-1_0 \\\n?".toList, ¬ l.GoesOn := by decide +kernel
  have goesOn : ∃ l ∈ lexemes "\"\\\n#\\q".toList, l.GoesOn := by decide +kernel
  have read : unplaced "# c\nx \"a\n-1_0 \\\n?" =
      .error [.unterminatedString, .unexpectedCharacter '?'] :=
    unplaced_eq_error.mpr (by decide +kernel)
  obtain ⟨causes, refused, escape, -⟩ := (line_ends_alike _ plain').2 goesOn
  exact ⟨plain, ((line_ends_alike _ plain).1 ends).trans read, plain', causes, refused, escape⟩

/-- The second line of a string is lost. -/
theorem string_cut_at_return :
    '\r' ∉ "\"a\\\nb\"".toList ∧ unplaced "\"a\\\nb\"" = .ok [.str "ab"] ∧
    unplaced (withReturns "\"a\\\nb\"") =
      .error [.invalidEscape '\r', .unterminatedString, .unterminatedString] := by
  refine ⟨by decide, ?_, ?_⟩
  · exact unplaced_eq_ok.mpr (by decide +kernel)
  · exact unplaced_eq_error.mpr (by decide +kernel)

end ScriptSession.Script
