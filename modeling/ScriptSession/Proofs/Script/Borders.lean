import ScriptSession.Proofs.Script.Moved

/-!
# Texts at their borders

What is read of a text depends on the text behind it at one place only, the border between the two.
A text keeps its pieces (`lexemes_border`) if nothing at its end reaches over the border:

* no word or number goes on with the first character behind the border;
* no backslash waits for a line break;
* no comment and no open string is there, unless the border is the end of their line.

The tokens of the text behind the border, and its errors, are moved down as a whole. Hence every
line is read by itself (`lines_read_apart`).
-/
namespace ScriptSession.Script

/-! ## Pieces -/

/-- A line break behind such a text might be joined. -/
def EndsInBackslash (text : List Char) : Prop := ['\\'] <:+ text ∨ ['\\', '\r'] <:+ text

instance (text : List Char) : Decidable (EndsInBackslash text) :=
  inferInstanceAs (Decidable (_ ∨ _))

/-- A piece that takes in all that follows on its line. -/
def Lexeme.RunsOn : Lexeme → Prop
  | .comment _ => True
  | .string _ ending => ending ≠ .closed
  | _ => False

/-- Nothing at the end of the text reaches over to a text that starts with `d`. -/
structure Border (text : List Char) (d : Char) : Prop where
  apart : isIdentifierPart d = false
  unjoined : ¬ EndsInBackslash text
  ended : d = '\n' ∨ ∀ l ∈ (lexemes text).getLast?, ¬ l.RunsOn

theorem EndsInBackslash.of_suffix {a b : List Char} (suffix : a <:+ b) (h : EndsInBackslash a) :
    EndsInBackslash b :=
  h.imp (·.trans suffix) (·.trans suffix)

theorem unjoined_of_getLast? {text : List Char} (h : ∀ c ∈ text.getLast?, c ≠ '\\' ∧ c ≠ '\r') :
    ¬ EndsInBackslash text := by
  rintro (⟨before, rfl⟩ | ⟨before, rfl⟩)
  · exact (h '\\' (by simp)).1 rfl
  · exact (h '\r' (by simp)).2 rfl

theorem isIdentifierPart_of_isDigit {c : Char} (digit : c.isDigit = true) :
    isIdentifierPart c = true := by
  have range : 48 ≤ c.toNat ∧ c.toNat ≤ 57 := by
    simpa [Char.isDigit, UInt32.le_iff_toNat_le] using digit
  have within : Text.isXidContinue c = true := by
    unfold Text.isXidContinue Text.xidContinueRanges Text.Ranges.has
    rw [if_neg (by omega), if_pos range.2]
  rw [isIdentifierPart, within, Bool.or_true]

theorem isDigit_apart {c : Char} (apart : isIdentifierPart c = false) : c.isDigit = false := by
  refine Bool.eq_false_iff.mpr fun digit => ?_
  rw [isIdentifierPart_of_isDigit digit] at apart
  cases apart

section

variable {a : List Char} {d : Char} (b : List Char)

theorem takeWhile_border {p : Char → Bool} (h : a.dropWhile p = [] → p d = false) :
    (a ++ d :: b).takeWhile p = a.takeWhile p := by
  induction a with
  | nil => simp [h rfl]
  | cons c rest ih =>
    rw [List.cons_append, List.takeWhile_cons, List.takeWhile_cons]
    split
    · rename_i goes
      rw [ih fun none => h (by rw [List.dropWhile_cons, if_pos goes, none])]
    · rfl

theorem dropWhile_border {p : Char → Bool} (h : a.dropWhile p = [] → p d = false) :
    (a ++ d :: b).dropWhile p = a.dropWhile p ++ d :: b := by
  rw [List.dropWhile_append]
  split
  · rename_i none
    have none := List.isEmpty_iff.mp none
    rw [none, List.dropWhile_cons, h none]
    rfl
  · rfl

theorem splitDigits_border (a : List Char) (apart : isIdentifierPart d = false) :
    splitDigits (a ++ d :: b) = ((splitDigits a).1, (splitDigits a).2 ++ d :: b) := by
  have digit := isDigit_apart apart
  have underscore : d ≠ '_' := by
    rintro rfl
    revert apart
    decide +kernel
  have stop : splitDigits (d :: b) = ([], d :: b) := by
    cases b <;> simp [splitDigits, digit, underscore]
  fun_induction splitDigits a with
  | case1 => exact stop
  | case2 c digit' => simp [splitDigits, digit', stop]
  | case3 c other => simp [splitDigits, other, digit]
  | case4 c d' rest goes digits rest' split ih =>
    rw [List.cons_append, List.cons_append, splitDigits, if_pos goes, ← List.cons_append, ih]
    simp [split]
  | case5 c d' rest stays =>
    rw [List.cons_append, List.cons_append, splitDigits, if_neg stays]

theorem splitString_plain {c : Char} (backslash : c ≠ '\\') (quote : c ≠ '"') (line : c ≠ '\n')
    (rest : List Char) : splitString (c :: rest) =
      (.plain c :: (splitString rest).1, (splitString rest).2.1, (splitString rest).2.2) := by
  rw [splitString]
  · exact fun eq _ => backslash eq
  · exact fun _ _ eq _ => backslash eq
  · exact quote
  · exact line

/-- A string does not change if a quote or the line ends it, in the text or at its border. -/
theorem splitString_border (a : List Char) (unjoined : ¬ ['\\'] <:+ a)
    (ended : d = '\n' ∨ ((splitString a).2.2 = [] → (splitString a).2.1 = .closed)) :
    splitString (a ++ d :: b) =
      ((splitString a).1, (splitString a).2.1, (splitString a).2.2 ++ d :: b) := by
  have within {c : Char} {rest : List Char} (h : ¬ ['\\'] <:+ c :: rest) : ¬ ['\\'] <:+ rest :=
    fun suffix => h (suffix.trans (List.suffix_cons c rest))
  fun_induction splitString a with
  | case1 =>
    rcases ended with rfl | closed
    · rfl
    · cases closed rfl
  | case2 => exact absurd List.suffix_rfl unjoined
  | case3 c rest parts ending rest' split ih =>
    rw [split] at ih
    rw [List.cons_append, List.cons_append, splitString, ih (within (within unjoined)) ended]
  | case4 rest => rfl
  | case5 rest => rfl
  | case6 c rest backslash escaped quote line parts ending rest' split ih =>
    rw [split] at ih
    have plain : c ≠ '\\' := by
      rintro rfl
      cases rest with
      | nil => exact backslash rfl rfl
      | cons d rest => exact escaped d rest rfl rfl
    rw [List.cons_append, splitString_plain plain quote line, ih (within unjoined) ended]

theorem lineEnd?_border {a : List Char} (b : List Char) (some : a ≠ []) (carriage : a ≠ ['\r']) :
    lineEnd? (a ++ b) = (lineEnd? a).map fun (lineEnd, rest) => (lineEnd, rest ++ b) := by
  obtain ⟨c, rest, rfl⟩ := List.exists_cons_of_ne_nil some
  by_cases line : c = '\n'
  · subst line
    rfl
  by_cases feed : c = '\r'
  · subst feed
    have more : rest ≠ [] := fun none => carriage (by rw [none])
    obtain ⟨d, rest, rfl⟩ := List.exists_cons_of_ne_nil more
    by_cases line : d = '\n'
    · subst line
      rfl
    · rw [List.cons_append, List.cons_append, lineEnd?, lineEnd?]
      all_goals simp_all
  · rw [List.cons_append, lineEnd?, lineEnd?]
    all_goals simp_all

theorem Border.of_split {c : Char} (h : Border (c :: a) d) : Border (Lexeme.split c a).2 d := by
  have suffix : (Lexeme.split c a).2 <:+ c :: a := ⟨_, Lexeme.split_append c a⟩
  refine ⟨h.apart, fun joined => h.unjoined (joined.of_suffix suffix), h.ended.imp_right ?_⟩
  intro last l mem
  refine last l ?_
  rw [lexemes, List.getLast?_cons, Option.mem_def.mp mem]
  rfl

theorem Border.ended_split {c : Char} (h : Border (c :: a) d) :
    d = '\n' ∨ ((Lexeme.split c a).2 = [] → ¬ (Lexeme.split c a).1.RunsOn) := by
  refine h.ended.imp_right fun last none => last _ ?_
  rw [lexemes, none, lexemes]
  rfl

/-- The first piece does not reach over the border. -/
theorem split_border {c : Char} (h : Border (c :: a) d) :
    Lexeme.split c (a ++ d :: b) = ((Lexeme.split c a).1, (Lexeme.split c a).2 ++ d :: b) := by
  have digit : startsWithDigit (a ++ d :: b) = startsWithDigit a := by
    cases a with
    | nil => exact isDigit_apart h.apart
    | cons => rfl
  -- Where the piece would run up to the border, the border stops it.
  have ended := h.ended_split
  have unjoined := h.unjoined
  unfold Lexeme.split at ended ⊢
  rw [digit, splitDigits_border b a h.apart, takeWhile_border b fun _ => h.apart,
    dropWhile_border b fun _ => h.apart]
  by_cases blank : isBlankInLine c = true
  · simp only [if_pos blank]
  by_cases separator : isSeparator c = true
  · simp only [if_neg blank, if_pos separator]
  simp only [if_neg blank, if_neg separator] at ended ⊢
  by_cases comment : c = '#'
  · simp only [if_pos comment] at ended ⊢
    have line : a.dropWhile (· ≠ '\n') = [] → decide (d ≠ '\n') = false := by
      intro none
      rcases ended with rfl | other
      · rfl
      · exact absurd trivial (other none)
    rw [takeWhile_border b line, dropWhile_border b line]
  simp only [if_neg comment] at ended ⊢
  by_cases backslash : c = '\\'
  · subst backslash
    have some : a ≠ [] := by
      rintro rfl
      exact unjoined (.inl List.suffix_rfl)
    have carriage : a ≠ ['\r'] := by
      rintro rfl
      exact unjoined (.inr List.suffix_rfl)
    simp only [if_pos, lineEnd?_border (d :: b) some carriage]
    cases lineEnd? a <;> rfl
  simp only [if_neg backslash] at ended ⊢
  by_cases opening : c = '('
  · simp only [if_pos opening]
  by_cases closing : c = ')'
  · simp only [if_neg opening, if_pos closing]
  simp only [if_neg opening, if_neg closing] at ended ⊢
  by_cases quote : c = '"'
  · simp only [if_pos quote] at ended ⊢
    rw [splitString_border b a]
    · exact fun suffix => unjoined (.inl (suffix.trans (List.suffix_cons c a)))
    · exact ended.imp_right fun closed none => Decidable.not_not.mp (closed none)
  simp only [if_neg quote]
  split
  · rfl
  split <;> rfl

end

/-- The pieces of a text stay as they are when more text follows behind a border. -/
theorem lexemes_border {a : List Char} {d : Char} (b : List Char) (h : Border a d) :
    lexemes (a ++ d :: b) = lexemes a ++ lexemes (d :: b) := by
  fun_induction lexemes a with
  | case1 => rfl
  | case2 c rest ih =>
    rw [List.cons_append, lexemes, split_border b h, ih h.of_split, List.cons_append]

/-! ## Tokens and errors -/

def LexicalError.moved (e : LexicalError) (k : Shift) : LexicalError :=
  { e with span := e.span.moved k }

/-- What a text is read as: its tokens, or all of its errors. -/
abbrev Lexed := Except (List LexicalError) (List Token)

def Lexed.errors : Lexed → List LexicalError
  | .ok _ => []
  | .error errors => errors

/-- Two texts, the second one further down: their tokens with some more in between, or else the
errors of both. -/
def Lexed.above (first : Lexed) (between : List Token) (k : Shift) (second : Lexed) : Lexed :=
  match first, second with
  | .ok before, .ok after => .ok (before ++ between ++ after.map (·.moved k))
  | _, _ => .error (first.errors ++ second.errors.map (·.moved k))

/-- The tokens of some pieces that start at `p`. -/
def tokensFrom (p : Position) (pieces : List Lexeme) : List Token :=
  (located p pieces).filterMap fun (p, l) => l.token? p

/-- The errors of some pieces that start at `p`. -/
def errorsFrom (p : Position) (pieces : List Lexeme) : List LexicalError :=
  (located p pieces).flatMap fun (p, l) => l.errors p

theorem tokensFrom_cons (p : Position) (l : Lexeme) (rest : List Lexeme) :
    tokensFrom p (l :: rest) = (l.token? p).toList ++ tokensFrom (p.afterAll l.text) rest := by
  rw [tokensFrom, located, List.filterMap_cons]
  dsimp only
  cases l.token? p <;> rfl

theorem errorsFrom_cons (p : Position) (l : Lexeme) (rest : List Lexeme) :
    errorsFrom p (l :: rest) = l.errors p ++ errorsFrom (p.afterAll l.text) rest := rfl

theorem tokensFrom_append (p : Position) (a b : List Lexeme) :
    tokensFrom p (a ++ b) =
      tokensFrom p a ++ tokensFrom (p.afterAll (a.flatMap Lexeme.text)) b := by
  induction a generalizing p with
  | nil => rfl
  | cons l rest ih =>
    rw [List.cons_append, tokensFrom_cons, tokensFrom_cons, ih, List.append_assoc,
      List.flatMap_cons, Position.afterAll_append]

theorem errorsFrom_append (p : Position) (a b : List Lexeme) :
    errorsFrom p (a ++ b) =
      errorsFrom p a ++ errorsFrom (p.afterAll (a.flatMap Lexeme.text)) b := by
  induction a generalizing p with
  | nil => rfl
  | cons l rest ih =>
    rw [List.cons_append, errorsFrom_cons, errorsFrom_cons, ih, List.append_assoc,
      List.flatMap_cons, Position.afterAll_append]

theorem token?_moved (p : Position) (k : Shift) (l : Lexeme) :
    l.token? (p.moved k) = (l.token? p).map (·.moved k) := by
  cases l with
  | string parts ending =>
    cases ending with
    | closed => simp only [Lexeme.token?, Span.ofText_moved]; rfl
    | cut | cutAfterBackslash => rfl
  | blank | comment | join | stray => rfl
  | separator | openParen | closeParen | number | word =>
    simp only [Lexeme.token?, Span.ofText_moved]
    rfl

theorem escapeErrors_moved (p : Position) (k : Shift) (parts : List StringPart) :
    escapeErrors (p.moved k) parts = (escapeErrors p parts).map (·.moved k) := by
  induction parts generalizing p with
  | nil => rfl
  | cons part rest ih =>
    cases part with
    | plain c => rw [escapeErrors, escapeErrors, Position.after_moved, ih]
    | escaped c =>
      simp only [escapeErrors, Position.after_moved, ih]
      split <;> rfl

theorem errors_moved (p : Position) (k : Shift) (l : Lexeme) :
    l.errors (p.moved k) = (l.errors p).map (·.moved k) := by
  cases l with
  | number literal =>
    simp only [Lexeme.errors, Span.ofText_moved]
    split <;> rfl
  | string parts ending =>
    simp only [Lexeme.errors, Position.after_moved, escapeErrors_moved, List.map_append]
    split <;> rfl
  | _ => rfl

theorem tokensFrom_moved (p : Position) (k : Shift) (pieces : List Lexeme) :
    tokensFrom (p.moved k) pieces = (tokensFrom p pieces).map (·.moved k) := by
  induction pieces generalizing p with
  | nil => rfl
  | cons l rest ih =>
    rw [tokensFrom_cons, tokensFrom_cons, token?_moved, Position.afterAll_moved, ih,
      List.map_append]
    cases l.token? p <;> rfl

theorem errorsFrom_moved (p : Position) (k : Shift) (pieces : List Lexeme) :
    errorsFrom (p.moved k) pieces = (errorsFrom p pieces).map (·.moved k) := by
  induction pieces generalizing p with
  | nil => rfl
  | cons l rest ih =>
    rw [errorsFrom_cons, errorsFrom_cons, errors_moved, Position.afterAll_moved, ih,
      List.map_append]

/-- What some pieces that start at `p` are read as. -/
def lexedFrom (p : Position) (pieces : List Lexeme) : Lexed :=
  match errorsFrom p pieces with
  | [] => .ok (tokensFrom p pieces)
  | errors => .error errors

theorem tokenize_eq (text : String) : tokenize text = lexedFrom .first (lexemes text.toList) := rfl

theorem tokenize_eq_ok {text : String} {tokens : List Token} :
    tokenize text = .ok tokens ↔ errorsFrom .first (lexemes text.toList) = [] ∧
      tokens = tokensFrom .first (lexemes text.toList) := by
  rw [tokenize_eq, lexedFrom]
  cases errorsFrom .first (lexemes text.toList) with
  | nil => simp [eq_comm]
  | cons => simp

/-- A piece between two runs of pieces that is right by itself: what follows is read as if it were
further down. -/
theorem lexedFrom_above (p : Position) (k : Shift) (a b : List Lexeme) (l : Lexeme)
    (right : ∀ p, l.errors p = [])
    (start : (p.afterAll (a.flatMap Lexeme.text)).afterAll l.text = p.moved k) :
    lexedFrom p (a ++ l :: b) = Lexed.above (lexedFrom p a)
      (l.token? (p.afterAll (a.flatMap Lexeme.text))).toList k (lexedFrom p b) := by
  have errors : errorsFrom p (a ++ l :: b) =
      errorsFrom p a ++ (errorsFrom p b).map (·.moved k) := by
    rw [errorsFrom_append, errorsFrom_cons, right, start, errorsFrom_moved, List.nil_append]
  have tokens : tokensFrom p (a ++ l :: b) = tokensFrom p a ++
      (l.token? (p.afterAll (a.flatMap Lexeme.text))).toList ++
      (tokensFrom p b).map (·.moved k) := by
    rw [tokensFrom_append, tokensFrom_cons, start, tokensFrom_moved, List.append_assoc]
  unfold lexedFrom
  rw [errors, tokens]
  cases errorsFrom p a <;> cases errorsFrom p b <;> simp [Lexed.above, Lexed.errors]

/-! ## Lines -/

/-- A text whose last line ends inside a comment. -/
def EndsInComment (text : List Char) : Prop :=
  ∃ body, (lexemes text).getLast? = some (.comment body)

theorem border_line {text : List Char} (unjoined : ¬ EndsInBackslash text) : Border text '\n' :=
  ⟨by decide +kernel, unjoined, .inl rfl⟩

/-- A text that is right and does not end inside a comment leaves nothing open. -/
theorem border_join {text : List Char} (unjoined : ¬ EndsInBackslash text)
    (comment : ¬ EndsInComment text) {p : Position} (right : errorsFrom p (lexemes text) = []) :
    Border text '\\' := by
  refine ⟨by decide +kernel, unjoined, .inr fun l last runsOn => ?_⟩
  cases l with
  | comment body => exact comment ⟨body, last⟩
  | string parts ending =>
    obtain ⟨before, pieces⟩ := List.getLast?_eq_some_iff.mp last
    rw [pieces, errorsFrom_append, List.append_eq_nil_iff] at right
    simp only [errorsFrom_cons, Lexeme.errors, List.append_eq_nil_iff] at right
    have open' : ending ≠ .closed := runsOn
    simp [open'] at right
  | _ => exact runsOn

/-- A line break that is a piece, perhaps with a backslash, between a text above and one below. -/
theorem tokenize_above {text a b : String} {l : Lexeme}
    (pieces : lexemes text.toList = lexemes a.toList ++ l :: lexemes b.toList)
    (right : ∀ p, l.errors p = []) (breaks : l.text.getLast? = some '\n') :
    tokenize text = Lexed.above (tokenize a) (l.token? (Position.first.afterAll a.toList)).toList
      (.behind (a.toList ++ l.text)) (tokenize b) := by
  obtain ⟨start, ends⟩ := List.getLast?_eq_some_iff.mp breaks
  have below : Position.first.afterAll (a.toList ++ l.text) =
      Position.first.moved (.behind (a.toList ++ l.text)) := by
    rw [ends, ← List.append_assoc]
    exact Position.afterAll_line _
  rw [tokenize_eq, pieces, lexedFrom_above _ (.behind (a.toList ++ l.text)) _ _ _ right,
    text_lexemes]
  · rfl
  · rw [text_lexemes, ← Position.afterAll_append, below]

theorem tokenize_line {a : String} (unjoined : ¬ EndsInBackslash a.toList) (b : String) :
    tokenize (a ++ "\n" ++ b) =
      Lexed.above (tokenize a) [⟨.separator, .point (Position.first.afterAll a.toList)⟩]
        (.behind (a.toList ++ ['\n'])) (tokenize b) := by
  have chars : (a ++ "\n" ++ b).toList = a.toList ++ '\n' :: b.toList := by simp
  have pieces : lexemes (a ++ "\n" ++ b).toList =
      lexemes a.toList ++ .separator '\n' :: lexemes b.toList := by
    rw [chars, lexemes_border _ (border_line unjoined), lexemes]
    rfl
  exact tokenize_above pieces (fun _ => rfl) rfl

/-- Every line is read by itself, whatever is wrong, quoted or commented on the lines around it. -/
theorem lines_read_apart (a b : String) (unjoined : ¬ EndsInBackslash a.toList) :
    tokenize (a ++ "\n" ++ b) =
      Lexed.above (tokenize a) [⟨.separator, .point (Position.first.afterAll a.toList)⟩]
        (.behind (a.toList ++ ['\n'])) (tokenize b) ∧
    ∀ tokens, tokenize a = .ok tokens → ¬ EndsInComment a.toList →
      tokenize (a ++ "\\\n" ++ b) =
        Lexed.above (.ok tokens) [] (.behind (a.toList ++ ['\\', '\n'])) (tokenize b) := by
  refine ⟨tokenize_line unjoined b, fun tokens ok comment => ?_⟩
  obtain ⟨right, -⟩ := tokenize_eq_ok.mp ok
  have chars : (a ++ "\\\n" ++ b).toList = a.toList ++ '\\' :: '\n' :: b.toList := by simp
  have pieces : lexemes (a ++ "\\\n" ++ b).toList =
      lexemes a.toList ++ .join ['\n'] :: lexemes b.toList := by
    rw [chars, lexemes_border _ (border_join unjoined comment right), lexemes]
    rfl
  rw [← ok]
  exact tokenize_above pieces (fun _ => rfl) rfl

/-- A string that holds a `#` above an open string with an unknown escape. -/
theorem open_string_read_apart :
    ¬ EndsInBackslash "log \"#\"\r".toList ∧ ¬ EndsInComment "log \"#\"\r".toList ∧
    tokenize "log \"#\"\r" =
      .ok [⟨.word "log", ⟨⟨1, 1, 0⟩, ⟨1, 3, 3⟩⟩⟩, ⟨.str "#", ⟨⟨1, 5, 4⟩, ⟨1, 7, 7⟩⟩⟩] ∧
    tokenize ("log \"#\"\r" ++ "\n" ++ "\"\\q") =
      Lexed.above (tokenize "log \"#\"\r") [⟨.separator, .point ⟨1, 9, 8⟩⟩] ⟨1, 9⟩
        (tokenize "\"\\q") ∧
    tokenize ("log \"#\"\r" ++ "\\\n" ++ "\"\\q") =
      .error
        [⟨.invalidEscape 'q', .point ⟨2, 3, 12⟩⟩, ⟨.unterminatedString, .point ⟨2, 1, 10⟩⟩] := by
  have unjoined : ¬ EndsInBackslash "log \"#\"\r".toList := by decide
  have tokens : tokenize "log \"#\"\r" =
      .ok [⟨.word "log", ⟨⟨1, 1, 0⟩, ⟨1, 3, 3⟩⟩⟩, ⟨.str "#", ⟨⟨1, 5, 4⟩, ⟨1, 7, 7⟩⟩⟩] :=
    tokenize_eq_ok.mpr (by decide +kernel)
  have comment : ¬ EndsInComment "log \"#\"\r".toList := by
    have last : (lexemes "log \"#\"\r".toList).getLast? = some (.blank '\r') := by decide +kernel
    rintro ⟨body, ends⟩
    rw [last] at ends
    cases ends
  obtain ⟨broken, joined⟩ := lines_read_apart "log \"#\"\r" "\"\\q" unjoined
  have errors : errorsFrom .first (lexemes "\"\\q".toList) =
      [⟨.invalidEscape 'q', .point ⟨1, 3, 2⟩⟩, ⟨.unterminatedString, .point ⟨1, 1, 0⟩⟩] := by
    decide +kernel
  refine ⟨unjoined, comment, tokens, broken, (joined _ tokens comment).trans ?_⟩
  rw [tokenize_eq "\"\\q", lexedFrom, errors]
  rfl

end ScriptSession.Script
