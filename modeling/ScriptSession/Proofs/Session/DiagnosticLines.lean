import Mathlib.Control.Monad.Basic
import ScriptSession.Proofs.Script.LineEnds
import ScriptSession.Proofs.Session.Assembly
import ScriptSession.Session.Batch

/-!
# Diagnostics line by line

Diagnostics are written one below the other, and whoever reads them goes by the lines
(`ConsistsOf`). For that each has to be rendered as one line (`consistsOf_writtenLines`):

* a JSON string has its line breaks escaped, so that an object is one line whatever it says;
* a line for people shows the message as it is, and breaks where the message does;
* what is wrong with a text is told without line breaks, because no character that a message quotes
  is one (`statements_error_unbroken`).

A script may fail with any message, also with one of several lines. So the diagnostics of a check are
always read back line by line, and those of an evaluation if they are written as JSON or no message
has a line break (`diagnostics_line_by_line`).
-/
namespace ScriptSession

/-! ## Lines -/

/-- Cut at its line breaks the text gives these lines, and nothing is left behind the last break. -/
def ConsistsOf (text : String) (lines : List String) : Prop :=
  text.toList.splitOn '\n' = lines.map String.toList ++ [[]]

instance (text : String) (lines : List String) : Decidable (ConsistsOf text lines) :=
  inferInstanceAs (Decidable (_ = _))

theorem splitOn_writtenLines (lines : List String) :
    (writtenLines lines).toList.splitOn '\n' =
      lines.flatMap (fun line => line.toList.splitOn '\n') ++ [[]] := by
  induction lines with
  | nil => rfl
  | cons line rest ih =>
    have first : (writtenLines (line :: rest)).toList =
        line.toList ++ '\n' :: (writtenLines rest).toList := by
      simp [writtenLines, String.toList_join]
    rw [first, List.splitOn_append_cons_self, ih, List.flatMap_cons, List.append_assoc]

/-- No piece has a line break in it. -/
theorem unbroken_of_mem_splitOn {text piece : List Char} (mem : piece ∈ text.splitOn '\n') :
    '\n' ∉ piece := by
  induction text generalizing piece with
  | nil =>
    rw [List.splitOn_nil, List.mem_singleton] at mem
    rw [mem]
    exact List.not_mem_nil
  | cons c rest ih =>
    rw [List.splitOn_cons_eq_if_modifyHead] at mem
    obtain ⟨first, others, pieces⟩ := List.exists_cons_of_ne_nil (List.splitOn_ne_nil '\n' rest)
    rw [pieces] at mem ih
    split at mem
    · rcases List.mem_cons.mp mem with rfl | later
      · exact List.not_mem_nil
      · exact ih later
    · rename_i other
      rcases List.mem_cons.mp mem with rfl | later
      · intro inside
        rcases List.mem_cons.mp inside with same | inside
        · exact other (beq_iff_eq.mpr same.symm)
        · exact ih List.mem_cons_self inside
      · exact ih (List.mem_cons_of_mem first later)

/-- Lines are read as they were written if each of them is one line. -/
theorem consistsOf_writtenLines {lines : List String} :
    ConsistsOf (writtenLines lines) lines ↔ ∀ line ∈ lines, '\n' ∉ line.toList := by
  unfold ConsistsOf
  constructor
  · intro same line mem
    have piece : line.toList ∈ (writtenLines lines).toList.splitOn '\n' := by
      rw [same]
      exact List.mem_append_left _ (List.mem_map_of_mem mem)
    exact unbroken_of_mem_splitOn piece
  · intro unbroken
    rw [splitOn_writtenLines]
    congr 1
    induction lines with
    | nil => rfl
    | cons line rest ih =>
      obtain ⟨first, later⟩ := List.forall_mem_cons.mp unbroken
      rw [List.flatMap_cons, ih later, List.splitOn_eq_singleton first]
      rfl

/-! ## Renderings -/

theorem number_unbroken (n : Nat) : '\n' ∉ (toString n).toList := by
  intro mem
  rw [Nat.toString_eq_repr, Nat.toList_repr] at mem
  exact absurd (Nat.isDigit_of_mem_toDigits (by decide) (by decide) mem) (by decide)

theorem Position.text_unbroken (p : Position) : '\n' ∉ p.text.toList := by
  have line := number_unbroken p.line
  have column := number_unbroken p.column
  change '\n' ∉ (toString p.line ++ ":" ++ toString p.column).toList
  simp only [String.toList_append, List.mem_append]
  rintro ((mem | mem) | mem)
  · exact line mem
  · exact absurd mem (by decide)
  · exact column mem

theorem Span.text_unbroken (s : Span) : '\n' ∉ s.text.toList := by
  have start := s.start.text_unbroken
  have stop := s.stop.text_unbroken
  unfold text
  split
  · exact start
  · change '\n' ∉ (s.start.text ++ ":" ++ s.stop.text).toList
    simp only [String.toList_append, List.mem_append]
    rintro ((mem | mem) | mem)
    · exact start mem
    · exact absurd mem (by decide)
    · exact stop mem

namespace Diagnostic

/-- A line for people breaks where its source or its message does. -/
theorem lineBreak_mem_line (colors : Bool) (source : String) (d : Diagnostic) :
    '\n' ∈ (d.line colors source).toList ↔ '\n' ∈ source.toList ∨ '\n' ∈ d.message.toList := by
  have colon : '\n' ∉ ":".toList := by decide
  have blank : '\n' ∉ ": ".toList := by decide
  have kind : '\n' ∉ (if colors then coloredKind d.severity else d.severity.name).toList := by
    cases colors <;> cases d.severity <;> decide
  have place (range : Span) := range.text_unbroken
  unfold line
  cases d.range with
  | none =>
    change '\n' ∈ (source ++ ": " ++ (if colors then coloredKind d.severity else d.severity.name) ++
      ": " ++ d.message).toList ↔ _
    simp only [String.toList_append, List.mem_append, blank, kind, or_false]
  | some range =>
    change '\n' ∈ (source ++ ":" ++ range.text ++ ": " ++
      (if colors then coloredKind d.severity else d.severity.name) ++ ": " ++ d.message).toList ↔ _
    simp only [String.toList_append, List.mem_append, colon, blank, kind, place, or_false]

theorem hexDigit_ne_lineBreak {n : Nat} (small : n < 16) : hexDigit n ≠ '\n' := by
  rw [hexDigit, Nat.toDigits_of_lt_base small]
  decide +revert

theorem jsonChar_unbroken (c : Char) : '\n' ∉ jsonChar c := by
  unfold jsonChar
  split
  case h_8 _ _ _ _ _ other _ _ =>
    split
    · rename_i control
      have high := hexDigit_ne_lineBreak (n := c.toNat / 16) (by omega)
      have low := hexDigit_ne_lineBreak (n := c.toNat % 16) (by omega)
      simp [high.symm, low.symm]
    · exact fun mem => other (List.mem_singleton.mp mem).symm
  all_goals decide

theorem jsonString_unbroken (text : String) : '\n' ∉ (jsonString text).toList := by
  simp [jsonString, jsonChar_unbroken]

/-- Characters of an object come from its keys, which are quoted, its values and its punctuation. -/
theorem jsonObject_unbroken {fields : List (String × String)}
    (values : ∀ field ∈ fields, '\n' ∉ field.2.toList) : '\n' ∉ (jsonObject fields).toList := by
  have members : ∀ field ∈ fields,
      '\n' ∉ (jsonString field.1 ++ ":" ++ field.2).toList := by
    intro field mem
    simp only [String.toList_append, List.mem_append]
    rintro ((key | colon) | value)
    · exact jsonString_unbroken field.1 key
    · exact absurd colon (by decide)
    · exact values field mem value
  have between : '\n' ∉ (",".intercalate
      (fields.map fun field => jsonString field.1 ++ ":" ++ field.2)).toList := by
    intro mem
    rcases mem_intercalate mem with comma | ⟨member, there, mem⟩
    · exact absurd comma (by decide)
    · obtain ⟨field, known, rfl⟩ := List.mem_map.mp there
      exact members field known mem
  unfold jsonObject
  simp only [String.toList_append, List.mem_append]
  rintro ((opening | inside) | closing)
  · exact absurd opening (by decide)
  · exact between inside
  · exact absurd closing (by decide)

theorem jsonPosition_unbroken (p : Position) : '\n' ∉ (jsonPosition p).toList := by
  apply jsonObject_unbroken
  rw [List.forall_mem_cons, List.forall_mem_singleton]
  exact ⟨number_unbroken p.line, number_unbroken p.column⟩

theorem jsonRange_unbroken (range : Option Span) : '\n' ∉ (jsonRange range).toList := by
  cases range with
  | none => decide
  | some range =>
    apply jsonObject_unbroken
    simp [jsonPosition_unbroken]

/-- An object is one line, whatever the source and the message are. -/
theorem jsonLine_unbroken (source : String) (d : Diagnostic) :
    '\n' ∉ (d.jsonLine source).toList := by
  have severity : '\n' ∉ (jsonString d.severity.name).toList := jsonString_unbroken _
  apply jsonObject_unbroken
  simp [jsonString_unbroken, jsonRange_unbroken]

end Diagnostic

/-- A diagnostic as it is written. -/
def DiagnosticFormat.rendered (format : DiagnosticFormat) (colors : Bool) (source : String)
    (d : Diagnostic) : String :=
  match format with
  | .text => d.line colors source
  | .json => d.jsonLine source

theorem DiagnosticFormat.lines_eq (format : DiagnosticFormat) (colors : Bool) (source : String)
    (entries : List Diagnostic) :
    format.lines colors source entries = entries.map (format.rendered colors source) := by
  cases format <;> rfl

def BatchOptions.rendered (o : BatchOptions) (d : Diagnostic) : String :=
  o.format.rendered o.colors o.source d

theorem BatchOptions.lineBreak_mem_rendered {o : BatchOptions} (source : '\n' ∉ o.source.toList)
    (d : Diagnostic) :
    '\n' ∈ (o.rendered d).toList ↔ o.format = .text ∧ '\n' ∈ d.message.toList := by
  unfold rendered
  cases o.format with
  | text =>
    have shown := d.lineBreak_mem_line o.colors o.source
    simp only [DiagnosticFormat.rendered, shown, source, false_or, true_and]
  | json =>
    have object := d.jsonLine_unbroken o.source
    simp [DiagnosticFormat.rendered, object]

/-- Diagnostics are read as they were written if they are JSON or no message has a line break. -/
theorem BatchOptions.consistsOf_diagnosticLines {o : BatchOptions}
    (source : '\n' ∉ o.source.toList) (entries : List Diagnostic) :
    ConsistsOf (o.diagnosticLines entries) (entries.map o.rendered) ↔
      o.format = .json ∨ ∀ entry ∈ entries, '\n' ∉ entry.message.toList := by
  have written : o.diagnosticLines entries = writtenLines (entries.map o.rendered) :=
    congrArg writtenLines (DiagnosticFormat.lines_eq ..)
  rw [written, consistsOf_writtenLines, List.forall_mem_map]
  simp only [lineBreak_mem_rendered source]
  cases o.format with
  | text => simp
  | json => simp

/-! ## What is wrong with a text -/

namespace Script

/-- Of the characters that are quoted in messages none is a line break. -/
def Lexeme.Unbroken : Lexeme → Prop
  | .stray c => c ≠ '\n'
  | .number literal => '\n' ∉ literal
  | _ => True

theorem splitDigits_unbroken (text : List Char) : '\n' ∉ (splitDigits text).1 := by
  induction text with
  | nil => exact List.not_mem_nil
  | cons c rest ih =>
    rw [splitDigits_eq]
    split
    · rename_i digit
      intro mem
      rcases List.mem_cons.mp mem with rfl | later
      · simp at digit
      · exact ih later
    · exact List.not_mem_nil

theorem Lexeme.split_unbroken (c : Char) (rest : List Char) : (split c rest).1.Unbroken := by
  unfold split
  by_cases blank : isBlankInLine c = true
  · rw [if_pos blank]
    trivial
  by_cases separator : isSeparator c = true
  · rw [if_neg blank, if_pos separator]
    trivial
  have line : c ≠ '\n' := by
    rintro rfl
    exact separator rfl
  rw [if_neg blank, if_neg separator]
  split
  · trivial
  split
  · split
    · trivial
    · exact line
  split
  · trivial
  split
  · trivial
  split
  · trivial
  split
  · intro mem
    rcases List.mem_cons.mp mem with same | later
    · exact line same.symm
    · exact splitDigits_unbroken rest later
  split
  · trivial
  · exact line

theorem unbroken_of_mem_lexemes {text : List Char} {l : Lexeme} (mem : l ∈ lexemes text) :
    l.Unbroken := by
  fun_induction lexemes text with
  | case1 => cases mem
  | case2 c rest ih =>
    rcases List.mem_cons.mp mem with rfl | later
    · exact Lexeme.split_unbroken c rest
    · exact ih later

/-- A message breaks where what it quotes does. -/
theorem LexicalCause.lineBreak_mem_message (cause : LexicalCause) :
    '\n' ∈ cause.message.toList ↔
      cause = .unexpectedCharacter '\n' ∨ cause = .invalidEscape '\n' ∨
        ∃ literal, cause = .numberOutOfRange literal ∧ '\n' ∈ literal.toList := by
  have shows {before after quoted : String} (first : '\n' ∉ before.toList)
      (last : '\n' ∉ after.toList) :
      '\n' ∈ (before ++ quoted ++ after).toList ↔ '\n' ∈ quoted.toList := by
    simp only [String.toList_append, List.mem_append, first, last, false_or, or_false]
  cases cause with
  | unexpectedCharacter c =>
    change '\n' ∈ ("unexpected character '" ++ String.singleton c ++ "'").toList ↔ _
    rw [shows (by decide) (by decide)]
    simp [eq_comm]
  | unterminatedString =>
    constructor
    · intro mem
      exact absurd mem (by decide)
    · rintro (wrong | wrong | ⟨_, wrong, _⟩) <;> cases wrong
  | invalidEscape c =>
    change '\n' ∈ ("invalid escape sequence '\\" ++ String.singleton c ++ "'").toList ↔ _
    rw [shows (by decide) (by decide)]
    simp [eq_comm]
  | numberOutOfRange literal =>
    change '\n' ∈ ("integer literal '" ++ literal ++ "' out of range").toList ↔ _
    rw [shows (by decide) (by decide)]
    simp

/-- A line break has a meaning behind a backslash, and is quoted nowhere else. -/
theorem Lexeme.Unbroken.message {l : Lexeme} (h : l.Unbroken) {cause : LexicalCause}
    (mem : cause ∈ l.causes) : '\n' ∉ cause.message.toList := by
  rw [LexicalCause.lineBreak_mem_message]
  rintro (rfl | rfl | ⟨literal, rfl, quoted⟩)
  · cases Lexeme.mem_causes.mp mem
    exact h rfl
  · cases Lexeme.mem_causes.mp mem with
    | escape part unknown => cases unknown
  · cases Lexeme.mem_causes.mp mem
    rw [String.toList_ofList, numberDigits] at quoted
    exact h (List.mem_filter.mp quoted).1

theorem GroupingCause.message_unbroken (cause : GroupingCause) :
    '\n' ∉ cause.message.toList := by
  cases cause <;> decide

/-- What is wrong with a text is told without line breaks. -/
theorem statements_error_unbroken {text : String} {entries : List Diagnostic}
    (wrong : statements text = .error entries) :
    ∀ entry ∈ entries, '\n' ∉ entry.message.toList := by
  unfold statements at wrong
  split at wrong
  · rename_i errors lexical
    cases wrong
    rw [List.forall_mem_map]
    intro e mem
    have cause : e.cause ∈ causes (lexemes text.toList) := by
      have refused : unplaced text = .error (errors.map (·.cause)) := by rw [unplaced, lexical]
      rw [(unplaced_eq_error.mp refused).1]
      exact List.mem_map_of_mem mem
    obtain ⟨l, there, mem⟩ := List.mem_flatMap.mp cause
    exact (unbroken_of_mem_lexemes there).message mem
  · split at wrong
    · cases wrong
      rw [List.forall_mem_map]
      exact fun e _ => e.cause.message_unbroken
    · cases wrong

end Script

/-! ## Runs and checks -/

namespace Session

open Script (language)

/-- A batch run that gives a status has written what its evaluation reports. -/
theorem stderr_runBatch {B : Backend} {s : Session B} {o : BatchOptions}
    {answers : Option (List UInt8)} {text : String} {status : Nat}
    (ends : (s.runBatch o answers text).code = .ok status) :
    ∃ e : Evaluation,
      (s.evaluate Batch.policy { answers := answers } (some {}) text).result = some (.ok e) ∧
      status = e.exitCode ∧ (s.runBatch o answers text).stderr = o.diagnosticLines e.logs := by
  unfold runBatch at *
  generalize s.evaluate Batch.policy { answers := answers } (some {}) text = done at *
  dsimp only at *
  cases fault : done.policyState.fault with
  | some fault =>
    rw [fault] at ends
    cases ends
  | none =>
    cases gives : done.result with
    | none =>
      rw [fault, gives] at ends
      cases ends
    | some result =>
      cases result with
      | error error =>
        rw [fault, gives] at ends
        cases ends
      | ok e =>
        rw [fault, gives] at ends
        cases ends
        exact ⟨e, rfl, rfl, rfl⟩

/-- As long as the source's name is one line, diagnostics that are written below each other are read
back as one line each, in order, if they are JSON or no message has a line break, and only then. For a
check none has; for a run it depends on what its script fails with. -/
theorem diagnostics_line_by_line (default : String) (s : Session (language default))
    (o : BatchOptions) (source : '\n' ∉ o.source.toList) :
    (∀ entries, ConsistsOf (o.diagnosticLines entries) (entries.map o.rendered) ↔
      o.format = .json ∨ ∀ entry ∈ entries, '\n' ∉ entry.message.toList) ∧
    (∀ text, ConsistsOf (s.checkBatch o text).2 ((s.check text).map o.rendered)) ∧
    (∀ answers text status, (s.runBatch o answers text).code = .ok status → ∃ e : Evaluation,
      (s.evaluate Batch.policy { answers := answers } (some {}) text).result = some (.ok e) ∧
      status = e.exitCode ∧
      (ConsistsOf (s.runBatch o answers text).stderr (e.logs.map o.rendered) ↔
        o.format = .json ∨ ∀ entry ∈ e.logs, '\n' ∉ entry.message.toList)) := by
  have written := BatchOptions.consistsOf_diagnosticLines source
  refine ⟨written, ?_, ?_⟩
  · intro text
    apply (written (s.check text)).mpr
    right
    intro entry mem
    unfold check at mem
    split at mem
    · cases mem
    · rename_i entries wrong
      exact Script.statements_error_unbroken wrong entry mem
  · intro answers text status ends
    obtain ⟨e, result, code, stderr⟩ := stderr_runBatch ends
    rw [stderr]
    exact ⟨e, result, code, written e.logs⟩

/-- Three errors of one text, one of which quotes a carriage return. -/
theorem three_errors_on_three_lines :
    let s : Session (language "> ") := {}
    let o : BatchOptions := { source := "a\rb", colors := true }
    '\n' ∉ o.source.toList ∧
    (s.check "$ \"\\\r").map (·.message) =
      ["unexpected character '$'", "invalid escape sequence '\\\r'", "unterminated string"] ∧
    ConsistsOf (s.checkBatch o "$ \"\\\r").2 ((s.check "$ \"\\\r").map o.rendered) := by
  intro s o
  have source : '\n' ∉ o.source.toList := by decide
  obtain ⟨-, checked, -⟩ := diagnostics_line_by_line "> " s o source
  exact ⟨source, by decide +kernel, checked _⟩

/-- One failure is read as two lines, the second of which says nothing of where it comes from. -/
theorem failure_read_as_two_lines :
    let s : Session (language "> ") := {}
    let entry := Diagnostic.error "a\nb" (some ⟨⟨1, 1, 0⟩, ⟨1, 11, 11⟩⟩)
    (s.evaluate Batch.policy { answers := none } (some {}) "fail \"a\\nb\"").result =
      some (.ok { logs := [entry] }) ∧
    (s.runBatch {} none "fail \"a\\nb\"").code = .ok 1 ∧
    ¬ ConsistsOf (s.runBatch {} none "fail \"a\\nb\"").stderr [BatchOptions.rendered {} entry] ∧
    ConsistsOf (s.runBatch {} none "fail \"a\\nb\"").stderr ["<script>:1:1:1:11: error: a", "b"] := by
  intro s entry
  exact ⟨by decide +kernel, by decide +kernel, by decide +kernel, by decide +kernel⟩

end Session

end ScriptSession
