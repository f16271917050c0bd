import ScriptSession.Proofs.Script.Borders
import ScriptSession.Proofs.Script.Parentheses
import ScriptSession.Script.Reduce

/-!
# Texts one below the other

A line break stays between the tokens of the lines above and below it (`tokenize_line`). A text that
parses leaves no group open, so the break behind it ends its last statement (`parse_line`). Hence
the statements of texts one below the other are the statements of each, moved down
(`statements_joined`).
-/
namespace ScriptSession.Script

/-! ## Statements -/

/-- Reading so far without an error and without an open group. -/
structure Reading.Clear (r : Reading) : Prop where
  nesting : r.nesting = .groups []
  errors : r.errors = []

theorem Reading.Clear.faults {r : Reading} (h : r.Clear) : r.faults = [] := by
  rw [Reading.faults, h.nesting, h.errors]
  rfl

theorem parse_eq_ok {tokens : List Token} {statements : List Statement} :
    parse tokens = .ok statements ↔ (tokens.foldl Reading.read {}).Clear ∧
      statements = (tokens.foldl Reading.read {}).endStatement.statements.reverse := by
  have faults : (tokens.foldl Reading.read {}).faults = scan [] tokens :=
    Reading.faults_foldl (r := {}) rfl tokens
  rw [parse_eq]
  constructor
  · intro ok
    split at ok
    · rename_i matched
      cases ok
      have nesting : (tokens.foldl Reading.read {}).nesting = .groups [] :=
        Reading.nesting_foldl (r := {}) rfl tokens matched
      rw [matched, Reading.faults, nesting] at faults
      exact ⟨⟨nesting, List.reverse_eq_nil_iff.mp faults⟩, rfl⟩
    · cases ok
  · rintro ⟨clear, rfl⟩
    rw [← faults, clear.faults]

/-- A separator ends the statement that a complete text leaves, and what follows is read afresh. -/
theorem parse_line {a b : List Token} {before after : List Statement} {span : Span} (k : Shift)
    (ha : parse a = .ok before) (hb : parse b = .ok after) :
    parse (a ++ ⟨.separator, span⟩ :: b.map (·.moved k)) =
      .ok (before ++ after.map (·.moved k)) := by
  obtain ⟨clear, rfl⟩ := parse_eq_ok.mp ha
  obtain ⟨clear', rfl⟩ := parse_eq_ok.mp hb
  have ended : (a.foldl Reading.read {}).read ⟨.separator, span⟩ =
      (Reading.moved {} k).behind (a.foldl Reading.read {}).endStatement.statements := by
    simp only [Reading.read, clear.nesting, List.isEmpty_nil, if_true, Reading.endStatement,
      clear.errors]
    rfl
  have read : (a ++ ⟨.separator, span⟩ :: b.map (·.moved k)).foldl Reading.read {} =
      ((b.foldl Reading.read {}).moved k).behind
        (a.foldl Reading.read {}).endStatement.statements := by
    rw [List.foldl_append, List.foldl_cons, ended, Reading.foldl_read_behind,
      Reading.foldl_read_moved]
  refine parse_eq_ok.mpr ⟨⟨?_, ?_⟩, ?_⟩
  · rw [read, Reading.behind, Reading.moved, clear'.nesting]
    rfl
  · rw [read, Reading.behind, Reading.moved, clear'.errors]
    rfl
  · rw [read, Reading.endStatement_behind, Reading.endStatement_moved]
    simp [Reading.behind, Reading.moved]

/-! ## Texts one below the other -/

/-- A text that is complete by itself: the next line starts a new statement. -/
structure Complete (text : String) : Prop where
  carriage : '\r' ∉ text.toList
  ending : text.toList.getLast? ≠ some '\\'
  parses : ∃ parsed, statements text = .ok parsed

theorem statements_eq_ok {text : String} {parsed : List Statement} :
    statements text = .ok parsed ↔
      ∃ tokens, tokenize text = .ok tokens ∧ parse tokens = .ok parsed := by
  unfold statements
  constructor
  · intro ok
    split at ok
    · cases ok
    · rename_i tokens tokenized
      refine ⟨tokens, tokenized, ?_⟩
      split at ok
      · cases ok
      · rename_i parsed'
        cases ok
        exact parsed'
  · rintro ⟨tokens, tokenized, parsed⟩
    rw [tokenized]
    dsimp only
    rw [parsed]

theorem Complete.unjoined {text : String} (h : Complete text) : ¬ EndsInBackslash text.toList := by
  refine unjoined_of_getLast? fun c last => ⟨?_, ?_⟩
  · rintro rfl
    exact h.ending last
  · rintro rfl
    exact h.carriage (List.mem_of_getLast? last)

theorem statements_line {a b : String} {before after : List Statement} (complete : Complete a)
    (ha : statements a = .ok before) (hb : statements b = .ok after) :
    statements (a ++ "\n" ++ b) =
      .ok (before ++ after.map (·.moved (.behind (a.toList ++ ['\n'])))) := by
  obtain ⟨tokens, tokenized, parsed⟩ := statements_eq_ok.mp ha
  obtain ⟨tokens', tokenized', parsed'⟩ := statements_eq_ok.mp hb
  have lexed := tokenize_line complete.unjoined b
  rw [tokenized, tokenized'] at lexed
  refine statements_eq_ok.mpr ⟨_, lexed, ?_⟩
  rw [List.append_assoc]
  exact parse_line _ parsed parsed'

/-- The statements of a text, if it parses. -/
def parsed (text : String) : List Statement := (statements text).toOption.getD []

theorem parsed_unmoved (text : String) : (parsed text).map (·.moved ⟨0, 0⟩) = parsed text :=
  (List.map_congr_left fun s _ => congrArg Statement.mk (Expr.moved_zero s.expr)).trans
    (List.map_id _)

/-- Every text with the shift of the place where it starts, when they stand one below the other
behind what is there before them. -/
def placed (before : List Char) : List String → List (String × Shift)
  | [] => []
  | text :: rest => (text, .behind before) :: placed (before ++ text.toList ++ ['\n']) rest

/-- The statements of texts that stand one below the other. -/
def stacked (texts : List (String × Shift)) : List Statement :=
  texts.flatMap fun entry => (parsed entry.1).map (·.moved entry.2)

theorem placed_texts (before : List Char) (texts : List String) :
    (placed before texts).map (·.1) = texts := by
  induction texts generalizing before with
  | nil => rfl
  | cons text rest ih => rw [placed, List.map_cons, ih]

theorem placed_append (before more : List Char) (texts : List String) :
    placed (before ++ more) texts =
      (placed more texts).map fun entry => (entry.1, .add (.behind before) entry.2) := by
  induction texts generalizing more with
  | nil => rfl
  | cons text rest ih =>
    have start : Shift.behind (before ++ more) = .add (.behind before) (.behind more) := by
      simp [Shift.behind, Shift.add, total_append]
    have later := ih (more ++ text.toList ++ ['\n'])
    simp only [← List.append_assoc] at later
    rw [placed, placed, List.map_cons, start, later]

theorem stacked_placed (before : List Char) (text : String) (rest : List String) :
    stacked (placed before (text :: rest)) = (parsed text).map (·.moved (.behind before)) ++
      stacked (placed (before ++ text.toList ++ ['\n']) rest) := by
  rw [placed, stacked, List.flatMap_cons]
  rfl

/-- What stands below a text is moved as a whole. -/
theorem stacked_append (before more : List Char) (texts : List String) :
    stacked (placed (before ++ more) texts) =
      (stacked (placed more texts)).map (·.moved (.behind before)) := by
  rw [placed_append, stacked, stacked, List.flatMap_map, List.map_flatMap]
  congr 1
  funext entry
  rw [List.map_map]
  congr 1
  funext s
  exact congrArg Statement.mk (Expr.moved_moved s.expr _ _).symm

theorem Complete.statements_eq {text : String} (h : Complete text) :
    statements text = .ok (parsed text) := by
  obtain ⟨found, ok⟩ := h.parses
  rw [parsed, ok]
  rfl

theorem statements_joined {texts : List String} (complete : ∀ text ∈ texts, Complete text) :
    statements ("\n".intercalate texts) = .ok (stacked (placed [] texts)) := by
  induction texts with
  | nil =>
    have empty : lexemes "".toList = [] := by
      rw [String.toList_empty, lexemes]
    have tokens : tokenize "" = .ok [] := by
      rw [tokenize_eq, empty]
      rfl
    rw [String.intercalate_nil]
    exact statements_eq_ok.mpr ⟨[], tokens, rfl⟩
  | cons text rest ih =>
    have first := complete text List.mem_cons_self
    have unmoved : (parsed text).map (·.moved (.behind [])) = parsed text := parsed_unmoved text
    cases rest with
    | nil =>
      rw [String.intercalate_singleton, stacked_placed, unmoved, first.statements_eq]
      exact congrArg Except.ok (List.append_nil _).symm
    | cons next rest =>
      have later := ih fun other mem => complete other (List.mem_cons_of_mem text mem)
      have below := stacked_append (text.toList ++ ['\n']) [] (next :: rest)
      rw [List.append_nil] at below
      rw [String.intercalate_cons_cons, statements_line first first.statements_eq later, ← below,
        stacked_placed [], unmoved]
      rfl

end ScriptSession.Script
