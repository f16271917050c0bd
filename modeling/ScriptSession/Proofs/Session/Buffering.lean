import ScriptSession.Proofs.Session.Operations
import ScriptSession.Script.Reduce
import ScriptSession.Session.Command

/-!
# Statements that are being assembled

Whether a statement is being assembled is told by the lines that wait and by the state of the session.
Lines, interrupts and resets keep the two in step. An evaluation of another text does not: the lines
go on waiting and the state is idle again (`Session.overtaken`, `buffering_between_operations`), so
commands are recognised in the middle of a statement (`command_within_statement`).
-/
namespace ScriptSession.Session

variable {B : Backend} {s after : Session B}

/-- Whether an operation sets the state of the session. -/
def setsState (s : Session B) : Operation → Bool
  | .evaluate text _ _ => s.state != .exited && (B.statements text).isOk
  | .submit _ _ | .assemble _ => s.state != .exited
  | .interrupt | .reset => true
  | .interruptEvaluation | .answer _ => false

/-- The state was last set by the evaluation of a text that was not assembled. -/
def overtaken (past : List (Session B × Operation)) : Bool :=
  match past.reverse.find? fun entry => entry.1.setsState entry.2 with
  | some (_, .evaluate ..) => true
  | _ => false

/-- The state says whether lines wait. -/
def InStep (s : Session B) : Prop := s.state = .buffering ↔ s.assembler.isBuffering = true

/-! ## Operations -/

theorem gathered_inStep (s : Session B) (line : String) : (s.gathered line).InStep := by
  unfold InStep gathered Assembler.submit
  dsimp only
  split <;> simp [Assembler.isBuffering]

section

variable {ω : Type} {policy : Policy ω} {w : ω} {channel : Option Channel} {text : String}
  {result : Option (Except SessionError Evaluation)}

/-- An evaluation leaves the lines alone, and sets the state if the text can be evaluated. -/
theorem Evaluates.state (h : s.Evaluates policy w channel text result after) :
    after.assembler = s.assembler ∧
    if s.state != .exited && (B.statements text).isOk then after.state ≠ .buffering
    else after.state = s.state := by
  cases h with
  | refused terminated => simp [terminated]
  | rejected running parsed =>
    simp only [parsed, Except.isOk, Except.toBool, Bool.and_false, Bool.false_eq_true, if_false]
    exact ⟨rfl, rfl⟩
  | @launched _ ending _ _ running parsed =>
    rw [settle_session]
    refine ⟨rfl, ?_⟩
    simp only [parsed, running, Except.isOk, Except.toBool, bne_iff_ne, ne_eq, not_false_eq_true,
      Bool.and_true, if_true]
    rcases stateAfter_eq ending with idle | exited
    · simp [idle]
    · simp [exited]

theorem Performs.state {op : Operation} (h : s.Performs op result after) :
    if s.setsState op then
      match op with
      | .evaluate .. => after.state ≠ .buffering
      | _ => after.InStep
    else after.state = s.state ∧ after.assembler = s.assembler := by
  cases h with
  | @evaluate text channel around _ _ evaluates =>
    obtain ⟨assembler, state⟩ := evaluates.state
    unfold setsState
    split at state
    · rename_i sets
      simpa [sets] using state
    · rename_i keeps
      simpa [keeps] using ⟨state, assembler⟩
  | refused terminated | unassembled terminated => simp [setsState, terminated]
  | continued running | assembled running =>
    simpa [setsState, running] using gathered_inStep s _
  | @completed line _ _ _ _ running complete evaluates =>
    obtain ⟨assembler, state⟩ := evaluates.state
    have idle := gathered_complete complete
    have empty : (s.gathered line).assembler.isBuffering = false := by
      have inStep := gathered_inStep s line
      simpa [InStep, idle] using inStep
    have sets : s.setsState (.submit line ‹_›) = true := by simp [setsState, running]
    simp only [sets, if_true]
    unfold InStep
    rw [assembler, empty]
    split at state
    · simpa using state
    · simp [state, idle]
  | interrupt =>
    simp only [setsState, if_true, InStep, Session.interrupt, Session.interruptEvaluation]
    split <;> simp [*, Assembler.reset, Assembler.isBuffering]
  | interruptEvaluation | answer => exact ⟨rfl, rfl⟩
  | reset =>
    simp only [setsState, if_true, InStep, Session.reset]
    split <;> simp [Assembler.reset, Assembler.isBuffering]

end

/-- Then the state tells which prompt is shown and what is a command. -/
theorem inStep_tells (inStep : s.InStep) :
    s.currentPrompt = (if s.state = .buffering then s.continuationPrompt else s.prompt) ∧
    ∀ line, s.isCommand line =
      (!s.assembler.isBuffering && (Text.trimStart line.toList).head? == some ':') := by
  unfold InStep at inStep
  refine ⟨by simp only [currentPrompt, inStep], fun line => ?_⟩
  by_cases buffering : s.state = .buffering
  · simp [isCommand, buffering, inStep.mp buffering]
  · have empty : s.assembler.isBuffering = false :=
      Bool.not_eq_true _ |>.mp (inStep.not.mp buffering)
    simp [isCommand, buffering, empty]

/-! ## Every sequence of operations -/

theorem overtaken_concat (past : List (Session B × Operation)) (s : Session B) (op : Operation) :
    overtaken (past ++ [(s, op)]) =
      if s.setsState op then (match op with | .evaluate .. => true | _ => false)
      else overtaken past := by
  unfold overtaken
  rw [List.reverse_append, List.reverse_singleton, List.singleton_append, List.find?_cons]
  cases s.setsState op with
  | false => rfl
  | true => cases op <;> rfl

theorem state_after (continuationPrompt : String) (ops : List Operation) :
    let s := (fresh B continuationPrompt).after ops
    if overtaken ((fresh B continuationPrompt).past ops) then s.state ≠ .buffering else s.InStep := by
  refine after_induction (s := fresh B continuationPrompt) (P := fun past s =>
    if overtaken past then s.state ≠ .buffering else s.InStep) ?_ ?_ ops
  · simp [overtaken, InStep, fresh, Assembler.isBuffering]
  · intro past s op before
    have performed := (s.performs op).state
    rw [overtaken_concat]
    split at performed
    · rename_i sets
      cases op <;> simpa [sets] using performed
    · rename_i keeps
      simpa [keeps, InStep, performed.1, performed.2] using before

/-- The state is the buffering one exactly while lines wait, unless they were overtaken by an
evaluation. Where no waiting line was overtaken, it tells which prompt is shown, and commands are
recognised exactly while no statement is being assembled. -/
theorem buffering_between_operations (continuationPrompt : String) (ops : List Operation) :
    let past := (fresh B continuationPrompt).past ops
    let s := (fresh B continuationPrompt).after ops
    (s.state = .buffering ↔ s.assembler.isBuffering = true ∧ overtaken past = false) ∧
    (overtaken past = true ∧ s.assembler.isBuffering = true ∨
      s.currentPrompt = (if s.state = .buffering then s.continuationPrompt else s.prompt) ∧
      ∀ line, s.isCommand line =
        (!s.assembler.isBuffering && (Text.trimStart line.toList).head? == some ':')) := by
  have state := state_after (B := B) continuationPrompt ops
  dsimp only at state ⊢
  generalize (fresh B continuationPrompt).after ops = s at state
  cases overtaken : overtaken ((fresh B continuationPrompt).past ops) with
  | true =>
    have idle : s.state ≠ .buffering := by simpa [overtaken] using state
    refine ⟨by simpa using idle, ?_⟩
    cases waiting : s.assembler.isBuffering with
    | true => exact .inl ⟨rfl, rfl⟩
    | false =>
      have inStep : s.InStep := by simp [InStep, idle, waiting]
      exact .inr (waiting ▸ inStep_tells inStep)
  | false =>
    have inStep : s.InStep := by simpa [overtaken] using state
    exact ⟨by simpa [InStep] using inStep, .inr (inStep_tells inStep)⟩

/-- Between the two lines of a statement another text is evaluated, and then a command would be taken
for one. -/
theorem command_within_statement :
    let ops := [.assemble "print 1 \\", .evaluate "1" none (.scheduled [])]
    let s := (fresh (Script.language "> ") "..").after ops
    s.state = .idle ∧ s.assembler.isBuffering = true ∧ s.currentPrompt = ".." ∧
      s.isCommand ":reset" = true := by
  decide +kernel

end ScriptSession.Session
