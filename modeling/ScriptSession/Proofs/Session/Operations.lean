import Mathlib.Data.List.Induction
import ScriptSession.Proofs.Session.Policies

/-!
# Sessions between operations

A session is used by operations, one after another: texts are evaluated or lines submitted, whatever
happens around the evaluations; lines are assembled; the session is interrupted, answered or reset
(`Operation`). `Session.past` keeps each operation together with the session that it came to.

An evaluation is refused, rejected or launched (`evaluate_cases`), and after a launched one everything
that it installed is gone (`settle_session`). So between operations a session is at rest
(`Performs.atRest`), it has counted the evaluations since it was last reset (`Performs.count`), and it
is over once an evaluation asked for that (`Performs.exited`); hence `rests_between_operations`.
-/
namespace ScriptSession

/-- What happens around an evaluation. -/
structure Surroundings where
  State : Type
  policy : Policy State
  start : State
  fair : policy.Fair

/-- Events that happen one after another. -/
def Surroundings.scheduled (events : List Scheduled) : Surroundings where
  State := Schedule
  policy := Schedule.policy
  start := { upcoming := events }
  fair := Schedule.policy_fair

inductive Operation where
  /-- With a channel, output is passed on as it arrives. -/
  | evaluate (text : String) (channel : Option Channel) (around : Surroundings)
  | submit (line : String) (around : Surroundings)
  | assemble (line : String)
  | interrupt
  /-- An interrupt by someone who holds nothing but the manager of the tokens. -/
  | interruptEvaluation
  | answer (text : String)
  | reset

def Operation.isReset : Operation → Bool
  | .reset => true
  | _ => false

namespace Session

variable {B : Backend}

def perform (s : Session B) : Operation → Session B
  | .evaluate text channel around => (s.evaluate around.policy around.start channel text).session
  | .submit line around => (s.submit around.policy around.start line).2.2
  | .assemble line => (s.assemble line).2
  | .interrupt => s.interrupt
  | .interruptEvaluation => s.interruptEvaluation
  | .answer text => (s.answer text).2
  | .reset => s.reset

/-- What an operation's evaluation gives; nothing if there is none or it is given up. -/
def given (s : Session B) : Operation → Option (Except SessionError Evaluation)
  | .evaluate text channel around => (s.evaluate around.policy around.start channel text).result
  | .submit line around =>
    match (s.submit around.policy around.start line).1 with
    | .continuation => none
    | .evaluated result => result
  | _ => none

/-- The text that an operation evaluates, if it gets past the question whether the session is over. -/
def admitted? (s : Session B) (op : Operation) : Option String :=
  if s.state = .exited then none
  else
    match op with
    | .evaluate text _ _ => some text
    | .submit line _ => (s.assembler.submit line).1.map (·.text)
    | _ => none

/-- Whether a result asks for the end of the session. -/
def exits : Option (Except SessionError Evaluation) → Bool
  | some (.ok evaluation) => evaluation.shouldExit
  | _ => false

def after (s : Session B) (ops : List Operation) : Session B := ops.foldl perform s

/-- The operations, each with the session that it came to, the first one first. -/
def past (s : Session B) : List Operation → List (Session B × Operation)
  | [] => []
  | op :: rest => (s, op) :: past (s.perform op) rest

theorem after_concat (s : Session B) (ops : List Operation) (op : Operation) :
    s.after (ops ++ [op]) = (s.after ops).perform op := by
  simp [after]

theorem past_concat (s : Session B) (ops : List Operation) (op : Operation) :
    s.past (ops ++ [op]) = s.past ops ++ [(s.after ops, op)] := by
  induction ops generalizing s with
  | nil => rfl
  | cons first rest ih => exact congrArg (_ :: ·) (ih _)

/-- What holds at first, and is kept by each operation, holds after any sequence of them. -/
theorem after_induction {s : Session B} {P : List (Session B × Operation) → Session B → Prop}
    (start : P [] s) (next : ∀ past s op, P past s → P (past ++ [(s, op)]) (s.perform op))
    (ops : List Operation) : P (s.past ops) (s.after ops) := by
  induction ops using List.reverseRecOn with
  | nil => exact start
  | append_singleton ops op ih =>
    rw [past_concat, after_concat]
    exact next _ _ op ih

/-! ## Evaluations -/

/-- Statements that are about to run. -/
def launch (s : Session B) (channel : Option Channel) (statements : List B.Statement) : Started B :=
  let (console, collector) := s.console.addCollector channel
  let (console, scope) := console.capture collector
  { session := { s with journal := {}, state := .evaluating }
    process := B.run statements s.environment
    live :=
      { desk := s.desk, console := console, token := s.desk.currentToken 0, collector := collector }
    scope := scope }

/-- A rejected text is counted like any other. -/
def rejected (s : Session B) : Session B := { s with journal := {} }.record 0

/-- What becomes of a text. -/
inductive Evaluates {ω : Type} (s : Session B) (policy : Policy ω) (w : ω)
    (channel : Option Channel) (text : String) :
    Option (Except SessionError Evaluation) → Session B → Prop where
  | refused : s.state = .exited →
      Evaluates s policy w channel text (some (.error .terminated)) s
  | rejected {entries} : s.state ≠ .exited → B.statements text = .error entries →
      Evaluates s policy w channel text (some (.ok { logs := entries })) s.rejected
  | launched {statements ending live w'} : s.state ≠ .exited → B.statements text = .ok statements →
      (s.launch channel statements).process.play policy (s.launch channel statements).live w =
        (ending, live, w') →
      Evaluates s policy w channel text (settle (s.launch channel statements) ending live).1
        (settle (s.launch channel statements) ending live).2

/-- The three ways, apart from what is done with the output. -/
inductive Admits (s : Session B) (text : String) : Prop where
  | refused : s.state = .exited → Admits s text
  | rejected {entries} : s.state ≠ .exited → B.statements text = .error entries → Admits s text
  | launched {statements} : s.state ≠ .exited → B.statements text = .ok statements → Admits s text

theorem admits (s : Session B) (text : String) : s.Admits text := by
  by_cases terminated : s.state = .exited
  · exact .refused terminated
  · cases parsed : B.statements text with
    | error entries => exact .rejected terminated parsed
    | ok statements => exact .launched terminated parsed

section

variable {ω : Type} {s : Session B} {text : String} {entries : List Diagnostic}
  {statements : List B.Statement}

theorem accept_refused (terminated : s.state = .exited) (channel : Option Channel) :
    s.accept channel text = .refused := if_pos terminated

/-- Nothing is started for a text that something is wrong with. -/
theorem accept_rejected (running : s.state ≠ .exited) (wrong : B.statements text = .error entries)
    (channel : Option Channel) : s.accept channel text = .rejected s.rejected { logs := entries } := by
  simp only [accept, running, if_false, wrong]
  rfl

theorem accept_launched (running : s.state ≠ .exited) (parsed : B.statements text = .ok statements)
    (channel : Option Channel) : s.accept channel text = .started (s.launch channel statements) := by
  simp only [accept, running, if_false, parsed]
  rfl

theorem evaluate_refused (terminated : s.state = .exited) (policy : Policy ω) (w : ω)
    (channel : Option Channel) : s.evaluate policy w channel text =
      { session := s, result := some (.error .terminated), policyState := w } := by
  simp only [evaluate, accept_refused terminated]

theorem evaluate_rejected (running : s.state ≠ .exited) (wrong : B.statements text = .error entries)
    (policy : Policy ω) (w : ω) (channel : Option Channel) : s.evaluate policy w channel text =
      { session := s.rejected, result := some (.ok { logs := entries }), policyState := w } := by
  simp only [evaluate, accept_rejected running wrong]

theorem evaluate_launched (running : s.state ≠ .exited) (parsed : B.statements text = .ok statements)
    (policy : Policy ω) (w : ω) (channel : Option Channel) : s.evaluate policy w channel text =
      let started := s.launch channel statements
      let played := started.process.play policy started.live w
      { session := (settle started played.1 played.2.1).2
        result := (settle started played.1 played.2.1).1
        unread := played.2.1.unread
        policyState := played.2.2 } := by
  simp only [evaluate, accept_launched running parsed]

end

section

variable {ω : Type} {policy : Policy ω} {s : Session B} {text : String}

theorem turns_refused (terminated : s.state = .exited) (w : ω) (channel : Option Channel) :
    s.turns policy w channel text = [] := by
  simp only [turns, accept_refused terminated]

theorem turns_rejected {entries : List Diagnostic} (running : s.state ≠ .exited)
    (wrong : B.statements text = .error entries) (w : ω) (channel : Option Channel) :
    s.turns policy w channel text = [] := by
  simp only [turns, accept_rejected running wrong]

theorem turns_launched {statements : List B.Statement} (running : s.state ≠ .exited)
    (parsed : B.statements text = .ok statements) (w : ω) (channel : Option Channel) :
    s.turns policy w channel text =
      (s.launch channel statements).process.turns policy (s.launch channel statements).live w [] := by
  simp only [turns, accept_launched running parsed]

end

theorem evaluate_cases {ω : Type} (s : Session B) (policy : Policy ω) (w : ω)
    (channel : Option Channel) (text : String) :
    s.Evaluates policy w channel text (s.evaluate policy w channel text).result
      (s.evaluate policy w channel text).session := by
  cases s.admits text with
  | refused terminated =>
    rw [evaluate_refused terminated]
    exact .refused terminated
  | rejected running wrong =>
    rw [evaluate_rejected running wrong]
    exact .rejected running wrong
  | launched running parsed =>
    rw [evaluate_launched running parsed]
    exact .launched running parsed rfl

/-- The state of a session after a run that ended so. -/
def stateAfter {σ : Type} : Ending σ → SessionState
  | .finished _ .exited => .exited
  | _ => .idle

theorem stateAfter_eq {σ : Type} (ending : Ending σ) :
    stateAfter ending = .idle ∨ stateAfter ending = .exited := by
  unfold stateAfter
  split
  · exact .inr rfl
  · exact .inl rfl

/-- Whatever a run installed is gone when it is settled. -/
theorem settle_session (started : Started B) (ending : Ending B.Environment) (live : Live) :
    (settle started ending live).2 = { started.session with
      environment := ending.state
      journal := {}
      stats := started.session.stats.record (.ofMillis live.clock)
      desk := live.desk
      console := ((live.console.release started.scope).finish live.collector).2.forgetFrom live.collector
      state := stateAfter ending } := by
  cases ending with
  | givenUp env => rfl
  | finished env finish => cases finish <;> rfl

/-- The result comes from how the run ended, what its collector kept and the warnings. -/
theorem settle_result (s : Session B) (channel : Option Channel) (statements : List B.Statement)
    (ending : Ending B.Environment) {live : Live} {c : Collector}
    (own : live.console.collector? live.collector = some c) :
    (settle (s.launch channel statements) ending live).1 = match ending with
      | .givenUp _ => none
      | .finished _ finish => some (conclude {} finish
          ⟨Fragment.merged c.fragments.toList, c.fragments.toList⟩ live.warnings).1 := by
  cases ending with
  | givenUp env => rfl
  | finished env finish =>
    have collected : ((live.console.release (s.launch channel statements).scope).finish
        live.collector).1 = ⟨Fragment.merged c.fragments.toList, c.fragments.toList⟩ := by
      unfold Console.collector? at own
      simp [Console.finish, Console.release, Console.collector?, own]
    rw [← collected]
    rfl

/-- An evaluation has everything that was kept. -/
theorem fragments_conclude {journal : Journal} {finish : Finish} {collected : Collected}
    {warnings : List Diagnostic} {e : Evaluation}
    (concluded : (conclude journal finish collected warnings).1 = .ok e) :
    e.fragments = collected.fragments := by
  cases finish <;> cases concluded <;> rfl

theorem exits_settle (started : Started B) (ending : Ending B.Environment) (live : Live) :
    exits (settle started ending live).1 = true ↔ stateAfter ending = .exited := by
  cases ending with
  | givenUp env => exact ⟨nofun, nofun⟩
  | finished env finish => cases finish <;> simp [settle, conclude, exits, stateAfter, Journal.take]

section

variable {ω : Type} {s after : Session B} {policy : Policy ω} {w : ω} {channel : Option Channel}
  {text : String} {result : Option (Except SessionError Evaluation)}

/-- An evaluation counts, whatever its outcome, unless it is refused. -/
theorem Evaluates.count (h : s.Evaluates policy w channel text result after)
    (running : s.state ≠ .exited) : after.stats.count = s.stats.count + 1 := by
  cases h with
  | refused terminated => exact absurd terminated running
  | rejected => rfl
  | launched =>
    rw [settle_session]
    rfl

/-- A session is over if it was over before or the evaluation asks for it. -/
theorem Evaluates.exited (h : s.Evaluates policy w channel text result after) :
    after.state = .exited ↔ s.state = .exited ∨ exits result = true := by
  cases h with
  | refused terminated => exact ⟨.inl, fun _ => terminated⟩
  | rejected running => exact ⟨.inl, Or.rec id nofun⟩
  | launched running =>
    rw [exits_settle, settle_session]
    exact ⟨.inr, Or.rec (absurd · running) id⟩

end

/-! ## Lines -/

/-- The session once a line is added to the statement being assembled. -/
def gathered (s : Session B) (line : String) : Session B :=
  { s with
    assembler := (s.assembler.submit line).2
    state := if (s.assembler.submit line).1.isSome then .idle else .buffering }

section

variable {ω : Type} {s : Session B}

theorem assemble_refused (terminated : s.state = .exited) (line : String) :
    s.assemble line = (.error .terminated, s) := if_pos terminated

theorem assemble_eq (running : s.state ≠ .exited) (line : String) :
    s.assemble line = (.ok (s.assembler.submit line).1, s.gathered line) := by
  unfold assemble gathered
  rw [if_neg running]
  obtain ⟨statement, assembler⟩ := s.assembler.submit line
  cases statement <;> rfl

theorem submit_refused (terminated : s.state = .exited) (policy : Policy ω) (w : ω) (line : String) :
    s.submit policy w line = (.evaluated (some (.error .terminated)), w, s) := by
  simp only [submit, assemble_refused terminated]

theorem submit_eq_continuation (running : s.state ≠ .exited) (policy : Policy ω) (w : ω)
    {line : String} (continued : (s.assembler.submit line).1 = none) :
    s.submit policy w line = (.continuation, w, s.gathered line) := by
  simp only [submit, assemble_eq running, continued]

theorem submit_eq_evaluated (running : s.state ≠ .exited) (policy : Policy ω) (w : ω)
    {line : String} {statement : LogicalStatement}
    (complete : (s.assembler.submit line).1 = some statement) :
    s.submit policy w line =
      let done := (s.gathered line).evaluate policy w none statement.text
      (.evaluated done.result, done.policyState, done.session) := by
  simp only [submit, assemble_eq running, complete]

/-- A line that completes a statement leaves nothing of it. -/
theorem gathered_complete {line : String} {statement : LogicalStatement}
    (complete : (s.assembler.submit line).1 = some statement) : (s.gathered line).state = .idle := by
  simp [gathered, complete]

theorem gathered_running {line : String} {statement : LogicalStatement}
    (complete : (s.assembler.submit line).1 = some statement) : (s.gathered line).state ≠ .exited := by
  simp [gathered_complete complete]

end

/-! ## Operations -/

/-- What an operation does, and what its evaluation gives. -/
inductive Performs (s : Session B) :
    Operation → Option (Except SessionError Evaluation) → Session B → Prop where
  | evaluate {text channel around result after} :
      s.Evaluates around.policy around.start channel text result after →
      Performs s (.evaluate text channel around) result after
  | refused {line around} : s.state = .exited →
      Performs s (.submit line around) (some (.error .terminated)) s
  | continued {line around} : s.state ≠ .exited → (s.assembler.submit line).1 = none →
      Performs s (.submit line around) none (s.gathered line)
  | completed {line around statement result after} : s.state ≠ .exited →
      (s.assembler.submit line).1 = some statement →
      (s.gathered line).Evaluates around.policy around.start none statement.text result after →
      Performs s (.submit line around) result after
  | unassembled {line} : s.state = .exited → Performs s (.assemble line) none s
  | assembled {line} : s.state ≠ .exited → Performs s (.assemble line) none (s.gathered line)
  | interrupt : Performs s .interrupt none s.interrupt
  | interruptEvaluation : Performs s .interruptEvaluation none s.interruptEvaluation
  | answer {text} : Performs s (.answer text) none (s.answer text).2
  | reset : Performs s .reset none s.reset

theorem performs (s : Session B) (op : Operation) : s.Performs op (s.given op) (s.perform op) := by
  cases op with
  | evaluate text channel around => exact .evaluate (evaluate_cases ..)
  | submit line around =>
    simp only [given, perform]
    by_cases terminated : s.state = .exited
    · rw [submit_refused terminated]
      exact .refused terminated
    · cases complete : (s.assembler.submit line).1 with
      | none =>
        rw [submit_eq_continuation terminated _ _ complete]
        exact .continued terminated complete
      | some statement =>
        rw [submit_eq_evaluated terminated _ _ complete]
        exact .completed terminated complete (evaluate_cases ..)
  | assemble line =>
    simp only [given, perform]
    by_cases terminated : s.state = .exited
    · rw [assemble_refused terminated]
      exact .unassembled terminated
    · rw [assemble_eq terminated]
      exact .assembled terminated
  | interrupt => exact .interrupt
  | interruptEvaluation => exact .interruptEvaluation
  | answer text => exact .answer
  | reset => exact .reset

/-! ## At rest -/

/-- Nothing of an evaluation is there. -/
structure AtRest (s : Session B) : Prop where
  journal : s.journal.entries = []
  installed : s.console.installed = []
  desk : s.desk.Single none
  state : s.state ≠ .evaluating

section

variable {ω : Type} {s after : Session B} {policy : Policy ω} {w : ω} {channel : Option Channel}
  {text : String} {result : Option (Except SessionError Evaluation)}

theorem launch_steady (rest : s.AtRest) (channel : Option Channel) (statements : List B.Statement) :
    (s.launch channel statements).live.Steady s.console.installed [] none where
  desk := rest.desk
  token _ := rfl
  keeps := ⟨rfl, ⟨{ channel := channel }, by
    simp [launch, Console.addCollector, Console.capture, Console.collector?], rfl⟩, rfl⟩

theorem launch_streams (s : Session B) (statements : List B.Statement) :
    (s.launch (some {}) statements).live.Streams [] := by
  refine ⟨{ channel := some {} }, {}, ⟨rfl, ?_⟩, rfl, rfl, rfl⟩
  simp [launch, Console.addCollector, Console.capture, Console.collector?]

theorem settle_atRest (rest : s.AtRest) {statements : List B.Statement}
    {ending : Ending B.Environment} {live : Live} {kept : List Fragment}
    (steady : live.Steady s.console.installed kept none) :
    (settle (s.launch channel statements) ending live).2.AtRest := by
  rw [settle_session]
  refine ⟨rfl, ?_, steady.desk, ?_⟩
  · have scope : (s.launch channel statements).scope = 1 := by
      simp [launch, Console.capture, Console.addCollector, Console.depth, rest.installed]
    simp [Console.forgetFrom, Console.finish, Console.release, Console.depth, scope]
  · rcases stateAfter_eq ending with idle | exited
    · simp [idle]
    · simp [exited]

theorem Evaluates.atRest (h : s.Evaluates policy w channel text result after) (fair : policy.Fair)
    (rest : s.AtRest) : after.AtRest := by
  cases h with
  | refused => exact rest
  | rejected => exact ⟨rfl, rest.installed, rest.desk, rest.state⟩
  | @launched statements ending live w' _ _ played =>
    have steady := launch_steady rest channel statements
    obtain ⟨u, run, ends⟩ := play_ends fair (s.launch channel statements).process steady w
    rw [played] at ends
    have start : Underway.Steady (.running (s.launch channel statements).process
        (s.launch channel statements).live) s.console.installed [] := steady
    obtain ⟨more, steady', -⟩ := start.reaches run
    exact settle_atRest rest (steady'.ends ends)

theorem gathered_atRest (rest : s.AtRest) (line : String) : (s.gathered line).AtRest := by
  refine ⟨rest.journal, rest.installed, rest.desk, ?_⟩
  unfold gathered
  dsimp only
  split <;> exact nofun

theorem Performs.atRest {op : Operation} (h : s.Performs op result after) (rest : s.AtRest) :
    after.AtRest := by
  cases h with
  | @evaluate _ _ around _ _ evaluates => exact evaluates.atRest around.fair rest
  | refused | unassembled => exact rest
  | continued | assembled => exact gathered_atRest rest _
  | @completed line around _ _ _ _ _ evaluates =>
    exact evaluates.atRest around.fair (gathered_atRest rest line)
  | interrupt =>
    refine ⟨rest.journal, rest.installed, (Desk.single_interrupt rest.desk).1, ?_⟩
    unfold Session.interrupt
    dsimp only
    split
    · exact nofun
    · exact rest.state
  | interruptEvaluation =>
    exact ⟨rest.journal, rest.installed, (Desk.single_interrupt rest.desk).1, rest.state⟩
  | answer =>
    exact ⟨rest.journal, rest.installed, (Desk.single_answer rest.desk _).1, rest.state⟩
  | reset =>
    refine ⟨rfl, rest.installed, rest.desk, ?_⟩
    unfold Session.reset
    dsimp only
    split <;> exact nofun

/-! ## Counting, and the end -/

theorem Performs.count {op : Operation} (h : s.Performs op result after) : after.stats.count =
    if op.isReset then 0 else s.stats.count + (if (s.admitted? op).isSome then 1 else 0) := by
  cases h with
  | evaluate evaluates =>
    by_cases terminated : s.state = .exited
    · cases evaluates with
      | refused => simp [admitted?, terminated, Operation.isReset]
      | rejected running | launched running => exact absurd terminated running
    · simp [evaluates.count terminated, admitted?, terminated, Operation.isReset]
  | refused terminated | unassembled terminated => simp [admitted?, terminated, Operation.isReset]
  | continued running continued => simp [admitted?, continued, gathered, Operation.isReset]
  | @completed line _ _ _ _ running complete evaluates =>
    simp [evaluates.count (gathered_running complete), admitted?, running, complete, gathered,
      Operation.isReset]
  | assembled running => simp [admitted?, gathered, Operation.isReset]
  | interrupt | interruptEvaluation | answer =>
    simp [admitted?, Operation.isReset, Session.interrupt, Session.interruptEvaluation,
      Session.answer]
  | reset => rfl

theorem Performs.exited {op : Operation} (h : s.Performs op result after) :
    after.state = .exited ↔ s.state = .exited ∨ exits result = true := by
  cases h with
  | evaluate evaluates => exact evaluates.exited
  | refused terminated | unassembled terminated => exact ⟨.inl, fun _ => terminated⟩
  | continued running continued => simp [gathered, continued, running, exits]
  | completed running complete evaluates =>
    rw [evaluates.exited, gathered_complete complete]
    simp [running]
  | @assembled line running =>
    simp only [gathered, running, exits, false_or, Bool.false_eq_true, iff_false]
    split <;> exact nofun
  | interrupt =>
    simp only [Session.interrupt, Session.interruptEvaluation, exits, Bool.false_eq_true, or_false]
    split
    · rename_i buffering
      simp [buffering]
    · rfl
  | interruptEvaluation | answer => simp [Session.interruptEvaluation, Session.answer, exits]
  | reset =>
    simp only [Session.reset, exits, Bool.false_eq_true, or_false]
    split
    · rename_i terminated
      simp [terminated]
    · rename_i running
      simp [running]

end

/-! ## Every sequence of operations -/

/-- A session that has not been used. -/
def fresh (B : Backend) (continuationPrompt : String) : Session B where
  continuationPrompt := continuationPrompt

theorem fresh_atRest (continuationPrompt : String) : (fresh B continuationPrompt).AtRest :=
  ⟨rfl, rfl, Desk.single_opened, nofun⟩

theorem after_atRest {s : Session B} (rest : s.AtRest) (ops : List Operation) :
    (s.after ops).AtRest :=
  after_induction (P := fun _ s => s.AtRest) rest (fun _ s op rest => (s.performs op).atRest rest) ops

/-- The operations behind the last reset, the latest first. -/
def sinceReset (past : List (Session B × Operation)) : List (Session B × Operation) :=
  past.reverse.takeWhile fun entry => !entry.2.isReset

/-- The evaluations that got past the question whether the session is over. -/
def admissions (past : List (Session B × Operation)) : Nat :=
  past.countP fun entry => (entry.1.admitted? entry.2).isSome

theorem counted_after (continuationPrompt : String) (ops : List Operation) :
    ((fresh B continuationPrompt).after ops).stats.count =
      admissions (sinceReset ((fresh B continuationPrompt).past ops)) := by
  refine after_induction (P := fun past s => s.stats.count = admissions (sinceReset past)) rfl ?_ ops
  intro past s op counted
  rw [(s.performs op).count, counted]
  cases reset : op.isReset with
  | true => simp [sinceReset, admissions, reset]
  | false => simp [sinceReset, admissions, reset, List.countP_cons]

theorem exited_after {s : Session B} (running : s.state ≠ .exited) (ops : List Operation) :
    (s.after ops).state = .exited ↔ ∃ entry ∈ s.past ops, exits (entry.1.given entry.2) = true := by
  refine after_induction (s := s) (P := fun past s =>
    s.state = .exited ↔ ∃ entry ∈ past, exits (entry.1.given entry.2) = true) ?_ ?_ ops
  · simp [running]
  · intro past s op terminated
    rw [(s.performs op).exited, terminated]
    simp [or_and_right, exists_or]

/-- Nothing more can be evaluated or assembled, and trying to changes nothing. -/
structure Over (s : Session B) : Prop where
  evaluate : ∀ {ω : Type} (policy : Policy ω) (w : ω) (channel : Option Channel) (text : String),
    s.evaluate policy w channel text =
      { session := s, result := some (.error .terminated), policyState := w }
  submit : ∀ {ω : Type} (policy : Policy ω) (w : ω) (line : String),
    s.submit policy w line = (.evaluated (some (.error .terminated)), w, s)
  assemble : ∀ line, s.assemble line = (.error .terminated, s)

theorem over_of_exited {s : Session B} (terminated : s.state = .exited) : s.Over where
  evaluate policy w channel _ := evaluate_refused terminated policy w channel
  submit := submit_refused terminated
  assemble := assemble_refused terminated

/-- Between operations nothing of an evaluation is left, however it ended and whatever happened
around it: no diagnostic, no collector, no request, and the current token is alive. The session has
counted every evaluation since its last reset, and it is over exactly if one of them all asked for
that. -/
theorem rests_between_operations (continuationPrompt : String) (ops : List Operation) :
    let past := (fresh B continuationPrompt).past ops
    let s := (fresh B continuationPrompt).after ops
    s.journal.entries = [] ∧ s.console.installed = [] ∧
    s.desk.queue = [] ∧ s.desk.active = none ∧ s.desk.visible = none ∧
    (∃ token, s.desk.tokens[s.desk.currentToken 0]? = some token ∧ token.aborted = false) ∧
    s.state ≠ .evaluating ∧
    s.stats.count = admissions (sinceReset past) ∧
    (s.state = .exited ↔ ∃ entry ∈ past, exits (entry.1.given entry.2) = true) ∧
    (s.state = .exited → s.Over) := by
  have rest := after_atRest (fresh_atRest (B := B) continuationPrompt) ops
  exact ⟨rest.journal, rest.installed, rest.desk.queue, rest.desk.active, rest.desk.visible,
    rest.desk.alive.token, rest.state, counted_after continuationPrompt ops,
    exited_after (s := fresh B continuationPrompt) nofun ops, over_of_exited⟩

end Session

end ScriptSession
