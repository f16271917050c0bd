import ScriptSession.Proofs.Script.Parentheses
import ScriptSession.Proofs.Session.Operations
import ScriptSession.Script.Reduce

/-!
# The kinds of evaluations

A text is rejected if something is wrong with it, and otherwise its statements fail, are cancelled or
complete (`Evaluation.Kind`). Each kind fixes which parts an evaluation has (`Evaluation.Shows`), and
with them the status that a program ends with.

The command language never breaks (`run_unbroken`), only warnings are noted while a process runs
(`Live.Keeps`), and answers and interrupts alone never give an evaluation up (`Schedule.play_stays`). So
evaluations of the command language are of these kinds and of no others
(`Session.evaluations_of_four_kinds`).
-/
namespace ScriptSession

/-! ## Kinds -/

inductive Evaluation.Kind where
  | rejected
  | failed
  | cancelled
  | completed
  deriving DecidableEq, Repr

/-- What evaluating a text shows, if this is wrong with it. -/
inductive Evaluation.Shows (wrong : List Diagnostic) : Evaluation → Kind → Prop where
  | rejected : wrong ≠ [] → (∀ entry ∈ wrong, entry.severity = .error) →
      Shows wrong { logs := wrong } .rejected
  | failed {message range warnings fragments} : wrong = [] →
      (∀ entry ∈ warnings, entry.severity = .warning) →
      Shows wrong { logs := .error message range :: warnings, fragments := fragments } .failed
  | cancelled {fragments} : wrong = [] →
      Shows wrong { cancelled := true, fragments := fragments } .cancelled
  | completed {warnings shouldExit fragments} : wrong = [] →
      (∀ entry ∈ warnings, entry.severity = .warning) →
      Shows wrong
        { output := some (Fragment.merged fragments), logs := warnings, shouldExit := shouldExit
          fragments := fragments } .completed

def Evaluation.Kind.exitCode : Kind → Nat
  | .completed => 0
  | .rejected | .failed => 1
  | .cancelled => 130

/-- The exit code tells the kinds apart, but for two. -/
theorem Evaluation.Kind.eq_of_exitCode {kind kind' : Kind} (code : kind.exitCode = kind'.exitCode)
    (rejected : kind' = .rejected ↔ kind = .rejected) : kind = kind' := by
  cases kind <;> cases kind' <;> simp_all [exitCode]

theorem warnings_of_harmless {entries : List Diagnostic} :
    hasErrors entries = false ↔ ∀ entry ∈ entries, entry.severity = .warning := by
  have warning : ∀ entry : Diagnostic, entry.isError = false ↔ entry.severity = .warning := by
    rintro ⟨severity, message, range⟩
    cases severity <;> simp [Diagnostic.isError]
  simp [hasErrors, warning]

namespace Evaluation.Shows

variable {wrong : List Diagnostic} {e : Evaluation} {kind : Kind}

theorem rejected_iff (h : e.Shows wrong kind) : kind = .rejected ↔ wrong ≠ [] := by
  cases h with
  | rejected some => exact ⟨fun _ => some, fun _ => rfl⟩
  | failed none | cancelled none | completed none => exact ⟨nofun, fun some => absurd none some⟩

theorem completed_of_shouldExit (h : e.Shows wrong kind) (exits : e.shouldExit = true) :
    kind = .completed := by
  cases h with
  | rejected | failed | cancelled => cases exits
  | completed => rfl

theorem exitCode_eq (h : e.Shows wrong kind) : e.exitCode = kind.exitCode := by
  cases h with
  | rejected some errors =>
    obtain ⟨entry, mem⟩ := List.exists_mem_of_ne_nil wrong some
    have failed : ScriptSession.hasErrors wrong = true :=
      List.any_eq_true.mpr ⟨entry, mem, by simp [Diagnostic.isError, errors entry mem]⟩
    simp [exitCode, hasErrors, failed, Kind.exitCode]
  | failed => rfl
  | cancelled => rfl
  | completed _ warnings =>
    simp [exitCode, hasErrors, warnings_of_harmless.mpr warnings, Kind.exitCode]

end Evaluation.Shows

/-- An evaluator that does not break gives an evaluation of one of the kinds. -/
theorem conclude_shows {finish : Finish} (unbroken : ∀ chain, finish ≠ .crashed chain)
    (fragments : List Fragment) {warnings : List Diagnostic} (harmless : hasErrors warnings = false) :
    ∃ e kind, (Session.conclude {} finish ⟨Fragment.merged fragments, fragments⟩ warnings).1 = .ok e ∧
      e.Shows [] kind := by
  have warnings := warnings_of_harmless.mp harmless
  cases finish with
  | completed | exited => exact ⟨_, _, rfl, .completed rfl warnings⟩
  | failed => exact ⟨_, _, rfl, .failed rfl warnings⟩
  | cancelled => exact ⟨_, _, rfl, .cancelled rfl⟩
  | crashed chain => exact absurd rfl (unbroken chain)

/-! ## How processes end -/

/-- Whatever the replies, the process gives such a result. -/
def Process.Gives {σ α : Type} (R : α → Prop) : Process σ α → Prop
  | .done _ a => R a
  | .call _ _ resume => ∀ reply, Gives R (resume reply)

theorem Process.Gives.bind {σ α β : Type} {P : α → Prop} {R : β → Prop} {p : Process σ α}
    {next : σ → α → Process σ β} (h : p.Gives P) (goes : ∀ s a, P a → (next s a).Gives R) :
    (p.bind next).Gives R := by
  induction p with
  | done s a => exact goes s a h
  | call s request resume ih => exact fun reply => ih reply (h reply)

theorem Process.gives_true {σ α : Type} (p : Process σ α) : p.Gives fun _ => True := by
  induction p with
  | done => trivial
  | call s request resume ih => exact ih

theorem play_gives {σ ω : Type} {policy : Policy ω} {R : Finish → Prop} {p : Process σ Finish}
    (h : p.Gives R) (live : Live) (w : ω) {s : σ} {finish : Finish}
    (finished : (p.play policy live w).1 = .finished s finish) : R finish := by
  induction p generalizing live w with
  | done =>
    cases finished
    exact h
  | call s request resume ih =>
    cases request with
    | emit | warn | aborted | generation | consoleDepth => exact ih _ (h _) _ _ finished
    | readLine prompt =>
      simp only [Process.play] at finished
      split at finished
      · exact ih _ (h _) _ _ finished
      · split at finished
        · exact ih _ (h _) _ _ finished
        · cases finished
    | sleep millis =>
      simp only [Process.play] at finished
      split at finished
      · exact ih _ (h _) _ _ finished
      · split at finished
        · exact ih _ (h _) _ _ finished
        · cases finished

/-! ## Answers and interrupts alone -/

namespace Schedule

/-- Nobody gives the evaluation up. -/
def Stays (upcoming : List Scheduled) : Prop := ∀ event ∈ upcoming, Action.abandon ∉ event.actions

theorem act_stays (live : Live) {actions : List Action} (stays : Action.abandon ∉ actions) :
    ∃ responses, (act live actions).1 = some responses := by
  induction actions generalizing live with
  | nil => exact ⟨[], rfl⟩
  | cons action rest ih =>
    have rests : Action.abandon ∉ rest := fun mem => stays (List.mem_cons_of_mem _ mem)
    cases action with
    | answer text =>
      obtain ⟨responses, acted⟩ := ih (live.answer text).2 rests
      exact ⟨_, congrArg (Option.map _) acted⟩
    | interrupt =>
      obtain ⟨responses, acted⟩ := ih { live with desk := (retire live.desk).2 } rests
      exact ⟨_, congrArg (Option.map _) acted⟩
    | abandon => exact absurd List.mem_cons_self stays

theorem awaitLine_stays (id : Nat) {upcoming : List Scheduled} (stays : Stays upcoming) (live : Live)
    (w : Schedule) : ∃ line live' w',
      awaitLine id live w upcoming = (.resume line, live', w') ∧ Stays w'.upcoming := by
  induction upcoming generalizing live w with
  | nil => exact ⟨_, _, _, rfl, stays⟩
  | cons event rest ih =>
    obtain ⟨first, rests⟩ := List.forall_mem_cons.mp stays
    rw [awaitLine_cons]
    obtain ⟨responses, acted⟩ := act_stays (w.reach live event) first
    simp only [acted]
    split
    · exact ⟨_, _, _, rfl, rests⟩
    · exact ih rests _ _

theorem awaitTime_stays (deadline : Nat) {upcoming : List Scheduled} (stays : Stays upcoming)
    (live : Live) {w : Schedule} (all : Stays w.upcoming) : ∃ passed live' w',
      awaitTime deadline live w upcoming = (.resume passed, live', w') ∧ Stays w'.upcoming := by
  induction upcoming generalizing live w with
  | nil => exact ⟨_, _, _, rfl, all⟩
  | cons event rest ih =>
    obtain ⟨first, rests⟩ := List.forall_mem_cons.mp stays
    unfold awaitTime
    cases event.after with
    | none => exact ⟨_, _, _, rfl, all⟩
    | some after =>
      dsimp only
      split
      · exact ⟨_, _, _, rfl, all⟩
      · obtain ⟨responses, acted⟩ := act_stays (live.advanceTo (w.dueTime live after)) first
        simp only [acted]
        split
        · exact ⟨_, _, _, rfl, rests⟩
        · exact ih rests _ rests

theorem play_stays {σ : Type} (p : Process σ Finish) (live : Live) {w : Schedule}
    (stays : Stays w.upcoming) : ∃ s finish, (p.play policy live w).1 = .finished s finish := by
  induction p generalizing live w with
  | done s finish => exact ⟨s, finish, rfl⟩
  | call s request resume ih =>
    cases request with
    | emit | warn | aborted | generation | consoleDepth => exact ih _ _ stays
    | readLine prompt =>
      simp only [Process.play]
      split
      · exact ih _ _ stays
      · obtain ⟨line, live', w', waited, stays'⟩ :=
          awaitLine_stays (live.desk.enqueue prompt live.token none).1 stays
            { live with desk := (live.desk.enqueue prompt live.token none).2 } w
        simp only [policy, waited]
        exact ih _ _ stays'
    | sleep millis =>
      simp only [Process.play]
      split
      · exact ih _ _ stays
      · obtain ⟨passed, live', w', waited, stays'⟩ :=
          awaitTime_stays (live.clock + millis) stays live stays
        simp only [policy, waited]
        exact ih _ _ stays'

end Schedule

/-! ## The command language -/

namespace Script

theorem tokenize_errors {text : String} {errors : List LexicalError}
    (wrong : tokenize text = .error errors) : errors ≠ [] := by
  unfold tokenize at wrong
  dsimp only at wrong
  split at wrong
  · cases wrong
  · rename_i some
    cases wrong
    exact some

theorem parse_errors {tokens : List Token} {errors : List GroupingError}
    (wrong : parse tokens = .error errors) : errors ≠ [] := by
  rw [parse_eq] at wrong
  split at wrong
  · cases wrong
  · rename_i some
    cases wrong
    exact some

/-- What is wrong with a text are errors. -/
theorem statements_errors {text : String} {entries : List Diagnostic}
    (wrong : statements text = .error entries) :
    entries ≠ [] ∧ ∀ entry ∈ entries, entry.severity = .error := by
  unfold statements at wrong
  split at wrong
  · rename_i errors lexical
    cases wrong
    refine ⟨List.map_eq_nil_iff.not.mpr (tokenize_errors lexical), ?_⟩
    simp [LexicalError.diagnostic, Diagnostic.error]
  · split at wrong
    · rename_i errors grouping
      cases wrong
      refine ⟨List.map_eq_nil_iff.not.mpr (parse_errors grouping), ?_⟩
      simp [GroupingError.diagnostic, Diagnostic.error]
    · cases wrong

theorem outcome_unbroken (span : Span) (result : Except Stop Value) (chain : List String) :
    Outcome.ofResult span result ≠ .crashed chain := by
  unfold Outcome.ofResult
  split <;> nofun

theorem reduce_unbroken (env : Environment) (s : Statement) :
    (reduce env s).Gives fun outcome => ∀ chain, outcome ≠ .crashed chain :=
  (Process.gives_true _).bind fun _ result _ => outcome_unbroken s.expr.span result

theorem run_unbroken (default : String) (statements : List Statement) (env : Environment) :
    ((language default).run statements env).Gives fun finish => ∀ chain, finish ≠ .crashed chain := by
  induction statements generalizing env with
  | nil => exact nofun
  | cons s rest ih =>
    intro aborted
    cases aborted with
    | true => exact nofun
    | false =>
      refine (reduce_unbroken env s).bind fun env' outcome unbroken => ?_
      cases outcome with
      | value text => exact fun _ => ih env'
      | unit => exact ih env'
      | crashed chain => exact absurd rfl (unbroken chain)
      | _ => exact nofun

end Script

/-! ## Evaluations -/

namespace Session

open Script (language)

section

variable {B : Backend} {s : Session B} {text : String} {entries : List Diagnostic}

/-- Answers and interrupts alone end no evaluation without a result. -/
theorem Evaluates.given {events : List Scheduled} (stays : Schedule.Stays events)
    {channel : Option Channel} {result : Option (Except SessionError Evaluation)} {after : Session B}
    (h : s.Evaluates Schedule.policy { upcoming := events } channel text result after) :
    result ≠ none := by
  cases h with
  | refused | rejected => exact nofun
  | @launched statements ending live w' _ _ played =>
    obtain ⟨env, finish, finished⟩ := Schedule.play_stays (s.launch channel statements).process
      (s.launch channel statements).live (w := { upcoming := events }) stays
    rw [played] at finished
    cases finished
    exact nofun

theorem check_error (wrong : B.statements text = .error entries) : s.check text = entries := by
  rw [check, wrong]

theorem check_ok {statements : List B.Statement} (right : B.statements text = .ok statements) :
    s.check text = [] := by
  rw [check, right]

end

variable {default : String} {s : Session (language default)}

/-- Statements of the command language that run to their end give an evaluation of some kind. -/
theorem settle_shows {ω : Type} {policy : Policy ω} (fair : policy.Fair) {w w' : ω} (rest : s.AtRest)
    {channel : Option Channel} {statements : List Script.Statement} {env : Script.Environment}
    {finish : Finish} {live : Live}
    (played : (s.launch channel statements).process.play policy (s.launch channel statements).live w =
      (.finished env finish, live, w')) :
    ∃ e kind, (settle (s.launch channel statements) (.finished env finish) live).1 = some (.ok e) ∧
      e.Shows [] kind := by
  have steady : (s.launch channel statements).live.Steady s.console.installed [] none :=
    launch_steady rest channel statements
  obtain ⟨u, run, ends⟩ := play_ends fair (s.launch channel statements).process steady w
  rw [played] at ends
  have start : Underway.Steady (.running (s.launch channel statements).process
      (s.launch channel statements).live) s.console.installed [] := steady
  obtain ⟨more, steady', -⟩ := start.reaches run
  have unbroken := play_gives (Script.run_unbroken default statements s.environment)
    (s.launch channel statements).live w (congrArg (·.1) played)
  have harmless := (steady'.ends ends).keeps.harmless
  obtain ⟨e, kind, concluded, shows⟩ := conclude_shows unbroken _ harmless
  exact ⟨e, kind, congrArg some concluded, shows⟩

/-- An evaluation that is neither refused nor given up is of one of four kinds. -/
theorem Evaluates.shows {ω : Type} {policy : Policy ω} {w : ω} {channel : Option Channel}
    {text : String} {result : Option (Except SessionError Evaluation)}
    {after : Session (language default)} (h : s.Evaluates policy w channel text result after)
    (fair : policy.Fair) (rest : s.AtRest) (running : s.state ≠ .exited) :
    result = none ∧ s.check text = [] ∨
    ∃ e kind, result = some (.ok e) ∧ e.Shows (s.check text) kind := by
  cases h with
  | refused terminated => exact absurd terminated running
  | rejected _ wrong =>
    obtain ⟨some, errors⟩ := Script.statements_errors wrong
    rw [check_error wrong]
    exact .inr ⟨_, _, rfl, .rejected some errors⟩
  | @launched statements ending live w' _ right played =>
    rw [check_ok right]
    cases ending with
    | givenUp env => exact .inl ⟨rfl, rfl⟩
    | finished env finish => exact .inr (settle_shows fair rest played)

/-- An evaluation of the command language shows that its text is rejected, which is exactly if
something is wrong with the text and then nothing starts, or that its statements failed, were cancelled
or completed. Only the last may end the session, and the exit code tells the kinds apart but for the
first two. With answers and interrupts alone there always is an evaluation, unless the session is
over. -/
theorem evaluations_of_four_kinds (default continuationPrompt : String) (ops : List Operation)
    (channel : Option Channel) (text : String) :
    let s := (fresh (language default) continuationPrompt).after ops
    (s.state = .exited → ∀ around : Surroundings,
      (s.evaluate around.policy around.start channel text).result = some (.error .terminated)) ∧
    (s.state ≠ .exited → ∀ around : Surroundings,
      let done := s.evaluate around.policy around.start channel text
      done.result = none ∧ s.check text = [] ∨
      ∃ e kind, done.result = some (.ok e) ∧ e.Shows (s.check text) kind ∧
        (kind = .rejected ↔ s.check text ≠ []) ∧
        (kind = .rejected → (∀ started, s.accept channel text ≠ .started started) ∧
          done.session.environment = s.environment ∧
          done = { session := s.rejected, result := some (.ok e), policyState := around.start }) ∧
        (e.shouldExit = true → kind = .completed) ∧
        (e.exitCode = 0 ↔ kind = .completed) ∧
        (e.exitCode = 1 ↔ kind = .rejected ∨ kind = .failed) ∧
        (e.exitCode = 130 ↔ kind = .cancelled)) ∧
    (s.state ≠ .exited → ∀ events, Schedule.Stays events →
      ∃ e, (s.evaluateScheduled events channel text).result = some (.ok e)) := by
  intro s
  have rest : s.AtRest := after_atRest (fresh_atRest continuationPrompt) ops
  have evaluates : ∀ around : Surroundings, s.Evaluates around.policy around.start channel text
      (s.evaluate around.policy around.start channel text).result
      (s.evaluate around.policy around.start channel text).session := fun around =>
    evaluate_cases s around.policy around.start channel text
  refine ⟨fun terminated around => ?_, fun running around => ?_, fun running events stays => ?_⟩
  · exact congrArg Evaluated.result ((over_of_exited terminated).evaluate ..)
  · refine ((evaluates around).shows around.fair rest running).imp_right ?_
    rintro ⟨e, kind, result, shows⟩
    refine ⟨e, kind, result, shows, shows.rejected_iff, fun rejected => ?_,
      shows.completed_of_shouldExit, ?_⟩
    · cases parsed : (language default).statements text with
      | ok statements => exact absurd (check_ok parsed) (shows.rejected_iff.mp rejected)
      | error entries =>
        have done := evaluate_rejected running parsed around.policy around.start channel
        rw [done] at result ⊢
        cases result
        refine ⟨fun started accepted => ?_, rfl, rfl⟩
        cases (accept_rejected running parsed channel).symm.trans accepted
    · rw [shows.exitCode_eq]
      cases kind <;> decide
  · obtain ⟨e, kind, result, -⟩ := ((evaluates (.scheduled events)).shows Schedule.policy_fair rest
      running).resolve_left fun none => Evaluates.given stays (evaluates (.scheduled events)) none.1
    exact ⟨e, result⟩

/-- Nobody answers: a parenthesis is not matched, a statement fails behind one that wrote something, a
line is asked for in vain, and a session ends behind a warning. -/
theorem every_kind_met :
    let s := fresh (language "> ") ".."
    ∀ met ∈ [(")", Evaluation.Kind.rejected), ("print 1; fail \"no\"", .failed),
        ("readline", .cancelled), ("set print 1; exit", .completed)],
      ∃ e, (s.evaluateScheduled [] none met.1).result = some (.ok e) ∧
        e.Shows (s.check met.1) met.2 := by
  intro s met mem
  have computed : ∀ met ∈ [(")", Evaluation.Kind.rejected), ("print 1; fail \"no\"", .failed),
      ("readline", .cancelled), ("set print 1; exit", .completed)],
      (s.evaluateScheduled [] none met.1).result.map (·.toOption.map (·.exitCode)) =
          some (some met.2.exitCode) ∧
        (met.2 = .rejected ↔ s.check met.1 ≠ []) := by
    decide +kernel
  obtain ⟨code, rejected⟩ := computed met mem
  obtain ⟨-, kinds, given⟩ := evaluations_of_four_kinds "> " ".." [] none met.1
  have running : s.state ≠ .exited := nofun
  obtain ⟨e, result⟩ := given running [] nofun
  obtain ⟨none, -⟩ | ⟨e', kind, result', shows, -⟩ := kinds running (.scheduled [])
  · cases result.symm.trans none
  · cases result.symm.trans result'
    have shows : e.Shows (s.check met.1) kind := shows
    have result : (s.evaluateScheduled [] none met.1).result = some (.ok e) := result
    simp only [result, Option.map_some, Except.toOption, Option.some.injEq] at code
    rw [← shows.rejected_iff] at rejected
    rw [shows.exitCode_eq] at code
    exact ⟨e, result, Evaluation.Kind.eq_of_exitCode code rejected ▸ shows⟩

end Session

end ScriptSession
