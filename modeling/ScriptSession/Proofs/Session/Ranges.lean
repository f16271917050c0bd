import ScriptSession.Proofs.Script.Inside
import ScriptSession.Proofs.Script.Pointing
import ScriptSession.Proofs.Session.Forgetting
import ScriptSession.Proofs.Session.Kinds

/-!
# Which text a diagnostic is about

Ranges say nothing of the text that they are about. What is wrong with a text is found inside of it,
and warnings are about it as well. A failure may be found in the body of a procedure, and procedures
outlive the evaluation that defines them: then the range lies inside an earlier text, evaluated since
the last reset (`diagnostics_point_into_texts`), and perhaps nowhere in the one that is evaluated
(`failure_in_earlier_text`).

While an evaluation is under way, its warnings so far and all that is still to come point at such
places (`Underway.Points`). So do the procedures that it leaves, hence those of every session
(`Session.globals_after`).
-/
namespace ScriptSession

/-! ## Runs -/

namespace Live

/-- Every warning so far is at such a place. -/
def WarnedAt (P : Span → Prop) (live : Live) : Prop :=
  ∀ entry ∈ live.warnings, ∃ place ∈ entry.range, P place

variable {P : Span → Prop} {live after : Live}

theorem Meanwhile.warnings_eq (moves : live.Meanwhile after) : after.warnings = live.warnings := by
  induction moves with
  | start => rfl
  | answer _ _ ih | interrupt _ ih | advance _ _ ih | read _ ih | hangUp _ ih => exact ih

theorem WarnedAt.congr (h : live.WarnedAt P) (same : after.warnings = live.warnings) :
    after.WarnedAt P := by
  unfold WarnedAt
  rwa [same]

theorem WarnedAt.serve (h : live.WarnedAt P) {request : Call} {reply : request.Reply}
    (warns : request.WarnsAt P) (served : live.serve request = some (reply, after)) :
    after.WarnedAt P := by
  cases request with
  | warn message range =>
    cases served
    exact List.forall_mem_append.mpr ⟨h, List.forall_mem_singleton.mpr warns⟩
  | emit | aborted | generation | consoleDepth =>
    cases served
    exact h
  | readLine prompt =>
    obtain ⟨-, -, rfl⟩ := served_readLine served
    exact h
  | sleep millis =>
    obtain ⟨-, -, rfl⟩ := served_sleep served
    exact h

end Live

namespace Underway

variable {σ : Type} {T : Span → Prop} {S : σ → Prop} {E : σ → Finish → Prop} {u v : Underway σ}

/-- The warnings so far and those to come are at such places, and so are states and ends. -/
def Points (T : Span → Prop) (S : σ → Prop) (E : σ → Finish → Prop) : Underway σ → Prop
  | running process live => live.WarnedAt T ∧ process.Guarded (Call.WarnsAt T) S E
  | asking s resume _ live =>
    live.WarnedAt T ∧ S s ∧ ∀ line, (resume line).Guarded (Call.WarnsAt T) S E
  | pausing s resume _ live =>
    live.WarnedAt T ∧ S s ∧ ∀ passed, (resume passed).Guarded (Call.WarnsAt T) S E

theorem Points.step (h : u.Points T S E) (step : Step u v) : v.Points T S E := by
  cases step with
  | serve served =>
    obtain ⟨warned, warns, -, later⟩ := h
    exact ⟨warned.serve warns served, later _⟩
  | ask | pause =>
    obtain ⟨warned, -, state, later⟩ := h
    exact ⟨warned, state, later⟩
  | askingMeanwhile moves | pausingMeanwhile moves =>
    obtain ⟨warned, state, later⟩ := h
    exact ⟨warned.congr moves.warnings_eq, state, later⟩
  | settled found =>
    obtain ⟨warned, -, later⟩ := h
    exact ⟨warned.congr (Live.warnings_of_reply? found), later _⟩
  | elapsed | cut =>
    obtain ⟨warned, -, later⟩ := h
    exact ⟨warned, later _⟩

theorem Points.reaches (h : u.Points T S E) (run : Reaches u v) : v.Points T S E := by
  induction run with
  | refl => exact h
  | tail _ step ih => exact ih.step step

theorem Points.ends (h : u.Points T S E) {ending : Ending σ} {live : Live}
    (ends : u.Ends ending live) : live.WarnedAt T ∧
      match ending with
      | .finished s finish => E s finish
      | .givenUp s => S s := by
  cases ends with
  | finished => exact h
  | askingGivenUp | pausingGivenUp => exact ⟨h.1, h.2.1⟩

end Underway

namespace Session

/-- The texts that were evaluated since the last reset, the latest first. -/
def evaluatedTexts {B : Backend} (past : List (Session B × Operation)) : List String :=
  (sinceReset past).filterMap fun entry => entry.1.admitted? entry.2

theorem evaluatedTexts_concat {B : Backend} (past : List (Session B × Operation)) (s : Session B)
    (op : Operation) : evaluatedTexts (past ++ [(s, op)]) =
      if op.isReset then [] else (s.admitted? op).toList ++ evaluatedTexts past := by
  unfold evaluatedTexts sinceReset
  rw [List.reverse_append, List.reverse_singleton, List.singleton_append, List.takeWhile_cons]
  cases op.isReset with
  | true => rfl
  | false =>
    simp only [Bool.not_false, if_true, Bool.false_eq_true, if_false, List.filterMap_cons]
    cases s.admitted? op <;> rfl

open Script (language textSpans Bindings)

variable {default : String} {s after : Session (language default)}

/-- The place is in the body of a procedure that is bound globally. -/
def InProcedure (s : Session (language default)) (place : Span) : Prop :=
  ∃ name closure, (name, Script.Value.procedure closure) ∈ s.environment.globals ∧
    place ∈ closure.body.spans

/-- The places that an evaluation of the text may point at: those of its expressions, and those in
procedures from before. -/
def Known (s : Session (language default)) (text : String) (place : Span) : Prop :=
  place ∈ textSpans text ∨ s.InProcedure place

theorem InProcedure.congr {s' : Session (language default)} {place : Span}
    (h : s'.InProcedure place) (same : s'.environment = s.environment) : s.InProcedure place := by
  unfold InProcedure at *
  rwa [← same]

theorem globals_known (s : Session (language default)) (text : String) :
    Bindings.Within (s.Known text) s.environment.globals := by
  rintro ⟨name, value⟩ bound place there
  cases value with
  | procedure closure => exact .inr ⟨name, closure, bound, there⟩
  | int | str | bool | nil | builtin => cases there

/-! ## Evaluations -/

/-- What an evaluation reports are its warnings, behind its failure if it failed. -/
theorem logs_conclude {finish : Finish} {collected : Collected} {warnings : List Diagnostic}
    {e : Evaluation} (concluded : (conclude {} finish collected warnings).1 = .ok e) :
    ∀ entry ∈ e.logs, entry ∈ warnings ∨
      ∃ message range, finish = .failed message range ∧ entry = .error message range := by
  cases finish with
  | completed | exited =>
    cases concluded
    exact fun _ => .inl
  | failed message range =>
    cases concluded
    intro entry mem
    rcases List.mem_cons.mp mem with rfl | later
    · exact .inr ⟨message, range, rfl, rfl⟩
    · exact .inl later
  | cancelled =>
    cases concluded
    exact nofun
  | crashed => cases concluded

/-- Whatever statements report and leave when they run is at a place in their text, or in the body of
a procedure from before. -/
theorem launch_points {ω : Type} {policy : Policy ω} (fair : policy.Fair) (rest : s.AtRest)
    {channel : Option Channel} {text : String} {statements : List Script.Statement}
    (parsed : Script.statements text = .ok statements) {w w' : ω}
    {ending : Ending Script.Environment} {live : Live}
    (played : (s.launch channel statements).process.play policy (s.launch channel statements).live w =
      (ending, live, w')) :
    live.WarnedAt (· ∈ textSpans text) ∧ Bindings.Within (s.Known text) ending.state.globals ∧
      ∀ env finish, ending = .finished env finish → finish.FailsAt (s.Known text) := by
  have start : (Underway.running (s.launch channel statements).process
      (s.launch channel statements).live).Points (· ∈ textSpans text)
      (fun env => Bindings.Within (s.Known text) env.globals)
      (fun env finish => Bindings.Within (s.Known text) env.globals ∧
        finish.FailsAt (s.Known text)) := by
    refine ⟨nofun, Script.run_points default ?_ (s.globals_known text)⟩
    intro statement mem place there
    have here : place ∈ textSpans text := by
      unfold textSpans Script.parsed
      rw [parsed]
      exact List.mem_flatMap.mpr ⟨statement, mem, there⟩
    exact ⟨.inl here, fun _ => here⟩
  obtain ⟨u, run, ends⟩ := play_ends fair (s.launch channel statements).process
    (launch_steady rest channel statements) w
  rw [played] at ends
  obtain ⟨warned, reached⟩ := (start.reaches run).ends ends
  refine ⟨warned, ?_⟩
  cases ending with
  | finished env finish =>
    refine ⟨reached.1, ?_⟩
    rintro _ _ ⟨⟩
    exact reached.2
  | givenUp env => exact ⟨reached, nofun⟩

/-- What may be reported of a text: it is found inside of it, or it is a failure in the body of a
procedure from before. -/
def Reports (s : Session (language default)) (text : String) (entry : Diagnostic) : Prop :=
  ∃ place ∈ entry.range, place.Inside text.toList ∨
    entry.severity = .error ∧ s.check text = [] ∧ s.InProcedure place

section

variable {ω : Type} {policy : Policy ω} {w : ω} {channel : Option Channel} {text : String}
  {result : Option (Except SessionError Evaluation)}

theorem Evaluates.reports (h : s.Evaluates policy w channel text result after) (fair : policy.Fair)
    (rest : s.AtRest) {e : Evaluation} (given : result = some (.ok e)) :
    ∀ entry ∈ e.logs, s.Reports text entry := by
  cases h with
  | refused => cases given
  | rejected _ wrong =>
    cases given
    intro entry mem
    obtain ⟨place, there, inside⟩ := Script.statements_error_inside wrong entry mem
    exact ⟨place, there, .inl inside⟩
  | @launched statements ending live w' _ right played =>
    obtain ⟨warned, -, fails⟩ := launch_points fair rest right played
    have inside := Script.textSpans_inside text
    cases ending with
    | givenUp env => cases given
    | finished env finish =>
      have concluded := Option.some.inj given
      intro entry mem
      rcases logs_conclude concluded entry mem with warning | ⟨message, range, rfl, rfl⟩
      · obtain ⟨place, there, here⟩ := warned entry warning
        exact ⟨place, there, .inl (inside place here)⟩
      · obtain ⟨place, there, here | called⟩ := fails env _ rfl
        · exact ⟨place, there, .inl (inside place here)⟩
        · exact ⟨place, there, .inr ⟨rfl, check_ok right, called⟩⟩

theorem Evaluates.globals (h : s.Evaluates policy w channel text result after) (fair : policy.Fair)
    (rest : s.AtRest) : Bindings.Within (s.Known text) after.environment.globals := by
  cases h with
  | refused => exact s.globals_known text
  | rejected => exact s.globals_known text
  | launched _ right played =>
    rw [settle_session]
    exact (launch_points fair rest right played).2.1

end

/-! ## Operations -/

/-- An operation evaluates a text, or it gives no evaluation and leaves the bindings as they are, unless
it is a reset. -/
theorem Performs.evaluates_or {op : Operation} {result : Option (Except SessionError Evaluation)}
    (h : s.Performs op result after) (rest : s.AtRest) :
    (∃ (s' : Session (language default)) (text : String) (around : Surroundings)
      (channel : Option Channel), s.admitted? op = some text ∧ op.isReset = false ∧ s'.AtRest ∧
        s'.environment = s.environment ∧
        s'.Evaluates around.policy around.start channel text result after) ∨
    s.admitted? op = none ∧ (∀ e, result ≠ some (.ok e)) ∧
      after.environment = if op.isReset then (language default).initial else s.environment := by
  cases h with
  | @evaluate text channel around _ _ evaluates =>
    by_cases terminated : s.state = .exited
    · cases evaluates with
      | refused => exact .inr ⟨if_pos terminated, nofun, rfl⟩
      | rejected running | launched running => exact absurd terminated running
    · exact .inl ⟨s, text, around, channel, if_neg terminated, rfl, rest, rfl, evaluates⟩
  | refused terminated => exact .inr ⟨if_pos terminated, nofun, rfl⟩
  | unassembled terminated => exact .inr ⟨if_pos terminated, nofun, rfl⟩
  | continued running continued =>
    exact .inr ⟨by simp [admitted?, continued], nofun, rfl⟩
  | @completed line around statement _ _ running complete evaluates =>
    refine .inl ⟨s.gathered line, statement.text, around, none, ?_, rfl, gathered_atRest rest line, rfl,
      evaluates⟩
    simp [admitted?, running, complete]
  | assembled running => exact .inr ⟨by simp [admitted?], nofun, rfl⟩
  | interrupt | interruptEvaluation | answer => exact .inr ⟨by simp [admitted?], nofun, rfl⟩
  | reset => exact .inr ⟨by simp [admitted?], nofun, rfl⟩

/-- The procedures of a session were written since its last reset. -/
theorem globals_after (default continuationPrompt : String) (ops : List Operation) :
    let past := (fresh (language default) continuationPrompt).past ops
    let s := (fresh (language default) continuationPrompt).after ops
    Bindings.Within (fun place => ∃ text ∈ evaluatedTexts past, place ∈ textSpans text)
      s.environment.globals := by
  -- An operation needs a session at rest to start from, so that is carried along.
  refine (after_induction (s := fresh (language default) continuationPrompt) (P := fun past s =>
    s.AtRest ∧ Bindings.Within (fun place => ∃ text ∈ evaluatedTexts past, place ∈ textSpans text)
      s.environment.globals) ?_ ?_ ops).2
  · exact ⟨fresh_atRest continuationPrompt, nofun⟩
  · rintro past s op ⟨rest, written⟩
    refine ⟨(s.performs op).atRest rest, ?_⟩
    rw [evaluatedTexts_concat]
    rcases (s.performs op).evaluates_or rest with
      ⟨s', text, around, channel, admitted, running, rest', same, evaluates⟩ | ⟨none, -, left⟩
    · rw [running, admitted]
      intro entry bound place there
      rcases evaluates.globals around.fair rest' entry bound place there with here | before
      · exact ⟨text, List.mem_cons_self, here⟩
      · obtain ⟨name, closure, bound, there⟩ := before.congr same
        obtain ⟨earlier, mem, there⟩ := written _ bound place there
        exact ⟨earlier, List.mem_cons_of_mem text mem, there⟩
    · rw [left, none]
      cases op.isReset with
      | true => exact nofun
      | false => exact written

/-- Everything that is reported of a text has a range. What is wrong with the text lies inside of it,
and so does every warning. A failure lies inside of it as well, or in the body of a procedure that was
bound globally before; what stands there lies inside of a text that was evaluated since the last
reset. -/
theorem diagnostics_point_into_texts (default continuationPrompt : String) (ops : List Operation) :
    let past := (fresh (language default) continuationPrompt).past ops
    let s := (fresh (language default) continuationPrompt).after ops
    (∀ text, ∀ entry ∈ s.check text, ∃ place ∈ entry.range, place.Inside text.toList) ∧
    (∀ op text e, s.admitted? op = some text → s.given op = some (.ok e) →
      ∀ entry ∈ e.logs, s.Reports text entry) ∧
    ∀ place, s.InProcedure place → ∃ earlier ∈ evaluatedTexts past, place.Inside earlier.toList := by
  intro past s
  have rest : s.AtRest := after_atRest (fresh_atRest continuationPrompt) ops
  refine ⟨fun text => ?_, fun op text e admitted given => ?_, ?_⟩
  · cases parsed : (language default).statements text with
    | ok statements =>
      rw [check_ok parsed]
      exact nofun
    | error entries =>
      rw [check_error parsed]
      exact Script.statements_error_inside parsed
  · rcases (s.performs op).evaluates_or rest with
      ⟨s', text', around, channel, admitted', -, rest', same, evaluates⟩ | ⟨none, -⟩
    · cases admitted.symm.trans admitted'
      intro entry mem
      obtain ⟨place, there, inside | ⟨error, right, called⟩⟩ :=
        evaluates.reports around.fair rest' given entry mem
      · exact ⟨place, there, .inl inside⟩
      · exact ⟨place, there, .inr ⟨error, right, called.congr same⟩⟩
    · cases admitted.symm.trans none
  · rintro place ⟨name, closure, bound, there⟩
    obtain ⟨earlier, mem, written⟩ :=
      globals_after default continuationPrompt ops _ bound place there
    exact ⟨earlier, mem, Script.textSpans_inside earlier place written⟩

/-- A procedure that fails for every number. -/
def definesFailing : Operation :=
  .evaluate "set f (fun x (add x \"a\"))" none (.scheduled [])

/-- The failure and the warning of one evaluation are about two texts: the one where the procedure was
written, which is longer, and the one that calls it. A parenthesis alone is wrong where it stands. -/
theorem reports_about_two_texts :
    let text := "set print 1; f 1"
    let op : Operation := .evaluate text none (.scheduled [])
    let s := (fresh (language "> ") "..").after [definesFailing]
    let body : Span := ⟨⟨1, 14, 13⟩, ⟨1, 24, 23⟩⟩
    let name : Span := ⟨⟨1, 5, 4⟩, ⟨1, 9, 9⟩⟩
    s.admitted? op = some text ∧
    s.given op = some (.ok { logs := [.error "add: expected int, got string" (some body),
      .warning "shadowing builtin 'print'" (some name)] }) ∧
    s.InProcedure body ∧ body.Inside "set f (fun x (add x \"a\"))".toList ∧
    name.Inside text.toList ∧
    ∃ entry ∈ s.check ")", ∃ place ∈ entry.range, place.Inside ")".toList := by
  intro text op s body name
  have admitted : s.admitted? op = some text := by decide +kernel
  have given : s.given op = some (.ok { logs := [.error "add: expected int, got string" (some body),
      .warning "shadowing builtin 'print'" (some name)] }) := by
    decide +kernel
  have texts : evaluatedTexts ((fresh (language "> ") "..").past [definesFailing]) =
      ["set f (fun x (add x \"a\"))"] := by
    decide +kernel
  have wrong : s.check ")" = [.error "unexpected ')'" (some (.point .first))] := by decide +kernel
  obtain ⟨checked, reports, written⟩ := diagnostics_point_into_texts "> " ".." [definesFailing]
  have found : Diagnostic.error "unexpected ')'" (some (.point .first)) ∈ s.check ")" :=
    wrong ▸ List.mem_cons_self
  obtain ⟨first, second⟩ := List.forall_mem_cons.mp (reports op text _ admitted given)
  have called : s.InProcedure body := by
    obtain ⟨place, there, inside | ⟨-, -, called⟩⟩ := first
    · cases there
      exact absurd inside.stop.column_le (by decide)
    · cases there
      exact called
  have warned : name.Inside text.toList := by
    obtain ⟨place, there, inside | ⟨error, -⟩⟩ := List.forall_mem_singleton.mp second
    · cases there
      exact inside
    · cases error
  obtain ⟨earlier, mem, inside⟩ := written body called
  rw [texts] at mem
  exact ⟨admitted, given, called, List.mem_singleton.mp mem ▸ inside, warned, _, found,
    checked ")" _ found⟩

/-- A failure is reported in a column that the text does not have. -/
theorem failure_in_earlier_text :
    let s := (fresh (language "> ") "..").after [definesFailing]
    ∃ e entry place, s.given (.evaluate "f 1" none (.scheduled [])) = some (.ok e) ∧ entry ∈ e.logs ∧
      place ∈ entry.range ∧ ¬ place.Inside "f 1".toList := by
  intro s
  let body : Span := ⟨⟨1, 14, 13⟩, ⟨1, 24, 23⟩⟩
  let entry := Diagnostic.error "add: expected int, got string" (some body)
  refine ⟨{ logs := [entry] }, entry, body, by decide +kernel, List.mem_cons_self, rfl, fun inside => ?_⟩
  exact absurd inside.stop.column_le (by decide)

end Session

end ScriptSession
