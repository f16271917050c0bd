import ScriptSession.Proofs.Script.Cancelling
import ScriptSession.Proofs.Session.Operations

/-!
# Cancelled evaluations

Once its token is aborted an evaluation of the command language enters nothing, writes no message and
asks for nothing. If it was waiting, it is over as soon as it is looked at again, and what it waited
for does not bind anything any more (`cancelled_evaluation_unwinds`). Only a pause may be over by
then: nobody says which of the two is noticed first, so the evaluation may go on from the pause, and
even complete (`late_poll_completes`).
-/
namespace ScriptSession

/-- Everything that the evaluation has written. -/
def Live.fragments (live : Live) : List Fragment :=
  ((live.console.collector? live.collector).map (·.fragments.toList)).getD []

/-- What scripts wrote themselves, without the results of statements. -/
def Live.messages (live : Live) : List Fragment := live.fragments.filter (!·.isResult)

theorem Live.Keeps.fragments_eq {live : Live} {outer : List Nat} {kept : List Fragment}
    (h : live.Keeps outer kept) : live.fragments = kept := by
  obtain ⟨c, own, fragments⟩ := h.own
  simp [fragments, Live.fragments, own]

namespace Underway

variable {σ : Type} {u v : Underway σ} {outer : List Nat} {kept : List Fragment}

/-- The evaluation is suspended and has no reply: no line, or a pause that is not over. -/
def Waits : Underway σ → Prop
  | running _ _ => False
  | asking _ _ id live => live.reply? id = none
  | pausing _ _ deadline live => live.clock < deadline

instance (u : Underway σ) : Decidable u.Waits :=
  match u with
  | running _ _ => .isFalse id
  | asking _ _ id live => decidable_of_iff ((live.reply? id).isNone = true) Option.isNone_iff_eq_none
  | pausing _ _ deadline live => inferInstanceAs (Decidable (live.clock < deadline))

/-- The evaluation with something else around it. -/
def within (u : Underway σ) (live : Live) : Underway σ :=
  match u with
  | running process _ => running process live
  | asking s resume id _ => asking s resume id live
  | pausing s resume deadline _ => pausing s resume deadline live

theorem live_within (u : Underway σ) (live : Live) : (u.within live).live = live := by
  cases u <;> rfl

theorem Waits.step_within (h : u.Waits) {after : Live} (moves : u.live.Meanwhile after) :
    Step u (u.within after) := by
  match u with
  | running .. => exact h.elim
  | asking .. => exact .askingMeanwhile moves
  | pausing .. => exact .pausingMeanwhile moves

/-- A suspended evaluation is looked at and goes on. -/
def Polls (u v : Underway σ) : Prop := Step u v ∧ ∃ process live, v = running process live

/-- The evaluation pauses, the pause is over by now, and it goes on from there. -/
def Elapses : Underway σ → Underway σ → Prop
  | pausing _ resume deadline live, v => deadline ≤ live.clock ∧ v = running (resume true) live
  | running .., _ | asking .., _ => False

/-- The evaluation does not wait any more. -/
def Finishes : Underway σ → Prop
  | running process live => ∃ s finish after, process.goOn live = running (.done s finish) after
  | asking .. | pausing .. => False

/-- The evaluation heeds its cancellation from there on. -/
def Heeds (same : σ → σ → Prop) : Underway σ → Prop
  | running process live => process.Heeds .cancelled same live.isAborted
  | asking s resume _ _ => (∃ s', resume none = .done s' .cancelled ∧ same s s') ∧
      ∀ text after, (resume (some text)).Heeds .cancelled same after
  | pausing s resume _ _ => (∃ s', resume false = .done s' .cancelled ∧ same s s') ∧
      ∀ after, (resume true).Heeds .cancelled same after

variable {same : σ → σ → Prop}

theorem Heeds.step (h : u.Heeds same) (step : Step u v) : v.Heeds same := by
  cases step with
  | @serve s request resume live reply after served =>
    cases request with
    | emit f =>
      cases served
      exact h.2
    | warn | aborted =>
      cases served
      exact h
    | generation | consoleDepth =>
      cases served
      exact h _
    | readLine prompt =>
      obtain ⟨aborted, -⟩ := Live.served_readLine served
      exact absurd aborted (Bool.eq_false_iff.mp h.1)
    | sleep millis =>
      obtain ⟨aborted, -⟩ := Live.served_sleep served
      exact absurd aborted (Bool.eq_false_iff.mp h.1)
  | ask | pause => exact h.2
  | askingMeanwhile | pausingMeanwhile => exact h
  | @settled _ _ _ _ line after found =>
    cases line with
    | none =>
      obtain ⟨s', ended, -⟩ := h.1
      simp [Heeds, ended, Process.Heeds]
    | some text => exact h.2 text _
  | elapsed => exact h.2 _
  | cut =>
    obtain ⟨s', ended, -⟩ := h.1
    simp [Heeds, ended, Process.Heeds]

theorem Heeds.reaching (h : u.Heeds same) (run : Reaches u v) : v.Heeds same := by
  induction run with
  | refl => exact h
  | tail _ step ih => exact ih.step step

/-- A cancelled evaluation writes nothing but results. -/
theorem Heeds.fragments (h : u.Heeds same) (cut : u.live.isAborted = true) :
    u.fragments.filter (!·.isResult) = [] := by
  match u with
  | asking .. | pausing .. | running (.done ..) _ => rfl
  | running (.call s request resume) live =>
    cases request with
    | emit f =>
      have result : f.isResult = true := h.1 cut
      simp [Underway.fragments, Call.fragments, result]
    | _ => rfl

/-- A cancelled evaluation asks for nothing. -/
theorem Heeds.nextRequest (h : u.Heeds same) (steady : u.Steady outer kept)
    (cut : u.live.isAborted = true) (step : Step u v) :
    v.live.desk.nextRequest = u.live.desk.nextRequest := by
  cases step with
  | @serve s request resume live reply after served =>
    cases request with
    | emit | warn | aborted | generation | consoleDepth =>
      cases served
      rfl
    | readLine prompt => exact absurd cut (Bool.eq_false_iff.mp h.1)
    | sleep millis => exact absurd cut (Bool.eq_false_iff.mp h.1)
  | ask alive | pause alive => exact absurd cut (Bool.eq_false_iff.mp alive)
  | askingMeanwhile moves =>
    obtain ⟨status, waits⟩ := steady
    obtain ⟨asked, steady⟩ := waits.steady
    exact Live.Steady.nextRequest_meanwhile steady moves
  | pausingMeanwhile moves => exact Live.Steady.nextRequest_meanwhile steady moves
  | @settled s resume id live line after found =>
    obtain ⟨⟨reply, desk⟩, fetched, eq⟩ := Option.map_eq_some_iff.mp found
    cases eq
    exact congrArg Front.nextRequest (Desk.front_fetch fetched)
  | elapsed | cut => rfl

theorem Steady.fragments_eq (h : u.Steady outer kept) : u.live.fragments = kept := by
  match u with
  | running .. | pausing .. => exact (Live.Steady.keeps h).fragments_eq
  | asking .. =>
    obtain ⟨status, waits⟩ := h
    obtain ⟨asked, steady⟩ := waits.steady
    exact steady.keeps.fragments_eq

theorem Steady.queue_eq_nil (h : u.Steady outer kept) (cut : u.live.isAborted = true) :
    u.live.desk.queue = [] := by
  match u with
  | running .. | pausing .. => exact (Live.Steady.desk h).queue
  | asking .. =>
    obtain ⟨status, waits⟩ := h
    cases waits with
    | asked _ alive => exact absurd cut (Bool.eq_false_iff.mp alive)
    | settled steady => exact steady.desk.queue

/-- Nothing is written and nothing is asked from the cancellation on. -/
theorem Heeds.reaches (h : u.Heeds same) (steady : u.Steady outer kept)
    (cut : u.live.isAborted = true) (run : Reaches u v) :
    v.live.messages = u.live.messages ∧ v.live.desk.nextRequest = u.live.desk.nextRequest ∧
      v.live.desk.queue = [] := by
  have kept : ∃ kept', v.Steady outer kept' ∧ v.Heeds same ∧ v.live.isAborted = true ∧
      kept'.filter (!·.isResult) = kept.filter (!·.isResult) ∧
      v.live.desk.nextRequest = u.live.desk.nextRequest := by
    induction run with
    | refl => exact ⟨kept, steady, h, cut, rfl, rfl⟩
    | tail _ step ih =>
      obtain ⟨kept', steady', heeds, cut', written, next⟩ := ih
      obtain ⟨steady'', later⟩ := steady'.step step
      refine ⟨_, steady'', heeds.step step, later cut', ?_,
        (heeds.nextRequest steady' cut' step).trans next⟩
      rw [List.filter_append, heeds.fragments cut', List.append_nil, written]
  obtain ⟨kept', steady', -, cut', written, next⟩ := kept
  refine ⟨?_, next, steady'.queue_eq_nil cut'⟩
  rw [Live.messages, Live.messages, steady'.fragments_eq, steady.fragments_eq, written]

/-! ## The next poll -/

theorem finishes_of_aborted (p : Process σ Finish) {live : Live} (cut : live.isAborted = true) :
    (running p live).Finishes := by
  induction p generalizing live with
  | done s finish => exact ⟨s, finish, live, rfl⟩
  | call s request resume ih =>
    obtain ⟨reply, after, served⟩ := Live.served_of_aborted cut request
    obtain ⟨desk, token⟩ := Live.serve_desk served
    have later : after.isAborted = true := by rwa [Live.isAborted, desk, token]
    simp only [Finishes, goOn_serve served]
    exact ih reply later

theorem Elapses.finishes (h : u.Elapses v) (cut : u.live.isAborted = true) : v.Finishes := by
  match u with
  | running .. | asking .. => exact h.elim
  | pausing .. =>
    obtain ⟨-, rfl⟩ := h
    exact finishes_of_aborted _ cut

theorem Steady.aborted_meanwhile (h : u.Steady outer kept) {after : Live}
    (moves : u.live.interrupt.Meanwhile after) : after.isAborted = true := by
  have steady : ∃ asked, u.live.Steady outer kept asked := by
    match u with
    | running .. | pausing .. => exact ⟨_, h⟩
    | asking .. =>
      obtain ⟨status, waits⟩ := h
      exact waits.steady
  obtain ⟨asked, steady⟩ := steady
  obtain ⟨-, -, -, cut⟩ := steady.interrupt.meanwhile moves
  exact cut steady.interrupted

/-- A wait that is cut short is over when the evaluation is looked at, and so is the evaluation,
unless a pause is over by then. -/
theorem Heeds.polls (h : u.Heeds same) (steady : u.Steady outer kept) (waits : u.Waits) {after : Live}
    (moves : u.live.interrupt.Meanwhile after) :
    ∃ s live, (∀ v, (u.within after).Polls v ↔
        v = running (.done s .cancelled) live ∨ (u.within after).Elapses v) ∧
      same u.state s ∧ live.Steady outer kept none := by
  match u with
  | running .. => exact waits.elim
  | asking s resume id live =>
    obtain ⟨status, awaits⟩ := steady
    rcases awaits.reply? with ⟨rfl, -⟩ | ⟨reply, rest, -, found, -⟩
    · obtain ⟨s', ended, unchanged⟩ := h.1
      -- The interrupt is the reply, whatever comes after it.
      obtain ⟨status', awaits', settled⟩ := awaits.interrupt.meanwhile moves
      cases settled .cancelled rfl
      rcases awaits'.reply? with ⟨none, -⟩ | ⟨reply, rest, eq, found, steady', -⟩
      · cases none
      · cases eq
        refine ⟨s', rest, fun v => ⟨?_, ?_⟩, unchanged, steady'⟩
        · rintro ⟨step, p, live', rfl⟩
          cases step with
          | settled found' =>
            cases found.symm.trans found'
            rw [← ended]
            exact .inl rfl
        · rintro (rfl | elapsed)
          · rw [← ended]
            exact ⟨.settled found, _, _, rfl⟩
          · exact elapsed.elim
    · exact absurd found (by rw [show live.reply? id = none from waits]; exact nofun)
  | pausing s resume deadline live =>
    obtain ⟨s', ended, unchanged⟩ := h.1
    have cut := steady.aborted_meanwhile moves
    have steady : live.Steady outer kept none := steady
    obtain ⟨asked, steady', rests, -⟩ := steady.interrupt.meanwhile moves
    cases rests rfl
    refine ⟨s', after, fun v => ⟨?_, ?_⟩, unchanged, steady'⟩
    · rintro ⟨step, p, live', rfl⟩
      cases step with
      | elapsed late => exact .inr ⟨late, rfl⟩
      | cut => exact .inl (by rw [ended])
    · rintro (rfl | ⟨late, rfl⟩)
      · rw [← ended]
        exact ⟨.cut cut, _, _, rfl⟩
      · exact ⟨.elapsed late, _, _, rfl⟩

end Underway

/-- An evaluation that has just started. -/
def Started.begun {B : Backend} (started : Started B) : Underway B.Environment :=
  .running started.process started.live

namespace Session

open Script (announcing)

theorem accept_started {B : Backend} {s : Session B} {channel : Option Channel} {text : String}
    {started : Started B} (accepted : s.accept channel text = .started started) :
    ∃ statements, started = s.launch channel statements := by
  unfold accept at accepted
  split at accepted
  · cases accepted
  · dsimp only at accepted
    split at accepted
    · cases accepted
    · rename_i statements _
      cases accepted
      exact ⟨statements, rfl⟩

/-- What an evaluation that is cut short tells, and what it leaves. -/
theorem settle_cancelled {B : Backend} (s : Session B) (channel : Option Channel)
    (statements : List B.Statement) (env : B.Environment) {live : Live} {outer : List Nat}
    {kept : List Fragment} (steady : live.Steady outer kept none) :
    ∃ session, settle (s.launch channel statements) (.finished env .cancelled) live =
        (some (.ok { cancelled := true, fragments := kept }), session) ∧
      session.state = .idle ∧ session.environment = env := by
  obtain ⟨c, own, fragments⟩ := steady.keeps.own
  have collected : ((live.console.release (s.launch channel statements).scope).finish
      live.collector).1.fragments = kept := by
    unfold Console.collector? at own
    simp [Console.finish, Console.release, Console.collector?, own, fragments]
  refine ⟨(settle (s.launch channel statements) (.finished env .cancelled) live).2,
    Prod.ext ?_ rfl, ?_, ?_⟩
  · rw [← collected]
    rfl
  · rw [settle_session]
    rfl
  · rw [settle_session]
    rfl

/-- Whatever an evaluation announces: once it is cancelled, no more is announced, written or asked
until it ends. If it was waiting, with no line given and its pause not over, it ends when it is looked
at next: as cancelled, with what was written before, and with the globals of that moment. The one
other thing that may happen then is that a pause which is over by that time is noticed first. -/
theorem cancelled_evaluation_unwinds (note : Option String) (default : String)
    {s : Session (announcing note default)} (rest : s.AtRest) {channel : Option Channel}
    {text : String} {started : Started (announcing note default)}
    (accepted : s.accept channel text = .started started)
    {u : Underway (announcing note default).Environment} (run : Reaches started.begun u) :
    (u.live.isAborted = true → ∀ v, Reaches u v →
      v.live.messages = u.live.messages ∧
      v.live.desk.nextRequest = u.live.desk.nextRequest ∧ v.live.desk.queue = []) ∧
    (u.Waits → ∀ after, u.live.interrupt.Meanwhile after →
      (∀ v, (u.within after).Polls v → v.Finishes) ∧
      ∃ (env : Script.Environment) (live : Live) (session : Session (announcing note default)),
        (∀ v, (u.within after).Polls v ↔
          v = .running (.done env .cancelled) live ∨ (u.within after).Elapses v) ∧
        settle started (.finished env .cancelled) live =
          (some (.ok { cancelled := true, fragments := u.live.fragments }), session) ∧
        session.state = .idle ∧ session.environment = env ∧
        env.globals = Script.Environment.globals u.state) := by
  obtain ⟨statements, rfl⟩ := accept_started accepted
  have steady : (s.launch channel statements).begun.Steady s.console.installed [] :=
    launch_steady rest channel statements
  have heeds : (s.launch channel statements).begun.Heeds Script.Environment.Keeps :=
    Script.run_heeds note default statements s.environment _
  obtain ⟨more, steady', -⟩ := steady.reaches run
  have heeds' := heeds.reaching run
  refine ⟨fun cut v later => heeds'.reaches steady' cut later, fun waits after moves => ?_⟩
  obtain ⟨env, live, polls, unchanged, left⟩ := heeds'.polls steady' waits moves
  obtain ⟨session, settled, idle, environment⟩ := settle_cancelled s channel statements env left
  rw [← steady'.fragments_eq] at settled
  have cut : (u.within after).live.isAborted = true := by
    rw [Underway.live_within]
    exact steady'.aborted_meanwhile moves
  refine ⟨fun v polled => ?_, env, live, session, polls, settled, idle, environment, unchanged⟩
  rcases (polls v).mp polled with rfl | elapsed
  · exact ⟨env, .cancelled, live, rfl⟩
  · exact elapsed.finishes cut

/-- A script that waits for a line is interrupted: the builtins entered so far are announced, and no
other one is. -/
theorem question_is_cut_short :
    let s : Session (announcing (some "entered") "> ") := {}
    match s.accept none "print 1; set x (readline)" with
    | .started started =>
      let u := started.process.goOn started.live
      u.Waits ∧ ∃ env live session,
        (∀ v, (u.within u.live.interrupt).Polls v ↔ v = .running (.done env .cancelled) live) ∧
        settle started (.finished env .cancelled) live = (some (.ok
          { cancelled := true
            fragments := [.console .log "entered", .console .log "1", .console .log "entered"] }),
          session) ∧
        (u.live.interrupt.isAborted = true ∧ ∀ v, Reaches (u.within u.live.interrupt) v →
          v.live.messages = u.live.messages)
    | _ => False := by
  intro s
  have computed : (match s.accept none "print 1; set x (readline)" with
    | .started started =>
      let u := started.process.goOn started.live
      (match u with | .asking .. => true | .running .. | .pausing .. => false) && decide u.Waits &&
        u.live.interrupt.isAborted && u.live.fragments ==
          [.console .log "entered", .console .log "1", .console .log "entered"]
    | _ => false) = true := by
    decide +kernel
  cases accepted : s.accept none "print 1; set x (readline)" with
  | refused | rejected =>
    rw [accepted] at computed
    cases computed
  | started started =>
    simp only [accepted, Bool.and_eq_true, decide_eq_true_eq, beq_iff_eq] at computed
    obtain ⟨⟨⟨asks, waits⟩, cut⟩, written⟩ := computed
    have run := reaches_goOn started.process started.live
    have rest : s.AtRest := fresh_atRest ".."
    obtain ⟨-, unwinds⟩ := cancelled_evaluation_unwinds (some "entered") "> " rest accepted run
    obtain ⟨-, env, live, session, polls, settled, -⟩ := unwinds waits _ .start
    have step := waits.step_within Live.Meanwhile.start.interrupt
    obtain ⟨quiet, -⟩ :=
      cancelled_evaluation_unwinds (some "entered") "> " rest accepted (run.tail step)
    refine ⟨waits, env, live, session, fun v => (polls v).trans (or_iff_left ?_),
      written ▸ settled, cut, fun v later => ?_⟩
    · -- It does not pause.
      generalize started.process.goOn started.live = u at asks ⊢
      cases u with
      | asking => exact id
      | running | pausing => cases asks
    · rw [Underway.live_within] at quiet
      exact (quiet cut v later).1

/-- A pause of five milliseconds is interrupted when it begins, and the evaluation is not looked at
before the five milliseconds are over. It may then complete, and nobody learns of the interrupt. -/
theorem late_poll_completes :
    let s : Session (announcing none "> ") := {}
    match s.accept none "sleep 5" with
    | .started started =>
      let u := started.process.goOn started.live
      let after := u.live.interrupt.advanceTo 5
      Reaches started.begun u ∧ u.Waits ∧ u.live.interrupt.Meanwhile after ∧
        after.isAborted = true ∧ ∃ process env left,
          (u.within after).Polls (.running process after) ∧
          process.goOn after = .running (.done env .completed) left ∧
          (settle started (.finished env .completed) left).1 = some (.ok { output := some "" })
    | _ => False := by
  intro s
  have computed : (match s.accept none "sleep 5" with
    | .started started =>
      match started.process.goOn started.live with
      | .pausing _ resume deadline live =>
        let after := live.interrupt.advanceTo 5
        decide (live.clock < deadline) && after.isAborted && decide (deadline ≤ after.clock) &&
          match (resume true).goOn after with
          | .running (.done env finish) left =>
            decide (finish = .completed ∧
              (settle started (.finished env .completed) left).1 = some (.ok { output := some "" }))
          | .running (.call ..) _ | .asking .. | .pausing .. => false
      | .running .. | .asking .. => false
    | _ => false) = true := by
    decide +kernel
  cases accepted : s.accept none "sleep 5" with
  | refused | rejected =>
    rw [accepted] at computed
    cases computed
  | started started =>
    have run := reaches_goOn started.process started.live
    simp only [accepted] at computed ⊢
    generalize started.process.goOn started.live = u at computed run ⊢
    cases u with
    | running | asking => cases computed
    | pausing env resume deadline live =>
      simp only [Bool.and_eq_true, decide_eq_true_eq] at computed
      obtain ⟨⟨⟨waits, cut⟩, late⟩, completed⟩ := computed
      refine ⟨run, waits, .advance 5 .start, cut, resume true, ?_⟩
      generalize ended : (resume true).goOn _ = last at completed
      cases last with
      | asking | pausing => cases completed
      | running process left =>
        cases process with
        | call => cases completed
        | done env finish =>
          obtain ⟨rfl, result⟩ := of_decide_eq_true completed
          exact ⟨env, left, ⟨.elapsed late, _, _, rfl⟩, ended, result⟩

-- A line that came before the interrupt still counts: its statement has a result, and no other follows.
example : (({} : Session (Script.language "> ")).evaluateScheduled
    [{ actions := [.answer "x", .interrupt] }] none "readline; print 1").result =
      some (.ok { cancelled := true, fragments := [.result "x"] }) := by
  decide +kernel

end Session

end ScriptSession
