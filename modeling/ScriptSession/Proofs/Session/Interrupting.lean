import ScriptSession.Proofs.Script.Trusting
import ScriptSession.Proofs.Session.Lockstep
import ScriptSession.Proofs.Session.Operations

/-!
# Only an interrupt cancels

An evaluation starts under a token that is alive, and while it waits nothing but an interrupt aborts
that token or takes its request away. So an evaluation of the command language that is cancelled was
interrupted while it was waiting (`interrupted_of_cancelled`); interrupts before it started do not
count.
-/
namespace ScriptSession

/-- An interrupt was among what happened. -/
def Happened.Interrupts (happened : Happened) : Prop :=
  ∃ responses ∈ happened.responses, ∃ generation aborted, .retired generation aborted ∈ responses

namespace Schedule

/-- An interrupt has happened. -/
def Interrupted (w : Schedule) : Prop := ∃ happened ∈ w.trace, happened.Interrupts

variable {live : Live} {w : Schedule} {outer : List Nat} {id : Nat} {safe : Prop}

theorem act_answers {P : Live → Prop} (answer : ∀ {live} text, P live → P (live.answer text).2)
    (h : P live) {actions : List Action} {responses : List Response}
    (acted : (act live actions).1 = some responses) :
    (∃ generation aborted, .retired generation aborted ∈ responses) ∨ P (act live actions).2 := by
  induction actions generalizing live responses with
  | nil => exact .inr h
  | cons action rest ih =>
    cases action with
    | abandon => cases acted
    | answer text =>
      obtain ⟨later, others, rfl⟩ := Option.map_eq_some_iff.mp acted
      refine (ih (answer text h) others).imp_left ?_
      rintro ⟨generation, aborted, mem⟩
      exact ⟨generation, aborted, List.mem_cons_of_mem _ mem⟩
    | interrupt =>
      obtain ⟨later, -, rfl⟩ := Option.map_eq_some_iff.mp acted
      exact .inl ⟨_, _, List.mem_cons_self⟩

/-- Interrupts are noted, and answers change nothing that matters. -/
theorem act_noted {P : Live → Prop} (answer : ∀ {live} text, P live → P (live.answer text).2)
    {reached : Live} (h : w.Interrupted ∨ safe ∧ P reached) {actions : List Action}
    {responses : List Response} (acted : (act reached actions).1 = some responses)
    (request : Option ActiveRequest) (upcoming : List Scheduled) :
    Interrupted { w.note request (some responses) with upcoming := upcoming } ∨
      safe ∧ P (act reached actions).2 := by
  rcases h with ⟨happened, mem, interrupts⟩ | ⟨safe, holds⟩
  · exact .inl ⟨happened, List.mem_append_left _ mem, interrupts⟩
  · refine (act_answers answer holds acted).imp (fun retired => ?_) fun later => ⟨safe, later⟩
    exact ⟨_, List.mem_append_right _ List.mem_cons_self, responses, rfl, retired⟩

/-! ## Waiting for a line -/

/-- The evaluation is not cancelled, and neither is its request. -/
def Uncut (outer : List Nat) (id : Nat) (live : Live) : Prop :=
  live.isAborted = false ∧ ∃ kept status, live.Awaits outer kept id status ∧ status ≠ some .cancelled

namespace Uncut

theorem answer (text : String) (h : Uncut outer id live) : Uncut outer id (live.answer text).2 := by
  obtain ⟨alive, kept, status, waits, uncut⟩ := h
  obtain ⟨asked, steady⟩ := waits.steady
  refine ⟨(steady.isAborted_answer text).trans alive, kept, _, waits.answer text, ?_⟩
  cases status with
  | none => exact nofun
  | some reply => exact uncut

theorem reach (h : Uncut outer id live) (w : Schedule) (event : Scheduled) :
    Uncut outer id (w.reach live event) := by
  obtain ⟨alive, kept, status, waits, uncut⟩ := h
  unfold Schedule.reach
  split
  · exact ⟨alive, kept, status, waits.advance _, uncut⟩
  · exact ⟨alive, kept, status, waits, uncut⟩

/-- What is fetched is a line. -/
theorem fetched (h : Uncut outer id live) {line : Option String} {after : Live}
    (found : live.reply? id = some (line, after)) : after.isAborted = false ∧ line.isSome = true := by
  obtain ⟨alive, kept, status, waits, uncut⟩ := h
  rcases waits.reply? with ⟨-, absent⟩ | ⟨reply, rest, rfl, there, -, aborted, -⟩
  · cases absent.symm.trans found
  · cases there.symm.trans found
    refine ⟨aborted.trans alive, ?_⟩
    cases reply with
    | line text => rfl
    | cancelled => exact absurd rfl uncut

end Uncut

theorem awaitLine_noted (h : w.Interrupted ∨ safe ∧ Uncut outer id live) (upcoming : List Scheduled)
    {line : Option String} {after : Live} {w' : Schedule}
    (ended : awaitLine id live w upcoming = (.resume line, after, w')) :
    w'.Interrupted ∨ safe ∧ after.isAborted = false ∧ line.isSome = true := by
  induction upcoming generalizing live w with
  | nil =>
    cases ended
    exact .inl ⟨_, List.mem_append_right _ List.mem_cons_self, _, rfl, _, _, List.mem_cons_self⟩
  | cons event rest ih =>
    rw [awaitLine_cons] at ended
    have reached := h.imp_right (And.imp_right fun uncut => uncut.reach w event)
    cases responded : (act (w.reach live event) event.actions).1 with
    | none =>
      simp only [responded] at ended
      cases ended
    | some responses =>
      simp only [responded] at ended
      have noted := act_noted Uncut.answer reached responded (w.reach live event).desk.visible rest
      split at ended
      · rename_i found
        cases ended
        exact noted.imp_right (And.imp_right fun uncut => uncut.fetched found)
      · exact ih noted ended

/-! ## Pausing -/

/-- The evaluation is not cancelled. -/
def Alive (outer : List Nat) (live : Live) : Prop :=
  live.isAborted = false ∧ ∃ kept, live.Steady outer kept none

theorem Alive.answer (text : String) (h : Alive outer live) : Alive outer (live.answer text).2 := by
  obtain ⟨alive, kept, steady⟩ := h
  exact ⟨(steady.isAborted_answer text).trans alive, kept, steady.answer text⟩

theorem Alive.advance (h : Alive outer live) (clock : Nat) : Alive outer (live.advanceTo clock) := by
  obtain ⟨alive, kept, steady⟩ := h
  exact ⟨alive, kept, steady.advance clock⟩

theorem awaitTime_noted (deadline : Nat) (h : w.Interrupted ∨ safe ∧ Alive outer live)
    (upcoming : List Scheduled) {passed : Bool} {after : Live} {w' : Schedule}
    (ended : awaitTime deadline live w upcoming = (.resume passed, after, w')) :
    w'.Interrupted ∨ safe ∧ after.isAborted = false ∧ passed = true := by
  have elapsed {live : Live} {w noted : Schedule} (h : w.Interrupted ∨ safe ∧ Alive outer live)
      (ended : ((.resume true, live.advanceTo deadline, noted) : Verdict Bool × Live × Schedule) =
        (.resume passed, after, w')) (same : noted.trace = w.trace) :
      w'.Interrupted ∨ safe ∧ after.isAborted = false ∧ passed = true := by
    cases ended
    unfold Interrupted
    rw [same]
    exact h.imp_right (And.imp_right fun alive => ⟨alive.1, rfl⟩)
  induction upcoming generalizing live w with
  | nil => exact elapsed h ended rfl
  | cons event rest ih =>
    unfold awaitTime at ended
    cases timed : event.after with
    | none =>
      simp only [timed] at ended
      exact elapsed h ended rfl
    | some millis =>
      simp only [timed] at ended
      split at ended
      · exact elapsed h ended rfl
      · have reached := h.imp_right (And.imp_right fun alive => alive.advance (w.dueTime live millis))
        cases responded : (act (live.advanceTo (w.dueTime live millis)) event.actions).1 with
        | none =>
          simp only [responded] at ended
          cases ended
        | some responses =>
          simp only [responded] at ended
          have noted := act_noted Alive.answer reached responded
            (live.advanceTo (w.dueTime live millis)).desk.visible rest
          split at ended
          · rename_i aborted
            cases ended
            exact .inl (noted.resolve_right fun alive => by simp [alive.2.1] at aborted)
          · exact ih noted ended

end Schedule

/-! ## Evaluations -/

section

variable {σ : Type} {live after : Live} {outer : List Nat} {kept : List Fragment}

/-- Only to an evaluation that is cancelled the reply tells so. -/
theorem Live.serve_calm {request : Call} {reply : request.Reply}
    (served : live.serve request = some (reply, after)) (alive : live.isAborted = false) :
    request.calm reply = true := by
  cases request with
  | emit | warn | generation | consoleDepth => rfl
  | aborted =>
    cases served
    simp [Call.calm, alive]
  | readLine prompt =>
    obtain ⟨aborted, -⟩ := served_readLine served
    cases alive.symm.trans aborted
  | sleep millis =>
    obtain ⟨aborted, -⟩ := served_sleep served
    cases alive.symm.trans aborted

/-- An evaluation that believes what it is told is cancelled only after an interrupt. -/
theorem interrupted_play {p : Process σ Finish} {w : Schedule} {calm : Bool}
    (trusts : p.Trusts .cancelled calm) (steady : live.Steady outer kept none)
    (h : w.Interrupted ∨ calm = true ∧ live.isAborted = false) {s : σ}
    (finished : (p.play Schedule.policy live w).1 = .finished s .cancelled) :
    (p.play Schedule.policy live w).2.2.Interrupted := by
  revert calm kept finished
  refine play_induction Schedule.policy (motive := fun p live w =>
    ∀ {kept : List Fragment} {calm : Bool}, p.Trusts .cancelled calm → live.Steady outer kept none →
      w.Interrupted ∨ calm = true ∧ live.isAborted = false →
      (p.play Schedule.policy live w).1 = .finished s .cancelled →
      (p.play Schedule.policy live w).2.2.Interrupted) ?done ?serve ?ask ?pause p live w
  case done =>
    intro t finish live w kept calm trusts steady h finished
    cases finished
    exact h.resolve_right fun told => absurd rfl (trusts told.1)
  case serve =>
    intro t request resume live w reply after served ih kept calm trusts steady h
    obtain ⟨steady', same⟩ := steady.serve served
    rw [play_serve served]
    refine ih (trusts.2 reply) steady' (h.imp_right ?_)
    rintro ⟨rfl, alive⟩
    exact ⟨Live.serve_calm served alive, same.trans alive⟩
  case ask =>
    intro t prompt resume live w alive ih kept calm trusts steady h
    have waits := steady.ask alive prompt
    have ends := Schedule.policy_fair.line _ _ w _ _ waits
    have uncut : Schedule.Uncut outer (live.ask prompt).1 (live.ask prompt).2 :=
      ⟨waits.alive, kept, none, waits, nofun⟩
    rw [play_asks alive]
    cases ended : Schedule.policy.awaitLine (live.ask prompt).1 (live.ask prompt).2 w with
    | mk verdict rest =>
      obtain ⟨after, w'⟩ := rest
      rw [ended] at ends
      cases verdict with
      | abandon => exact nofun
      | resume line =>
        refine ih line after w' ended (trusts.2 line) (ends.steady waits).1 ?_
        refine (Schedule.awaitLine_noted (h.imp_right fun told => ⟨told.1, uncut⟩) w.upcoming
          ended).imp_right ?_
        rintro ⟨rfl, alive, line⟩
        exact ⟨line, alive⟩
  case pause =>
    intro t millis resume live w alive ih kept calm trusts steady h
    have ends := Schedule.policy_fair.pause (live.clock + millis) live w _ _ steady alive
    have uncut : Schedule.Alive outer live := ⟨alive, kept, steady⟩
    rw [play_pauses alive]
    cases ended : Schedule.policy.awaitTime (live.clock + millis) live w with
    | mk verdict rest =>
      obtain ⟨after, w'⟩ := rest
      rw [ended] at ends
      cases verdict with
      | abandon => exact nofun
      | resume passed =>
        refine ih passed after w' ended (trusts.2 passed) (ends.steady steady).1 ?_
        refine (Schedule.awaitTime_noted _ (h.imp_right fun told => ⟨told.1, uncut⟩) w.upcoming
          ended).imp_right ?_
        rintro ⟨rfl, alive, passed⟩
        exact ⟨passed, alive⟩

end

namespace Session

open Script (language)

/-- The statements of a cancelled evaluation were cancelled. -/
theorem finish_of_cancelled {B : Backend} {started : Started B} {ending : Ending B.Environment}
    {live : Live} {e : Evaluation} (result : (settle started ending live).1 = some (.ok e))
    (cancelled : e.cancelled = true) : ∃ env, ending = .finished env .cancelled := by
  cases ending with
  | givenUp env => cases result
  | finished env finish =>
    cases finish with
    | cancelled => exact ⟨env, rfl⟩
    | crashed chain => cases result
    | completed | exited | failed =>
      cases result
      cases cancelled

/-- A cancelled evaluation was interrupted while it was waiting. -/
theorem interrupted_of_cancelled {default : String} {s : Session (language default)} (rest : s.AtRest)
    (events : List Scheduled) (channel : Option Channel) (text : String) {e : Evaluation}
    (result : (s.evaluateScheduled events channel text).result = some (.ok e))
    (cancelled : e.cancelled = true) :
    (s.evaluateScheduled events channel text).policyState.Interrupted := by
  unfold evaluateScheduled at result ⊢
  cases s.admits text with
  | refused terminated =>
    rw [evaluate_refused terminated] at result
    cases result
  | rejected running wrong =>
    rw [evaluate_rejected running wrong] at result
    cases result
    cases cancelled
  | @launched statements running parsed =>
    rw [evaluate_launched running parsed] at result ⊢
    obtain ⟨env, finished⟩ := finish_of_cancelled result cancelled
    exact interrupted_play (Script.run_trusts default statements s.environment true)
      (launch_steady rest channel statements) (.inr ⟨rfl, rest.desk.alive.isAborted_eq⟩) finished

end Session

end ScriptSession
