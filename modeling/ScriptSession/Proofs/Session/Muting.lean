import ScriptSession.Proofs.Session.Lockstep
import ScriptSession.Proofs.Session.Operations

/-!
# Evaluations that nobody listens to

An evaluation with a channel is the one without, apart from the channel (`Live.muted`): it starts the
same (`launch_muted`) and settling it forgets the channel (`settle_muted`). A policy is deaf if what
it does depends on no output and changes nothing but the desk and the clock (`Policy.Deaf`), and then
a channel makes no difference to it (`DeafWait.alike`). Schedules are deaf (`Schedule.policy_deaf`).
-/
namespace ScriptSession

/-! ## Without the channel -/

section

variable {α : Type} {f g : α → α}

theorem modify_modify_comm (as : Array α) (i j : Nat) (h : ∀ a, f (g a) = g (f a)) :
    (as.modify i f).modify j g = (as.modify j g).modify i f := by
  apply Array.ext_getElem?
  intro k
  simp only [Array.getElem?_modify]
  split <;> split <;> simp [Option.map_map, Function.comp_def, h]

theorem modify_modify_self (as : Array α) (k : Nat) (h : ∀ a, g (f a) = g a) :
    (as.modify k f).modify k g = as.modify k g := by
  apply Array.ext_getElem?
  intro i
  simp only [Array.getElem?_modify]
  split <;> simp [Option.map_map, Function.comp_def, h]

theorem take_modify (as : Array α) (k : Nat) : (as.modify k f).take k = as.take k := by
  apply Array.ext_getElem?
  intro i
  simp only [Array.take_eq_extract, Array.getElem?_extract, Array.getElem?_modify, Array.size_modify]
  split
  · rw [if_neg (by omega)]
  · rfl

end

/-- A collector that passes nothing on. -/
def Collector.muted (c : Collector) : Collector := { c with channel := none }

namespace Console

def muted (c : Console) (k : Nat) : Console :=
  { c with collectors := c.collectors.modify k Collector.muted }

theorem deliver_muted (c : Console) (k i : Nat) (f : Fragment) :
    (c.deliver i f).muted k = (c.muted k).deliver i f := by
  unfold muted deliver
  dsimp only
  rw [modify_modify_comm]
  exact fun _ => rfl

theorem emit_muted (c : Console) (k : Nat) (f : Fragment) :
    (c.emit f).muted k = (c.muted k).emit f := by
  have installed : (c.muted k).installed = c.installed := rfl
  unfold emit
  rw [installed]
  cases c.installed with
  | nil => rfl
  | cons i rest => exact deliver_muted c k i f

theorem pushResult_muted (c : Console) (k : Nat) (text : String) :
    (c.pushResult k text).muted k = (c.muted k).pushResult k text := by
  unfold muted pushResult
  dsimp only
  rw [modify_modify_comm]
  exact fun _ => rfl

theorem receive_muted (c : Console) (k : Nat) : (c.receive? k).2.muted k = c.muted k := by
  unfold receive?
  split
  · split
    · unfold muted
      dsimp only
      rw [modify_modify_self]
      exact fun _ => rfl
    · rfl
  · rfl

theorem hangUp_muted (c : Console) (k : Nat) : (c.hangUp k).muted k = c.muted k := by
  unfold muted hangUp
  dsimp only
  rw [modify_modify_self]
  exact fun _ => rfl

/-- What a collector kept does not depend on its channel. -/
theorem finish_muted (c : Console) (k : Nat) : ((c.muted k).finish k).1 = (c.finish k).1 := by
  unfold finish collector? muted
  rw [Array.getElem?_modify, if_pos rfl]
  cases c.collectors[k]? <;> rfl

/-- Nor do the collectors that were there before. -/
theorem forgetFrom_muted (c : Console) (k : Nat) :
    ((c.muted k).finish k).2.forgetFrom k = (c.finish k).2.forgetFrom k := by
  simp only [forgetFrom, finish, muted, take_modify]

theorem addCollector_muted (c : Console) (channel : Option Channel) :
    (c.addCollector channel).1.muted c.collectors.size = (c.addCollector none).1 := by
  unfold muted addCollector
  dsimp only
  congr 1
  apply Array.ext_getElem?
  intro i
  rw [Array.getElem?_modify, Array.getElem?_push, Array.getElem?_push]
  split
  · rename_i own
    simp [own, Collector.muted]
  · rename_i other
    simp [Ne.symm other]

end Console

namespace Live

/-- The same without the channel of the evaluation's own collector. -/
def muted (live : Live) : Live := { live with console := live.console.muted live.collector }

theorem emit_muted (live : Live) (f : Fragment) : (live.emit f).muted = live.muted.emit f := by
  unfold emit muted
  dsimp only
  split
  · rw [Console.pushResult_muted]
  · rw [Console.emit_muted]

theorem takeUnread_muted (live : Live) : live.takeUnread.2.muted = live.muted := by
  simp only [takeUnread, muted, Console.receive_muted]

theorem hangUp_muted (live : Live) : live.hangUp.muted = live.muted := by
  simp only [hangUp, muted, Console.hangUp_muted]

end Live

namespace Session

variable {B : Backend}

theorem launch_muted (s : Session B) (channel : Option Channel) (statements : List B.Statement) :
    (s.launch channel statements).live.muted = (s.launch none statements).live := by
  have added := s.console.addCollector_muted channel
  have muted : (s.launch channel statements).live.muted = { (s.launch none statements).live with
      console := (((s.console.addCollector channel).1.muted s.console.collectors.size).capture
        s.console.collectors.size).1 } := rfl
  rw [muted, added]
  rfl

/-- Settling a run forgets its channel. -/
theorem settle_muted (s : Session B) (channel : Option Channel) (statements : List B.Statement)
    (ending : Ending B.Environment) (live : Live) :
    settle (s.launch channel statements) ending live =
      settle (s.launch none statements) ending live.muted := by
  let released := live.console.release (s.launch none statements).scope
  have kept := released.finish_muted live.collector
  have others := released.forgetFrom_muted live.collector
  refine Prod.ext ?_ ?_
  · cases ending with
    | givenUp => rfl
    | finished env finish =>
      exact congrArg (fun collected => some (conclude _ finish collected live.warnings).1) kept.symm
  · rw [settle_session, settle_session]
    exact congrArg (fun console => { (s.launch none statements).session with
      environment := ending.state
      journal := {}
      stats := (s.launch none statements).session.stats.record (.ofMillis live.clock)
      desk := live.desk
      console := console
      state := stateAfter ending }) others.symm

end Session

/-! ## Policies that do not listen -/

section

variable {ω ρ : Type}

/-- A wait that depends on no output and changes nothing but the desk and the clock. -/
def DeafWait (wait : Live → ω → Verdict ρ × Live × ω) : Prop :=
  ∀ (live : Live) w, ∃ verdict desk clock w', ∀ console,
    wait { live with console := console } w =
      (verdict, { live with console := console, desk := desk, clock := clock }, w')

theorem DeafWait.console_eq {wait : Live → ω → Verdict ρ × Live × ω} (deaf : DeafWait wait)
    (live : Live) (w : ω) : (wait live w).2.1.console = live.console ∧
      (wait live w).2.1.collector = live.collector := by
  obtain ⟨verdict, desk, clock, w', goes⟩ := deaf live w
  rw [show wait live w = _ from goes live.console]
  exact ⟨rfl, rfl⟩

/-- What happens around an evaluation does not depend on its output. -/
structure Policy.Deaf (policy : Policy ω) : Prop where
  line : ∀ id, DeafWait (policy.awaitLine id)
  time : ∀ deadline, DeafWait (policy.awaitTime deadline)

theorem Live.eq_of_muted {live live' : Live} (same : live.muted = live'.muted) :
    { live with console := live'.console } = live' := by
  obtain ⟨desk, console, token, collector, warnings, clock⟩ := live
  obtain ⟨desk', console', token', collector', warnings', clock'⟩ := live'
  simp only [Live.muted, Live.mk.injEq] at same
  obtain ⟨rfl, -, rfl, rfl, rfl, rfl⟩ := same
  rfl

/-- Evaluations that differ in the channel at most. -/
abbrev Muted : Surrounding ω ω := fun live w live' w' => live.muted = live'.muted ∧ w = w'

theorem DeafWait.alike {wait : Live → ω → Verdict ρ × Live × ω} (deaf : DeafWait wait)
    {live live' : Live} (same : live.muted = live'.muted) (w : ω) :
    EndAlike Muted Muted (wait live w) (wait live' w) := by
  obtain ⟨verdict, desk, clock, w', goes⟩ := deaf live w
  have first : wait live w = (verdict, { live with desk := desk, clock := clock }, w') :=
    goes live.console
  have second : wait live' w = (verdict, { live' with desk := desk, clock := clock }, w') := by
    have there := goes live'.console
    rw [Live.eq_of_muted same] at there
    exact there.trans (congrArg
      (fun live : Live => (verdict, { live with desk := desk, clock := clock }, w'))
      (Live.eq_of_muted same))
  have still := congrArg (fun live : Live => { live with desk := desk, clock := clock }) same
  rw [first, second]
  cases verdict with
  | resume reply => exact .resume ⟨still, rfl⟩
  | abandon => exact .abandon ⟨still, rfl⟩

end

/-! ## Schedules -/

namespace Schedule

theorem act_deaf (live : Live) (actions : List Action) : ∃ responses desk, ∀ console,
    act { live with console := console } actions =
      (responses, { live with console := console, desk := desk }) := by
  induction actions generalizing live with
  | nil => exact ⟨some [], live.desk, fun _ => rfl⟩
  | cons action rest ih =>
    cases action with
    | answer text =>
      obtain ⟨responses, desk, goes⟩ := ih (live.answer text).2
      refine ⟨responses.map (.answered (live.answer text).1 :: ·), desk, fun console => ?_⟩
      have later := goes console
      simp only [act, Live.answer] at later ⊢
      rw [later]
    | interrupt =>
      obtain ⟨responses, desk, goes⟩ := ih live.interrupt
      refine ⟨responses.map ((retire live.desk).1 :: ·), desk, fun console => ?_⟩
      have later := goes console
      simp only [act, Live.interrupt, retire] at later ⊢
      rw [later]
    | abandon => exact ⟨none, live.desk, fun _ => rfl⟩

theorem reach_deaf (w : Schedule) (live : Live) (event : Scheduled) : ∃ clock, ∀ console,
    w.reach { live with console := console } event =
      { live with console := console, clock := clock } := by
  unfold reach
  cases event.after with
  | some after => exact ⟨max live.clock (w.dueTime live after), fun _ => rfl⟩
  | none => exact ⟨live.clock, fun _ => rfl⟩

theorem awaitLine_deaf (id : Nat) (upcoming : List Scheduled) :
    DeafWait fun live w => awaitLine id live w upcoming := by
  induction upcoming with
  | nil =>
    intro live w
    cases fetched : (live.desk.interrupt 0).fetch? id with
    | none =>
      exact ⟨.resume none, live.desk.interrupt 0, live.clock, _, fun console => by
        simp only [awaitLine, act, retire, Live.takeReply, Live.reply?, fetched]
        rfl⟩
    | some found =>
      exact ⟨.resume found.1.line?, found.2, live.clock, _, fun console => by
        simp only [awaitLine, act, retire, Live.takeReply, Live.reply?, fetched]
        rfl⟩
  | cons event rest ih =>
    intro live w
    obtain ⟨clock, reached⟩ := w.reach_deaf live event
    obtain ⟨responses, desk, goes⟩ := act_deaf { live with clock := clock } event.actions
    let noted : Schedule := { w.note live.desk.visible responses with upcoming := rest }
    cases responses with
    | none =>
      refine ⟨.abandon, desk, clock, noted, fun console => ?_⟩
      simp only [awaitLine_cons, reached, goes]
      rfl
    | some responses =>
      cases fetched : desk.fetch? id with
      | some found =>
        refine ⟨.resume found.1.line?, found.2, clock, noted, fun console => ?_⟩
        simp only [awaitLine_cons, reached, goes, Live.reply?, fetched, Option.map_some]
        rfl
      | none =>
        obtain ⟨verdict, desk', clock', w', later⟩ := ih { live with desk := desk, clock := clock } noted
        refine ⟨verdict, desk', clock', w', fun console => ?_⟩
        simp only [awaitLine_cons, reached, goes, Live.reply?, fetched, Option.map_none]
        exact later console

theorem awaitTime_deaf (deadline : Nat) (upcoming : List Scheduled) :
    DeafWait fun live w => awaitTime deadline live w upcoming := by
  induction upcoming with
  | nil => exact fun live w => ⟨.resume true, live.desk, max live.clock deadline, w, fun _ => rfl⟩
  | cons event rest ih =>
    intro live w
    cases timed : event.after with
    | none =>
      refine ⟨.resume true, live.desk, max live.clock deadline, w, fun console => ?_⟩
      simp only [awaitTime, timed]
      rfl
    | some after =>
      have same : ∀ console, w.dueTime { live with console := console } after = w.dueTime live after :=
        fun _ => rfl
      by_cases early : deadline < w.dueTime live after
      · refine ⟨.resume true, live.desk, max live.clock deadline,
          { w with due := some (w.dueTime live after) }, fun console => ?_⟩
        simp only [awaitTime, timed, same, if_pos early]
        rfl
      · let clock := max live.clock (w.dueTime live after)
        obtain ⟨responses, desk, goes⟩ := act_deaf { live with clock := clock } event.actions
        let noted : Schedule := { w.note live.desk.visible responses with upcoming := rest }
        have advanced : ∀ console, Live.advanceTo { live with console := console }
            (w.dueTime live after) = { live with console := console, clock := clock } := fun _ => rfl
        cases responses with
        | none =>
          refine ⟨.abandon, desk, clock, noted, fun console => ?_⟩
          simp only [awaitTime, timed, same, if_neg early, advanced, goes]
          rfl
        | some responses =>
          by_cases aborted : desk.isAborted live.token = true
          · refine ⟨.resume false, desk, clock, noted, fun console => ?_⟩
            simp only [awaitTime, timed, same, if_neg early, advanced, goes, Live.isAborted,
              if_pos aborted]
            rfl
          · obtain ⟨verdict, desk', clock', w', later⟩ :=
              ih { live with desk := desk, clock := clock } noted
            refine ⟨verdict, desk', clock', w', fun console => ?_⟩
            simp only [awaitTime, timed, same, if_neg early, advanced, goes, Live.isAborted,
              if_neg aborted]
            exact later console

theorem policy_deaf : policy.Deaf where
  line id live w := awaitLine_deaf id w.upcoming live w
  time deadline live w := awaitTime_deaf deadline w.upcoming live w

end Schedule

end ScriptSession
