import ScriptSession.Proofs.Script.Renumbering
import ScriptSession.Proofs.Session.Interrupting

/-!
# Sessions forget how they were used

Two sessions at rest may have used up different numbers of requests, tokens, collectors and procedures,
and one of them may have been left inside a call. An evaluation cannot tell: what it can ask of what
surrounds it is the same (`Live.Twins`), schedules do not look at numbers either
(`Schedule.policy_mirrors`), and a statement starts with nothing but the globals. So what an evaluation
gives and leaves depends on the globals alone (`history_is_forgotten`).
-/
namespace ScriptSession

/-! ## Twins -/

namespace Live

/-- What an evaluation can tell of what surrounds it, apart from its output, is the same. -/
structure Resembles (live live' : Live) : Prop where
  isAborted : live.isAborted = live'.isAborted
  clock : live.clock = live'.clock
  warnings : live.warnings = live'.warnings

/-- Two evaluations that have produced the same in sessions with nothing else under way. Their requests
and tokens have other numbers. -/
structure Twins (live live' : Live) : Prop extends live.Resembles live' where
  steady : ∃ kept, live.Steady [] kept none ∧ live'.Steady [] kept none

/-- The same while they wait for a line. -/
structure TwinsAsking (id id' : Nat) (status : Option Reply) (live live' : Live) : Prop
    extends live.Resembles live' where
  awaits : ∃ kept, live.Awaits [] kept id status ∧ live'.Awaits [] kept id' status

variable {live live' : Live} {outer : List Nat} {kept : List Fragment} {id id' : Nat}
  {status : Option Reply}

theorem Resembles.advance (h : live.Resembles live') (clock : Nat) :
    (live.advanceTo clock).Resembles (live'.advanceTo clock) :=
  ⟨h.isAborted, congrArg (max · clock) h.clock, h.warnings⟩

theorem Resembles.answer {asked asked' : Option PendingRequest} {kept' : List Fragment}
    (h : live.Resembles live') (steady : live.Steady outer kept asked)
    (steady' : live'.Steady outer kept' asked') (text : String) :
    (live.answer text).2.Resembles (live'.answer text).2 where
  isAborted := by rw [steady.isAborted_answer, steady'.isAborted_answer, h.isAborted]
  clock := h.clock
  warnings := h.warnings

theorem Resembles.interrupt {asked asked' : Option PendingRequest} {kept' : List Fragment}
    (h : live.Resembles live') (steady : live.Steady outer kept asked)
    (steady' : live'.Steady outer kept' asked') : live.interrupt.Resembles live'.interrupt where
  isAborted := by rw [steady.interrupted, steady'.interrupted]
  clock := h.clock
  warnings := h.warnings

namespace Twins

theorem advance (h : live.Twins live') (clock : Nat) :
    (live.advanceTo clock).Twins (live'.advanceTo clock) := by
  obtain ⟨kept, steady, steady'⟩ := h.steady
  exact ⟨h.toResembles.advance clock, kept, steady.advance clock, steady'.advance clock⟩

theorem answer (h : live.Twins live') (text : String) :
    (live.answer text).2.Twins (live'.answer text).2 := by
  obtain ⟨kept, steady, steady'⟩ := h.steady
  exact ⟨h.toResembles.answer steady steady' text, kept, steady.answer text, steady'.answer text⟩

theorem interrupt (h : live.Twins live') : live.interrupt.Twins live'.interrupt := by
  obtain ⟨kept, steady, steady'⟩ := h.steady
  exact ⟨h.toResembles.interrupt steady steady', kept, steady.interrupt, steady'.interrupt⟩

theorem emit (h : live.Twins live') (f : Fragment) : (live.emit f).Twins (live'.emit f) := by
  obtain ⟨kept, steady, steady'⟩ := h.steady
  refine ⟨⟨h.isAborted, h.clock, h.warnings⟩, kept ++ [f], ?_, ?_⟩
  · exact steady.withConsole (keeps_emit steady.keeps f)
  · exact steady'.withConsole (keeps_emit steady'.keeps f)

theorem warn (h : live.Twins live') (message : String) (range : Option Span) :
    (live.warn message range).Twins (live'.warn message range) := by
  obtain ⟨kept, steady, steady'⟩ := h.steady
  have warnings := congrArg (· ++ [Diagnostic.warning message range]) h.warnings
  refine ⟨⟨h.isAborted, h.clock, warnings⟩, kept, ?_, ?_⟩
  · exact ⟨steady.desk, steady.token, keeps_warn steady.keeps message range⟩
  · exact ⟨steady'.desk, steady'.token, keeps_warn steady'.keeps message range⟩

theorem depth_eq (h : live.Twins live') : live.console.depth = live'.console.depth := by
  obtain ⟨kept, steady, steady'⟩ := h.steady
  rw [Console.depth, Console.depth, steady.keeps.installed, steady'.keeps.installed]
  rfl

theorem ask (h : live.Twins live') (alive : live.isAborted = false) (prompt : String) :
    (live.ask prompt).2.TwinsAsking (live.ask prompt).1 (live'.ask prompt).1 none
      (live'.ask prompt).2 := by
  obtain ⟨kept, steady, steady'⟩ := h.steady
  have asks := steady.ask alive prompt
  have asks' := steady'.ask (h.isAborted.symm.trans alive) prompt
  exact ⟨⟨asks.alive.trans asks'.alive.symm, h.clock, h.warnings⟩, kept, asks, asks'⟩

end Twins

theorem warnings_of_reply? {line : Option String} {after : Live}
    (found : live.reply? id = some (line, after)) : after.warnings = live.warnings := by
  obtain ⟨taken, -, eq⟩ := Option.map_eq_some_iff.mp found
  cases eq
  rfl

namespace TwinsAsking

theorem advance (h : live.TwinsAsking id id' status live') (clock : Nat) :
    (live.advanceTo clock).TwinsAsking id id' status (live'.advanceTo clock) := by
  obtain ⟨kept, waits, waits'⟩ := h.awaits
  exact ⟨h.toResembles.advance clock, kept, waits.advance clock, waits'.advance clock⟩

theorem answer (h : live.TwinsAsking id id' status live') (text : String) :
    (live.answer text).2.TwinsAsking id id' (some (status.getD (.line text)))
      (live'.answer text).2 := by
  obtain ⟨kept, waits, waits'⟩ := h.awaits
  obtain ⟨asked, steady⟩ := waits.steady
  obtain ⟨asked', steady'⟩ := waits'.steady
  exact ⟨h.toResembles.answer steady steady' text, kept, waits.answer text, waits'.answer text⟩

theorem interrupt (h : live.TwinsAsking id id' status live') :
    live.interrupt.TwinsAsking id id' (some (status.getD .cancelled)) live'.interrupt := by
  obtain ⟨kept, waits, waits'⟩ := h.awaits
  obtain ⟨asked, steady⟩ := waits.steady
  obtain ⟨asked', steady'⟩ := waits'.steady
  exact ⟨h.toResembles.interrupt steady steady', kept, waits.interrupt, waits'.interrupt⟩

theorem withdraw (h : live.TwinsAsking id id' status live') :
    (live.withdraw id).Twins (live'.withdraw id') := by
  obtain ⟨kept, waits, waits'⟩ := h.awaits
  refine ⟨⟨?_, h.clock, h.warnings⟩, kept, waits.withdraw, waits'.withdraw⟩
  exact (Desk.isAborted_withdraw ..).trans (h.isAborted.trans (Desk.isAborted_withdraw ..).symm)

/-- What has settled the wait is there on both sides. -/
theorem reply? (h : live.TwinsAsking id id' status live') :
    status = none ∧ live.reply? id = none ∧ live'.reply? id' = none ∨
    ∃ line after after', live.reply? id = some (line, after) ∧
      live'.reply? id' = some (line, after') ∧ after.Twins after' := by
  obtain ⟨kept, waits, waits'⟩ := h.awaits
  rcases waits.reply? with ⟨none, absent⟩ | ⟨reply, rest, some, found, steady, aborted, clock⟩
  · rcases waits'.reply? with ⟨-, absent'⟩ | ⟨reply', -, some', -⟩
    · exact .inl ⟨none, absent, absent'⟩
    · cases none.symm.trans some'
  · rcases waits'.reply? with ⟨none', -⟩ | ⟨reply', rest', some', found', steady', aborted', clock'⟩
    · cases some.symm.trans none'
    · cases some.symm.trans some'
      refine .inr ⟨_, rest, rest', found, found', ⟨?_, ?_, ?_⟩, kept, steady, steady'⟩
      · rw [aborted, aborted', h.isAborted]
      · rw [clock, clock', h.clock]
      · rw [warnings_of_reply? found, warnings_of_reply? found', h.warnings]

end TwinsAsking

/-- Whatever happens while two evaluations wait keeps the relation. -/
structure Lasting (P : Live → Live → Prop) : Prop where
  answer : ∀ {live live'}, P live live' → ∀ text, P (live.answer text).2 (live'.answer text).2
  interrupt : ∀ {live live'}, P live live' → P live.interrupt live'.interrupt

theorem lasting_twins : Lasting Twins := ⟨Twins.answer, Twins.interrupt⟩

theorem lasting_twinsAsking (id id' : Nat) :
    Lasting fun live live' => ∃ status, live.TwinsAsking id id' status live' where
  answer := fun ⟨_, twins⟩ text => ⟨_, twins.answer text⟩
  interrupt := fun ⟨_, twins⟩ => ⟨_, twins.interrupt⟩

end Live

/-! ## Schedules -/

namespace Schedule

/-- The same events are ahead. What happened before is noted with other numbers. -/
structure SameAhead (w w' : Schedule) : Prop where
  upcoming : w.upcoming = w'.upcoming
  due : w.due = w'.due

/-- Twins with the same events ahead. -/
abbrev Alike : Surrounding Schedule Schedule := fun live w live' w' =>
  live.Twins live' ∧ w.SameAhead w'

variable {live live' : Live} {w w' : Schedule}

/-- Both evaluations are given up, or neither is. -/
theorem act_lasting {P : Live → Live → Prop} (lasting : Live.Lasting P) (actions : List Action)
    (h : P live live') : P (act live actions).2 (act live' actions).2 ∧
      ((act live actions).1 = none ∧ (act live' actions).1 = none ∨
        ∃ responses responses', (act live actions).1 = some responses ∧
          (act live' actions).1 = some responses') := by
  have behind {a b : Option (List Response)} (first first' : Response)
      (outcome : a = none ∧ b = none ∨ ∃ later later', a = some later ∧ b = some later') :
      a.map (first :: ·) = none ∧ b.map (first' :: ·) = none ∨
        ∃ all all', a.map (first :: ·) = some all ∧ b.map (first' :: ·) = some all' := by
    simpa using outcome
  induction actions generalizing live live' with
  | nil => exact ⟨h, .inr ⟨_, _, rfl, rfl⟩⟩
  | cons action rest ih =>
    cases action with
    | answer text =>
      obtain ⟨kept, outcome⟩ := ih (lasting.answer h text)
      exact ⟨kept, behind _ _ outcome⟩
    | interrupt =>
      obtain ⟨kept, outcome⟩ := ih (lasting.interrupt h)
      exact ⟨kept, behind _ _ outcome⟩
    | abandon => exact ⟨h, .inl ⟨rfl, rfl⟩⟩

theorem SameAhead.dueTime_eq (h : w.SameAhead w') (clock : live.clock = live'.clock) (after : Nat) :
    w.dueTime live after = w'.dueTime live' after := by
  rw [dueTime, dueTime, h.due, clock]

theorem reach_twins {id id' : Nat} {status : Option Reply} (h : live.TwinsAsking id id' status live')
    (ahead : w.SameAhead w') (event : Scheduled) :
    (w.reach live event).TwinsAsking id id' status (w'.reach live' event) := by
  unfold reach
  split
  · rw [ahead.dueTime_eq h.clock]
    exact h.advance _
  · exact h

theorem awaitLine_twins {id id' : Nat} {status : Option Reply} (upcoming : List Scheduled)
    (h : live.TwinsAsking id id' status live') (ahead : w.SameAhead w') :
    EndAlike Alike
      (fun after w after' w' => Alike (after.withdraw id) w (after'.withdraw id') w')
      (awaitLine id live w upcoming) (awaitLine id' live' w' upcoming) := by
  induction upcoming generalizing live live' w w' status with
  | nil =>
    rcases h.interrupt.reply? with ⟨none, -⟩ | ⟨line, after, after', found, found', twins⟩
    · cases none
    · have taken : live.interrupt.takeReply id = (line, after) := by simp [Live.takeReply, found]
      have taken' : live'.interrupt.takeReply id' = (line, after') := by
        simp [Live.takeReply, found']
      change EndAlike _ _ (.resume (live.interrupt.takeReply id).1, (live.interrupt.takeReply id).2, _)
        (.resume (live'.interrupt.takeReply id').1, (live'.interrupt.takeReply id').2, _)
      rw [taken, taken']
      exact .resume ⟨twins, rfl, rfl⟩
  | cons event rest ih =>
    obtain ⟨⟨status', acted⟩, outcome⟩ := act_lasting (Live.lasting_twinsAsking id id') event.actions
      ⟨status, reach_twins h ahead event⟩
    rw [awaitLine_cons, awaitLine_cons]
    rcases outcome with ⟨gone, gone'⟩ | ⟨responses, responses', goes, goes'⟩
    · simp only [gone, gone']
      exact .abandon ⟨acted.withdraw, rfl, rfl⟩
    · simp only [goes, goes']
      rcases acted.reply? with ⟨-, absent, absent'⟩ | ⟨line, rest, rest', found, found', twins⟩
      · rw [absent, absent']
        exact ih acted ⟨rfl, rfl⟩
      · rw [found, found']
        exact .resume ⟨twins, rfl, rfl⟩

theorem awaitTime_twins (deadline : Nat) (upcoming : List Scheduled) (h : live.Twins live')
    (ahead : w.SameAhead w') :
    EndAlike Alike Alike (awaitTime deadline live w upcoming)
      (awaitTime deadline live' w' upcoming) := by
  have passed : EndAlike Alike Alike (.resume true, live.advanceTo deadline, w)
      (.resume true, live'.advanceTo deadline, w') := .resume ⟨h.advance deadline, ahead⟩
  induction upcoming generalizing live live' w w' with
  | nil => exact passed
  | cons event rest ih =>
    unfold awaitTime
    cases event.after with
    | none => exact passed
    | some after =>
      dsimp only
      rw [← ahead.dueTime_eq h.clock after]
      split
      · exact .resume ⟨h.advance deadline, ahead.upcoming, rfl⟩
      · obtain ⟨acted, outcome⟩ := act_lasting Live.lasting_twins event.actions
          (h.advance (w.dueTime live after))
        rcases outcome with ⟨gone, gone'⟩ | ⟨responses, responses', goes, goes'⟩
        · simp only [gone, gone']
          exact .abandon ⟨acted, rfl, rfl⟩
        · simp only [goes, goes', ← acted.isAborted]
          split
          · exact .resume ⟨acted, rfl, rfl⟩
          · exact ih acted ⟨rfl, rfl⟩ (.resume ⟨acted.advance deadline, rfl, rfl⟩)

/-- Schedules do not look at how requests and tokens are numbered. -/
theorem policy_mirrors : policy.Mirrors policy (· ≠ .generation) Alike where
  isAborted around := around.1.isAborted
  generation _ asks := absurd rfl asks
  depth around := around.1.depth_eq
  emit around f := ⟨around.1.emit f, around.2⟩
  warn around message range := ⟨around.1.warn message range, around.2⟩
  line {live w live' w'} around alive prompt := by
    have waited := awaitLine_twins w.upcoming (around.1.ask alive prompt) around.2
    have upcoming := around.2.upcoming
    unfold policy
    dsimp only
    rwa [← upcoming]
  time {live w live' w'} around _ millis := by
    have waited := awaitTime_twins (live.clock + millis) w.upcoming around.1 around.2
    have upcoming := around.2.upcoming
    unfold policy
    dsimp only
    rwa [← upcoming, ← around.1.clock]

end Schedule

/-! ## Evaluations -/

theorem Process.Trusts.only {σ α : Type} {cut : α} {calm : Bool} {p : Process σ α}
    (h : p.Trusts cut calm) : p.Only (· ≠ .generation) := by
  induction p generalizing calm with
  | done => exact trivial
  | call s request resume ih => exact ⟨h.1, fun reply => ih reply (h.2 reply)⟩

/-- Interrupts and answers, which are meant for an evaluation under way. -/
def Operation.isSignal : Operation → Bool
  | .interrupt | .interruptEvaluation | .answer _ => true
  | _ => false

namespace Session

open Script (language Bindings SameWith)

variable {default default' : String} {s : Session (language default)} {s' : Session (language default')}

theorem launch_twins {B B' : Backend} {s : Session B} {s' : Session B'} (rest : s.AtRest)
    (rest' : s'.AtRest) (channel channel' : Option Channel) (statements : List B.Statement)
    (statements' : List B'.Statement) :
    (s.launch channel statements).live.Twins (s'.launch channel' statements').live where
  isAborted := rest.desk.alive.isAborted_eq.trans rest'.desk.alive.isAborted_eq.symm
  clock := rfl
  warnings := rfl
  steady := by
    refine ⟨[], ?_, ?_⟩
    · rw [← rest.installed]
      exact launch_steady rest channel statements
    · rw [← rest'.installed]
      exact launch_steady rest' channel' statements'

/-- Two evaluations gave the same, and left sessions in the same state with globals of this kind. -/
structure Indistinct {ω ω' : Type} (G : Bindings → Bindings → Prop)
    (done : Evaluated (language default) ω) (done' : Evaluated (language default') ω') : Prop where
  result : done.result = done'.result
  state : done.session.state = done'.session.state
  globals : G done.session.environment.globals done'.session.environment.globals

/-- Runs that end alike are settled alike. -/
theorem settled_alike {G : Bindings → Bindings → Prop} {channel channel' : Option Channel}
    {statements : List Script.Statement} {ending ending' : Ending Script.Environment}
    {live live' : Live} {w w' : Schedule}
    (endings : ending.Agrees (fun s t => G s.globals t.globals)
      (fun s t finish finish' => G s.globals t.globals ∧ finish = finish') ending')
    (twins : live.Twins live') :
    let settled := settle (s.launch channel statements) ending live
    let settled' := settle (s'.launch channel' statements) ending' live'
    Indistinct G
      { session := settled.2, result := settled.1, unread := live.unread, policyState := w }
      { session := settled'.2, result := settled'.1, unread := live'.unread, policyState := w' } := by
  intro settled settled'
  obtain ⟨kept, steady, steady'⟩ := twins.steady
  obtain ⟨c, own, fragments⟩ := steady.keeps.own
  obtain ⟨c', own', fragments'⟩ := steady'.keeps.own
  have result := settle_result s channel statements ending own
  have result' := settle_result s' channel' statements ending' own'
  have session := settle_session (s.launch channel statements) ending live
  have session' := settle_session (s'.launch channel' statements) ending' live'
  refine ⟨?_, ?_, ?_⟩
  · refine result.trans (Eq.trans ?_ result'.symm)
    rw [fragments, fragments', twins.warnings]
    cases endings with
    | givenUp => rfl
    | finished same => rw [same.2]
  · refine (congrArg Session.state session).trans (Eq.trans ?_ (congrArg Session.state session').symm)
    change stateAfter ending = stateAfter ending'
    cases endings with
    | givenUp => rfl
    | @finished _ _ finish _ same =>
      obtain ⟨-, rfl⟩ := same
      cases finish <;> rfl
  · change G settled.2.environment.globals settled'.2.environment.globals
    rw [session, session']
    cases endings with
    | givenUp globals => exact globals
    | finished same => exact same.1

theorem evaluated_alike {G : Bindings → Bindings → Prop} (rest : s.AtRest) (rest' : s'.AtRest)
    (states : s.state = s'.state) (globals : G s.environment.globals s'.environment.globals)
    (runs : ∀ statements, SameWith G ((language default).run statements s.environment)
      ((language default').run statements s'.environment))
    (events : List Scheduled) (channel channel' : Option Channel) (text : String) :
    Indistinct G (s.evaluateScheduled events channel text)
      (s'.evaluateScheduled events channel' text) := by
  unfold evaluateScheduled
  cases s.admits text with
  | refused terminated =>
    have terminated' : s'.state = .exited := states ▸ terminated
    rw [evaluate_refused terminated, evaluate_refused terminated']
    exact ⟨rfl, states, globals⟩
  | @rejected entries running wrong =>
    have running' : s'.state ≠ .exited := states ▸ running
    have wrong' : (language default').statements text = .error entries := wrong
    rw [evaluate_rejected running wrong, evaluate_rejected running' wrong']
    exact ⟨rfl, states, globals⟩
  | @launched statements running parsed =>
    have running' : s'.state ≠ .exited := states ▸ running
    have parsed' : (language default').statements text = .ok statements := parsed
    obtain ⟨endings, ⟨twins, -⟩, -⟩ := play_mirrored Schedule.policy_mirrors (runs statements)
      (Script.run_trusts default statements s.environment true).only
      (show Schedule.Alike (s.launch channel statements).live { upcoming := events }
          (s'.launch channel' statements).live { upcoming := events } from
        ⟨launch_twins rest rest' channel channel' statements statements, rfl, rfl⟩)
    rw [evaluate_launched running parsed, evaluate_launched running' parsed']
    exact settled_alike endings twins

/-! ## Every history -/

/-- Signals do nothing to a session where nothing is under way. -/
theorem after_signals (idle : s.state = .idle) {signals : List Operation}
    (signal : ∀ op ∈ signals, op.isSignal = true) :
    (s.after signals).state = .idle ∧ (s.after signals).environment = s.environment := by
  induction signals generalizing s with
  | nil => exact ⟨idle, rfl⟩
  | cons op rest ih =>
    obtain ⟨first, later⟩ := List.forall_mem_cons.mp signal
    have still : (s.perform op).state = .idle ∧ (s.perform op).environment = s.environment := by
      cases op with
      | interrupt => simp [perform, Session.interrupt, interruptEvaluation, idle]
      | interruptEvaluation | answer => exact ⟨idle, rfl⟩
      | evaluate | submit | assemble | reset => cases first
    obtain ⟨idle', same⟩ := ih still.1 later
    exact ⟨idle', same.trans still.2⟩

/-- Sessions in the same state with the same globals give the same for the same text and the same
events, and leave the same globals, whatever operations led to them; numbers of procedures need only
correspond. Signals before an evaluation do not matter to it: one that is cancelled was interrupted
while it was waiting. -/
theorem history_is_forgotten (default default' continuationPrompt continuationPrompt' : String)
    (ops ops' : List Operation) (events : List Scheduled) (channel channel' : Option Channel)
    (text : String) :
    let s := (fresh (language default) continuationPrompt).after ops
    let s' := (fresh (language default') continuationPrompt').after ops'
    let done := s.evaluateScheduled events channel text
    let done' := s'.evaluateScheduled events channel' text
    (s.state = s'.state →
      (s.environment.globals = s'.environment.globals → Indistinct Eq done done') ∧
      (s.environment.globals.Renumbered s'.environment.globals →
        Indistinct Bindings.Renumbered done done')) ∧
    (s.state = .idle → ∀ signals : List Operation, (∀ op ∈ signals, op.isSignal = true) →
      Indistinct Eq done ((s.after signals).evaluateScheduled events channel text)) ∧
    (∀ e, done.result = some (.ok e) → e.cancelled = true → done.policyState.Interrupted) := by
  intro s s' done done'
  have rest : s.AtRest := after_atRest (fresh_atRest continuationPrompt) ops
  have rest' : s'.AtRest := after_atRest (fresh_atRest continuationPrompt') ops'
  refine ⟨fun states => ⟨fun globals => ?_, fun globals => ?_⟩, fun idle signals signal => ?_, ?_⟩
  · exact evaluated_alike rest rest' states globals
      (fun statements => Script.run_congr default default' statements globals) ..
  · exact evaluated_alike rest rest' states globals
      (fun statements => Script.run_renumbered default default' statements globals) ..
  · obtain ⟨idle', same⟩ := after_signals idle signal
    have globals : s.environment.globals = (s.after signals).environment.globals :=
      congrArg Script.Environment.globals same.symm
    exact evaluated_alike rest (after_atRest rest signals) (idle.trans idle'.symm) globals
      (fun statements => Script.run_congr default default statements globals) ..
  · exact fun e result cancelled => interrupted_of_cancelled rest events channel text result cancelled

/-- A call that was given up while it asked for a line has left a frame behind and used a number up;
nobody can tell afterwards. -/
theorem abandoned_call_is_forgotten :
    let s := (fresh (language "> ") "..").after [.evaluate "(fun x (readline x)) \"go\"" none
      (.scheduled [{ actions := [.abandon] }]), .interruptEvaluation, .answer "late"]
    let s' := fresh (language "$ ") "  "
    let events : List Scheduled := [{ actions := [.answer "y"] }]
    let text := "set f (fun x (readline x)); f \"?\"; eq f f"
    let done := s.evaluateScheduled events none text
    let done' := s'.evaluateScheduled events none text
    s.state = .idle ∧ s.environment.frames.length = 1 ∧
    s.environment.globals = s'.environment.globals ∧ done.result = done'.result ∧
    done.session.environment.globals = done'.session.environment.globals ∧
    done'.result = some (.ok
      { output := some "y\ntrue", fragments := [.result "y", .result "true"] }) := by
  intro s s' events text done done'
  have idle : s.state = .idle := by decide +kernel
  have left : s.environment.frames.length = 1 := by decide +kernel
  have empty : s.environment.globals = [] := by decide +kernel
  obtain ⟨same, -⟩ := history_is_forgotten "> " "$ " ".." "  " _ [] events none none text
  have alike := (same idle).1 empty
  exact ⟨idle, left, empty, alike.result, alike.globals, by decide +kernel⟩

end Session

end ScriptSession
