import Mathlib.Logic.Relation
import ScriptSession.Proofs.Desk.Single
import ScriptSession.Proofs.Session.Abreast

/-!
# Evaluations under way

An evaluation runs until it has to wait for a line or for time to pass, and then it is suspended
(`Underway`). While it is suspended anything may happen around it, in any order: lines are offered,
the session is interrupted, time passes, the output is read (`Live.Meanwhile`). It goes on when it is
looked at again and its wait is over (`Step`), and it may be given up wherever it is suspended
(`Underway.Ends`).

A policy is fair if it does nothing else (`Policy.Fair`). Playing a process under a fair policy is one
of its runs (`play_ends`), so what holds of every run holds whatever the policy.
-/
namespace ScriptSession

namespace Live

/-- The reply to a call that is answered at once, and what the call leaves. -/
def serve (live : Live) : (request : Call) → Option (request.Reply × Live)
  | .emit f => some ((), live.emit f)
  | .warn message range => some ((), live.warn message range)
  | .aborted => some (live.isAborted, live)
  | .generation => some (live.desk.generation live.token, live)
  | .consoleDepth => some (live.console.depth, live)
  | .readLine _ => if live.isAborted then some (none, live) else none
  | .sleep _ => if live.isAborted then some (false, live) else none

/-- Queues a request for a line and gives its number. -/
def ask (live : Live) (prompt : String) : Nat × Live :=
  let (id, desk) := live.desk.enqueue prompt live.token none
  (id, { live with desk := desk })

/-- The reader of the output goes away. -/
def hangUp (live : Live) : Live := { live with console := live.console.hangUp live.collector }

def withdraw (live : Live) (id : Nat) : Live := { live with desk := live.desk.withdraw id }

/-- What may happen around an evaluation while it is suspended. -/
inductive Meanwhile (live : Live) : Live → Prop where
  | start : Meanwhile live live
  | answer {mid} (text : String) : Meanwhile live mid → Meanwhile live (mid.answer text).2
  | interrupt {mid} : Meanwhile live mid → Meanwhile live mid.interrupt
  | advance {mid} (clock : Nat) : Meanwhile live mid → Meanwhile live (mid.advanceTo clock)
  | read {mid} : Meanwhile live mid → Meanwhile live mid.takeUnread.2
  | hangUp {mid} : Meanwhile live mid → Meanwhile live mid.hangUp

theorem Meanwhile.trans {a b c : Live} (first : a.Meanwhile b) (second : b.Meanwhile c) :
    a.Meanwhile c := by
  induction second with
  | start => exact first
  | answer text _ ih => exact ih.answer text
  | interrupt _ ih => exact ih.interrupt
  | advance clock _ ih => exact ih.advance clock
  | read _ ih => exact ih.read
  | hangUp _ ih => exact ih.hangUp

end Live

/-- An evaluation that can go on, or that is suspended where it shows a state. -/
inductive Underway (σ : Type) where
  | running (process : Process σ Finish) (live : Live)
  | asking (state : σ) (resume : Option String → Process σ Finish) (id : Nat) (live : Live)
  | pausing (state : σ) (resume : Bool → Process σ Finish) (deadline : Nat) (live : Live)

def Underway.live {σ : Type} : Underway σ → Live
  | running _ live | asking _ _ _ live | pausing _ _ _ live => live

/-- The state that would stay behind. -/
def Underway.state {σ : Type} : Underway σ → σ
  | running process _ => process.state
  | asking s _ _ _ | pausing s _ _ _ => s

/-- One step of an evaluation, or what happens around it. A pause that is over while the evaluation
is cancelled may end either way. -/
inductive Step {σ : Type} : Underway σ → Underway σ → Prop where
  | serve {s request resume live reply after} : live.serve request = some (reply, after) →
      Step (.running (.call s request resume) live) (.running (resume reply) after)
  | ask {s prompt resume live} : live.isAborted = false →
      Step (.running (.call s (.readLine prompt) resume) live)
        (.asking s resume (live.ask prompt).1 (live.ask prompt).2)
  | pause {s millis resume live} : live.isAborted = false →
      Step (.running (.call s (.sleep millis) resume) live)
        (.pausing s resume (live.clock + millis) live)
  | askingMeanwhile {s resume id live after} : live.Meanwhile after →
      Step (.asking s resume id live) (.asking s resume id after)
  | pausingMeanwhile {s resume deadline live after} : live.Meanwhile after →
      Step (.pausing s resume deadline live) (.pausing s resume deadline after)
  | settled {s resume id live line after} : live.reply? id = some (line, after) →
      Step (.asking s resume id live) (.running (resume line) after)
  | elapsed {s resume deadline live} : deadline ≤ live.clock →
      Step (.pausing s resume deadline live) (.running (resume true) live)
  | cut {s resume deadline live} : live.isAborted = true →
      Step (.pausing s resume deadline live) (.running (resume false) live)

abbrev Reaches {σ : Type} : Underway σ → Underway σ → Prop := Relation.ReflTransGen Step

/-- Runs a process until it waits or is done. -/
def Process.goOn {σ : Type} : Process σ Finish → Live → Underway σ
  | .done s finish, live => .running (.done s finish) live
  | .call s request resume, live =>
    match live.serve request with
    | some (reply, after) => goOn (resume reply) after
    | none =>
      match request, resume with
      | .readLine prompt, resume => .asking s resume (live.ask prompt).1 (live.ask prompt).2
      | .sleep millis, resume => .pausing s resume (live.clock + millis) live
      | request, resume => .running (.call s request resume) live

/-- How an evaluation ends, and what it leaves around it: it is done, or it is given up where it is
suspended. -/
inductive Underway.Ends {σ : Type} : Underway σ → Ending σ → Live → Prop where
  | finished {s finish live} : Ends (.running (.done s finish) live) (.finished s finish) live
  | askingGivenUp {s resume id live} :
      Ends (.asking s resume id live) (.givenUp s) (live.withdraw id)
  | pausingGivenUp {s resume deadline live} :
      Ends (.pausing s resume deadline live) (.givenUp s) live

theorem Live.not_served_readLine {live : Live} {prompt : String}
    (unserved : live.serve (.readLine prompt) = none) : live.isAborted = false := by
  simpa [Live.serve] using unserved

theorem Live.not_served_sleep {live : Live} {millis : Nat}
    (unserved : live.serve (.sleep millis) = none) : live.isAborted = false := by
  simpa [Live.serve] using unserved

/-- A request for a line is answered at once only under an aborted token. -/
theorem Live.served_readLine {live after : Live} {prompt : String} {line : Option String}
    (served : live.serve (.readLine prompt) = some (line, after)) :
    live.isAborted = true ∧ line = none ∧ after = live := by
  simp only [Live.serve, Option.ite_none_right_eq_some, Option.some.injEq, Prod.mk.injEq] at served
  exact ⟨served.1, served.2.1.symm, served.2.2.symm⟩

/-- So is a pause. -/
theorem Live.served_sleep {live after : Live} {millis : Nat} {passed : Bool}
    (served : live.serve (.sleep millis) = some (passed, after)) :
    live.isAborted = true ∧ passed = false ∧ after = live := by
  simp only [Live.serve, Option.ite_none_right_eq_some, Option.some.injEq, Prod.mk.injEq] at served
  exact ⟨served.1, served.2.1.symm, served.2.2.symm⟩

/-- Under an aborted token every call is. -/
theorem Live.served_of_aborted {live : Live} (cut : live.isAborted = true) (request : Call) :
    ∃ reply after, live.serve request = some (reply, after) := by
  cases request with
  | emit | warn | aborted | generation | consoleDepth => exact ⟨_, _, rfl⟩
  | readLine | sleep => exact ⟨_, _, if_pos cut⟩

theorem goOn_serve {σ : Type} {live after : Live} {s : σ} {request : Call}
    {resume : request.Reply → Process σ Finish} {reply : request.Reply}
    (served : live.serve request = some (reply, after)) :
    (Process.call s request resume).goOn live = (resume reply).goOn after := by
  rw [Process.goOn.eq_def]
  simp only [served]

theorem reaches_goOn {σ : Type} (p : Process σ Finish) (live : Live) :
    Reaches (.running p live) (p.goOn live) := by
  induction p generalizing live with
  | done => exact .refl
  | call s request resume ih =>
    unfold Process.goOn
    cases served : live.serve request with
    | some found => exact .head (.serve served) (ih found.1 found.2)
    | none =>
      cases request with
      | emit | warn | aborted | generation | consoleDepth => cases served
      | readLine => exact .single (.ask (Live.not_served_readLine served))
      | sleep => exact .single (.pause (Live.not_served_sleep served))

/-! ## What surrounds an evaluation -/

namespace Live

variable {live after : Live} {outer : List Nat} {kept : List Fragment}
  {asked : Option PendingRequest} {id : Nat}

/-- One request at most is at the desk, an evaluation that is not cancelled runs under the current
token, and its own collector is on top of those that were there before. -/
structure Steady (live : Live) (outer : List Nat) (kept : List Fragment)
    (asked : Option PendingRequest) : Prop where
  desk : live.desk.Single asked
  token : live.isAborted = false → live.token = live.desk.currentToken 0
  keeps : live.Keeps outer kept

/-- The evaluation waits for a line: it is asked for, or the reply is there. -/
inductive Awaits (live : Live) (outer : List Nat) (kept : List Fragment) (id : Nat) :
    Option Reply → Prop where
  | asked {r} : live.Steady outer kept (some r) → live.isAborted = false → r.id = id →
      Awaits live outer kept id none
  | settled {reply} : live.Steady outer kept none →
      (live.desk.fetch? id).map (·.1) = some reply → Awaits live outer kept id (some reply)

theorem Steady.withDesk (h : live.Steady outer kept asked) (desk : Desk)
    {asked' : Option PendingRequest} (single : desk.Single asked')
    (current : desk.isAborted live.token = false →
      live.isAborted = false ∧ desk.currentToken 0 = live.desk.currentToken 0) :
    Steady { live with desk := desk } outer kept asked' where
  desk := single
  token alive := (h.token (current alive).1).trans (current alive).2.symm
  keeps := h.keeps.congr rfl rfl rfl

theorem Steady.withConsole (h : live.Steady outer kept asked) {console : Console}
    {kept' : List Fragment} (keeps : Keeps { live with console := console } outer kept') :
    Steady { live with console := console } outer kept' asked :=
  ⟨h.desk, h.token, keeps⟩

theorem Steady.advance (h : live.Steady outer kept asked) (clock : Nat) :
    (live.advanceTo clock).Steady outer kept asked :=
  ⟨h.desk, h.token, h.keeps.congr rfl rfl rfl⟩

theorem Steady.answer (h : live.Steady outer kept asked) (text : String) :
    (live.answer text).2.Steady outer kept none := by
  refine h.withDesk (live.desk.answer text).2 (Desk.single_answer h.desk text).1 fun alive => ?_
  rw [Desk.isAborted_answer h.desk] at alive
  exact ⟨alive, Desk.currentToken_congr (Desk.managers_answer live.desk text)⟩

/-- An interrupt leaves no evaluation alive. -/
theorem Steady.interrupted (h : live.Steady outer kept asked) : live.interrupt.isAborted = true := by
  have aborted := (Desk.single_interrupt h.desk).2.2.1 live.token
  rw [isAborted, interrupt, aborted, Bool.or_eq_true]
  by_cases alive : live.isAborted = true
  · exact .inl alive
  · exact .inr (decide_eq_true (h.token (Bool.eq_false_iff.mpr alive)))

theorem Steady.interrupt (h : live.Steady outer kept asked) :
    live.interrupt.Steady outer kept none := by
  refine h.withDesk (live.desk.interrupt 0) (Desk.single_interrupt h.desk).1 fun alive => ?_
  exact absurd h.interrupted (Bool.eq_false_iff.mp alive)

theorem Steady.withdraw (h : live.Steady outer kept asked) (about : ∀ r ∈ asked, r.id = id) :
    (live.withdraw id).Steady outer kept none := by
  refine h.withDesk (live.desk.withdraw id) (Desk.single_withdraw h.desk about).1 fun alive => ?_
  rw [Desk.isAborted_withdraw] at alive
  exact ⟨alive, Desk.currentToken_congr (Desk.managers_withdraw live.desk id)⟩

/-- Whoever reads the output takes nothing from the collector itself. -/
theorem Keeps.withChannel (h : live.Keeps outer kept) (channel : Collector → Option Channel) :
    Keeps { live with console := { live.console with
      collectors := live.console.collectors.modify live.collector fun c =>
        { c with channel := channel c } } } outer kept := by
  obtain ⟨c, own, fragments⟩ := h.own
  exact ⟨h.installed, ⟨_, getElem?_modify_self own _, fragments⟩, h.harmless⟩

theorem Steady.read (h : live.Steady outer kept asked) :
    live.takeUnread.2.Steady outer kept asked := by
  refine h.withConsole ?_
  unfold Console.receive?
  split
  · split
    · exact h.keeps.withChannel _
    · exact h.keeps
  · exact h.keeps

theorem Steady.hangUp (h : live.Steady outer kept asked) : live.hangUp.Steady outer kept asked :=
  h.withConsole (h.keeps.withChannel _)

/-! ## Waiting for a line -/

section

variable {status : Option Reply}

theorem Steady.settled {r : PendingRequest} {reply : Reply} (h : live.Steady outer kept (some r))
    (steady : after.Steady outer kept none)
    (replies : after.desk.replies = live.desk.replies ++ [(r.id, reply)]) :
    after.Awaits outer kept r.id (some reply) := by
  obtain ⟨rest, found⟩ := h.desk.fetch_settled replies
  exact .settled steady (by rw [found]; rfl)

theorem Awaits.congr (h : live.Awaits outer kept id (some reply))
    (steady : after.Steady outer kept none) (replies : after.desk.replies = live.desk.replies) :
    after.Awaits outer kept id (some reply) := by
  cases h with
  | settled _ found => exact .settled steady ((Desk.fetch_congr replies id).trans found)

/-- An answer counts if none came before. -/
theorem Awaits.answer (h : live.Awaits outer kept id status) (text : String) :
    (live.answer text).2.Awaits outer kept id (some (status.getD (.line text))) := by
  cases h with
  | asked steady alive about =>
    subst about
    exact steady.settled (steady.answer text) (Desk.single_answer steady.desk text).2
  | settled steady found =>
    refine Awaits.congr (.settled steady found) (steady.answer text) ?_
    exact (Desk.single_answer steady.desk text).2.trans (List.append_nil _)

theorem Awaits.interrupt (h : live.Awaits outer kept id status) :
    live.interrupt.Awaits outer kept id (some (status.getD .cancelled)) := by
  cases h with
  | asked steady alive about =>
    subst about
    exact steady.settled steady.interrupt (Desk.single_interrupt steady.desk).2.1
  | settled steady found =>
    refine Awaits.congr (.settled steady found) steady.interrupt ?_
    exact (Desk.single_interrupt steady.desk).2.1.trans (List.append_nil _)

theorem Awaits.alive (h : live.Awaits outer kept id none) : live.isAborted = false := by
  cases h with
  | asked _ alive => exact alive

/-- What leaves the desk alone changes nothing about the wait. -/
theorem Awaits.sameDesk (h : live.Awaits outer kept id status) (desk : after.desk = live.desk)
    (token : after.token = live.token)
    (steady : ∀ asked, live.Steady outer kept asked → after.Steady outer kept asked) :
    after.Awaits outer kept id status := by
  cases h with
  | asked before alive about =>
    refine .asked (steady _ before) ?_ about
    rwa [isAborted, desk, token]
  | settled before found => exact .settled (steady _ before) (desk ▸ found)

/-- A wait goes on as a wait, and what settled it stays. -/
theorem Awaits.meanwhile (h : live.Awaits outer kept id status) (moves : live.Meanwhile after) :
    ∃ status', after.Awaits outer kept id status' ∧
      ∀ reply, status = some reply → status' = some reply := by
  induction moves with
  | start => exact ⟨status, h, fun _ now => now⟩
  | @answer mid text _ ih =>
    obtain ⟨status', waits, settled⟩ := ih
    exact ⟨_, waits.answer text, fun reply now => by rw [settled reply now]; rfl⟩
  | @interrupt mid _ ih =>
    obtain ⟨status', waits, settled⟩ := ih
    exact ⟨_, waits.interrupt, fun reply now => by rw [settled reply now]; rfl⟩
  | @advance mid clock _ ih =>
    obtain ⟨status', waits, settled⟩ := ih
    exact ⟨status', waits.sameDesk rfl rfl fun _ steady => steady.advance clock, settled⟩
  | @read mid _ ih =>
    obtain ⟨status', waits, settled⟩ := ih
    exact ⟨status', waits.sameDesk rfl rfl fun _ steady => steady.read, settled⟩
  | @hangUp mid _ ih =>
    obtain ⟨status', waits, settled⟩ := ih
    exact ⟨status', waits.sameDesk rfl rfl fun _ steady => steady.hangUp, settled⟩

/-- The reply is fetched once it is there, and not before. -/
theorem Awaits.reply? (h : live.Awaits outer kept id status) :
    status = none ∧ live.reply? id = none ∨
    ∃ reply rest, status = some reply ∧ live.reply? id = some (reply.line?, rest) ∧
      rest.Steady outer kept none ∧ rest.isAborted = live.isAborted ∧ rest.clock = live.clock := by
  cases h with
  | asked steady alive about =>
    subst about
    exact .inl ⟨rfl, by simp [Live.reply?, steady.desk.fetch_eq_none]⟩
  | @settled reply steady found =>
    obtain ⟨⟨reply', desk⟩, fetched, rfl⟩ := Option.map_eq_some_iff.mp found
    refine .inr ⟨reply', { live with desk := desk }, rfl, ?_, ?_, ?_, rfl⟩
    · cases reply' <;> simp [Live.reply?, fetched, Reply.line?]
    · refine steady.withDesk desk (Desk.single_fetch steady.desk fetched) fun alive => ?_
      rw [Desk.isAborted_congr (Desk.tokens_fetch fetched)] at alive
      exact ⟨alive, Desk.currentToken_congr (Desk.managers_fetch fetched)⟩
    · exact Desk.isAborted_congr (Desk.tokens_fetch fetched) _

theorem Awaits.withdraw (h : live.Awaits outer kept id status) :
    (live.withdraw id).Steady outer kept none := by
  cases h with
  | asked steady _ about =>
    refine steady.withdraw ?_
    rintro r ⟨⟩
    exact about
  | settled steady _ => exact steady.withdraw (by simp)

end

/-! ## Steps -/

theorem Steady.isAborted_answer (h : live.Steady outer kept asked) (text : String) :
    (live.answer text).2.isAborted = live.isAborted := Desk.isAborted_answer h.desk text _

/-- Nobody starts to ask from outside, and a cancelled evaluation stays cancelled. -/
theorem Steady.meanwhile (h : live.Steady outer kept asked) (moves : live.Meanwhile after) :
    ∃ asked', after.Steady outer kept asked' ∧ (asked = none → asked' = none) ∧
      (live.isAborted = true → after.isAborted = true) := by
  induction moves with
  | start => exact ⟨asked, h, fun none => none, fun cut => cut⟩
  | answer text _ ih =>
    obtain ⟨asked', steady, -, cut⟩ := ih
    exact ⟨none, steady.answer text, fun _ => rfl, fun now =>
      (steady.isAborted_answer text).trans (cut now)⟩
  | interrupt _ ih =>
    obtain ⟨asked', steady, -⟩ := ih
    exact ⟨none, steady.interrupt, fun _ => rfl, fun _ => steady.interrupted⟩
  | advance clock _ ih =>
    obtain ⟨asked', steady, rests, cut⟩ := ih
    exact ⟨asked', steady.advance clock, rests, cut⟩
  | read _ ih =>
    obtain ⟨asked', steady, rests, cut⟩ := ih
    exact ⟨asked', steady.read, rests, cut⟩
  | hangUp _ ih =>
    obtain ⟨asked', steady, rests, cut⟩ := ih
    exact ⟨asked', steady.hangUp, rests, cut⟩

theorem Steady.nextRequest_meanwhile (h : live.Steady outer kept asked)
    (moves : live.Meanwhile after) : after.desk.nextRequest = live.desk.nextRequest := by
  induction moves with
  | start => rfl
  | answer text before ih =>
    obtain ⟨asked', steady, -⟩ := h.meanwhile before
    exact (Desk.nextRequest_answer steady.desk text).trans ih
  | interrupt before ih =>
    obtain ⟨asked', steady, -⟩ := h.meanwhile before
    exact (Desk.single_interrupt steady.desk).2.2.2.trans ih
  | advance _ _ ih | read _ ih | hangUp _ ih => exact ih

theorem Awaits.steady {status : Option Reply} (h : live.Awaits outer kept id status) :
    ∃ asked, live.Steady outer kept asked := by
  cases h with
  | asked steady => exact ⟨_, steady⟩
  | settled steady => exact ⟨_, steady⟩

theorem Steady.ask (h : live.Steady outer kept none) (alive : live.isAborted = false)
    (prompt : String) : (live.ask prompt).2.Awaits outer kept (live.ask prompt).1 none := by
  obtain ⟨r, e, queued, -, single, -, current, aborted⟩ := Desk.single_enqueue h.desk prompt
  have asks : live.ask prompt = (r.id, { live with desk := e }) := by
    rw [Live.ask, h.token alive, queued]
  rw [asks]
  refine .asked (h.withDesk e single fun _ => ⟨alive, current⟩) ?_ rfl
  rw [isAborted, aborted]
  exact alive

/-- The request has the next number, and is shown. -/
theorem Steady.ask_shown (h : live.Steady outer kept none) (alive : live.isAborted = false)
    (prompt : String) : (live.ask prompt).1 = live.desk.nextRequest ∧
      (live.ask prompt).2.desk.shown = some ⟨live.desk.nextRequest, prompt⟩ :: live.desk.shown ∧
      (live.ask prompt).2.desk.nextRequest = live.desk.nextRequest + 1 := by
  obtain ⟨e, queued, shown, next⟩ := Desk.enqueued h.desk prompt
  have asks : live.ask prompt = (live.desk.nextRequest, { live with desk := e }) := by
    rw [Live.ask, h.token alive, queued]
  rw [asks]
  exact ⟨rfl, shown, next⟩

end Live

/-- What a call writes. -/
def Call.fragments : Call → List Fragment
  | .emit f => [f]
  | _ => []

namespace Live

variable {live after : Live} {outer : List Nat} {kept : List Fragment}

/-- Calls that are answered at once leave the desk alone. -/
theorem serve_desk {request : Call} {reply : request.Reply}
    (served : live.serve request = some (reply, after)) :
    after.desk = live.desk ∧ after.token = live.token := by
  cases request with
  | emit | warn | aborted | generation | consoleDepth =>
    cases served
    exact ⟨rfl, rfl⟩
  | readLine =>
    obtain ⟨-, -, rfl⟩ := served_readLine served
    exact ⟨rfl, rfl⟩
  | sleep =>
    obtain ⟨-, -, rfl⟩ := served_sleep served
    exact ⟨rfl, rfl⟩

theorem Steady.serve (h : live.Steady outer kept none) {request : Call} {reply : request.Reply}
    (served : live.serve request = some (reply, after)) :
    after.Steady outer (kept ++ request.fragments) none ∧ after.isAborted = live.isAborted := by
  cases request with
  | emit f =>
    cases served
    exact ⟨h.withConsole (keeps_emit h.keeps f), rfl⟩
  | warn message range =>
    cases served
    have warned : (live.warn message range).Steady outer kept none :=
      ⟨h.desk, h.token, keeps_warn h.keeps message range⟩
    exact ⟨by simpa [Call.fragments] using warned, rfl⟩
  | aborted | generation | consoleDepth =>
    cases served
    exact ⟨by simpa [Call.fragments] using h, rfl⟩
  | readLine prompt =>
    obtain ⟨-, -, rfl⟩ := served_readLine served
    exact ⟨by simpa [Call.fragments] using h, rfl⟩
  | sleep millis =>
    obtain ⟨-, -, rfl⟩ := served_sleep served
    exact ⟨by simpa [Call.fragments] using h, rfl⟩

end Live

namespace Underway

variable {σ : Type} {u v : Underway σ} {outer : List Nat} {kept : List Fragment}

/-- What surrounds an evaluation, while it runs and while it waits. -/
def Steady (u : Underway σ) (outer : List Nat) (kept : List Fragment) : Prop :=
  match u with
  | running _ live | pausing _ _ _ live => live.Steady outer kept none
  | asking _ _ id live => ∃ status, live.Awaits outer kept id status

/-- What the next step writes. -/
def fragments : Underway σ → List Fragment
  | running (.call _ request _) _ => request.fragments
  | _ => []

theorem Steady.step (h : u.Steady outer kept) (step : Step u v) :
    v.Steady outer (kept ++ u.fragments) ∧
    (u.live.isAborted = true → v.live.isAborted = true) := by
  cases step with
  | serve served =>
    obtain ⟨steady, same⟩ := Live.Steady.serve h served
    exact ⟨steady, fun cut => same.trans cut⟩
  | ask alive =>
    refine ⟨⟨none, ?_⟩, fun cut => absurd cut (Bool.eq_false_iff.mp alive)⟩
    simpa [fragments, Call.fragments] using Live.Steady.ask h alive _
  | pause alive => exact ⟨by simpa [fragments, Call.fragments, Steady] using h, fun cut => cut⟩
  | askingMeanwhile moves =>
    obtain ⟨status, waits⟩ := h
    obtain ⟨status', waits', -⟩ := waits.meanwhile moves
    obtain ⟨asked, steady⟩ := waits.steady
    obtain ⟨-, -, -, cut⟩ := steady.meanwhile moves
    exact ⟨⟨status', by simpa [fragments] using waits'⟩, cut⟩
  | pausingMeanwhile moves =>
    obtain ⟨asked, steady, rests, cut⟩ := Live.Steady.meanwhile h moves
    cases rests rfl
    exact ⟨by simpa [fragments, Steady] using steady, cut⟩
  | settled found =>
    obtain ⟨status, waits⟩ := h
    rcases waits.reply? with ⟨-, absent⟩ | ⟨reply, rest, -, fetched, steady, same, -⟩
    · rw [absent] at found
      cases found
    · rw [fetched] at found
      cases found
      exact ⟨by simpa [fragments, Steady] using steady, fun cut => same.trans cut⟩
  | elapsed | cut => exact ⟨by simpa [fragments, Steady] using h, fun cut => cut⟩

theorem Steady.reaches (h : u.Steady outer kept) (run : Reaches u v) :
    ∃ more, v.Steady outer (kept ++ more) ∧
      (u.live.isAborted = true → v.live.isAborted = true) := by
  induction run with
  | refl => exact ⟨[], by simpa using h, fun cut => cut⟩
  | tail _ step ih =>
    obtain ⟨more, steady, cut⟩ := ih
    obtain ⟨steady', cut'⟩ := steady.step step
    exact ⟨more ++ _, by simpa using steady', fun now => cut' (cut now)⟩

/-- However an evaluation ends, nobody asks any more. -/
theorem Steady.ends (h : u.Steady outer kept) {ending : Ending σ} {live : Live}
    (ends : u.Ends ending live) : live.Steady outer kept none := by
  cases ends with
  | finished => exact h
  | askingGivenUp =>
    obtain ⟨status, waits⟩ := h
    exact waits.withdraw
  | pausingGivenUp => exact h

end Underway

/-! ## Policies -/

/-- How a wait for a line may end. -/
inductive Live.EndsLine (live : Live) (id : Nat) : Verdict (Option String) → Live → Prop where
  | settled {mid line after} : live.Meanwhile mid → mid.reply? id = some (line, after) →
      EndsLine live id (.resume line) after
  | abandoned {after} : live.Meanwhile after → EndsLine live id .abandon after

/-- How a pause may end. -/
inductive Live.EndsPause (live : Live) (deadline : Nat) : Verdict Bool → Live → Prop where
  | elapsed {after} : live.Meanwhile after → deadline ≤ after.clock →
      EndsPause live deadline (.resume true) after
  | cut {after} : live.Meanwhile after → after.isAborted = true →
      EndsPause live deadline (.resume false) after
  | abandoned {after} : live.Meanwhile after → EndsPause live deadline .abandon after

namespace Live

variable {live after : Live} {outer : List Nat} {kept : List Fragment} {id deadline : Nat}

/-- What was asked is settled, and nothing else is asked. -/
theorem EndsLine.steady {line : Option String} (waits : live.Awaits outer kept id none)
    (ends : live.EndsLine id (.resume line) after) :
    after.Steady outer kept none ∧ after.desk.nextRequest = live.desk.nextRequest := by
  cases ends with
  | @settled mid _ _ moves found =>
    obtain ⟨status, waits', -⟩ := waits.meanwhile moves
    obtain ⟨asked, steady⟩ := waits.steady
    have next := steady.nextRequest_meanwhile moves
    rcases waits'.reply? with ⟨-, absent⟩ | ⟨reply, rest, -, fetched, steady', -⟩
    · rw [absent] at found
      cases found
    · obtain ⟨⟨reply', desk⟩, taken, eq⟩ := Option.map_eq_some_iff.mp fetched
      rw [fetched] at found
      cases found
      have same : after.desk = desk := (congrArg (fun entry => entry.2.desk) eq).symm
      refine ⟨steady', Eq.trans ?_ next⟩
      rw [same]
      exact congrArg Front.nextRequest (Desk.front_fetch taken)

theorem EndsPause.steady {passed : Bool} (steady : live.Steady outer kept none)
    (ends : live.EndsPause deadline (.resume passed) after) :
    after.Steady outer kept none ∧ after.desk.nextRequest = live.desk.nextRequest := by
  have still : live.Meanwhile after → after.Steady outer kept none ∧
      after.desk.nextRequest = live.desk.nextRequest := by
    intro moves
    obtain ⟨asked, steady', rests, -⟩ := steady.meanwhile moves
    cases rests rfl
    exact ⟨steady', steady.nextRequest_meanwhile moves⟩
  cases ends with
  | elapsed moves => exact still moves
  | cut moves => exact still moves

end Live

/-- A policy that does to a suspended evaluation only what may happen around it, and lets it go on
when its wait is over. -/
structure Policy.Fair {ω : Type} (policy : Policy ω) : Prop where
  line : ∀ (id : Nat) (live : Live) (w : ω) (outer : List Nat) (kept : List Fragment),
    live.Awaits outer kept id none →
    live.EndsLine id (policy.awaitLine id live w).1 (policy.awaitLine id live w).2.1
  pause : ∀ (deadline : Nat) (live : Live) (w : ω) (outer : List Nat) (kept : List Fragment),
    live.Steady outer kept none → live.isAborted = false →
    live.EndsPause deadline (policy.awaitTime deadline live w).1
      (policy.awaitTime deadline live w).2.1

section

variable {σ ω : Type} {policy : Policy ω}

theorem play_serve {s : σ} {request : Call} {resume : request.Reply → Process σ Finish}
    {live after : Live} {reply : request.Reply} (served : live.serve request = some (reply, after))
    (w : ω) : (Process.call s request resume).play policy live w =
      (resume reply).play policy after w := by
  cases request with
  | emit | warn | aborted | generation | consoleDepth =>
    cases served
    rfl
  | readLine prompt =>
    obtain ⟨aborted, rfl, rfl⟩ := Live.served_readLine served
    simp [Process.play, aborted]
  | sleep millis =>
    obtain ⟨aborted, rfl, rfl⟩ := Live.served_sleep served
    simp [Process.play, aborted]

theorem play_asks {s : σ} {live : Live} {prompt : String} {resume : Option String → Process σ Finish}
    (alive : live.isAborted = false) (w : ω) :
    (Process.call s (.readLine prompt) resume).play policy live w =
      match policy.awaitLine (live.ask prompt).1 (live.ask prompt).2 w with
      | (.resume line, after, w) => (resume line).play policy after w
      | (.abandon, after, w) => (.givenUp s, after.withdraw (live.ask prompt).1, w) := by
  simp only [Process.play, alive, Bool.false_eq_true, if_false]
  rfl

theorem play_pauses {s : σ} {live : Live} {millis : Nat} {resume : Bool → Process σ Finish}
    (alive : live.isAborted = false) (w : ω) :
    (Process.call s (.sleep millis) resume).play policy live w =
      match policy.awaitTime (live.clock + millis) live w with
      | (.resume passed, after, w) => (resume passed).play policy after w
      | (.abandon, after, w) => (.givenUp s, after, w) := by
  rw [Process.play]
  exact if_neg (Bool.eq_false_iff.mp alive)

/-- Playing a process under a fair policy is one of its runs. -/
theorem play_ends (fair : policy.Fair) (p : Process σ Finish) {live : Live} {outer : List Nat}
    {kept : List Fragment} (steady : live.Steady outer kept none) (w : ω) : ∃ u,
      Reaches (.running p live) u ∧
      u.Ends (p.play policy live w).1 (p.play policy live w).2.1 := by
  induction p generalizing live kept w with
  | done s finish => exact ⟨_, .refl, .finished⟩
  | call s request resume ih =>
    cases served : live.serve request with
    | some found =>
      obtain ⟨reply, after⟩ := found
      obtain ⟨u, run, ends⟩ := ih reply (steady.serve served).1 w
      rw [play_serve served]
      exact ⟨u, .head (.serve served) run, ends⟩
    | none =>
      -- Only the two calls that take time are not answered at once.
      cases request with
      | emit | warn | aborted | generation | consoleDepth => cases served
      | readLine prompt =>
        have alive := Live.not_served_readLine served
        have asks := steady.ask alive prompt
        have ended := fair.line _ _ w _ _ asks
        have asking : Step (.running (.call s (.readLine prompt) resume) live) _ := .ask alive
        rw [play_asks alive]
        generalize policy.awaitLine (live.ask prompt).1 (live.ask prompt).2 w = verdict at ended ⊢
        obtain ⟨verdict, after, w'⟩ := verdict
        cases ended with
        | @settled mid line _ moves found =>
          obtain ⟨status, waits, -⟩ := asks.meanwhile moves
          rcases waits.reply? with ⟨-, absent⟩ | ⟨reply, rest, -, fetched, steady', -⟩
          · rw [absent] at found
            cases found
          · have same := fetched.symm.trans found
            cases same
            obtain ⟨u, run, ends⟩ := ih _ steady' w'
            refine ⟨u, .head asking (.head (.askingMeanwhile moves) ?_), ends⟩
            exact .head (.settled found) run
        | abandoned moves =>
          exact ⟨_, .head asking (.single (.askingMeanwhile moves)), .askingGivenUp⟩
      | sleep millis =>
        have alive := Live.not_served_sleep served
        have ended := fair.pause (live.clock + millis) live w _ _ steady alive
        have pausing : Step (.running (.call s (.sleep millis) resume) live) _ := .pause alive
        rw [play_pauses alive]
        generalize policy.awaitTime (live.clock + millis) live w = verdict at ended ⊢
        obtain ⟨verdict, after, w'⟩ := verdict
        cases ended with
        | elapsed moves late =>
          obtain ⟨asked, steady', rests, -⟩ := steady.meanwhile moves
          cases rests rfl
          obtain ⟨u, run, ends⟩ := ih true steady' w'
          refine ⟨u, .head pausing (.head (.pausingMeanwhile moves) ?_), ends⟩
          exact .head (.elapsed late) run
        | cut moves aborted =>
          obtain ⟨asked, steady', rests, -⟩ := steady.meanwhile moves
          cases rests rfl
          obtain ⟨u, run, ends⟩ := ih false steady' w'
          refine ⟨u, .head pausing (.head (.pausingMeanwhile moves) ?_), ends⟩
          exact .head (.cut aborted) run
        | abandoned moves =>
          exact ⟨_, .head pausing (.single (.pausingMeanwhile moves)), .pausingGivenUp⟩

end

end ScriptSession
