import ScriptSession.Proofs.Session.Underway
import ScriptSession.Session.Batch
import ScriptSession.Session.Drive

/-!
# The policies are fair

Schedules, batch runs and the loop at the prompt do nothing to a suspended evaluation but answer it,
interrupt it, let time pass and read its output (`Schedule.policy_fair`, `Batch.policy_fair`,
`Drive.policy_fair`).
-/
namespace ScriptSession

namespace Live

variable {live mid after : Live} {outer : List Nat} {kept : List Fragment} {id : Nat}
  {status : Option Reply}

theorem EndsLine.before {verdict : Verdict (Option String)} (moves : live.Meanwhile mid)
    (ends : mid.EndsLine id verdict after) : live.EndsLine id verdict after := by
  cases ends with
  | settled later found => exact .settled (moves.trans later) found
  | abandoned later => exact .abandoned (moves.trans later)

theorem EndsPause.before {verdict : Verdict Bool} {deadline : Nat} (moves : live.Meanwhile mid)
    (ends : mid.EndsPause deadline verdict after) : live.EndsPause deadline verdict after := by
  cases ends with
  | elapsed later late => exact .elapsed (moves.trans later) late
  | cut later aborted => exact .cut (moves.trans later) aborted
  | abandoned later => exact .abandoned (moves.trans later)

/-- A reply that is there can be taken. -/
theorem Awaits.takeReply {reply : Reply} (h : live.Awaits outer kept id (some reply)) :
    live.reply? id = some (live.takeReply id) := by
  rcases h.reply? with ⟨none, -⟩ | ⟨_, rest, -, found, -⟩
  · cases none
  · simp [Live.takeReply, found]

theorem Awaits.takeReply_eq {reply : Reply} (h : live.Awaits outer kept id (some reply)) :
    ∃ rest, live.takeReply id = (reply.line?, rest) ∧ rest.Steady outer kept none ∧
      rest.isAborted = live.isAborted ∧ rest.clock = live.clock := by
  rcases h.reply? with ⟨none, -⟩ | ⟨_, rest, same, found, steady, aborted, clock⟩
  · cases none
  · cases same
    exact ⟨rest, by simp [Live.takeReply, found], steady, aborted, clock⟩

theorem takeReply_shown (live : Live) (id : Nat) :
    (live.takeReply id).2.desk.shown = live.desk.shown := by
  unfold takeReply reply?
  cases found : live.desk.fetch? id with
  | none => rfl
  | some taken =>
    have shown : taken.2.shown = live.desk.shown := by rw [Desk.fetch_shape found]
    exact shown

/-- A wait that is settled ends with the reply. -/
theorem Awaits.endsLine {reply : Reply} (h : mid.Awaits outer kept id (some reply))
    (moves : live.Meanwhile mid) :
    live.EndsLine id (.resume (mid.takeReply id).1) (mid.takeReply id).2 :=
  .settled moves h.takeReply

/-- Output may be read before the reply is taken or after that. -/
theorem takeReply_takeUnread (live : Live) (id : Nat) : live.takeUnread.2.takeReply id =
    ((live.takeReply id).1, (live.takeReply id).2.takeUnread.2) := by
  have fetched : live.takeUnread.2.desk.fetch? id = live.desk.fetch? id := rfl
  unfold takeReply reply?
  rw [fetched]
  cases live.desk.fetch? id <;> rfl

theorem Awaits.read (h : live.Awaits outer kept id status) :
    live.takeUnread.2.Awaits outer kept id status :=
  h.sameDesk rfl rfl fun _ steady => steady.read

theorem Awaits.advance (h : live.Awaits outer kept id status) (clock : Nat) :
    (live.advanceTo clock).Awaits outer kept id status :=
  h.sameDesk rfl rfl fun _ steady => steady.advance clock

theorem le_advanceTo (live : Live) (clock : Nat) : clock ≤ (live.advanceTo clock).clock :=
  Nat.le_max_right live.clock clock

end Live

/-! ## Schedules -/

namespace Schedule

theorem act_meanwhile (live : Live) (actions : List Action) : live.Meanwhile (act live actions).2 := by
  induction actions generalizing live with
  | nil => exact .start
  | cons action rest ih =>
    cases action with
    | answer text => exact (Live.Meanwhile.start.answer text).trans (ih _)
    | interrupt => exact Live.Meanwhile.start.interrupt.trans (ih live.interrupt)
    | abandon => exact .start

/-- When an event happens to an evaluation that waits for a line. -/
def reach (w : Schedule) (live : Live) (event : Scheduled) : Live :=
  match event.after with
  | some after => live.advanceTo (w.dueTime live after)
  | none => live

theorem awaitLine_cons (id : Nat) (live : Live) (w : Schedule) (event : Scheduled)
    (rest : List Scheduled) : awaitLine id live w (event :: rest) =
      let happened := act (w.reach live event) event.actions
      let w' := { w.note (w.reach live event).desk.visible happened.1 with upcoming := rest }
      match happened.1 with
      | none => (.abandon, happened.2, w')
      | some _ =>
        match happened.2.reply? id with
        | some (line, after) => (.resume line, after, w')
        | none => awaitLine id happened.2 w' rest := rfl

theorem awaitLine_ends {outer : List Nat} {kept : List Fragment} (id : Nat)
    (upcoming : List Scheduled) (live : Live) (w : Schedule)
    (waits : live.Awaits outer kept id none) :
    live.EndsLine id (awaitLine id live w upcoming).1 (awaitLine id live w upcoming).2.1 := by
  induction upcoming generalizing live w with
  | nil => exact waits.interrupt.endsLine Live.Meanwhile.start.interrupt
  | cons event rest ih =>
    have reached : live.Meanwhile (w.reach live event) := by
      unfold reach
      split
      · exact .advance _ .start
      · exact .start
    have moves := reached.trans (act_meanwhile (w.reach live event) event.actions)
    obtain ⟨status, waits', -⟩ := waits.meanwhile moves
    refine Live.EndsLine.before moves ?_
    rw [awaitLine_cons]
    generalize act (w.reach live event) event.actions = happened at waits' ⊢
    dsimp only
    cases happened.1 with
    | none => exact .abandoned .start
    | some responses =>
      dsimp only
      cases found : happened.2.reply? id with
      | some taken => exact .settled .start found
      | none =>
        rcases waits'.reply? with ⟨rfl, -⟩ | ⟨reply, rest', -, there, -⟩
        · exact ih _ _ waits'
        · rw [there] at found
          cases found

theorem awaitTime_ends {outer : List Nat} {kept : List Fragment} (deadline : Nat)
    (upcoming : List Scheduled) (live : Live) (w : Schedule) (steady : live.Steady outer kept none) :
    live.EndsPause deadline (awaitTime deadline live w upcoming).1
      (awaitTime deadline live w upcoming).2.1 := by
  have passed : live.EndsPause deadline (.resume true) (live.advanceTo deadline) :=
    .elapsed (.advance deadline .start) (live.le_advanceTo deadline)
  induction upcoming generalizing live w with
  | nil => exact passed
  | cons event rest ih =>
    unfold awaitTime
    cases event.after with
    | none => exact passed
    | some after =>
      dsimp only
      split
      · exact passed
      · have moves := (Live.Meanwhile.start.advance (w.dueTime live after)).trans
          (act_meanwhile (live.advanceTo (w.dueTime live after)) event.actions)
        obtain ⟨asked, steady', rests, -⟩ := steady.meanwhile moves
        cases rests rfl
        refine Live.EndsPause.before moves ?_
        generalize act (live.advanceTo (w.dueTime live after)) event.actions = happened at steady' ⊢
        obtain ⟨responses, live'⟩ := happened
        cases responses with
        | none => exact .abandoned .start
        | some responses =>
          dsimp only
          split
          · rename_i aborted
            exact .cut .start aborted
          · exact ih live' _ steady' (.elapsed (.advance deadline .start) (live'.le_advanceTo deadline))

theorem policy_fair : policy.Fair where
  line id live w _ _ waits := awaitLine_ends id w.upcoming live w waits
  pause deadline live w _ _ steady _ := awaitTime_ends deadline w.upcoming live w steady

end Schedule

/-! ## Batch runs -/

namespace Batch

variable {live mid : Live} {outer : List Nat} {kept : List Fragment} {id : Nat} {reply : Reply}

/-- A reply that is taken before the output is read. -/
theorem ends_flush (waits : mid.Awaits outer kept id (some reply)) (moves : live.Meanwhile mid)
    (w : Batch) : live.EndsLine id (.resume (mid.takeReply id).1) (flush (mid.takeReply id).2 w).1 := by
  have ends := waits.read.endsLine moves.read
  rwa [Live.takeReply_takeUnread] at ends

theorem policy_fair : policy.Fair where
  line id live w outer kept waits := by
    change live.EndsLine id (awaitLine id live w).1 (awaitLine id live w).2.1
    have interrupted : ∀ w, live.EndsLine id (interrupted id live w).1 (interrupted id live w).2.1 :=
      ends_flush waits.interrupt Live.Meanwhile.start.interrupt
    unfold awaitLine
    dsimp only
    split
    · exact interrupted _
    · split
      · exact .abandoned .start
      · exact interrupted _
      · exact ends_flush (waits.answer _) (Live.Meanwhile.start.answer _) _
  pause deadline live w _ _ _ _ := .elapsed (.advance deadline (.read .start)) (Live.le_advanceTo ..)

end Batch

/-! ## The loop at the prompt -/

namespace Drive

variable {live mid : Live} {outer : List Nat} {kept : List Fragment} {id : Nat}
  {status : Option Reply}

theorem flush_eq (live : Live) (w : Drive) : (flush live w).1 = live.takeUnread.2 := by
  unfold flush
  dsimp only
  split <;> rfl

/-- Before the loop waits it reads the output at most. -/
theorem look_eq (interrupts : Interrupts) (live : Live) (w : Drive) :
    (look interrupts live w).1 = live ∨ (look interrupts live w).1 = live.takeUnread.2 := by
  unfold look
  split
  · exact .inl rfl
  · exact .inr (flush_eq ..)

theorem look_moves (interrupts : Interrupts) (live : Live) (w : Drive) :
    live.Meanwhile (look interrupts live w).1 := by
  rcases look_eq interrupts live w with same | read
  · rw [same]
    exact .start
  · rw [read]
    exact .read .start

theorem interrupt_eq (live : Live) (w : Drive) :
    (interrupt live w).1 = live.interrupt.takeUnread.2 := flush_eq ..

/-- A line is an answer; everything else that ends a wait is an interrupt, or ends the loop. -/
theorem respond_cases (live : Live) (w : Drive) (read : Option Read) :
    (∃ text, (respond live w read).1 = (live.answer text).2.takeUnread.2) ∨
    (respond live w read).1 = live.interrupt.takeUnread.2 ∨
    (respond live w read).1 = live ∧ (respond live w read).2.failure.isSome = true := by
  match read with
  | none => exact .inr (.inl (interrupt_eq ..))
  | some (.line text _) => exact .inl ⟨text, flush_eq ..⟩
  | some .interrupted | some .endOfInput | some .never => exact .inr (.inl (interrupt_eq ..))
  | some (.broken _) => exact .inr (.inr ⟨rfl, rfl⟩)

theorem respond_moves (live : Live) (w : Drive) (read : Option Read) :
    live.Meanwhile (respond live w read).1 := by
  rcases respond_cases live w read with ⟨text, answered⟩ | interrupted | ⟨same, -⟩
  · rw [answered]
    exact .read (.answer text .start)
  · rw [interrupted]
    exact .read (.interrupt .start)
  · rw [same]
    exact .start

theorem respond_awaits (waits : mid.Awaits outer kept id status) (w : Drive) (read : Option Read) :
    (respond mid w read).2.failure.isSome = true ∨
    ∃ reply, (respond mid w read).1.Awaits outer kept id (some reply) := by
  rcases respond_cases mid w read with ⟨text, answered⟩ | interrupted | ⟨-, failed⟩
  · rw [answered]
    exact .inr ⟨_, (waits.answer text).read⟩
  · rw [interrupted]
    exact .inr ⟨_, waits.interrupt.read⟩
  · exact .inl failed

theorem awaitLine_ends (interrupts : Interrupts) (w : Drive)
    (waits : live.Awaits outer kept id none) :
    live.EndsLine id (awaitLine interrupts id live w).1 (awaitLine interrupts id live w).2.1 := by
  have moves := look_moves interrupts live w
  obtain ⟨status, waits', -⟩ := waits.meanwhile moves
  unfold awaitLine
  generalize look interrupts live w = looked at moves waits' ⊢
  obtain ⟨live', w'⟩ := looked
  dsimp only at moves waits' ⊢
  cases next interrupts w' with
  | none => exact .abandoned moves
  | some entry =>
    obtain ⟨clock, read⟩ := entry
    have moves' := (moves.advance clock).trans (respond_moves (live'.advanceTo clock) w' read)
    dsimp only
    split
    · exact .abandoned moves'
    · rename_i calm
      obtain ⟨reply, settled⟩ :=
        (respond_awaits (waits'.advance clock) w' read).resolve_left calm
      exact settled.endsLine moves'

theorem awaitTimeAlone_ends {asked : Option PendingRequest} (interrupts : Interrupts)
    (deadline : Nat) (w : Drive) (steady : mid.Steady outer kept asked)
    (moves : live.Meanwhile mid) :
    live.EndsPause deadline (awaitTimeAlone interrupts deadline mid w).1
      (awaitTimeAlone interrupts deadline mid w).2.1 := by
  have passed : live.EndsPause deadline (.resume true) (mid.advanceTo deadline) :=
    .elapsed (moves.advance deadline) (mid.le_advanceTo deadline)
  unfold awaitTimeAlone
  split
  · rename_i clock _
    split
    · dsimp only
      rw [interrupt_eq]
      exact .cut (.read (.interrupt (moves.advance clock))) (steady.advance clock).interrupted
    · exact passed
  · exact passed

theorem awaitTime_ends (interrupts : Interrupts) (deadline : Nat) (w : Drive)
    (steady : live.Steady outer kept none) : live.EndsPause deadline
      (awaitTime interrupts deadline live w).1 (awaitTime interrupts deadline live w).2.1 := by
  have moves := look_moves interrupts live w
  obtain ⟨asked, steady', -⟩ := steady.meanwhile moves
  unfold awaitTime
  generalize look interrupts live w = looked at moves steady' ⊢
  obtain ⟨live', w'⟩ := looked
  dsimp only at moves steady' ⊢
  split
  · rename_i clock read _
    split
    · have moves' := (moves.advance clock).trans (respond_moves (live'.advanceTo clock) w' (some read))
      obtain ⟨asked', steady'', -⟩ :=
        (steady'.advance clock).meanwhile (respond_moves (live'.advanceTo clock) w' (some read))
      split
      · exact .abandoned moves'
      · split
        · rename_i aborted
          exact .cut moves' aborted
        · exact awaitTimeAlone_ends interrupts deadline _ steady'' moves'
    · exact .elapsed (moves.advance deadline) (live'.le_advanceTo deadline)
  · exact awaitTimeAlone_ends interrupts deadline _ steady' moves

theorem policy_fair (interrupts : Interrupts) : (policy interrupts).Fair where
  line _ _ w _ _ waits := awaitLine_ends interrupts w waits
  pause deadline _ w _ _ steady _ := awaitTime_ends interrupts deadline w steady

end Drive

end ScriptSession
