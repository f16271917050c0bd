import ScriptSession.Proofs.Session.Lockstep
import ScriptSession.Proofs.Session.Policies

/-!
# Waits at the prompt

What the loop at the prompt does while the script waits for a line, or pauses, and how that ends
(`Asked`, `Paused`). Output is written first, unless the interrupt is already due. A request that is
shown is then noticed and starts a read; a pause starts none. Whatever cuts the wait short leaves the
evaluation cancelled and everything written (`CutShort`).
-/
namespace ScriptSession

namespace Drive

/-- No read is open, reading has not failed, and a request that comes can be noticed. -/
structure Rests (w : Drive) (live : Live) : Prop where
  openRead : w.openRead = none
  failure : w.failure = none
  noticed : w.noticed ≤ live.desk.shown.length

/-- The evaluation is cancelled and its output is written. -/
structure CutShort (w : Drive) (live : Live) : Prop where
  aborted : live.isAborted = true
  streams : live.Streams []
  failure : w.failure = none

/-- How the wait for a line ends at the prompt: what the script gets, and what has happened. -/
inductive Asked (w : Drive) (request : ActiveRequest) (output : List Fragment) :
    Verdict (Option String) × Live × Drive → Prop where
  /-- The interrupt comes before the request is noticed. -/
  | unseen {live w'} : w'.CutShort live →
      w'.past = w.past ++ .interrupted :: output.map .wrote →
      Asked w request output (.resume none, live, w')
  | interrupted {live w'} : w'.CutShort live →
      w'.past = w.past ++ .began request :: (output.map .wrote ++ [.interrupted]) →
      Asked w request output (.resume none, live, w')
  | answered {text after live w'} : w.reads.headD .endOfInput = .line text after →
      live.Streams [] → w'.Rests live → w'.reads = w.reads.tail →
      w'.past = w.past ++ .began request :: (output.map .wrote ++ [.came (.line text after)]) →
      Asked w request output (.resume (some text), live, w')
  /-- Something else than a line comes. -/
  | refused {live w'} : (∀ text after, w.reads.headD .endOfInput ≠ .line text after) →
      w'.CutShort live →
      w'.past = w.past ++ .began request ::
        (output.map .wrote ++ [.came (w.reads.headD .endOfInput), .interrupted]) →
      Asked w request output (.resume none, live, w')
  | broken {message live w'} : w.reads.headD .endOfInput = .broken message →
      w'.failure = some message →
      w'.past = w.past ++ .began request :: (output.map .wrote ++ [.came (.broken message)]) →
      Asked w request output (.abandon, live, w')
  /-- Nothing ends the wait. -/
  | stuck {live w'} : live.Streams [] → w'.failure = none →
      w'.past = w.past ++ .began request :: output.map .wrote →
      Asked w request output (.abandon, live, w')

/-- How a pause ends. -/
inductive Paused (w : Drive) (output : List Fragment) : Verdict Bool × Live × Drive → Prop where
  | passed {live w'} : live.Streams [] → w'.Rests live → w'.reads = w.reads →
      w'.past = w.past ++ output.map .wrote → Paused w output (.resume true, live, w')
  | interrupted {live w'} : w'.CutShort live →
      w'.past = w.past ++ (output.map .wrote ++ [.interrupted]) →
      Paused w output (.resume false, live, w')
  | interruptedAtOnce {live w'} : w'.CutShort live →
      w'.past = w.past ++ .interrupted :: output.map .wrote →
      Paused w output (.resume false, live, w')

variable {live mid : Live} {outer : List Nat} {kept waiting : List Fragment} {id : Nat}
  {interrupts : Interrupts} {w : Drive}

theorem flush_writes (streams : live.Streams waiting) (w : Drive) : ∃ turns since,
    flush live w = (live.takeUnread.2,
      { w with past := w.past ++ waiting.map .wrote, turns := turns, since := since }) := by
  obtain ⟨taken, -⟩ := Live.streams_takeUnread streams
  unfold flush
  rw [← taken]
  dsimp only
  split
  · rename_i empty
    have none : live.takeUnread.1 = [] := List.isEmpty_iff.mp empty
    exact ⟨w.turns, w.since, by simp [none]⟩
  · exact ⟨_, _, rfl⟩

theorem interrupt_writes (streams : live.Streams waiting) (w : Drive) : ∃ turns since,
    interrupt live w = (live.interrupt.takeUnread.2,
      { w with
        past := w.past ++ .interrupted :: waiting.map .wrote, turns := turns, since := since }) := by
  have still : live.interrupt.Streams waiting := streams.congr rfl rfl
  obtain ⟨turns, since, flushed⟩ := flush_writes still (w.record .interrupted)
  refine ⟨turns, since, ?_⟩
  rw [interrupt, flushed]
  simp [record]

theorem next_idle (idle : w.openRead = none) :
    next interrupts w = (interruptAt interrupts w).map (·, none) := by
  simp only [next, idle]

/-- What can end a wait while a read is open. -/
theorem next_open (interrupts : Interrupts) {read : Read} {ready : Option Nat}
    (isOpen : w.openRead = some ⟨read, ready⟩) :
    next interrupts w = none ∨ (∃ clock, next interrupts w = some (clock, none)) ∨
      ∃ clock, next interrupts w = some (clock, some read) := by
  have interrupt : (interruptAt interrupts w).map (·, (none : Option Read)) = none ∨
      ∃ clock, (interruptAt interrupts w).map (·, (none : Option Read)) = some (clock, none) := by
    cases interruptAt interrupts w with
    | none => exact .inl rfl
    | some clock => exact .inr ⟨clock, rfl⟩
  unfold next
  rw [isOpen]
  cases ready with
  | none => exact interrupt.imp_right .inl
  | some ready =>
    dsimp only
    split
    · exact .inr (.inr ⟨ready, rfl⟩)
    · exact interrupt.imp_right .inl

/-- A read has started for a request, and the output is written. -/
structure Reads (w : Drive) (request : ActiveRequest) (output : List Fragment) (live : Live)
    (w' : Drive) : Prop where
  openRead : w'.openRead =
    some ⟨w.reads.headD .endOfInput, (w.reads.headD .endOfInput).readyAt live.clock⟩
  reads : w'.reads = w.reads.tail
  noticed : w'.noticed = live.desk.shown.length
  failure : w'.failure = w.failure
  past : w'.past = w.past ++ .began request :: output.map .wrote

/-- A request that is noticed starts a read. -/
theorem look_starts {request : ActiveRequest} (streams : live.Streams waiting)
    (idle : w.openRead = none) (unnoticed : w.noticed < live.desk.shown.length)
    (visible : live.desk.visible = some request)
    (calm : ¬ (next interrupts w).any (·.1 ≤ live.clock) = true) : ∃ w',
      look interrupts live w = (live.takeUnread.2, w') ∧ w.Reads request waiting live w' := by
  have sees : w.sees live = true := by
    simp [Drive.sees, idle, Nat.ne_of_lt unnoticed]
  obtain ⟨turns, since, flushed⟩ := flush_writes streams (notice live w)
  rw [look, if_neg calm, if_pos sees, flushed]
  refine ⟨_, rfl, ?_⟩
  constructor <;> simp [notice, visible, startRead, turn, record]

/-- The script goes on with its reply, unless reading failed. -/
def resumed (id : Nat) (responded : Live × Drive) : Verdict (Option String) × Live × Drive :=
  if responded.2.failure.isSome then (.abandon, responded.1, responded.2)
  else (.resume (responded.1.takeReply id).1, (responded.1.takeReply id).2, responded.2)

theorem awaitLine_eq (interrupts : Interrupts) (id : Nat) (live : Live) (w : Drive) :
    awaitLine interrupts id live w =
      let looked := look interrupts live w
      match next interrupts looked.2 with
      | none => (.abandon, looked.1, looked.2)
      | some (clock, read) => resumed id (respond (looked.1.advanceTo clock) looked.2 read) := rfl

theorem resumed_calm {responded : Live × Drive} (calm : responded.2.failure = none) :
    resumed id responded =
      (.resume (responded.1.takeReply id).1, (responded.1.takeReply id).2, responded.2) := by
  simp [resumed, calm]

/-- An interrupt settles a wait. -/
theorem resumed_interrupt (waits : live.Awaits outer kept id none)
    (streams : live.Streams waiting) (calm : w.failure = none) : ∃ after w',
      resumed id (interrupt live w) = (.resume none, after, w') ∧ w'.CutShort after ∧
      w'.past = w.past ++ .interrupted :: waiting.map .wrote ∧
      after = (live.interrupt.takeUnread.2.takeReply id).2 := by
  obtain ⟨asked, steady⟩ := waits.steady
  obtain ⟨turns, since, interrupted⟩ := interrupt_writes streams w
  obtain ⟨after, taken, -, aborted, -⟩ := waits.interrupt.read.takeReply_eq
  have still : live.interrupt.Streams waiting := streams.congr rfl rfl
  have read := (Live.streams_takeUnread still).2
  obtain ⟨console, collector⟩ := Live.takeReply_console live.interrupt.takeUnread.2 id
  rw [taken] at console collector
  have calm' : (interrupt live w).2.failure = none := by rw [interrupted]; exact calm
  rw [resumed_calm calm', interrupted, taken]
  exact ⟨after, _, rfl, ⟨aborted.trans steady.interrupted, read.congr console collector, calm⟩, rfl,
    rfl⟩

/-- So does a line. -/
theorem resumed_line (waits : live.Awaits outer kept id none) (streams : live.Streams [])
    (rests : w.Rests live) (text : String) : ∃ after w',
      resumed id (flush (live.answer text).2 w) = (.resume (some text), after, w') ∧
      after.Streams [] ∧ w'.Rests after ∧ w'.reads = w.reads ∧ w'.past = w.past ∧
      after = ((live.answer text).2.takeUnread.2.takeReply id).2 := by
  obtain ⟨asked, steady⟩ := waits.steady
  have still : (live.answer text).2.Streams [] := streams.congr rfl rfl
  obtain ⟨turns, since, flushed⟩ := flush_writes still w
  obtain ⟨after, taken, -⟩ := (waits.answer text).read.takeReply_eq
  have read := (Live.streams_takeUnread still).2
  obtain ⟨console, collector⟩ := Live.takeReply_console (live.answer text).2.takeUnread.2 id
  have shown := Live.takeReply_shown (live.answer text).2.takeUnread.2 id
  rw [taken] at console collector shown
  have calm' : (flush (live.answer text).2 w).2.failure = none := by
    rw [flushed]
    exact rests.failure
  have noticed : w.noticed ≤ after.desk.shown.length := by
    rw [show after.desk.shown = (live.answer text).2.desk.shown from shown]
    exact Nat.le_trans rests.noticed (Desk.suffix_answer steady.desk.agrees text).length_le
  rw [resumed_calm calm', flushed, taken]
  exact ⟨after, _, rfl, read.congr console collector, ⟨rests.openRead, rests.failure, noticed⟩, rfl,
    List.append_nil _, rfl⟩

/-- A line that comes while the script waits for it. -/
theorem respond_line {request : ActiveRequest} {w₁ : Drive} (begun : w.Reads request waiting live w₁)
    (calm : w.failure = none) (waits : mid.Awaits outer kept request.id none)
    (streams : mid.Streams []) (shown : mid.desk.shown = live.desk.shown) (text : String)
    (millis : Nat) : ∃ after w',
      resumed request.id (respond mid w₁ (some (.line text millis))) =
        (.resume (some text), after, w') ∧
      after.Streams [] ∧ w'.Rests after ∧ w'.reads = w.reads.tail ∧
      w'.past = w.past ++ .began request :: (waiting.map .wrote ++ [.came (.line text millis)]) ∧
      after = ((mid.answer text).2.takeUnread.2.takeReply request.id).2 := by
  let w₂ : Drive := { (w₁.turn mid.clock).record (.came (.line text millis)) with openRead := none }
  have rests : w₂.Rests mid :=
    ⟨rfl, begun.failure.trans calm, by simp [w₂, turn, record, begun.noticed, shown]⟩
  obtain ⟨after, w', answered, streams', rests', reads, past, left⟩ :=
    resumed_line waits streams rests text
  refine ⟨after, w', answered, streams', rests', reads.trans begun.reads, past.trans ?_, left⟩
  simp [w₂, turn, record, begun.past]

/-- What happens when the read is over, or the user interrupts before that. -/
theorem respond_asked {request : ActiveRequest} {w₁ : Drive} {read : Option Read}
    (begun : w.Reads request waiting live w₁) (calm : w.failure = none)
    (waits : mid.Awaits outer kept request.id none) (streams : mid.Streams [])
    (shown : mid.desk.shown = live.desk.shown)
    (ended : read = none ∨ read = some (w.reads.headD .endOfInput)) :
    Asked w request waiting (resumed request.id (respond mid w₁ read)) := by
  have calm₁ : w₁.failure = none := begun.failure.trans calm
  rcases ended with rfl | rfl
  · obtain ⟨after, w', interrupted, cut, past, -⟩ :=
      resumed_interrupt (w := w₁.turn mid.clock) waits streams calm₁
    rw [respond, interrupted]
    exact .interrupted cut (by simp [past, turn, begun.past])
  · generalize came : w.reads.headD .endOfInput = read
    let w₂ : Drive := { (w₁.turn mid.clock).record (.came read) with openRead := none }
    have past₂ : w₂.past = w.past ++ .began request :: (waiting.map .wrote ++ [.came read]) := by
      simp [w₂, turn, record, begun.past]
    have refused (other : ∀ text after, read ≠ .line text after)
        (interrupts : respond mid w₁ (some read) = interrupt mid w₂) :
        Asked w request waiting (resumed request.id (respond mid w₁ (some read))) := by
      obtain ⟨after, w', interrupted, cut, past, -⟩ :=
        resumed_interrupt (w := w₂) waits streams calm₁
      rw [interrupts, interrupted]
      refine .refused (came ▸ other) cut ?_
      rw [came, past, past₂]
      simp
    cases read with
    | line text millis =>
      obtain ⟨after, w', answered, streams', rests, reads, past, -⟩ :=
        respond_line begun calm waits streams shown text millis
      rw [answered]
      exact .answered came streams' rests reads past
    | interrupted | endOfInput | never => exact refused nofun rfl
    | broken message => exact .broken came rfl past₂

theorem awaitLine_asked {request : ActiveRequest} (waits : live.Awaits outer kept request.id none)
    (streams : live.Streams waiting) (idle : w.openRead = none) (calm : w.failure = none)
    (unnoticed : w.noticed < live.desk.shown.length) (visible : live.desk.visible = some request) :
    Asked w request waiting (awaitLine interrupts request.id live w) := by
  rw [awaitLine_eq]
  by_cases due : (next interrupts w).any (·.1 ≤ live.clock) = true
  · have looked : look interrupts live w = (live, w) := if_pos due
    obtain ⟨clock, next⟩ : ∃ clock, next interrupts w = some (clock, none) := by
      rw [next_idle idle] at due ⊢
      cases at? : interruptAt interrupts w with
      | none => simp [at?] at due
      | some clock => exact ⟨clock, rfl⟩
    obtain ⟨after, w', interrupted, cut, past, -⟩ :=
      resumed_interrupt (w := w.turn (live.advanceTo clock).clock) (waits.advance clock)
        (streams.congr rfl rfl) calm
    simp only [looked, next, respond, interrupted]
    exact .unseen cut past
  · obtain ⟨w₁, looked, begun⟩ := look_starts streams idle unnoticed visible due
    have read := (Live.streams_takeUnread streams).2
    rw [looked]
    rcases next_open interrupts begun.openRead with never | ⟨clock, next⟩ | ⟨clock, next⟩
    · simp only [never]
      exact .stuck read (begun.failure.trans calm) begun.past
    · simp only [next]
      exact respond_asked begun calm (waits.read.advance clock) (read.congr rfl rfl) rfl (.inl rfl)
    · simp only [next]
      exact respond_asked begun calm (waits.read.advance clock) (read.congr rfl rfl) rfl (.inr rfl)

/-- While the script pauses only the interrupt is waited for. -/
theorem awaitTime_idle (idle : (look interrupts live w).2.openRead = none) (deadline : Nat) :
    awaitTime interrupts deadline live w =
      awaitTimeAlone interrupts deadline (look interrupts live w).1 (look interrupts live w).2 := by
  unfold awaitTime
  generalize look interrupts live w = looked at idle ⊢
  obtain ⟨live, w⟩ := looked
  dsimp only at idle ⊢
  rw [next_idle idle]
  cases interruptAt interrupts w <;> rfl

theorem awaitTimeAlone_cuts {deadline clock : Nat} (steady : live.Steady outer kept none)
    (streams : live.Streams waiting) (calm : w.failure = none)
    (soon : interruptAt interrupts w = some clock) (early : comesFirst live clock deadline = true) :
    ∃ after w',
      awaitTimeAlone interrupts deadline live w = (.resume false, after, w') ∧ w'.CutShort after ∧
      w'.past = w.past ++ .interrupted :: waiting.map .wrote := by
  have still : (live.advanceTo clock).Streams waiting := streams.congr rfl rfl
  have still' : (live.advanceTo clock).interrupt.Streams waiting := still.congr rfl rfl
  have read := (Live.streams_takeUnread still').2
  obtain ⟨turns, since, interrupted⟩ :=
    interrupt_writes still (w.turn (live.advanceTo clock).clock)
  simp only [awaitTimeAlone, soon, early, if_true, interrupted]
  exact ⟨_, _, rfl, ⟨(steady.advance clock).interrupted, read, calm⟩, rfl⟩

/-- A change that leaves nothing to be seen starts no read. -/
theorem look_idle (streams : live.Streams waiting) (rests : w.Rests live)
    (visible : live.desk.visible = none)
    (calm : ¬ (next interrupts w).any (·.1 ≤ live.clock) = true) : ∃ w',
      look interrupts live w = (live.takeUnread.2, w') ∧ w'.Rests live ∧ w'.reads = w.reads ∧
      w'.past = w.past ++ waiting.map .wrote := by
  obtain ⟨turns, since, flushed⟩ := flush_writes streams (if w.sees live then notice live w else w)
  rw [look, if_neg calm, flushed]
  refine ⟨_, rfl, ?_⟩
  split
  · simp only [notice, visible]
    exact ⟨⟨rests.openRead, rests.failure, Nat.le_refl _⟩, rfl, rfl⟩
  · exact ⟨⟨rests.openRead, rests.failure, rests.noticed⟩, rfl, rfl⟩

theorem awaitTime_paused (steady : live.Steady outer kept none) (streams : live.Streams waiting)
    (rests : w.Rests live) (deadline : Nat) :
    Paused w waiting (awaitTime interrupts deadline live w) := by
  by_cases due : (next interrupts w).any (·.1 ≤ live.clock) = true
  · have looked : look interrupts live w = (live, w) := if_pos due
    rw [awaitTime_idle (by rw [looked]; exact rests.openRead), looked]
    rw [next_idle rests.openRead] at due
    cases soon : interruptAt interrupts w with
    | none => simp [soon] at due
    | some clock =>
      have now : clock ≤ live.clock := by simpa [soon] using due
      obtain ⟨after, w', eq, cut, past⟩ := awaitTimeAlone_cuts steady streams rests.failure soon
        (by simp [comesFirst, now])
      rw [eq]
      exact .interruptedAtOnce cut past
  · obtain ⟨w₁, looked, rests₁, reads, past⟩ := look_idle streams rests steady.desk.visible due
    have read := (Live.streams_takeUnread streams).2
    have passes : Paused w waiting (.resume true, live.takeUnread.2.advanceTo deadline, w₁) :=
      .passed (read.congr rfl rfl) ⟨rests₁.openRead, rests₁.failure, rests₁.noticed⟩ reads past
    rw [awaitTime_idle (by rw [looked]; exact rests₁.openRead), looked]
    dsimp only
    cases soon : interruptAt interrupts w₁ with
    | none => simpa only [awaitTimeAlone, soon] using passes
    | some clock =>
      by_cases early : comesFirst live.takeUnread.2 clock deadline = true
      · obtain ⟨after, w', eq, cut, past'⟩ := awaitTimeAlone_cuts steady.read read rests₁.failure
          soon early
        rw [eq]
        exact .interrupted cut (by simp [past', past])
      · simpa only [awaitTimeAlone, soon, if_neg early] using passes

end Drive

end ScriptSession
