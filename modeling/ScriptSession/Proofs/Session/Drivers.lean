import ScriptSession.Proofs.Session.BatchOutput
import ScriptSession.Proofs.Session.Dialogue
import ScriptSession.Proofs.Session.Muting
import ScriptSession.Proofs.Text.Encoding

/-!
# The drivers agree

Batch runs and the loop at the prompt get their lines in different ways, and a run on its own has none
and no reader of its output. But as long as nobody interrupts, each of them does the same as giving
the script the next line of a list, and interrupting it when there is none (`supply`,
`Policy.Supplies`). So they come to the same result and leave the same session (`evaluate_supplied`),
and what they write is the same (`Session.drivers_agree`).
-/
namespace ScriptSession

/-! ## Apart from the channel and the clock -/

namespace Live

/-- What is left without the channel and the clock. -/
def still (live : Live) : Live := { live.muted with clock := 0 }

theorem emit_still (live : Live) (f : Fragment) : (live.emit f).still = live.still.emit f := by
  rw [still, emit_muted]
  unfold emit
  split <;> rfl

theorem takeUnread_still (live : Live) : live.takeUnread.2.still = live.still := by
  rw [still, takeUnread_muted, still]

/-- Replies depend on the desk alone. -/
theorem takeReply_still (live : Live) (id : Nat) :
    live.still.takeReply id = ((live.takeReply id).1, (live.takeReply id).2.still) := by
  have desk : live.still.desk = live.desk := rfl
  unfold takeReply reply?
  rw [desk]
  cases live.desk.fetch? id <;> rfl

/-- The reply and what it leaves, apart from the channel and the clock. -/
theorem takeReply_congr {live live' : Live} (same : live.still = live'.still) (id : Nat) :
    (live.takeReply id).1 = (live'.takeReply id).1 ∧
      (live.takeReply id).2.still = (live'.takeReply id).2.still := by
  have taken := congrArg (Live.takeReply · id) same
  simp only [takeReply_still] at taken
  exact ⟨congrArg (·.1) taken, congrArg (·.2) taken⟩

/-- A request is given the next line, or interrupted if there is none. -/
def supplied (live : Live) (lines : List String) : Live :=
  match lines with
  | [] => live.interrupt
  | line :: _ => (live.answer line).2

theorem supplied_congr {live live' : Live} (same : live.still = live'.still) (lines : List String) :
    (live.supplied lines).still = (live'.supplied lines).still := by
  cases lines with
  | nil => exact (congrArg Live.interrupt same :)
  | cons line rest => exact (congrArg (fun live => (live.answer line).2) same :)

end Live

namespace Session

variable {B : Backend}

/-- The channel and the clock make no difference to what is settled, apart from the time that is
counted. -/
theorem settle_still (s : Session B) (channel : Option Channel) (statements : List B.Statement)
    (ending : Ending B.Environment) (live : Live) :
    (settle (s.launch channel statements) ending live).1 =
      (settle (s.launch none statements) ending live.still).1 ∧
    (settle (s.launch channel statements) ending live).2 =
      { (settle (s.launch none statements) ending live.still).2 with
        stats := s.stats.record (.ofMillis live.clock) } := by
  rw [settle_muted]
  constructor
  · cases ending <;> rfl
  · rw [settle_session, settle_session]
    rfl

end Session

/-! ## Policies that supply lines -/

/-- Requests get the lines of a list, and time passes. -/
def supply : Policy (List String) where
  awaitLine id live lines :=
    let (line, after) := (live.supplied lines).takeReply id
    (.resume line, after, lines.tail)
  awaitTime deadline live lines := (.resume true, live.advanceTo deadline, lines)

/-- A policy that gives requests the lines of a list, which are ready for it, and lets time pass. -/
structure Policy.Supplies {ω : Type} (policy : Policy ω) (ready : Live → ω → List String → Prop) :
    Prop where
  fair : policy.Fair
  emit : ∀ {live w lines}, ready live w lines → ∀ f, ready (live.emit f) w lines
  warn : ∀ {live w lines}, ready live w lines → ∀ message range,
    ready (live.warn message range) w lines
  line : ∀ {live w lines outer kept}, ready live w lines → live.Steady outer kept none →
    live.isAborted = false → ∀ prompt, ∃ after w',
      let settled := (live.ask prompt).2.supplied lines
      policy.awaitLine (live.ask prompt).1 (live.ask prompt).2 w =
        (.resume (settled.takeReply (live.ask prompt).1).1, after, w') ∧
      after.still = (settled.takeReply (live.ask prompt).1).2.still ∧ ready after w' lines.tail
  time : ∀ {live w lines outer kept}, ready live w lines → live.Steady outer kept none →
    live.isAborted = false → ∀ millis, ∃ after w',
      policy.awaitTime (live.clock + millis) live w = (.resume true, after, w') ∧
      after.still = live.still ∧ ready after w' lines

section

variable {ω : Type} {policy : Policy ω} {ready : Live → ω → List String → Prop}

/-- An evaluation beside the one that is supplied with the same lines. -/
abbrev SuppliedBy (ready : Live → ω → List String → Prop) : Surrounding ω (List String) :=
  fun live w live' lines =>
    live.still = live'.still ∧ (∃ outer kept, live.Steady outer kept none) ∧ ready live w lines

theorem Policy.Supplies.mirrors (supplies : policy.Supplies ready) :
    policy.Mirrors supply (fun _ => True) (SuppliedBy ready) where
  isAborted around := (congrArg Live.isAborted around.1 :)
  generation around _ := (congrArg (fun live => live.desk.generation live.token) around.1 :)
  depth around := (congrArg (fun live => live.console.depth) around.1 :)
  emit {live _ _ _} around f := by
    obtain ⟨same, ⟨outer, kept, steady⟩, ready⟩ := around
    have served : live.serve (.emit f) = some ((), live.emit f) := rfl
    refine ⟨?_, ⟨outer, _, (steady.serve served).1⟩, supplies.emit ready f⟩
    rw [Live.emit_still, Live.emit_still, same]
  warn {live _ _ _} around message range := by
    obtain ⟨same, ⟨outer, kept, steady⟩, ready⟩ := around
    have served : live.serve (.warn message range) = some ((), live.warn message range) := rfl
    refine ⟨?_, ⟨outer, _, (steady.serve served).1⟩, supplies.warn ready message range⟩
    exact (congrArg (fun live => live.warn message range) same :)
  line {live w live' lines} around alive prompt := by
    obtain ⟨same, ⟨outer, kept, steady⟩, ready⟩ := around
    have waits := steady.ask alive prompt
    have ends := supplies.fair.line _ _ w _ _ waits
    obtain ⟨after, w', ended, left, ready'⟩ := supplies.line ready steady alive prompt
    have id : (live.ask prompt).1 = (live'.ask prompt).1 :=
      (congrArg (fun live => (live.ask prompt).1) same :)
    have asked : (live.ask prompt).2.still = (live'.ask prompt).2.still :=
      (congrArg (fun live => (live.ask prompt).2) same :)
    obtain ⟨line, left'⟩ := Live.takeReply_congr (Live.supplied_congr asked lines)
      (live.ask prompt).1
    rw [id] at line left left'
    rw [ended] at ends ⊢
    rw [id, line]
    exact .resume ⟨left.trans left', ⟨outer, kept, (ends.steady waits).1⟩, ready'⟩
  time {live w live' lines} around alive millis := by
    obtain ⟨same, ⟨outer, kept, steady⟩, ready⟩ := around
    have ends := supplies.fair.pause (live.clock + millis) live w _ _ steady alive
    obtain ⟨after, w', ended, left, ready'⟩ := supplies.time ready steady alive millis
    rw [ended] at ends ⊢
    exact .resume ⟨left.trans same, ⟨outer, kept, (ends.steady steady).1⟩, ready'⟩

/-- Nothing that is supplied with lines is given up. -/
theorem supply_finishes {σ : Type} (p : Process σ Finish) (live : Live) (lines : List String) :
    ∃ s finish, (p.play supply live lines).1 = .finished s finish := by
  refine play_induction supply
    (motive := fun p live lines => ∃ s finish, (p.play supply live lines).1 = .finished s finish)
    ?done ?serve ?ask ?pause p live lines
  case done => exact fun s finish _ _ => ⟨s, finish, rfl⟩
  case serve =>
    intro s request resume live lines reply after served ih
    rwa [play_serve served]
  case ask =>
    intro s prompt resume live lines alive ih
    rw [play_asks alive]
    exact ih _ _ _ rfl
  case pause =>
    intro s millis resume live lines alive ih
    rw [play_pauses alive]
    exact ih _ _ _ rfl

end

/-! ## Batch runs -/

/-- The lines that a source of bytes gives, before it is at its end. -/
def Feeds : Option (List UInt8) → List String → Prop
  | source, [] => Dry source
  | source, line :: lines => ∃ bytes rest, source = some bytes ∧
      Text.nextLine bytes = .ok (some (line, rest)) ∧ Feeds (some rest) lines

theorem feeds_lineBytes {lines : List String} (plain : ∀ line ∈ lines, Text.OneLine line) :
    Feeds (some (Text.lineBytes lines)) lines := by
  induction lines with
  | nil =>
    rintro bytes ⟨⟩
    rfl
  | cons line lines ih =>
    rw [List.forall_mem_cons] at plain
    refine ⟨_, Text.lineBytes lines, rfl, ?_, ih plain.2⟩
    have bytes : Text.lineBytes (line :: lines) =
        Text.encode line ++ 10 :: Text.lineBytes lines := by
      simp [Text.lineBytes]
    rw [bytes, Text.nextLine_encode plain.1]

namespace Batch

/-- What a batch run is ready for. -/
def Ready (_ : Live) (w : Batch) (lines : List String) : Prop := w.fault = none ∧ Feeds w.answers lines

theorem policy_supplies : policy.Supplies Ready where
  fair := policy_fair
  emit ready _ := ready
  warn ready _ _ := ready
  line {live w lines outer kept} ready steady alive prompt := by
    obtain ⟨calm, feeds⟩ := ready
    have read (mid : Live) : mid.takeUnread.2.still = mid.still := mid.takeUnread_still
    change ∃ after w', awaitLine _ _ w = _ ∧ _
    unfold awaitLine
    cases lines with
    | nil =>
      cases source : w.answers with
      | none => exact ⟨_, _, rfl, read _, calm, by simp [Feeds, Dry]⟩
      | some bytes =>
        simp only [feeds bytes source]
        exact ⟨_, _, rfl, read _, calm, source ▸ feeds⟩
    | cons line lines =>
      obtain ⟨bytes, rest, source, next, feeds⟩ := feeds
      simp only [source, next]
      exact ⟨_, _, rfl, read _, calm, feeds⟩
  time {live _ _ _ _} ready _ _ _ := ⟨_, _, rfl, (live.takeUnread_still :), ready⟩

end Batch

/-! ## The loop at the prompt -/

/-- The lines that reads give, before the input is at its end. -/
def Offers : List Read → List String → Prop
  | reads, [] => reads.headD .endOfInput = .endOfInput
  | reads, line :: lines =>
    ∃ after, reads.headD .endOfInput = .line line after ∧ Offers reads.tail lines

theorem offers_lines (lines : List (String × Nat)) (more : List Read) :
    Offers (lines.map (fun entry => .line entry.1 entry.2) ++ .endOfInput :: more)
      (lines.map (·.1)) := by
  induction lines with
  | nil => rfl
  | cons entry lines ih => exact ⟨entry.2, rfl, ih⟩

namespace Drive

/-- Nobody interrupts. -/
abbrev undisturbed : Interrupts := fun _ => none

/-- What the loop is ready for. -/
structure Ready (live : Live) (w : Drive) (lines : List String) : Prop where
  streams : ∃ waiting, live.Streams waiting
  failure : w.failure = none
  rests : live.isAborted = false → w.Rests live ∧ Offers w.reads lines

theorem next_undisturbed {w : Drive} {read : Read} {ready : Nat}
    (isOpen : w.openRead = some ⟨read, some ready⟩) :
    next undisturbed w = some (ready, some read) := by
  simp [next, isOpen, interruptAt, before]

theorem not_due {w : Drive} (idle : w.openRead = none) (clock : Nat) :
    ¬ (next undisturbed w).any (·.1 ≤ clock) = true := by
  simp [next_idle idle, interruptAt]

section

variable {live : Live} {outer : List Nat} {kept waiting : List Fragment} {w : Drive}

theorem Ready.congr {after : Live} {lines : List String} (ready : Ready live w lines)
    {waiting : List Fragment} (streams : after.Streams waiting) (desk : after.desk = live.desk)
    (token : after.token = live.token) : Ready after w lines := by
  refine ⟨⟨waiting, streams⟩, ready.failure, fun alive => ?_⟩
  obtain ⟨rests, offers⟩ := ready.rests (by rwa [Live.isAborted, desk, token] at alive)
  exact ⟨⟨rests.openRead, rests.failure, desk ▸ rests.noticed⟩, offers⟩

/-- The script gets the next line, and is interrupted when the input is at its end. -/
theorem awaitLine_supplied {request : ActiveRequest} {lines : List String}
    (waits : live.Awaits outer kept request.id none) (streams : live.Streams waiting)
    (idle : w.openRead = none) (calm : w.failure = none)
    (unnoticed : w.noticed < live.desk.shown.length) (visible : live.desk.visible = some request)
    (offers : Offers w.reads lines) : ∃ after w',
      awaitLine undisturbed request.id live w =
        (.resume ((live.supplied lines).takeReply request.id).1, after, w') ∧
      after.still = ((live.supplied lines).takeReply request.id).2.still ∧
      Ready after w' lines.tail := by
  obtain ⟨w₁, looked, begun⟩ :=
    look_starts streams idle unnoticed visible (not_due idle live.clock)
  have read := (Live.streams_takeUnread streams).2
  rw [awaitLine_eq, looked]
  cases lines with
  | nil =>
    have isOpen : w₁.openRead = some ⟨.endOfInput, some live.clock⟩ := by
      rw [begun.openRead, offers]
      rfl
    let mid := live.takeUnread.2.advanceTo live.clock
    have waits' : mid.Awaits outer kept request.id none := waits.read.advance _
    obtain ⟨rest, taken, -⟩ := waits.interrupt.takeReply_eq
    obtain ⟨after, w', interrupted, cut, -, left⟩ := resumed_interrupt
      (w := { (w₁.turn mid.clock).record (.came .endOfInput) with openRead := none })
      waits' (read.congr rfl rfl) (begun.failure.trans calm)
    have same : mid.interrupt.takeUnread.2.still = live.interrupt.still := by
      rw [Live.takeUnread_still]
      exact (congrArg Live.interrupt live.takeUnread_still :)
    simp only [next_undisturbed isOpen]
    refine ⟨after, w', ?_, left ▸ (Live.takeReply_congr same request.id).2,
      ⟨[], cut.streams⟩, cut.failure, fun alive => absurd cut.aborted (Bool.eq_false_iff.mp alive)⟩
    rw [Live.supplied, taken]
    exact interrupted
  | cons line lines =>
    obtain ⟨millis, given, offers⟩ := offers
    have isOpen : w₁.openRead = some ⟨.line line millis, some (live.clock + millis)⟩ := by
      rw [begun.openRead, given]
      rfl
    let mid := live.takeUnread.2.advanceTo (live.clock + millis)
    have waits' : mid.Awaits outer kept request.id none := waits.read.advance _
    obtain ⟨rest, taken, -⟩ := (waits.answer line).takeReply_eq
    obtain ⟨after, w', answered, streams', rests', reads, -, left⟩ :=
      respond_line begun calm waits' (read.congr rfl rfl) rfl line millis
    have same : (mid.answer line).2.takeUnread.2.still = (live.answer line).2.still := by
      rw [Live.takeUnread_still]
      exact (congrArg (fun live => (live.answer line).2) live.takeUnread_still :)
    simp only [next_undisturbed isOpen]
    refine ⟨after, w', ?_, left ▸ (Live.takeReply_congr same request.id).2, ⟨[], streams'⟩,
      rests'.failure, fun _ => ⟨rests', reads ▸ offers⟩⟩
    rw [Live.supplied, taken]
    exact answered

end

theorem policy_supplies : (policy undisturbed).Supplies Ready where
  fair := policy_fair undisturbed
  emit := by
    intro live w lines ready f
    obtain ⟨waiting, streams⟩ := ready.streams
    exact ready.congr (Live.streams_emit streams f) rfl rfl
  warn := by
    intro live w lines ready message range
    obtain ⟨waiting, streams⟩ := ready.streams
    have still : (live.warn message range).Streams waiting := streams.congr rfl rfl
    exact ready.congr still rfl rfl
  line {live w lines outer kept} ready steady alive prompt := by
    obtain ⟨waiting, streams⟩ := ready.streams
    obtain ⟨rests, offers⟩ := ready.rests alive
    obtain ⟨unnoticed, visible⟩ := rests.asked steady alive prompt
    have still : (live.ask prompt).2.Streams waiting := streams.congr rfl rfl
    exact awaitLine_supplied (steady.ask alive prompt) still rests.openRead rests.failure unnoticed
      visible offers
  time {live w lines outer kept} ready steady alive millis := by
    obtain ⟨waiting, streams⟩ := ready.streams
    obtain ⟨rests, offers⟩ := ready.rests alive
    obtain ⟨w₁, looked, rests₁, reads, -⟩ := look_idle streams rests steady.desk.visible
      (not_due rests.openRead live.clock)
    have read := (Live.streams_takeUnread streams).2
    change ∃ after w', awaitTime undisturbed _ _ w = _ ∧ _
    rw [awaitTime_idle (by rw [looked]; exact rests₁.openRead), looked]
    refine ⟨_, w₁, rfl, live.takeUnread_still, ⟨[], read.congr rfl rfl⟩, rests₁.failure, fun _ => ?_⟩
    exact ⟨⟨rests₁.openRead, rests₁.failure, rests₁.noticed⟩, reads ▸ offers⟩

end Drive

/-! ## Runs on their own -/

namespace Schedule

/-- Nothing happens any more, and nobody can answer. -/
def Ready (_ : Live) (w : Schedule) (lines : List String) : Prop := w.upcoming = [] ∧ lines = []

theorem policy_supplies : policy.Supplies Ready where
  fair := policy_fair
  emit ready _ := ready
  warn ready _ _ := ready
  line {live w lines outer kept} ready _ _ prompt := by
    obtain ⟨nothing, rfl⟩ := ready
    change ∃ after w', awaitLine _ _ w w.upcoming = _ ∧ _
    rw [nothing]
    exact ⟨_, _, rfl, rfl, rfl, rfl⟩
  time {live w lines outer kept} ready _ _ millis := by
    obtain ⟨nothing, rfl⟩ := ready
    change ∃ after w', awaitTime _ _ w w.upcoming = _ ∧ _
    rw [nothing]
    exact ⟨_, _, rfl, rfl, nothing, rfl⟩

end Schedule

/-! ## Every evaluation -/

namespace Session

variable {B : Backend} {ω : Type} {policy : Policy ω} {ready : Live → ω → List String → Prop}
  {s : Session B}

/-- The sessions are the same apart from the times of the evaluations. -/
structure SameButTimes (s t : Session B) : Prop where
  session : s = { t with stats := s.stats }
  count : s.stats.count = t.stats.count

theorem SameButTimes.of_same {s t u : Session B} (first : s.SameButTimes u)
    (second : t.SameButTimes u) : s.SameButTimes t where
  session := by
    rw [second.session]
    exact first.session
  count := first.count.trans second.count.symm

/-- What an evaluation gives is what it gives when it is supplied with the lines. -/
structure AgreesWithSupply (s : Session B) (policy : Policy ω) (w : ω) (channel : Option Channel)
    (ready : Live → ω → List String → Prop) (lines : List String) (text : String) : Prop where
  result : (s.evaluate policy w channel text).result = (s.evaluate supply lines none text).result
  session : (s.evaluate policy w channel text).session.SameButTimes
    (s.evaluate supply lines none text).session
  turns : s.turns policy w channel text = s.turns supply lines none text
  ready : ∃ live left, ready live (s.evaluate policy w channel text).policyState left

theorem evaluate_supplied (supplies : policy.Supplies ready) (rest : s.AtRest) (w : ω)
    (lines : List String) (channel : Option Channel)
    (start : ∀ statements, ready (s.launch channel statements).live w lines) (text : String) :
    s.AgreesWithSupply policy w channel ready lines text := by
  cases s.admits text with
  | refused terminated =>
    constructor
    · rw [evaluate_refused terminated, evaluate_refused terminated]
    · rw [evaluate_refused terminated, evaluate_refused terminated]
      exact ⟨rfl, rfl⟩
    · rw [turns_refused terminated, turns_refused terminated]
    · rw [evaluate_refused terminated]
      exact ⟨_, _, start []⟩
  | rejected running wrong =>
    constructor
    · rw [evaluate_rejected running wrong, evaluate_rejected running wrong]
    · rw [evaluate_rejected running wrong, evaluate_rejected running wrong]
      exact ⟨rfl, rfl⟩
    · rw [turns_rejected running wrong, turns_rejected running wrong]
    · rw [evaluate_rejected running wrong]
      exact ⟨_, _, start []⟩
  | @launched statements running parsed =>
    let process := (s.launch none statements).process
    let live := (s.launch channel statements).live
    let alone := (s.launch none statements).live
    have same : live.still = alone.still := by
      have muted := launch_muted s channel statements
      rw [← launch_muted s none] at muted
      rw [Live.still, muted]
      rfl
    obtain ⟨endings, ⟨left, -, ready'⟩, turns⟩ := play_mirrored_self supplies.mirrors process
      (show SuppliedBy ready live w alone lines from
        ⟨same, ⟨_, _, launch_steady rest channel statements⟩, start statements⟩)
    have settles {ending ending' : Ending B.Environment} {after after' : Live}
        (endings : ending = ending') (left : after.still = after'.still) :
        (settle (s.launch channel statements) ending after).1 =
          (settle (s.launch none statements) ending' after').1 ∧
        (settle (s.launch channel statements) ending after).2.SameButTimes
          (settle (s.launch none statements) ending' after').2 := by
      subst endings
      obtain ⟨result, session⟩ := settle_still s channel statements ending after
      obtain ⟨result', session'⟩ := settle_still s none statements ending after'
      rw [result, result', session, session', left]
      exact ⟨rfl, rfl, Eq.trans (b := s.stats.count + 1) rfl rfl⟩
    obtain ⟨result, session⟩ := settles endings.eq left
    constructor
    · rw [evaluate_launched running parsed, evaluate_launched running parsed]
      exact result
    · rw [evaluate_launched running parsed, evaluate_launched running parsed]
      exact session
    · rw [turns_launched running parsed, turns_launched running parsed]
      exact congrFun turns []
    · rw [evaluate_launched running parsed]
      exact ⟨_, _, ready'⟩

theorem supply_result (s : Session B) (lines : List String) (text : String) :
    ∃ result, (s.evaluate supply lines none text).result = some result := by
  cases s.admits text with
  | refused terminated =>
    rw [evaluate_refused terminated]
    exact ⟨_, rfl⟩
  | rejected running wrong =>
    rw [evaluate_rejected running wrong]
    exact ⟨_, rfl⟩
  | @launched statements running parsed =>
    obtain ⟨env, finish, finished⟩ := supply_finishes (s.launch none statements).process
      (s.launch none statements).live lines
    rw [evaluate_launched running parsed]
    dsimp only
    rw [finished]
    exact ⟨_, rfl⟩

/-- The status of a batch run, or why it has none. -/
def codeOf : Except SessionError Evaluation → Except BatchError Nat
  | .ok evaluation => .ok evaluation.exitCode
  | .error error => .error (.session error)

/-- A batch run that is fed with the lines. -/
theorem runBatch_supplied (rest : s.AtRest) (o : BatchOptions) {answers : Option (List UInt8)}
    {lines : List String} (feeds : Feeds answers lines) (text : String) :
    let batch := s.runBatch o answers text
    let given := s.evaluate supply lines none text
    (∃ result, given.result = some result ∧ batch.code = codeOf result) ∧
    batch.session.SameButTimes given.session ∧
    batch.stdout =
      writtenLines ((produced (s.turns supply lines none text)).map (·.text)) := by
  have agrees := evaluate_supplied Batch.policy_supplies rest { answers := answers } lines (some {})
    (fun _ => ⟨rfl, feeds⟩) text
  obtain ⟨live, left, calm, -⟩ := agrees.ready
  obtain ⟨result, given⟩ := s.supply_result lines text
  obtain ⟨deeds, writes, -, stdout⟩ := s.runBatch_writes o answers text
  have found := agrees.result.trans given
  refine ⟨⟨result, given, ?_⟩, ?_, ?_⟩
  · simp only [runBatch, calm, found]
    cases result <;> rfl
  · have session : (s.runBatch o answers text).session =
        (s.evaluate Batch.policy { answers := answers } (some {}) text).session := by
      simp only [runBatch, calm, found]
      cases result <;> rfl
    rw [session]
    exact agrees.session
  · rw [stdout, writes.written_eq calm, agrees.turns]

/-- The loop at the prompt, with reads that offer the lines. -/
theorem drive_supplied (rest : s.AtRest) {reads : List Read} {lines : List String}
    (offers : Offers reads lines) (text : String) :
    let driven := s.drive reads none text
    let given := s.evaluate supply lines none text
    (∃ result, given.result = some result ∧ driven.result = .ok result) ∧
    driven.session.SameButTimes given.session ∧
    driven.stdout =
      writtenLines ((produced (s.turns supply lines none text)).map (·.text)) := by
  let w : Drive := { reads := reads, noticed := s.desk.shown.length }
  have agrees := evaluate_supplied Drive.policy_supplies rest w lines (some {})
    (fun statements =>
      ⟨⟨[], s.launch_streams statements⟩, rfl, fun _ => ⟨⟨rfl, rfl, Nat.le_refl _⟩, offers⟩⟩) text
  obtain ⟨live, left, calm⟩ := agrees.ready
  obtain ⟨result, given⟩ := s.supply_result lines text
  have found := agrees.result.trans given
  have converses := driveUnder_converses rest reads Drive.undisturbed text
  refine ⟨⟨result, given, ?_⟩, agrees.session, ?_⟩
  · have failure := calm.failure
    simp only [drive, driveUnder, w] at failure found ⊢
    simp only [failure, found]
  · have written := converses.writings_eq.trans (congrArg produced agrees.turns)
    exact congrArg (fun fragments => writtenLines (fragments.map (·.text))) written

/-- From the same session and with the same lines to answer with, and nobody who interrupts, a batch
run and the loop at the prompt write the same and leave the same session, however long the lines take
to come. The status of the batch run is that of the evaluation at the prompt, or both report the same
error. Without any lines a run on its own gives that evaluation as well. -/
theorem drivers_agree (rest : s.AtRest) (o : BatchOptions) (lines : List (String × Nat))
    (plain : ∀ entry ∈ lines, Text.OneLine entry.1) (answers : Option (List UInt8))
    (source : answers = some (Text.lineBytes (lines.map (·.1))) ∨ answers = none ∧ lines = [])
    (more : List Read) (text : String) :
    let reads := lines.map (fun entry => .line entry.1 entry.2) ++ .endOfInput :: more
    let batch := s.runBatch o answers text
    let driven := s.drive reads none text
    batch.stdout = driven.stdout ∧ batch.session.SameButTimes driven.session ∧
    ∃ result, driven.result = .ok result ∧ batch.code = codeOf result ∧
      (lines = [] → (s.evaluateAlone text).result = some result) := by
  intro reads batch driven
  have feeds : Feeds answers (lines.map (·.1)) := by
    rcases source with rfl | ⟨rfl, rfl⟩
    · refine feeds_lineBytes fun line mem => ?_
      obtain ⟨entry, there, rfl⟩ := List.mem_map.mp mem
      exact plain entry there
    · simp [Feeds, Dry]
  obtain ⟨⟨result, given, code⟩, session, stdout⟩ := runBatch_supplied rest o feeds text
  obtain ⟨⟨result', given', result_eq⟩, session', stdout'⟩ :=
    drive_supplied rest (offers_lines lines more) text
  cases given.symm.trans given'
  refine ⟨stdout.trans stdout'.symm, session.of_same session', result, result_eq, code, ?_⟩
  · rintro rfl
    have alone := evaluate_supplied Schedule.policy_supplies rest { upcoming := [] } [] none
      (fun _ => ⟨rfl, rfl⟩) text
    exact alone.result.trans given

open Script (language)

/-- A script that asks twice. With one line it is interrupted at the second request, and with none at
the first. -/
theorem second_request_unanswered :
    let s : Session (language "> ") := {}
    let text := "print (readline); print (readline)"
    let batch := s.runBatch {} (some [97, 10]) text
    let driven := s.drive [.line "a" 20, .endOfInput] none text
    (s.AtRest ∧ batch.stdout = driven.stdout ∧ batch.session.SameButTimes driven.session ∧
      batch.stdout = "a\n" ∧ batch.code = .ok 130) ∧
    ∃ result, (s.drive [.endOfInput] none text).result = .ok result ∧
      (s.evaluateAlone text).result = some result := by
  intro s text batch driven
  have rest : s.AtRest := fresh_atRest ".."
  have plain : ∀ entry ∈ [("a", 20)], Text.OneLine entry.1 := by
    rintro _ (_ | ⟨_, ⟨⟩⟩)
    exact ⟨by decide, by decide⟩
  have bytes : [97, 10] = Text.lineBytes ["a"] := by
    rw [Text.lineBytes, List.flatMap_singleton, Text.encode_eq]
    decide
  obtain ⟨stdout, session, -⟩ :=
    drivers_agree rest {} [("a", 20)] plain _ (.inl (congrArg some bytes)) [] text
  obtain ⟨-, -, result, prompted, -, alone⟩ :=
    drivers_agree rest {} [] (by simp) none (.inr ⟨rfl, rfl⟩) [] text
  exact ⟨⟨rest, stdout, session, by decide +kernel, by decide +kernel⟩, result, prompted, alone rfl⟩

end Session

end ScriptSession
