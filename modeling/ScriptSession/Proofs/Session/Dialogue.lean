import ScriptSession.Proofs.Session.Operations
import ScriptSession.Proofs.Session.Waiting
import ScriptSession.Script.Reduce

/-!
# Lines for the requests that are shown

At the prompt a request is shown, a read of a line starts with its prompt, and the line is the answer.
Interrupts may come at any time, and a read may give anything. `Converses` says what the loop does
from one stop of the evaluation to the next, together with the requests and the values that the script
gets for them (`converses_play`). So no read starts before the last one is over, and a line answers
the request that it was read for (`Session.lines_answer_their_requests`).
-/
namespace ScriptSession

/-- A request for a line, and the value that the script got for it. There is no value if the
evaluation was given up there. -/
structure Question where
  request : ActiveRequest
  value : Option (Option String)
  deriving DecidableEq, Repr

/-- The line that a request was answered with. -/
def Question.answer? (q : Question) : Option (ActiveRequest × String) :=
  q.value.join.map (q.request, ·)

/-- The requests of a process, as it is played. -/
def Process.questions {σ ω : Type} (policy : Policy ω) :
    Process σ Finish → Live → ω → List Question
  | .done _ _, _, _ => []
  | .call _ request resume, live, w =>
    match live.serve request with
    | some (reply, live) => questions policy (resume reply) live w
    | none =>
      match request, resume with
      | .readLine prompt, resume =>
        let (id, live) := live.ask prompt
        match policy.awaitLine id live w with
        | (.resume line, live, w) =>
          ⟨⟨id, prompt⟩, some line⟩ :: questions policy (resume line) live w
        | (.abandon, _, _) => [⟨⟨id, prompt⟩, none⟩]
      | .sleep millis, resume =>
        match policy.awaitTime (live.clock + millis) live w with
        | (.resume passed, live, w) => questions policy (resume passed) live w
        | (.abandon, _, _) => []
      | _, _ => []

section

variable {σ ω : Type} {policy : Policy ω} {s : σ} {live : Live}

theorem questions_serve {request : Call} {resume : request.Reply → Process σ Finish} {after : Live}
    {reply : request.Reply} (served : live.serve request = some (reply, after)) (w : ω) :
    (Process.call s request resume).questions policy live w =
      (resume reply).questions policy after w := by
  rw [Process.questions.eq_def]
  simp only [served]

theorem questions_asks {prompt : String} {resume : Option String → Process σ Finish}
    (alive : live.isAborted = false) (w : ω) :
    (Process.call s (.readLine prompt) resume).questions policy live w =
      match policy.awaitLine (live.ask prompt).1 (live.ask prompt).2 w with
      | (.resume line, after, w) =>
        ⟨⟨(live.ask prompt).1, prompt⟩, some line⟩ :: (resume line).questions policy after w
      | (.abandon, _, _) => [⟨⟨(live.ask prompt).1, prompt⟩, none⟩] := by
  have unserved : live.serve (.readLine prompt) = none := by simp [Live.serve, alive]
  rw [Process.questions, unserved]

theorem questions_pauses {millis : Nat} {resume : Bool → Process σ Finish}
    (alive : live.isAborted = false) (w : ω) :
    (Process.call s (.sleep millis) resume).questions policy live w =
      match policy.awaitTime (live.clock + millis) live w with
      | (.resume passed, after, w) => (resume passed).questions policy after w
      | (.abandon, _, _) => [] := by
  have unserved : live.serve (.sleep millis) = none := by simp [Live.serve, alive]
  rw [Process.questions, unserved]

/-- Requests have consecutive numbers. -/
theorem questions_ids (fair : policy.Fair) (p : Process σ Finish) (live : Live) (w : ω)
    {outer : List Nat} {kept : List Fragment} (steady : live.Steady outer kept none) :
    (p.questions policy live w).map (·.request.id) =
      List.range' live.desk.nextRequest (p.questions policy live w).length := by
  revert kept
  refine play_induction policy (motive := fun p live w => ∀ {kept : List Fragment},
    live.Steady outer kept none → (p.questions policy live w).map (·.request.id) =
      List.range' live.desk.nextRequest (p.questions policy live w).length)
    ?done ?serve ?ask ?pause p live w
  case done => exact fun _ _ _ _ _ _ => rfl
  case serve =>
    intro s request resume live w reply after served ih kept steady
    rw [questions_serve served, ih (steady.serve served).1, (Live.serve_desk served).1]
  case ask =>
    intro s prompt resume live w alive ih kept steady
    have waits := steady.ask alive prompt
    have ends := fair.line _ _ w _ _ waits
    obtain ⟨id, -, next⟩ := steady.ask_shown alive prompt
    rw [questions_asks alive]
    generalize policy.awaitLine (live.ask prompt).1 (live.ask prompt).2 w = ended at ih ends ⊢
    obtain ⟨_ | _, after, w'⟩ := ended
    · obtain ⟨steady', same⟩ := ends.steady waits
      have next : after.desk.nextRequest = live.desk.nextRequest + 1 := same.trans next
      simp [ih _ _ _ rfl steady', next, id, List.range'_succ]
    · simp [id]
  case pause =>
    intro s millis resume live w alive ih kept steady
    have ends := fair.pause (live.clock + millis) live w _ _ steady alive
    rw [questions_pauses alive]
    generalize policy.awaitTime (live.clock + millis) live w = ended at ih ends ⊢
    obtain ⟨_ | _, after, w'⟩ := ended
    · obtain ⟨steady', same⟩ := ends.steady steady
      have same : after.desk.nextRequest = live.desk.nextRequest := same
      simp only [ih _ _ _ rfl steady', same]
    · rfl

/-- A cancelled evaluation does not stop any more. -/
theorem play_cancelled (policy : Policy ω) (p : Process σ Finish) (w : ω) {waiting : List Fragment}
    (cut : live.isAborted = true) (streams : live.Streams waiting) : ∃ more,
      p.turns policy live w waiting = [⟨more, .ended⟩] ∧ p.questions policy live w = [] ∧
      (p.play policy live w).2.1.unread = more ∧ (p.play policy live w).2.2 = w := by
  induction p generalizing live waiting with
  | done s finish => exact ⟨waiting, rfl, rfl, streams.unread_eq, rfl⟩
  | call s request resume ih =>
    obtain ⟨reply, after, served⟩ := Live.served_of_aborted cut request
    obtain ⟨desk, token⟩ := Live.serve_desk served
    rw [turns_serve served, questions_serve served, play_serve served]
    refine ih reply ?_ (streams.serve served)
    rw [Live.isAborted, desk, token]
    exact cut

end

/-! ## Whole runs -/

/-- What the loop does and what comes to it, when these are the reads to come, the turns of the
evaluation and its requests. After an interrupt the evaluation only comes to its end. -/
inductive Converses : List Read → List Turn → List Question → List Occurrence → Prop where
  /-- Nothing was evaluated. -/
  | unstarted {reads} : Converses reads [] [] []
  | ended {reads output} : Converses reads [⟨output, .ended⟩] [] (output.map .wrote)
  | paused {reads output turns questions past} : Converses reads turns questions past →
      Converses reads (⟨output, .paused⟩ :: turns) questions (output.map .wrote ++ past)
  | pauseInterrupted {reads output more} :
      Converses reads [⟨output, .paused⟩, ⟨more, .ended⟩] []
        (output.map .wrote ++ .interrupted :: more.map .wrote)
  | pauseInterruptedAtOnce {reads output more} :
      Converses reads [⟨output, .paused⟩, ⟨more, .ended⟩] []
        (.interrupted :: (output ++ more).map .wrote)
  | answered {reads request output text after turns questions past} :
      reads.headD .endOfInput = .line text after → Converses reads.tail turns questions past →
      Converses reads (⟨output, .asked⟩ :: turns) (⟨request, some (some text)⟩ :: questions)
        (.began request :: (output.map .wrote ++ .came (.line text after) :: past))
  | unseen {reads request output more} :
      Converses reads [⟨output, .asked⟩, ⟨more, .ended⟩] [⟨request, some none⟩]
        (.interrupted :: (output ++ more).map .wrote)
  | interrupted {reads request output more} :
      Converses reads [⟨output, .asked⟩, ⟨more, .ended⟩] [⟨request, some none⟩]
        (.began request :: (output.map .wrote ++ .interrupted :: more.map .wrote))
  | refused {reads request output more} :
      (∀ text after, reads.headD .endOfInput ≠ .line text after) →
      Converses reads [⟨output, .asked⟩, ⟨more, .ended⟩] [⟨request, some none⟩]
        (.began request :: (output.map .wrote ++
          .came (reads.headD .endOfInput) :: .interrupted :: more.map .wrote))
  | broken {reads request output message} : reads.headD .endOfInput = .broken message →
      Converses reads [⟨output, .asked⟩] [⟨request, none⟩]
        (.began request :: (output.map .wrote ++ [.came (.broken message)]))
  | stuck {reads request output} :
      Converses reads [⟨output, .asked⟩] [⟨request, none⟩] (.began request :: output.map .wrote)

namespace Drive

/-- Everything that happens, with what is written at the end unless reading failed. -/
def allPast (live : Live) (w : Drive) : List Occurrence :=
  match w.failure with
  | none => w.past ++ live.unread.map .wrote
  | some _ => w.past

section

variable {live : Live} {w : Drive}

theorem allPast_calm (calm : w.failure = none) :
    allPast live w = w.past ++ live.unread.map .wrote := by
  rw [allPast, calm]

theorem allPast_broken {message : String} (broken : w.failure = some message) :
    allPast live w = w.past := by
  rw [allPast, broken]

/-- Once it is cut short, an evaluation only comes to its end. -/
theorem CutShort.play (cut : w.CutShort live) {σ : Type} (interrupts : Interrupts)
    (p : Process σ Finish) : ∃ more,
      p.turns (policy interrupts) live w [] = [⟨more, .ended⟩] ∧
      p.questions (policy interrupts) live w = [] ∧
      allPast (p.play (policy interrupts) live w).2.1 (p.play (policy interrupts) live w).2.2 =
        w.past ++ more.map .wrote := by
  obtain ⟨more, turns, questions, unread, same⟩ := play_cancelled (policy interrupts) p w
    cut.aborted cut.streams
  refine ⟨more, turns, questions, ?_⟩
  rw [same, allPast_calm cut.failure, unread]

end

/-- A request that is made while no read is open can be noticed. -/
theorem Rests.asked {live : Live} {w : Drive} {outer : List Nat} {kept : List Fragment}
    (rests : w.Rests live) (steady : live.Steady outer kept none) (alive : live.isAborted = false)
    (prompt : String) : w.noticed < (live.ask prompt).2.desk.shown.length ∧
      (live.ask prompt).2.desk.visible = some ⟨(live.ask prompt).1, prompt⟩ := by
  obtain ⟨id, shown, -⟩ := steady.ask_shown alive prompt
  constructor
  · rw [shown, List.length_cons]
    exact Nat.lt_succ_of_le rests.noticed
  · simp [Desk.visible, shown, id]

theorem converses_play {σ : Type} (interrupts : Interrupts) (p : Process σ Finish) (live : Live)
    (w : Drive) {outer : List Nat} {kept waiting : List Fragment}
    (steady : live.Steady outer kept none) (streams : live.Streams waiting) (rests : w.Rests live) :
    ∃ past, Converses w.reads (p.turns (policy interrupts) live w waiting)
        (p.questions (policy interrupts) live w) past ∧
      allPast (p.play (policy interrupts) live w).2.1 (p.play (policy interrupts) live w).2.2 =
        w.past ++ past := by
  revert kept waiting
  refine play_induction (policy interrupts) (motive := fun p live w =>
    w.Rests live → ∀ {kept waiting : List Fragment}, live.Steady outer kept none →
    live.Streams waiting → ∃ past, Converses w.reads (p.turns (policy interrupts) live w waiting)
        (p.questions (policy interrupts) live w) past ∧
      allPast (p.play (policy interrupts) live w).2.1 (p.play (policy interrupts) live w).2.2 =
        w.past ++ past) ?done ?serve ?ask ?pause p live w rests
  case done =>
    intro s finish live w rests kept waiting steady streams
    refine ⟨waiting.map .wrote, .ended, ?_⟩
    rw [Process.play, allPast_calm rests.failure, streams.unread_eq]
  case serve =>
    intro s request resume live w reply after served ih rests kept waiting steady streams
    rw [turns_serve served, questions_serve served, play_serve served]
    have noticed : w.noticed ≤ after.desk.shown.length := by
      rw [(Live.serve_desk served).1]
      exact rests.noticed
    exact ih ⟨rests.openRead, rests.failure, noticed⟩ (steady.serve served).1 (streams.serve served)
  case ask =>
    intro s prompt resume live w alive ih rests kept waiting steady streams
    have waits := steady.ask alive prompt
    obtain ⟨unnoticed, visible⟩ := rests.asked steady alive prompt
    have ended : Asked w ⟨(live.ask prompt).1, prompt⟩ waiting
        ((policy interrupts).awaitLine (live.ask prompt).1 (live.ask prompt).2 w) :=
      awaitLine_asked waits (streams.congr rfl rfl) rests.openRead rests.failure unnoticed visible
    have ends := (policy_fair interrupts).line _ _ w _ _ waits
    rw [turns_asks alive, questions_asks alive, play_asks alive]
    generalize (policy interrupts).awaitLine (live.ask prompt).1 (live.ask prompt).2 w = verdict
      at ih ended ends ⊢
    cases ended with
    | unseen cut past =>
      obtain ⟨more, turns, questions, all⟩ := cut.play interrupts (resume none)
      dsimp only
      rw [turns, questions, all, past]
      exact ⟨_, .unseen, by simp⟩
    | interrupted cut past =>
      obtain ⟨more, turns, questions, all⟩ := cut.play interrupts (resume none)
      dsimp only
      rw [turns, questions, all, past]
      exact ⟨_, .interrupted, by simp⟩
    | refused other cut past =>
      obtain ⟨more, turns, questions, all⟩ := cut.play interrupts (resume none)
      dsimp only
      rw [turns, questions, all, past]
      exact ⟨_, .refused other, by simp⟩
    | answered came streams' rests' reads past =>
      obtain ⟨steady', -⟩ := Live.EndsLine.steady waits ends
      obtain ⟨rest, converses, all⟩ := ih _ _ _ rfl rests' steady' streams'
      rw [reads] at converses
      dsimp only
      rw [all, past]
      exact ⟨_, .answered came converses, by simp⟩
    | broken came failure past =>
      dsimp only
      rw [allPast_broken failure, past]
      exact ⟨_, .broken came, rfl⟩
    | @stuck after w' streams' calm past =>
      have still : (after.withdraw (live.ask prompt).1).Streams [] := streams'.congr rfl rfl
      dsimp only
      rw [allPast_calm calm, past, still.unread_eq]
      exact ⟨_, .stuck, by simp⟩
  case pause =>
    intro s millis resume live w alive ih rests kept waiting steady streams
    have ended : Paused w waiting ((policy interrupts).awaitTime (live.clock + millis) live w) :=
      awaitTime_paused steady streams rests _
    have ends := (policy_fair interrupts).pause (live.clock + millis) live w _ _ steady alive
    rw [turns_pauses alive, questions_pauses alive, play_pauses alive]
    generalize (policy interrupts).awaitTime (live.clock + millis) live w = verdict
      at ih ended ends ⊢
    cases ended with
    | passed streams' rests' reads past =>
      obtain ⟨steady', -⟩ := Live.EndsPause.steady steady ends
      obtain ⟨rest, converses, all⟩ := ih _ _ _ rfl rests' steady' streams'
      rw [reads] at converses
      dsimp only
      rw [all, past]
      exact ⟨_, .paused converses, by simp⟩
    | interrupted cut past =>
      obtain ⟨more, turns, questions, all⟩ := cut.play interrupts (resume false)
      dsimp only
      rw [turns, questions, all, past]
      exact ⟨_, .pauseInterrupted, by simp⟩
    | interruptedAtOnce cut past =>
      obtain ⟨more, turns, questions, all⟩ := cut.play interrupts (resume false)
      dsimp only
      rw [turns, questions, all, past]
      exact ⟨_, .pauseInterruptedAtOnce, by simp⟩

end Drive

/-! ## What a run comes to -/

def Occurrence.read? : Occurrence → Option Read
  | .came read => some read
  | _ => none

/-- The line that a read gives. -/
def Read.line? : Read → Option String
  | .line text _ => some text
  | _ => none

/-- The reads that were started, each with its request. -/
def begun (past : List Occurrence) : List ActiveRequest := past.filterMap Occurrence.request?

/-- The reads that are over. -/
def came (past : List Occurrence) : List Read := past.filterMap Occurrence.read?

def writings (past : List Occurrence) : List Fragment := past.filterMap Occurrence.fragment?

/-- The lines that were read, each with the request whose prompt its read had. -/
def linesRead (past : List Occurrence) : List (ActiveRequest × String) :=
  ((begun past).zip (came past)).filterMap fun (request, read) => read.line?.map (request, ·)

section

variable {a b past : List Occurrence} {output : List Fragment} {o : Occurrence}

@[simp]
theorem begun_nil : begun [] = [] := rfl

@[simp]
theorem came_nil : came [] = [] := rfl

@[simp]
theorem writings_nil : writings [] = [] := rfl

@[simp]
theorem begun_append : begun (a ++ b) = begun a ++ begun b := List.filterMap_append ..

@[simp]
theorem came_append : came (a ++ b) = came a ++ came b := List.filterMap_append ..

@[simp]
theorem writings_append : writings (a ++ b) = writings a ++ writings b := List.filterMap_append ..

@[simp]
theorem begun_cons : begun (o :: past) = o.request?.toList ++ begun past := by
  cases o <;> rfl

@[simp]
theorem came_cons : came (o :: past) = o.read?.toList ++ came past := by
  cases o <;> rfl

@[simp]
theorem writings_cons : writings (o :: past) = o.fragment?.toList ++ writings past := by
  cases o <;> rfl

@[simp]
theorem begun_wrote : begun (output.map .wrote) = [] := by
  simp [begun, List.filterMap_map, Function.comp_def, Occurrence.request?]

@[simp]
theorem came_wrote : came (output.map .wrote) = [] := by
  simp [came, List.filterMap_map, Function.comp_def, Occurrence.read?]

@[simp]
theorem writings_wrote : writings (output.map .wrote) = output := by
  simp [writings, List.filterMap_map, Function.comp_def, Occurrence.fragment?]

end

/-- Reads begin and come by turns, the next thing being that one comes if it is open. -/
def ByTurns : Bool → List Occurrence → Prop
  | _, [] => True
  | isOpen, .began _ :: rest => isOpen = false ∧ ByTurns true rest
  | isOpen, .came _ :: rest => isOpen = true ∧ ByTurns false rest
  | isOpen, .wrote _ :: rest | isOpen, .interrupted :: rest => ByTurns isOpen rest

@[simp]
theorem byTurns_wrote (isOpen : Bool) (output : List Fragment) (rest : List Occurrence) :
    ByTurns isOpen (output.map .wrote ++ rest) ↔ ByTurns isOpen rest := by
  induction output with
  | nil => rfl
  | cons f output ih => exact ih

@[simp]
theorem byTurns_writings (isOpen : Bool) (output : List Fragment) :
    ByTurns isOpen (output.map .wrote) := by
  simpa [ByTurns] using (byTurns_wrote isOpen output []).mpr trivial

/-- What has begun and what has come, at any time. -/
theorem ByTurns.counts {isOpen : Bool} {past before : List Occurrence}
    (h : ByTurns isOpen past) (early : before <+: past) :
    (came before).length ≤ isOpen.toNat + (begun before).length ∧
    isOpen.toNat + (begun before).length ≤ (came before).length + 1 := by
  induction past generalizing isOpen before with
  | nil =>
    rw [List.prefix_nil.mp early]
    cases isOpen <;> simp [came, begun]
  | cons o past ih =>
    cases before with
    | nil => cases isOpen <;> simp [came, begun]
    | cons o' before =>
      obtain ⟨rfl, within⟩ := List.cons_prefix_cons.mp early
      cases o' with
      | wrote f => simpa [Occurrence.read?, Occurrence.request?] using ih h within
      | interrupted => simpa [Occurrence.read?, Occurrence.request?] using ih h within
      | began request =>
        obtain ⟨rfl, h⟩ := h
        have counts := ih h within
        simp [Occurrence.read?, Occurrence.request?] at counts ⊢
        omega
      | came read =>
        obtain ⟨rfl, h⟩ := h
        have counts := ih h within
        simp [Occurrence.read?, Occurrence.request?] at counts ⊢
        omega

namespace Converses

variable {reads : List Read} {turns : List Turn} {questions : List Question}
  {past : List Occurrence}

theorem byTurns (h : Converses reads turns questions past) : ByTurns false past := by
  induction h with
  | unstarted => trivial
  | ended | pauseInterruptedAtOnce | unseen => exact byTurns_writings false _
  | paused _ ih => simpa using ih
  | pauseInterrupted => simp [ByTurns]
  | answered _ _ ih => simpa [ByTurns] using ih
  | interrupted | refused | broken | stuck => simp [ByTurns]

/-- Everything that is produced is written. -/
theorem writings_eq (h : Converses reads turns questions past) : writings past = produced turns := by
  induction h with
  | unstarted => rfl
  | paused _ ih => simp [ih, produced]
  | answered _ _ ih => simp [ih, produced, Occurrence.fragment?]
  | _ => simp [produced, Occurrence.fragment?]

/-- Reads are started for requests, in their order. -/
theorem begun_sublist (h : Converses reads turns questions past) :
    (begun past).Sublist (questions.map (·.request)) := by
  induction h with
  | paused _ ih => simpa using ih
  | answered _ _ ih => simpa [Occurrence.request?] using ih
  | _ => simp [Occurrence.request?]

/-- What comes is what the reads give, in their order. -/
theorem came_eq (h : Converses reads turns questions past) {n : Nat} {read : Read}
    (nth : (came past)[n]? = some read) : read = reads.getD n .endOfInput := by
  have first {reads : List Read} {n : Nat}
      (nth : [reads.headD .endOfInput][n]? = some read) : read = reads.getD n .endOfInput := by
    obtain ⟨zero, same⟩ := List.getElem?_eq_some_iff.mp nth
    obtain rfl : n = 0 := Nat.lt_one_iff.mp zero
    rw [← same]
    cases reads <;> rfl
  induction h generalizing n with
  | paused _ ih => exact ih (by simpa using nth)
  | @answered reads _ _ _ _ _ _ _ given _ ih =>
    cases n with
    | zero => exact first (by rw [given]; simpa [Occurrence.read?] using nth)
    | succ n =>
      have later := ih (n := n) (by simpa [Occurrence.read?] using nth)
      cases reads <;> simpa using later
  | refused => exact first (by simpa [Occurrence.read?] using nth)
  | broken given => exact first (by rw [given]; simpa [Occurrence.read?] using nth)
  | _ => simp [Occurrence.read?] at nth

/-- The lines that are read are the answers. -/
theorem linesRead_eq (h : Converses reads turns questions past) :
    linesRead past = questions.filterMap Question.answer? := by
  induction h with
  | paused _ ih => simpa [linesRead] using ih
  | answered _ _ ih =>
    simpa [linesRead, Occurrence.read?, Occurrence.request?, Read.line?, Question.answer?] using ih
  | @refused reads _ _ _ other =>
    generalize reads.headD .endOfInput = read at other ⊢
    cases read with
    | line text after => exact absurd rfl (other text after)
    | _ => simp [linesRead, Occurrence.read?, Occurrence.request?, Read.line?, Question.answer?]
  | _ => simp [linesRead, Occurrence.read?, Occurrence.request?, Read.line?, Question.answer?]

end Converses

namespace Session

variable {B : Backend} {ω : Type} {policy : Policy ω} {s : Session B} {text : String}

/-- The requests of a text's evaluation; none if it does not start. -/
def questions (s : Session B) (policy : Policy ω) (w : ω) (channel : Option Channel)
    (text : String) : List Question :=
  match s.accept channel text with
  | .started started => started.process.questions policy started.live w
  | .refused | .rejected .. => []

/-- An evaluation has the fragments of its turns. -/
theorem fragments_eq_produced (fair : policy.Fair) (rest : s.AtRest) (w : ω)
    (channel : Option Channel) {e : Evaluation}
    (evaluated : (s.evaluate policy w channel text).result = some (.ok e)) :
    e.fragments = produced (s.turns policy w channel text) := by
  cases s.admits text with
  | refused terminated =>
    rw [evaluate_refused terminated] at evaluated
    cases evaluated
  | rejected running wrong =>
    rw [evaluate_rejected running wrong] at evaluated
    cases evaluated
    rw [turns_rejected running wrong]
    rfl
  | @launched statements running parsed =>
    rw [evaluate_launched running parsed] at evaluated
    rw [turns_launched running parsed]
    have steady := steady_play fair (s.launch channel statements).process
      (s.launch channel statements).live w [] []
      (launch_steady rest channel statements)
    obtain ⟨c, own, kept⟩ := steady.keeps.own
    dsimp only at evaluated
    rw [settle_result s channel statements _ own] at evaluated
    split at evaluated
    · cases evaluated
    · exact (fragments_conclude (Option.some.inj evaluated)).trans kept

/-- What happens while a statement is evaluated at the prompt. -/
theorem driveUnder_converses (rest : s.AtRest) (reads : List Read) (interrupts : Interrupts)
    (text : String) :
    let w : Drive := { reads := reads, noticed := s.desk.shown.length }
    Converses reads (s.turns (Drive.policy interrupts) w (some {}) text)
      (s.questions (Drive.policy interrupts) w (some {}) text)
      (s.driveUnder reads interrupts text).past := by
  intro w
  cases s.admits text with
  | refused terminated =>
    simp only [driveUnder, evaluate_refused terminated, turns_refused terminated, questions,
      accept_refused terminated]
    exact .unstarted
  | rejected running wrong =>
    simp only [driveUnder, evaluate_rejected running wrong, turns_rejected running wrong, questions,
      accept_rejected running wrong]
    exact .unstarted
  | @launched statements running parsed =>
    obtain ⟨past, converses, all⟩ := Drive.converses_play interrupts
      (s.launch (some {}) statements).process (s.launch (some {}) statements).live w
      (launch_steady rest _ statements) (streams_accept (accept_launched running parsed _))
      ⟨rfl, rfl, Nat.le_refl _⟩
    rw [turns_launched running parsed]
    simp only [driveUnder, evaluate_launched running parsed, questions,
      accept_launched running parsed]
    rw [List.nil_append, Drive.allPast] at all
    rw [← all] at converses
    generalize (s.launch (some {}) statements).process.play (Drive.policy interrupts)
      (s.launch (some {}) statements).live w = played at converses ⊢
    cases failure : played.2.2.failure <;> simpa only [failure] using converses

/-- Requests have consecutive numbers. -/
theorem questions_numbered (fair : policy.Fair) (rest : s.AtRest) (w : ω)
    (channel : Option Channel) (text : String) :
    (s.questions policy w channel text).map (·.request.id) =
      List.range' s.desk.nextRequest (s.questions policy w channel text).length := by
  cases s.admits text with
  | refused terminated =>
    simp only [questions, accept_refused terminated]
    rfl
  | rejected running wrong =>
    simp only [questions, accept_rejected running wrong]
    rfl
  | @launched statements running parsed =>
    simp only [questions, accept_launched running parsed]
    exact questions_ids fair _ _ w (launch_steady rest channel statements)

theorem result_driveUnder {reads : List Read} {interrupts : Interrupts}
    {result : Except SessionError Evaluation}
    (ended : (s.driveUnder reads interrupts text).result = .ok result) :
    (s.evaluate (Drive.policy interrupts) { reads := reads, noticed := s.desk.shown.length }
      (some {}) text).result = some result := by
  simp only [driveUnder] at ended
  split at ended
  · cases ended
  · rename_i found
    cases ended
    exact found
  · cases ended

/-- Whatever is read at the prompt, and whenever the user interrupts: no read starts while another
one is open. The prompts are those of different requests of the script, in their order. What the reads
give comes in its order, and a line that comes is the value of the very request that it was read for;
no request has another line. Everything produced is written, also if reading fails. -/
theorem lines_answer_their_requests (rest : s.AtRest) (reads : List Read) (interrupts : Interrupts)
    (text : String) :
    let w : Drive := { reads := reads, noticed := s.desk.shown.length }
    let driven := s.driveUnder reads interrupts text
    let questions := s.questions (Drive.policy interrupts) w (some {}) text
    let turns := s.turns (Drive.policy interrupts) w (some {}) text
    (∀ before, before <+: driven.past → (came before).length ≤ (begun before).length ∧
      (begun before).length ≤ (came before).length + 1) ∧
    ((begun driven.past).Sublist (questions.map (·.request)) ∧
      questions.map (·.request.id) = List.range' s.desk.nextRequest questions.length ∧
      driven.prompts = (begun driven.past).map (·.prompt)) ∧
    ((∀ n read, (came driven.past)[n]? = some read → read = reads.getD n .endOfInput) ∧
      linesRead driven.past = questions.filterMap Question.answer?) ∧
    driven.stdout = writtenLines ((produced turns).map (·.text)) ∧
    (∀ e, driven.result = .ok (.ok e) → e.fragments = produced turns) := by
  intro w driven questions turns
  have converses : Converses reads turns questions driven.past :=
    driveUnder_converses rest reads interrupts text
  refine ⟨fun before early => ?_, ⟨converses.begun_sublist, ?_, rfl⟩,
    ⟨fun n read nth => converses.came_eq nth, converses.linesRead_eq⟩, ?_, fun e result => ?_⟩
  · simpa using converses.byTurns.counts early
  · exact questions_numbered (Drive.policy_fair interrupts) rest w _ text
  · exact congrArg (fun fragments => writtenLines (fragments.map (·.text))) converses.writings_eq
  · exact fragments_eq_produced (Drive.policy_fair interrupts) rest w _ (result_driveUnder result)

open Script (language)

/-- The user interrupts while a second line is awaited. That line answers nothing any more. -/
theorem interrupted_before_second_line :
    let s : Session (language "> ") := {}
    let reads : List Read := [.line "a" 30, .line "b" 50]
    let interrupts : Interrupts := fun turn => if turn < 6 then none else some 20
    let text := "print (readline); sleep 40; print 2; readline; print 3"
    let w : Drive := { reads := reads, noticed := s.desk.shown.length }
    let driven := s.driveUnder reads interrupts text
    s.AtRest ∧
    (begun driven.past).map (·.id) = [0, 1] ∧
    (s.questions (Drive.policy interrupts) w (some {}) text).filterMap Question.answer? =
      [(⟨0, ""⟩, "a")] ∧
    driven.stdout = "a\n2\n" := by
  intro s reads interrupts text w driven
  have rest : s.AtRest := fresh_atRest ".."
  obtain ⟨-, -, ⟨-, answers⟩, -⟩ := lines_answer_their_requests rest reads interrupts text
  refine ⟨rest, by decide +kernel, ?_, by decide +kernel⟩
  rw [← answers]
  decide +kernel

end Session

end ScriptSession
