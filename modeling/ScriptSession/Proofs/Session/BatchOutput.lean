import Mathlib.Control.Monad.Basic
import ScriptSession.Proofs.Session.Collecting
import ScriptSession.Script.Reduce
import ScriptSession.Session.Batch

/-!
# What a batch run has written

A batch run writes the output of a turn once the evaluation goes on, and not before: a line is taken
for a request while the output of the request's own turn still waits (`Writes.answered`), and when
the line cannot be read that output is never written (`Writes.broken`).
-/
namespace ScriptSession

def Stop.isAsked : Stop → Bool
  | .asked => true
  | .paused | .ended => false

def Deed.isTook : Deed → Bool
  | .took _ => true
  | .wrote _ => false

/-- No line is left to answer with. -/
def Dry (source : Option (List UInt8)) : Prop :=
  ∀ bytes, source = some bytes → Text.nextLine bytes = .ok none

/-- The deeds of a batch run, turn by turn, and the fault that ends it. -/
inductive Writes : Option (List UInt8) → List Turn → List Deed → Option Text.Utf8Fault → Prop where
  /-- Nothing was evaluated. -/
  | unstarted {source} : Writes source [] [] none
  | ended {source output} : Writes source [⟨output, .ended⟩] (output.map .wrote) none
  | paused {source output turns deeds fault} : Writes source turns deeds fault →
      Writes source (⟨output, .paused⟩ :: turns) (output.map .wrote ++ deeds) fault
  | unanswered {source output turns deeds fault} : Dry source → Writes source turns deeds fault →
      Writes source (⟨output, .asked⟩ :: turns) (output.map .wrote ++ deeds) fault
  | answered {bytes line rest output turns deeds fault} :
      Text.nextLine bytes = .ok (some (line, rest)) → Writes (some rest) turns deeds fault →
      Writes (some bytes) (⟨output, .asked⟩ :: turns) (.took line :: output.map .wrote ++ deeds) fault
  | broken {bytes output fault} : Text.nextLine bytes = .error fault →
      Writes (some bytes) [⟨output, .asked⟩] [] (some fault)

def writtenBy (deeds : List Deed) : List Fragment := deeds.filterMap Deed.fragment?

/-- How many lines were asked for. -/
def asks (turns : List Turn) : Nat := turns.countP (·.stop.isAsked)

/-- How many lines were taken. -/
def takes (deeds : List Deed) : Nat := deeds.countP Deed.isTook

theorem writtenBy_append (a b : List Deed) : writtenBy (a ++ b) = writtenBy a ++ writtenBy b :=
  List.filterMap_append ..

theorem writtenBy_wrote (output : List Fragment) : writtenBy (output.map .wrote) = output := by
  simp [writtenBy, List.filterMap_map, Function.comp_def, Deed.fragment?]

theorem takes_wrote (output : List Fragment) (deeds : List Deed) :
    takes (output.map .wrote ++ deeds) = takes deeds := by
  simp [takes, List.countP_append, List.countP_map, Function.comp_def, Deed.isTook]

/-- What was written before a line was taken stands before it. -/
theorem split_behind_wrote {output : List Fragment} {deeds before after : List Deed} {line : String}
    (split : output.map .wrote ++ deeds = before ++ .took line :: after) :
    ∃ before', before = output.map .wrote ++ before' ∧ deeds = before' ++ .took line :: after := by
  rcases List.append_eq_append_iff.mp split with ⟨between, rfl, rest⟩ | ⟨between, wrote, rest⟩
  · exact ⟨between, rfl, rest⟩
  · cases between with
    | nil => exact ⟨[], by simpa using wrote.symm, by simpa using rest.symm⟩
    | cons deed between =>
      simp only [List.cons_append, List.cons.injEq] at rest
      have mem : deed ∈ output.map Deed.wrote := by simp [wrote]
      simp [← rest.1] at mem

namespace Writes

variable {source : Option (List UInt8)} {turns : List Turn} {deeds : List Deed}
  {fault : Option Text.Utf8Fault}

/-- Without a fault everything is written. -/
theorem written_eq (h : Writes source turns deeds fault) (calm : fault = none) :
    writtenBy deeds = produced turns := by
  induction h with
  | unstarted => rfl
  | ended => simp [writtenBy_wrote, produced]
  | paused _ ih | unanswered _ _ ih =>
    rw [writtenBy_append, writtenBy_wrote, ih calm]
    rfl
  | answered _ _ ih =>
    rw [writtenBy_append, ih calm]
    exact congrArg (· ++ _) (writtenBy_wrote _)
  | broken => cases calm

/-- A fault comes at a request, and only the output of that turn is not written. -/
theorem written_of_fault {reason : Text.Utf8Fault} (h : Writes source turns deeds fault)
    (broken : fault = some reason) : ∃ earlier last, turns = earlier ++ [last] ∧
      last.stop = .asked ∧ writtenBy deeds = produced earlier := by
  induction h with
  | unstarted | ended => cases broken
  | @paused _ output turns deeds _ _ ih | @unanswered _ output turns deeds _ _ _ ih =>
    obtain ⟨earlier, last, rfl, asked, written⟩ := ih broken
    refine ⟨_ :: earlier, last, rfl, asked, ?_⟩
    rw [writtenBy_append, writtenBy_wrote, written]
    rfl
  | @answered _ _ _ output turns deeds _ _ _ ih =>
    obtain ⟨earlier, last, rfl, asked, written⟩ := ih broken
    refine ⟨_ :: earlier, last, rfl, asked, ?_⟩
    rw [writtenBy_append, written]
    exact congrArg (· ++ _) (writtenBy_wrote _)
  | broken => exact ⟨[], _, rfl, rfl, rfl⟩

/-- Once no line is left, none is taken. -/
theorem took_of_dry (h : Writes source turns deeds fault) (dry : Dry source) :
    ∀ line, .took line ∉ deeds := by
  induction h with
  | unstarted | ended => simp
  | paused _ ih | unanswered _ _ ih =>
    intro line mem
    rcases List.mem_append.mp mem with wrote | later
    · simp at wrote
    · exact ih dry line later
  | answered next => simp [dry _ rfl] at next
  | broken next => simp [dry _ rfl] at next

/-- The nth line is taken for the nth request, when exactly the turns before that request's own are
written. -/
theorem took (h : Writes source turns deeds fault) {before after : List Deed} {line : String}
    (split : deeds = before ++ .took line :: after) : ∃ earlier turn later,
      turns = earlier ++ turn :: later ∧ turn.stop = .asked ∧ asks earlier = takes before ∧
      writtenBy before = produced earlier := by
  induction h generalizing before with
  | ended =>
    have mem := congrArg (Deed.took line ∈ ·) split
    simp at mem
  | unstarted | broken => simp at split
  | @paused _ output turns deeds _ rest ih =>
    obtain ⟨before', rfl, split'⟩ := split_behind_wrote split
    obtain ⟨earlier, turn, later, rfl, asked, count, written⟩ := ih split'
    refine ⟨⟨output, .paused⟩ :: earlier, turn, later, rfl, asked, ?_, ?_⟩
    · rw [takes_wrote, ← count]
      exact List.countP_cons_of_neg (by simp [Stop.isAsked])
    · rw [writtenBy_append, writtenBy_wrote, written]
      rfl
  | unanswered dry rest =>
    obtain ⟨before', -, split'⟩ := split_behind_wrote split
    exact absurd (by simp [split']) (rest.took_of_dry dry line)
  | @answered bytes first rest output turns deeds fault next writes ih =>
    cases before with
    | nil => exact ⟨[], _, turns, rfl, rfl, rfl, rfl⟩
    | cons deed before =>
      simp only [List.cons_append, List.cons.injEq] at split
      obtain ⟨rfl, split⟩ := split
      obtain ⟨before', rfl, split'⟩ := split_behind_wrote split
      obtain ⟨earlier, turn, later, rfl, asked, count, written⟩ := ih split'
      refine ⟨⟨output, .asked⟩ :: earlier, turn, later, rfl, asked, ?_, ?_⟩
      · have one : takes (.took first :: (output.map .wrote ++ before')) =
            takes (output.map .wrote ++ before') + 1 := List.countP_cons_of_pos rfl
        rw [one, takes_wrote, ← count]
        exact List.countP_cons_of_pos rfl
      · rw [← List.cons_append, writtenBy_append, written]
        exact congrArg (· ++ _) (writtenBy_wrote _)

end Writes

/-! ## The batch policy -/

namespace Batch

variable {live : Live} {waiting : List Fragment}

theorem flush_eq (streams : live.Streams waiting) (w : Batch) : ∃ live',
    flush live w = (live', { w with deeds := w.deeds ++ waiting.map .wrote }) ∧
    live'.Streams [] := by
  obtain ⟨rfl, read⟩ := Live.streams_takeUnread streams
  exact ⟨live.takeUnread.2, rfl, read⟩

theorem interrupted_eq (streams : live.Streams waiting) (id : Nat) (w : Batch) : ∃ line live',
    interrupted id live w =
      (.resume line, live', { w with deeds := w.deeds ++ waiting.map .wrote }) ∧
    live'.Streams [] := by
  obtain ⟨console, collector⟩ := Live.takeReply_console live.interrupt id
  have still : (live.interrupt.takeReply id).2.Streams waiting := streams.congr console collector
  obtain ⟨live', flushed, read⟩ := flush_eq still w
  exact ⟨(live.interrupt.takeReply id).1, live', by simp only [interrupted, flushed], read⟩

/-- What can happen at a request. -/
theorem awaitLine_cases (streams : live.Streams waiting) (id : Nat) (w : Batch) :
    (Dry w.answers ∧ ∃ line live', awaitLine id live w = (.resume line, live',
      { w with asked := true, deeds := w.deeds ++ waiting.map .wrote }) ∧ live'.Streams []) ∨
    (∃ bytes fault, w.answers = some bytes ∧ Text.nextLine bytes = .error fault ∧
      awaitLine id live w = (.abandon, live, { w with asked := true, fault := some fault })) ∨
    ∃ bytes answer rest, w.answers = some bytes ∧
      Text.nextLine bytes = .ok (some (answer, rest)) ∧ ∃ line live', awaitLine id live w =
        (.resume line, live', { w with
          answers := some rest, asked := true
          deeds := w.deeds ++ .took answer :: waiting.map .wrote }) ∧ live'.Streams [] := by
  unfold awaitLine
  cases source : w.answers with
  | none =>
    obtain ⟨line, live', eq, read⟩ := interrupted_eq streams id { w with asked := true }
    exact .inl ⟨by simp [Dry], line, live', by simpa [source] using eq, read⟩
  | some bytes =>
    dsimp only
    cases next : Text.nextLine bytes with
    | error fault => exact .inr (.inl ⟨bytes, fault, rfl, next, by simp⟩)
    | ok found =>
      cases found with
      | none =>
        obtain ⟨line, live', eq, read⟩ := interrupted_eq streams id { w with asked := true }
        exact .inl ⟨by simp [Dry, next], line, live', by simpa [source] using eq, read⟩
      | some entry =>
        obtain ⟨answer, rest⟩ := entry
        obtain ⟨console, collector⟩ := Live.takeReply_console (live.answer answer).2 id
        have still : ((live.answer answer).2.takeReply id).2.Streams waiting :=
          streams.congr console collector
        obtain ⟨live', flushed, read⟩ := flush_eq still { w with
          asked := true, answers := some rest, deeds := w.deeds ++ [.took answer] }
        refine .inr (.inr ⟨bytes, answer, rest, rfl, next,
          ((live.answer answer).2.takeReply id).1, live', ?_, read⟩)
        simp only [flushed, List.append_assoc, List.cons_append, List.nil_append]

/-- All deeds, with the writes at the end of a run that no fault cut short. -/
def allDeeds (live : Live) (w : Batch) : List Deed :=
  match w.fault with
  | none => w.deeds ++ live.unread.map .wrote
  | some _ => w.deeds

theorem writes_play {σ : Type} (p : Process σ Finish) (live : Live) (w : Batch)
    (waiting : List Fragment) (streams : live.Streams waiting) (calm : w.fault = none) :
    ∃ deeds, Writes w.answers (p.turns policy live w waiting) deeds (p.play policy live w).2.2.fault ∧
      allDeeds (p.play policy live w).2.1 (p.play policy live w).2.2 = w.deeds ++ deeds := by
  induction p generalizing live w waiting with
  | done s finish =>
    refine ⟨waiting.map .wrote, ?_, ?_⟩
    · simp only [Process.turns, Process.play, calm]
      exact .ended
    · simp only [Process.play, allDeeds, calm, streams.unread_eq]
  | call s request resume ih =>
    cases request with
    | emit f =>
      simp only [Process.turns, Process.play]
      exact ih () (live.emit f) w (waiting ++ [f]) (Live.streams_emit streams f) calm
    | warn message range =>
      simp only [Process.turns, Process.play]
      exact ih () (live.warn message range) w waiting (streams.congr rfl rfl) calm
    | aborted =>
      simp only [Process.turns, Process.play]
      exact ih live.isAborted live w waiting streams calm
    | generation =>
      simp only [Process.turns, Process.play]
      exact ih (live.desk.generation live.token) live w waiting streams calm
    | consoleDepth =>
      simp only [Process.turns, Process.play]
      exact ih live.console.depth live w waiting streams calm
    | readLine prompt =>
      simp only [Process.turns, Process.play]
      by_cases aborted : live.isAborted = true
      · rw [if_pos aborted, if_pos aborted]
        exact ih none live w waiting streams calm
      · rw [if_neg aborted, if_neg aborted]
        generalize live.desk.enqueue prompt live.token none = queued
        obtain ⟨id, desk⟩ := queued
        have still : Live.Streams { live with desk := desk } waiting := streams.congr rfl rfl
        dsimp only
        rcases awaitLine_cases still id w with ⟨dry, line, live', eq, read⟩ |
          ⟨bytes, fault, source, next, eq⟩ | ⟨bytes, answer, rest, source, next, line, live', eq, read⟩
        · obtain ⟨deeds, writes, done⟩ := ih line live'
            { w with asked := true, deeds := w.deeds ++ waiting.map .wrote } [] read calm
          rw [show policy.awaitLine id _ w = _ from eq]
          refine ⟨waiting.map .wrote ++ deeds, .unanswered dry writes, ?_⟩
          rw [← List.append_assoc]
          exact done
        · rw [show policy.awaitLine id _ w = _ from eq, source]
          exact ⟨[], .broken next, by simp [allDeeds]⟩
        · obtain ⟨deeds, writes, done⟩ := ih line live'
            { w with
              answers := some rest, asked := true
              deeds := w.deeds ++ .took answer :: waiting.map .wrote } [] read calm
          rw [show policy.awaitLine id _ w = _ from eq, source]
          refine ⟨.took answer :: waiting.map .wrote ++ deeds, .answered next writes, ?_⟩
          rw [← List.append_assoc]
          exact done
    | sleep millis =>
      simp only [Process.turns, Process.play]
      by_cases aborted : live.isAborted = true
      · rw [if_pos aborted, if_pos aborted]
        exact ih false live w waiting streams calm
      · rw [if_neg aborted, if_neg aborted]
        obtain ⟨live', flushed, read⟩ := flush_eq streams w
        have still : (live'.advanceTo (live.clock + millis)).Streams [] := read.congr rfl rfl
        have eq : policy.awaitTime (live.clock + millis) live w = (.resume true,
            live'.advanceTo (live.clock + millis),
            { w with deeds := w.deeds ++ waiting.map .wrote }) := by
          simp only [policy, awaitTime, flushed]
        obtain ⟨deeds, writes, done⟩ := ih true _
          { w with deeds := w.deeds ++ waiting.map .wrote } [] still calm
        rw [eq]
        refine ⟨waiting.map .wrote ++ deeds, .paused writes, ?_⟩
        rw [← List.append_assoc]
        exact done

end Batch

namespace Session

variable {B : Backend}

/-- A batch run ends by the fault of its answers, or not. -/
theorem code_runBatch (s : Session B) (o : BatchOptions) (answers : Option (List UInt8))
    (text : String) (fault : Text.Utf8Fault) :
    (s.runBatch o answers text).code = .error (.answers fault) ↔
      (s.evaluate Batch.policy { answers := answers } (some {}) text).policyState.fault =
        some fault := by
  unfold runBatch
  generalize s.evaluate Batch.policy { answers := answers } (some {}) text = done
  dsimp only
  cases done.policyState.fault with
  | some other => simp
  | none =>
    cases done.result with
    | none => simp
    | some result => cases result <;> simp

/-- Whatever becomes of it, a batch run does what its turns say, and its output is what it wrote. -/
theorem runBatch_writes (s : Session B) (o : BatchOptions) (answers : Option (List UInt8))
    (text : String) : ∃ deeds,
      Writes answers (s.turns Batch.policy { answers := answers } (some {}) text) deeds
        (s.evaluate Batch.policy { answers := answers } (some {}) text).policyState.fault ∧
      (s.evaluate Batch.policy { answers := answers } (some {}) text).policyState.deeds <+: deeds ∧
      (s.runBatch o answers text).stdout = writtenLines ((writtenBy deeds).map (·.text)) := by
  unfold runBatch turns evaluate
  cases admission : s.accept (some {}) text with
  | refused => exact ⟨[], .unstarted, List.prefix_rfl, rfl⟩
  | rejected session evaluation => exact ⟨[], .unstarted, List.prefix_rfl, rfl⟩
  | started started =>
    obtain ⟨deeds, writes, done⟩ := Batch.writes_play started.process started.live
      { answers := answers } [] (streams_accept admission) rfl
    dsimp only
    generalize started.process.play Batch.policy started.live { answers := answers } = played
      at writes done
    obtain ⟨ending, live, w⟩ := played
    simp only [List.nil_append] at done
    refine ⟨deeds, writes, ?_, ?_⟩
    · rw [← done, Batch.allDeeds]
      split
      · exact List.prefix_append ..
      · exact List.prefix_rfl
    · rw [← done, Batch.allDeeds]
      dsimp only
      cases w.fault with
      | some fault => rfl
      | none =>
        have written : writtenBy (w.deeds ++ live.unread.map .wrote) = w.written ++ live.unread := by
          rw [writtenBy_append, writtenBy_wrote]
          rfl
        dsimp only
        rw [written]
        cases (settle started ending live).1 with
        | none => rfl
        | some result => cases result <;> rfl

/-- A batch run that its answers do not break has written everything that was produced. One that
they break has written everything but the output of the turn that asked for the broken line. And a
line is taken when exactly the turns before that of its request are written. -/
theorem batch_writes_finished_turns (s : Session B) (o : BatchOptions)
    (answers : Option (List UInt8)) (text : String) :
    ((∀ fault, (s.runBatch o answers text).code ≠ .error (.answers fault)) →
      (s.runBatch o answers text).stdout = writtenLines
        ((produced (s.turns Batch.policy { answers := answers } (some {}) text)).map (·.text))) ∧
    (∀ fault, (s.runBatch o answers text).code = .error (.answers fault) → ∃ earlier last,
      s.turns Batch.policy { answers := answers } (some {}) text = earlier ++ [last] ∧
      last.stop = .asked ∧
      (s.runBatch o answers text).stdout = writtenLines ((produced earlier).map (·.text))) ∧
    ∀ before line after,
      (s.evaluate Batch.policy { answers := answers } (some {}) text).policyState.deeds =
        before ++ .took line :: after →
      ∃ earlier turn later,
        s.turns Batch.policy { answers := answers } (some {}) text = earlier ++ turn :: later ∧
        turn.stop = .asked ∧ asks earlier = takes before ∧ writtenBy before = produced earlier := by
  obtain ⟨deeds, writes, ⟨rest, done⟩, stdout⟩ := s.runBatch_writes o answers text
  refine ⟨fun calm => ?_, fun fault broken => ?_, fun before line after split => ?_⟩
  · have none : (s.evaluate Batch.policy { answers := answers } (some {}) text).policyState.fault =
        none := by
      cases broken : (s.evaluate Batch.policy { answers := answers } (some {}) text).policyState.fault with
      | none => rfl
      | some fault => exact absurd ((s.code_runBatch o answers text fault).mpr broken) (calm fault)
    rw [stdout, writes.written_eq none]
  · obtain ⟨earlier, last, turns, asked, written⟩ :=
      writes.written_of_fault ((s.code_runBatch o answers text fault).mp broken)
    exact ⟨earlier, last, turns, asked, by rw [stdout, written]⟩
  · rw [split, List.append_assoc, List.cons_append] at done
    exact writes.took done.symm

/-- The script has printed before it asks; the byte that it is answered with is no text. -/
theorem output_lost_at_broken_answer :
    (runBatch (B := Script.language "> ") {} {} (some [0xFF, 10]) "print 1; readline").code =
      .error (.answers ⟨0, some 1⟩) ∧
    (runBatch (B := Script.language "> ") {} {} (some [0xFF, 10]) "print 1; readline").stdout ≠
      writtenLines ((produced (turns (B := Script.language "> ") {} Batch.policy
        { answers := some [0xFF, 10] } (some {}) "print 1; readline")).map (·.text)) := by
  decide +kernel

/-- Answered with a line, the same script prints it all, but only after the line was taken. -/
theorem line_taken_before_output :
    (runBatch (B := Script.language "> ") {} {} (some [97, 10]) "print 1; readline").stdout =
      writtenLines ((produced (turns (B := Script.language "> ") {} Batch.policy
        { answers := some [97, 10] } (some {}) "print 1; readline")).map (·.text)) ∧
    ∃ earlier turn later,
      turns (B := Script.language "> ") {} Batch.policy { answers := some [97, 10] } (some {})
        "print 1; readline" = earlier ++ turn :: later ∧
      turn.stop = .asked ∧ asks earlier = 0 ∧ produced earlier = [] := by
  obtain ⟨all, -, took⟩ := batch_writes_finished_turns (B := Script.language "> ") {} {}
    (some [97, 10]) "print 1; readline"
  refine ⟨all fun fault => ?_, ?_⟩
  · have code : (runBatch (B := Script.language "> ") {} {} (some [97, 10])
        "print 1; readline").code = .ok 0 := by decide +kernel
    rw [code]
    exact nofun
  · obtain ⟨earlier, turn, later, split, asked, count, written⟩ :=
      took [] "a" [.wrote (.console .log "1")] (by decide +kernel)
    exact ⟨earlier, turn, later, split, asked, count, written.symm⟩

end Session

end ScriptSession
