import ScriptSession.Proofs.Session.Muting
import ScriptSession.Script.Reduce

/-!
# Output passed on as it arrives

Whoever reads the output of an evaluation, or hangs up, changes nothing else, as long as what happens
around the evaluation does not depend on its output (`Policy.Deaf.mirrors`). What a reader takes is
what was produced: all of it in order, and at each stop everything that was produced before
(`delivers_play`).
-/
namespace ScriptSession

/-! ## Readers -/

/-- What the reader of the output does when the evaluation stops. -/
inductive Reading where
  | nothing
  | take
  | hangUp
  deriving DecidableEq

/-- A policy's state, with what the reader got at each stop. -/
structure Listening (ω : Type) where
  inner : ω
  taken : List (List Fragment) := []

def Live.hear (live : Live) : Reading → List Fragment × Live
  | .nothing => ([], live)
  | .take => live.takeUnread
  | .hangUp => ([], live.hangUp)

/-- The reader comes first at each stop. -/
def hearing {ω ρ : Type} (reader : Nat → Reading) (wait : Live → ω → Verdict ρ × Live × ω)
    (live : Live) (w : Listening ω) : Verdict ρ × Live × Listening ω :=
  let (fragments, live) := live.hear (reader w.taken.length)
  let (verdict, live, inner) := wait live w.inner
  (verdict, live, ⟨inner, w.taken ++ [fragments]⟩)

/-- The same policy, and a reader of the output. -/
def Policy.heardBy {ω : Type} (policy : Policy ω) (reader : Nat → Reading) : Policy (Listening ω) where
  awaitLine id := hearing reader (policy.awaitLine id)
  awaitTime deadline := hearing reader (policy.awaitTime deadline)

theorem Live.hear_muted (live : Live) (reading : Reading) : (live.hear reading).2.muted = live.muted := by
  cases reading with
  | nothing => rfl
  | take => exact live.takeUnread_muted
  | hangUp => exact live.hangUp_muted

section

variable {ω ρ : Type} {policy : Policy ω}

/-- The evaluations differ in the channel, and one of them has a reader. -/
abbrev Overheard : Surrounding (Listening ω) ω := fun live w live' w' =>
  live.muted = live'.muted ∧ w.inner = w'

theorem DeafWait.overheard {wait : Live → ω → Verdict ρ × Live × ω} (deaf : DeafWait wait)
    (reader : Nat → Reading) {live live' : Live} {w : Listening ω} {w' : ω}
    (around : Overheard live w live' w') :
    EndAlike Overheard Overheard (hearing reader wait live w) (wait live' w') := by
  obtain ⟨same, rfl⟩ := around
  have heard := (live.hear_muted (reader w.taken.length)).trans same
  have ended := deaf.alike heard w.inner
  unfold hearing
  generalize live.hear (reader w.taken.length) = hears at heard ended ⊢
  obtain ⟨fragments, live⟩ := hears
  dsimp only at ended ⊢
  generalize wait live w.inner = verdict at ended ⊢
  generalize wait live' w.inner = verdict' at ended ⊢
  cases ended with
  | resume around =>
    obtain ⟨same, rfl⟩ := around
    exact .resume ⟨same, rfl⟩
  | abandon around =>
    obtain ⟨same, rfl⟩ := around
    exact .abandon ⟨same, rfl⟩

/-- Neither a channel nor its reader makes a difference to anything else. -/
theorem Policy.Deaf.mirrors (deaf : policy.Deaf) (reader : Nat → Reading) :
    (policy.heardBy reader).Mirrors policy (fun _ => True) Overheard where
  isAborted around := (congrArg Live.isAborted around.1 :)
  generation around _ := (congrArg (fun live => live.desk.generation live.token) around.1 :)
  depth around := (congrArg (fun live => live.console.depth) around.1 :)
  emit around f := by
    refine ⟨?_, around.2⟩
    rw [Live.emit_muted, Live.emit_muted, around.1]
  warn around message range :=
    ⟨(congrArg (fun live => live.warn message range) around.1 :), around.2⟩
  line {live w live' w'} around _ prompt := by
    have id : (live.ask prompt).1 = (live'.ask prompt).1 :=
      (congrArg (fun live => (live.ask prompt).1) around.1 :)
    have asked : (live.ask prompt).2.muted = (live'.ask prompt).2.muted :=
      (congrArg (fun live => (live.ask prompt).2) around.1 :)
    rw [← id]
    refine ((deaf.line _).overheard reader ⟨asked, around.2⟩).imp ?_
    intro after w after' w' around
    exact ⟨(congrArg (Live.withdraw · (live.ask prompt).1) around.1 :), around.2⟩
  time {live w live' w'} around _ millis := by
    have clock : live.clock = live'.clock := (congrArg Live.clock around.1 :)
    rw [← clock]
    exact (deaf.time _).overheard reader around

end

/-! ## What the reader takes -/

namespace Live

variable {live : Live} {waiting : List Fragment}

/-- Until the reader hangs up, what is taken and what still waits is what waited. -/
theorem hear_cases (h : live.Streams waiting) {reading : Reading} (listens : reading ≠ .hangUp) :
    ∃ left, (live.hear reading).2.Streams left ∧ (live.hear reading).1 ++ left = waiting ∧
      (reading = .take → left = []) := by
  cases reading with
  | nothing => exact ⟨waiting, h, rfl, nofun⟩
  | take =>
    obtain ⟨taken, read⟩ := streams_takeUnread h
    exact ⟨[], read, by simpa [hear] using taken, fun _ => rfl⟩
  | hangUp => exact absurd rfl listens

end Live

/-- What a reader took at each stop, from some stop on, and what it left, when these were the turns. -/
structure Delivers (reader : Nat → Reading) (start : Nat) (turns : List Turn)
    (taken : List (List Fragment)) (unread : List Fragment) : Prop where
  /-- Whoever reads at a stop has everything produced before it. -/
  stop : ∀ n turn, start ≤ n → turns[n]? = some turn → turn.stop ≠ .ended →
    (∀ m, start ≤ m → m < n → reader m ≠ .hangUp) → reader n = .take →
    (taken.take (n + 1)).flatten = produced (turns.take (n + 1))
  all : (∀ m, start ≤ m → m < taken.length → reader m ≠ .hangUp) →
    taken.flatten ++ unread = produced turns

section

variable {ω ρ σ : Type} {policy : Policy ω} {reader : Nat → Reading}

theorem hearing_eq (reader : Nat → Reading) (wait : Live → ω → Verdict ρ × Live × ω) (live : Live)
    (w : Listening ω) :
    hearing reader wait live w =
      let heard := live.hear (reader w.taken.length)
      let ended := wait heard.2 w.inner
      (ended.1, ended.2.1, ⟨ended.2.2, w.taken ++ [heard.1]⟩) := rfl

/-- What was taken stays taken. -/
theorem taken_grows (p : Process σ Finish) (live : Live) (w : Listening ω) :
    w.taken <+: (p.play (policy.heardBy reader) live w).2.2.taken := by
  refine play_induction (policy.heardBy reader)
    (motive := fun p live w => w.taken <+: (p.play (policy.heardBy reader) live w).2.2.taken)
    ?done ?serve ?ask ?pause p live w
  case done => exact fun _ _ _ w => List.prefix_refl w.taken
  case serve =>
    intro s request resume live w reply after served ih
    rwa [play_serve served]
  case ask =>
    intro s prompt resume live w alive ih
    have grows : w.taken <+: ((policy.heardBy reader).awaitLine (live.ask prompt).1
      (live.ask prompt).2 w).2.2.taken := List.prefix_append ..
    rw [play_asks alive]
    generalize (policy.heardBy reader).awaitLine (live.ask prompt).1 (live.ask prompt).2 w = ended
      at ih grows ⊢
    obtain ⟨_ | _, after, w'⟩ := ended
    · exact grows.trans (ih _ _ _ rfl)
    · exact grows
  case pause =>
    intro s millis resume live w alive ih
    have grows : w.taken <+: ((policy.heardBy reader).awaitTime (live.clock + millis)
      live w).2.2.taken := List.prefix_append ..
    rw [play_pauses alive]
    generalize (policy.heardBy reader).awaitTime (live.clock + millis) live w = ended
      at ih grows ⊢
    obtain ⟨_ | _, after, w'⟩ := ended
    · exact grows.trans (ih _ _ _ rfl)
    · exact grows

/-- One stop, and what follows it. -/
theorem Delivers.step {start : Nat} {earlier later : List Turn} {turn : Turn}
    {before taken : List (List Fragment)} {fragments unread : List Fragment}
    (counted : before.length = start) (turns : earlier.length = start)
    (grows : before ++ [fragments] <+: taken)
    (listens : reader start ≠ .hangUp →
      (reader start = .take → (before ++ [fragments]).flatten = produced (earlier ++ [turn])) ∧
      Delivers reader (start + 1) (earlier ++ [turn] ++ later) taken unread) :
    Delivers reader start (earlier ++ turn :: later) taken unread := by
  have room : start < taken.length := by
    have := grows.length_le
    simp only [List.length_append, List.length_singleton] at this
    omega
  have same : earlier ++ turn :: later = earlier ++ [turn] ++ later := by simp
  constructor
  · intro n stop late there stops open' takes
    rcases Nat.eq_or_lt_of_le late with rfl | later'
    · have now := (listens (by rw [takes]; exact nofun)).1 takes
      have prefix_taken : taken.take (start + 1) = before ++ [fragments] := by
        obtain ⟨rest, rfl⟩ := grows
        rw [List.take_append_of_le_length (by simp; omega), List.take_of_length_le (by simp; omega)]
      have prefix_turns : (earlier ++ turn :: later).take (start + 1) = earlier ++ [turn] := by
        rw [same, List.take_append_of_le_length (by simp; omega),
          List.take_of_length_le (by simp; omega)]
      rw [prefix_taken, prefix_turns, now]
    · have rest := (listens (open' start (Nat.le_refl _) later')).2
      rw [same] at there ⊢
      exact rest.stop n stop later' there stops (fun m above => open' m (Nat.le_of_succ_le above))
        takes
  · intro open'
    rw [same]
    have rest := (listens (open' start (Nat.le_refl _) room)).2
    exact rest.all fun m above => open' m (Nat.le_of_succ_le above)

/-- At a stop everything produced so far was taken or still waits. -/
theorem delivers_stop {wait : Live → ω → Verdict ρ × Live × ω} (deaf : DeafWait wait) {live : Live}
    {w w' : Listening ω} {verdict : Verdict ρ} {after : Live}
    (ended : hearing reader wait live w = (verdict, after, w')) {earlier later : List Turn}
    {sofar waiting unread : List Fragment} {taken : List (List Fragment)} (stop : Stop)
    (streams : live.Streams waiting) (counted : earlier.length = w.taken.length)
    (conserved : w.taken.flatten ++ waiting = produced earlier ++ sofar)
    (grows : w'.taken <+: taken)
    (rest : ∀ left, after.Streams left → earlier.length + 1 = w'.taken.length →
      w'.taken.flatten ++ left = produced (earlier ++ [⟨sofar, stop⟩]) →
      Delivers reader w'.taken.length (earlier ++ [⟨sofar, stop⟩] ++ later) taken unread) :
    Delivers reader w.taken.length (earlier ++ ⟨sofar, stop⟩ :: later) taken unread := by
  have heard := hearing_eq reader wait live w
  rw [ended] at heard
  dsimp only at heard
  obtain ⟨verdict', desk, clock, inner, goes⟩ := deaf (live.hear (reader w.taken.length)).2 w.inner
  have same := goes (live.hear (reader w.taken.length)).2.console
  rw [show wait (live.hear (reader w.taken.length)).2 w.inner = _ from same] at heard
  cases heard
  have here : produced (earlier ++ [⟨sofar, stop⟩]) = produced earlier ++ sofar := by
    simp [produced]
  refine Delivers.step rfl counted grows fun listens => ?_
  obtain ⟨left, streams', split, emptied⟩ := Live.hear_cases streams listens
  have conserved' : (w.taken ++ [(live.hear (reader w.taken.length)).1]).flatten ++ left =
      produced (earlier ++ [⟨sofar, stop⟩]) := by
    rw [here, ← conserved, ← split]
    simp
  refine ⟨fun takes => ?_, ?_⟩
  · rw [emptied takes, List.append_nil] at conserved'
    exact conserved'
  · have later := rest left (streams'.congr rfl rfl) (by simp [counted]) conserved'
    rwa [List.length_append] at later

/-- No stop is left. -/
theorem delivers_end {start : Nat} {turns : List Turn} {taken : List (List Fragment)}
    {unread : List Fragment} (ends : ∀ turn ∈ turns.drop start, turn.stop = .ended)
    (conserved : taken.flatten ++ unread = produced turns) :
    Delivers reader start turns taken unread := by
  refine ⟨fun n turn late there stops => absurd (ends turn ?_) stops, fun _ => conserved⟩
  apply List.mem_of_getElem? (i := n - start)
  rwa [List.getElem?_drop, Nat.add_sub_of_le late]

theorem delivers_play (reader : Nat → Reading) (deaf : policy.Deaf) (p : Process σ Finish)
    (live : Live) (w : Listening ω) (earlier : List Turn) (sofar waiting : List Fragment)
    (streams : live.Streams waiting) (counted : earlier.length = w.taken.length)
    (conserved : w.taken.flatten ++ waiting = produced earlier ++ sofar) :
    Delivers reader w.taken.length (earlier ++ p.turns (policy.heardBy reader) live w sofar)
      (p.play (policy.heardBy reader) live w).2.2.taken
      (p.play (policy.heardBy reader) live w).2.1.unread := by
  revert earlier sofar waiting
  refine play_induction (policy.heardBy reader)
    (motive := fun p live w => ∀ earlier sofar waiting, live.Streams waiting →
      earlier.length = w.taken.length →
      w.taken.flatten ++ waiting = produced earlier ++ sofar →
      Delivers reader w.taken.length (earlier ++ p.turns (policy.heardBy reader) live w sofar)
        (p.play (policy.heardBy reader) live w).2.2.taken
        (p.play (policy.heardBy reader) live w).2.1.unread)
    ?done ?serve ?ask ?pause p live w
  case done =>
    intro s finish live w earlier sofar waiting streams counted conserved
    apply delivers_end
    · simp [Process.turns, ← counted]
    · simp only [Process.turns, Process.play, streams.unread_eq, conserved, produced_append]
      simp [produced]
  case serve =>
    intro s request resume live w reply after served ih earlier sofar waiting streams counted conserved
    rw [play_serve served, turns_serve served]
    refine ih earlier _ _ (streams.serve served) counted ?_
    rw [← List.append_assoc, conserved, List.append_assoc]
  case ask =>
    intro s prompt resume live w alive ih earlier sofar waiting streams counted conserved
    have streams' : (live.ask prompt).2.Streams waiting := streams.congr rfl rfl
    rw [play_asks alive, turns_asks alive]
    cases ended : (policy.heardBy reader).awaitLine (live.ask prompt).1 (live.ask prompt).2 w with
    | mk verdict rest =>
      obtain ⟨after, w'⟩ := rest
      cases verdict with
      | resume line =>
        refine delivers_stop (deaf.line _) ended .asked streams' counted conserved
          (taken_grows ..) fun left streams counted conserved => ?_
        exact ih _ _ _ ended _ [] left streams (by simpa using counted) (by simpa using conserved)
      | abandon =>
        refine delivers_stop (deaf.line _) ended .asked streams' counted conserved
          (List.prefix_refl _) fun left streams counted conserved => delivers_end ?_ ?_
        · simp [← counted]
        · have still : (after.withdraw (live.ask prompt).1).Streams left := streams.congr rfl rfl
          rw [List.append_nil, ← conserved]
          exact congrArg (_ ++ ·) still.unread_eq
  case pause =>
    intro s millis resume live w alive ih earlier sofar waiting streams counted conserved
    rw [play_pauses alive, turns_pauses alive]
    cases ended : (policy.heardBy reader).awaitTime (live.clock + millis) live w with
    | mk verdict rest =>
      obtain ⟨after, w'⟩ := rest
      cases verdict with
      | resume passed =>
        refine delivers_stop (deaf.time _) ended .paused streams counted conserved
          (taken_grows ..) fun left streams counted conserved => ?_
        exact ih _ _ _ ended _ [] left streams (by simpa using counted) (by simpa using conserved)
      | abandon =>
        refine delivers_stop (deaf.time _) ended .paused streams counted conserved
          (List.prefix_refl _) fun left streams counted conserved => delivers_end ?_ ?_
        · simp [← counted]
        · rw [List.append_nil, ← conserved]
          exact congrArg (_ ++ ·) streams.unread_eq

/-- Whatever was produced is kept. -/
theorem collected_play (deaf : policy.Deaf) (p : Process σ Finish) (live : Live) (w : ω)
    {c : Collector} (collects : live.Collects c) (earlier sofar : List Fragment)
    (kept : c.fragments.toList = earlier ++ sofar) :
    ∃ c', (p.play policy live w).2.1.Collects c' ∧
      c'.fragments.toList = earlier ++ produced (p.turns policy live w sofar) := by
  revert c earlier sofar
  refine play_induction policy
    (motive := fun p live w => ∀ {c : Collector}, live.Collects c → ∀ earlier sofar,
      c.fragments.toList = earlier ++ sofar → ∃ c', (p.play policy live w).2.1.Collects c' ∧
        c'.fragments.toList = earlier ++ produced (p.turns policy live w sofar))
    ?done ?serve ?ask ?pause p live w
  case done =>
    intro s finish live w c collects earlier sofar kept
    exact ⟨c, collects, by simpa [Process.turns, produced] using kept⟩
  case serve =>
    intro s request resume live w reply after served ih c collects earlier sofar kept
    rw [play_serve served, turns_serve served]
    obtain ⟨c', collects', fragments⟩ := collects.serve served
    exact ih collects' earlier _ (by rw [fragments, kept, List.append_assoc])
  case ask =>
    intro s prompt resume live w alive ih c collects earlier sofar kept
    rw [play_asks alive, turns_asks alive]
    obtain ⟨console, collector⟩ :=
      (deaf.line (live.ask prompt).1).console_eq (live.ask prompt).2 w
    have still := collects.congr console collector
    generalize policy.awaitLine (live.ask prompt).1 (live.ask prompt).2 w = ended at ih still ⊢
    obtain ⟨_ | _, after, w'⟩ := ended
    · obtain ⟨c', collects', fragments⟩ := ih _ _ _ rfl still (earlier ++ sofar) [] (by simpa using kept)
      exact ⟨c', collects', by simp [fragments, produced]⟩
    · exact ⟨c, still.congr rfl rfl, by simp [kept, produced]⟩
  case pause =>
    intro s millis resume live w alive ih c collects earlier sofar kept
    rw [play_pauses alive, turns_pauses alive]
    obtain ⟨console, collector⟩ := (deaf.time (live.clock + millis)).console_eq live w
    have still := collects.congr console collector
    generalize policy.awaitTime (live.clock + millis) live w = ended at ih still ⊢
    obtain ⟨_ | _, after, w'⟩ := ended
    · obtain ⟨c', collects', fragments⟩ := ih _ _ _ rfl still (earlier ++ sofar) [] (by simpa using kept)
      exact ⟨c', collects', by simp [fragments, produced]⟩
    · exact ⟨c, still, by simp [kept, produced]⟩

end

/-! ## Every evaluation -/

namespace Session

variable {B : Backend} {ω : Type} {policy : Policy ω} {s : Session B} {text : String}

/-- Where nothing is produced, there is nothing to deliver. -/
theorem delivers_nothing (reader : Nat → Reading) : Delivers reader 0 [] [] [] :=
  delivers_end (by simp) rfl

/-- What is left of an evaluation with a reader and of one without, when these were the turns. -/
structure Overhears (reader : Nat → Reading) (channel : Option Channel)
    (streamed : Evaluated B (Listening ω)) (buffered : Evaluated B ω) (turns : List Turn) : Prop where
  result : streamed.result = buffered.result
  session : streamed.session = buffered.session
  policyState : streamed.policyState.inner = buffered.policyState
  fragments : ∀ e, streamed.result = some (.ok e) → e.fragments = produced turns
  delivers : channel = some {} → Delivers reader 0 turns streamed.policyState.taken streamed.unread

theorem overhears (deaf : policy.Deaf) (s : Session B) (w : ω) (text : String)
    (channel : Option Channel) (reader : Nat → Reading) :
    Overhears reader channel (s.evaluate (policy.heardBy reader) { inner := w } channel text)
      (s.evaluate policy w none text) (s.turns policy w none text) := by
  cases s.admits text with
  | refused terminated =>
    rw [evaluate_refused terminated, evaluate_refused terminated, turns_refused terminated]
    exact ⟨rfl, rfl, rfl, nofun, fun _ => delivers_nothing reader⟩
  | rejected running wrong =>
    rw [evaluate_rejected running wrong, evaluate_rejected running wrong,
      turns_rejected running wrong]
    refine ⟨rfl, rfl, rfl, ?_, fun _ => delivers_nothing reader⟩
    rintro e ⟨⟩
    rfl
  | @launched statements running parsed =>
    let process := (s.launch none statements).process
    let streaming := (s.launch channel statements).live
    let buffering := (s.launch none statements).live
    have muted : streaming.muted = buffering.muted := by
      rw [launch_muted s channel, launch_muted s none]
    obtain ⟨endings, around, turns⟩ := play_mirrored_self (deaf.mirrors reader) process
      (show Overheard streaming { inner := w } buffering w from ⟨muted, rfl⟩)
    obtain ⟨c, collects, kept⟩ := collected_play deaf process buffering w
      (collects_accept (accept_launched running parsed none)) [] [] rfl
    rw [evaluate_launched running parsed, evaluate_launched running parsed,
      turns_launched running parsed]
    have settled :=
      calc settle (s.launch channel statements)
            (process.play (policy.heardBy reader) streaming { inner := w }).1
            (process.play (policy.heardBy reader) streaming { inner := w }).2.1
        _ = settle (s.launch none statements)
            (process.play (policy.heardBy reader) streaming { inner := w }).1
            (process.play (policy.heardBy reader) streaming { inner := w }).2.1.muted :=
          settle_muted ..
        _ = settle (s.launch none statements) (process.play policy buffering w).1
            (process.play policy buffering w).2.1.muted := by rw [endings.eq, around.1]
        _ = settle (s.launch none statements) (process.play policy buffering w).1
            (process.play policy buffering w).2.1 := (settle_muted ..).symm
    refine ⟨congrArg (·.1) settled, congrArg (·.2) settled, around.2, ?_, ?_⟩
    · intro e result
      have result := (congrArg (·.1) settled).symm.trans result
      rw [settle_result s none statements _ collects.own] at result
      split at result
      · cases result
      · exact (fragments_conclude (Option.some.inj result)).trans kept
    · rintro rfl
      have delivers := delivers_play reader deaf process streaming { inner := w } [] [] []
        (streams_accept (accept_launched running parsed (some {}))) rfl rfl
      rw [List.nil_append, turns] at delivers
      exact delivers

open Script (language)

/-- With a channel or without, and whatever its reader does, an evaluation gives the same and leaves
the same session, as long as what happens around it does not depend on its output. Its fragments are
those of its turns. Until the reader hangs up it gets them in order: whoever reads at a stop has
everything that was produced up to there, and what was never read still waits at the end, however the
evaluation ended. -/
theorem streaming_is_buffering_passed_on (deaf : policy.Deaf) (s : Session B) (w : ω) (text : String)
    (channel : Option Channel) (reader : Nat → Reading) :
    let buffered := s.evaluate policy w none text
    let streamed := s.evaluate (policy.heardBy reader) { inner := w } channel text
    let turns := s.turns policy w none text
    let taken := streamed.policyState.taken
    (streamed.result = buffered.result ∧ streamed.session = buffered.session ∧
      streamed.policyState.inner = buffered.policyState) ∧
    (∀ e, streamed.result = some (.ok e) → e.fragments = produced turns) ∧
    (channel = some {} →
      (∀ n turn, turns[n]? = some turn → turn.stop ≠ .ended → (∀ m < n, reader m ≠ .hangUp) →
        reader n = .take → (taken.take (n + 1)).flatten = produced (turns.take (n + 1))) ∧
      ((∀ n < taken.length, reader n ≠ .hangUp) →
        taken.flatten ++ streamed.unread = produced turns)) := by
  obtain ⟨result, session, policyState, fragments, delivers⟩ :=
    overhears deaf s w text channel reader
  refine ⟨⟨result, session, policyState⟩, fragments, fun opened => ⟨?_, ?_⟩⟩
  · intro n turn there stops listens takes
    exact (delivers opened).stop n turn (Nat.zero_le n) there stops (fun m _ => listens m) takes
  · exact fun listens => (delivers opened).all fun m _ => listens m

/-- A script that is interrupted while it waits for a second line: a reader who misses the first stop
has both messages at the second one. -/
theorem reader_catches_up :
    let s : Session (language "> ") := {}
    let events : Schedule := { upcoming := [{ actions := [.answer "x"] }, { actions := [.interrupt] }] }
    let reader : Nat → Reading := fun n => if n = 0 then .nothing else .take
    let text := "print 1; readline; print 2; readline; print 3"
    let streamed := s.evaluate (Schedule.policy.heardBy reader) { inner := events } (some {}) text
    let taken := streamed.policyState.taken
    Schedule.policy.Deaf ∧
    streamed.result = (s.evaluate Schedule.policy events none text).result ∧
    (taken.take 2).flatten = produced ((s.turns Schedule.policy events none text).take 2) ∧
    taken = [[], [.console .log "1", .result "x", .console .log "2"]] := by
  intro s events reader text streamed taken
  obtain ⟨⟨result, -⟩, -, delivers⟩ :=
    streaming_is_buffering_passed_on Schedule.policy_deaf s events text (some {}) reader
  have second : (s.turns Schedule.policy events none text)[1]? =
      some ⟨[.result "x", .console .log "2"], .asked⟩ := by decide +kernel
  have caughtUp := (delivers rfl).1 1 _ second (by decide) (by decide) rfl
  exact ⟨Schedule.policy_deaf, result, caughtUp, by decide +kernel⟩

end Session

end ScriptSession
