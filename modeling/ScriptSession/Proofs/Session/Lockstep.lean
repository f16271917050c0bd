import ScriptSession.Proofs.Script.Agreement
import ScriptSession.Proofs.Session.Underway

/-!
# Runs in lockstep

Two policies mirror each other over a relation between what surrounds two runs if calls get the same
reply on both sides and waits end alike, and the relation is kept (`Policy.Mirrors`). Processes that
agree then go the same way: they have the same turns and end alike (`play_mirrored`).
-/
namespace ScriptSession

/-! ## Calls -/

namespace Process

variable {σ ω : Type}

/-- Nothing else is ever called for. -/
def Only {α : Type} (allowed : Call → Prop) : Process σ α → Prop
  | done _ _ => True
  | call _ request resume => allowed request ∧ ∀ reply, Only allowed (resume reply)

theorem only_all {α : Type} (p : Process σ α) : p.Only fun _ => True := by
  induction p with
  | done => exact trivial
  | call s request resume ih => exact ⟨trivial, ih⟩

end Process

section

variable {σ ω : Type} {policy : Policy ω} {s : σ} {live : Live}

theorem turns_serve {request : Call} {resume : request.Reply → Process σ Finish} {after : Live}
    {reply : request.Reply} (served : live.serve request = some (reply, after)) (w : ω)
    (sofar : List Fragment) : (Process.call s request resume).turns policy live w sofar =
      (resume reply).turns policy after w (sofar ++ request.fragments) := by
  cases request with
  | emit f =>
    cases served
    rfl
  | warn | aborted | generation | consoleDepth =>
    cases served
    simp [Process.turns, Call.fragments]
  | readLine prompt =>
    obtain ⟨aborted, rfl, rfl⟩ := Live.served_readLine served
    simp [Process.turns, aborted, Call.fragments]
  | sleep millis =>
    obtain ⟨aborted, rfl, rfl⟩ := Live.served_sleep served
    simp [Process.turns, aborted, Call.fragments]

theorem turns_asks {prompt : String} {resume : Option String → Process σ Finish}
    (alive : live.isAborted = false) (w : ω) (sofar : List Fragment) :
    (Process.call s (.readLine prompt) resume).turns policy live w sofar = ⟨sofar, .asked⟩ ::
      match policy.awaitLine (live.ask prompt).1 (live.ask prompt).2 w with
      | (.resume line, after, w) => (resume line).turns policy after w []
      | (.abandon, _, _) => [] := by
  simp only [Process.turns, alive, Bool.false_eq_true, if_false]
  rfl

theorem turns_pauses {millis : Nat} {resume : Bool → Process σ Finish}
    (alive : live.isAborted = false) (w : ω) (sofar : List Fragment) :
    (Process.call s (.sleep millis) resume).turns policy live w sofar = ⟨sofar, .paused⟩ ::
      match policy.awaitTime (live.clock + millis) live w with
      | (.resume passed, after, w) => (resume passed).turns policy after w []
      | (.abandon, _, _) => [] := by
  rw [Process.turns]
  exact if_neg (Bool.eq_false_iff.mp alive)

end

namespace Live

variable {live after : Live} {waiting : List Fragment}

/-- A call that is answered at once writes what it emits and nothing else. -/
theorem serve_cases {request : Call} {reply : request.Reply}
    (served : live.serve request = some (reply, after)) :
    (∃ f, request.fragments = [f] ∧ after = live.emit f) ∨
    request.fragments = [] ∧ after.console = live.console ∧ after.collector = live.collector := by
  cases request with
  | emit f =>
    cases served
    exact .inl ⟨f, rfl, rfl⟩
  | warn | aborted | generation | consoleDepth =>
    cases served
    exact .inr ⟨rfl, rfl, rfl⟩
  | readLine =>
    obtain ⟨-, -, rfl⟩ := served_readLine served
    exact .inr ⟨rfl, rfl, rfl⟩
  | sleep =>
    obtain ⟨-, -, rfl⟩ := served_sleep served
    exact .inr ⟨rfl, rfl, rfl⟩

theorem Streams.serve (h : live.Streams waiting) {request : Call} {reply : request.Reply}
    (served : live.serve request = some (reply, after)) :
    after.Streams (waiting ++ request.fragments) := by
  rcases serve_cases served with ⟨f, fragments, rfl⟩ | ⟨fragments, console, collector⟩
  · rw [fragments]
    exact streams_emit h f
  · rw [fragments, List.append_nil]
    exact h.congr console collector

theorem Collects.serve {c : Collector} (h : live.Collects c) {request : Call}
    {reply : request.Reply} (served : live.serve request = some (reply, after)) :
    ∃ c', after.Collects c' ∧ c'.fragments.toList = c.fragments.toList ++ request.fragments := by
  rcases serve_cases served with ⟨f, fragments, rfl⟩ | ⟨fragments, console, collector⟩
  · obtain ⟨results, emitted⟩ := collects_emit h f
    exact ⟨_, emitted, by simp [Collector.deliver, fragments]⟩
  · exact ⟨c, h.congr console collector, by simp [fragments]⟩

end Live

/-- Induction over a run: the process is done, gets a reply at once, or waits; a wait may be given up. -/
theorem play_induction {σ ω : Type} (policy : Policy ω)
    {motive : Process σ Finish → Live → ω → Prop}
    (done : ∀ s finish live w, motive (.done s finish) live w)
    (serve : ∀ s request resume live w reply after, live.serve request = some (reply, after) →
      motive (resume reply) after w → motive (.call s request resume) live w)
    (ask : ∀ s prompt resume live w, live.isAborted = false →
      (∀ line after w', policy.awaitLine (live.ask prompt).1 (live.ask prompt).2 w =
        (.resume line, after, w') → motive (resume line) after w') →
      motive (.call s (.readLine prompt) resume) live w)
    (pause : ∀ s millis resume live w, live.isAborted = false →
      (∀ passed after w', policy.awaitTime (live.clock + millis) live w =
        (.resume passed, after, w') → motive (resume passed) after w') →
      motive (.call s (.sleep millis) resume) live w)
    (p : Process σ Finish) (live : Live) (w : ω) : motive p live w := by
  induction p generalizing live w with
  | done s finish => exact done s finish live w
  | call s request resume ih =>
    cases served : live.serve request with
    | some found => exact serve s request resume live w found.1 found.2 served (ih _ _ _)
    | none =>
      cases request with
      | emit | warn | aborted | generation | consoleDepth => cases served
      | readLine prompt =>
        exact ask s prompt resume live w (Live.not_served_readLine served) fun _ _ _ _ => ih _ _ _
      | sleep millis =>
        exact pause s millis resume live w (Live.not_served_sleep served) fun _ _ _ _ => ih _ _ _

/-- Whatever was produced is kept. -/
theorem steady_play {σ ω : Type} {policy : Policy ω} (fair : policy.Fair) (p : Process σ Finish)
    (live : Live) (w : ω) {outer : List Nat} (earlier sofar : List Fragment)
    (steady : live.Steady outer (earlier ++ sofar) none) :
    (p.play policy live w).2.1.Steady outer (earlier ++ produced (p.turns policy live w sofar))
      none := by
  revert earlier sofar
  refine play_induction policy (motive := fun p live w =>
    ∀ earlier sofar : List Fragment, live.Steady outer (earlier ++ sofar) none →
      (p.play policy live w).2.1.Steady outer
        (earlier ++ produced (p.turns policy live w sofar)) none) ?done ?serve ?ask ?pause p live w
  case done =>
    intro s finish live w earlier sofar steady
    simpa [Process.play, Process.turns, produced] using steady
  case serve =>
    intro s request resume live w reply after served ih earlier sofar steady
    rw [play_serve served, turns_serve served]
    exact ih _ _ (by simpa using (steady.serve served).1)
  case ask =>
    intro s prompt resume live w alive ih earlier sofar steady
    have waits := steady.ask alive prompt
    have ends := fair.line _ _ w _ _ waits
    rw [play_asks alive, turns_asks alive]
    generalize policy.awaitLine (live.ask prompt).1 (live.ask prompt).2 w = ended at ih ends ⊢
    obtain ⟨_ | _, after, w'⟩ := ended
    · obtain ⟨steady', -⟩ := ends.steady waits
      have rest := ih _ _ _ rfl (earlier ++ sofar) [] (by simpa using steady')
      simpa [produced] using rest
    · cases ends with
      | abandoned moves =>
        obtain ⟨status, waits', -⟩ := waits.meanwhile moves
        simpa [produced] using waits'.withdraw
  case pause =>
    intro s millis resume live w alive ih earlier sofar steady
    have ends := fair.pause (live.clock + millis) live w _ _ steady alive
    rw [play_pauses alive, turns_pauses alive]
    generalize policy.awaitTime (live.clock + millis) live w = ended at ih ends ⊢
    obtain ⟨_ | _, after, w'⟩ := ended
    · obtain ⟨steady', -⟩ := ends.steady steady
      have rest := ih _ _ _ rfl (earlier ++ sofar) [] (by simpa using steady')
      simpa [produced] using rest
    · cases ends with
      | abandoned moves =>
        obtain ⟨asked, steady', rests, -⟩ := steady.meanwhile moves
        cases rests rfl
        simpa [produced] using steady'

/-! ## Policies that mirror each other -/

/-- What surrounds two runs, on either side with the state of its policy. -/
abbrev Surrounding (ω ω' : Type) := Live → ω → Live → ω' → Prop

/-- Waits that end alike; a wait that is given up leaves something of its own. -/
inductive EndAlike {ρ ω ω' : Type} (A left : Surrounding ω ω') :
    Verdict ρ × Live × ω → Verdict ρ × Live × ω' → Prop where
  | resume {reply live w live' w'} : A live w live' w' →
      EndAlike A left (.resume reply, live, w) (.resume reply, live', w')
  | abandon {live w live' w'} : left live w live' w' →
      EndAlike A left (.abandon, live, w) (.abandon, live', w')

theorem EndAlike.imp {ρ ω ω' : Type} {A left left' : Surrounding ω ω'}
    {ended : Verdict ρ × Live × ω} {ended' : Verdict ρ × Live × ω'} (h : EndAlike A left ended ended')
    (more : ∀ live w live' w', left live w live' w' → left' live w live' w') :
    EndAlike A left' ended ended' := by
  cases h with
  | resume around => exact .resume around
  | abandon around => exact .abandon (more _ _ _ _ around)

/-- The calls that are allowed get the same replies, and the relation is kept. -/
structure Policy.Mirrors {ω ω' : Type} (policy : Policy ω) (policy' : Policy ω')
    (allowed : Call → Prop) (A : Surrounding ω ω') : Prop where
  isAborted : ∀ {live w live' w'}, A live w live' w' → live.isAborted = live'.isAborted
  generation : ∀ {live w live' w'}, A live w live' w' → allowed .generation →
    live.desk.generation live.token = live'.desk.generation live'.token
  depth : ∀ {live w live' w'}, A live w live' w' → live.console.depth = live'.console.depth
  emit : ∀ {live w live' w'}, A live w live' w' → ∀ f, A (live.emit f) w (live'.emit f) w'
  warn : ∀ {live w live' w'}, A live w live' w' → ∀ message range,
    A (live.warn message range) w (live'.warn message range) w'
  line : ∀ {live w live' w'}, A live w live' w' → live.isAborted = false → ∀ prompt,
    EndAlike A (fun after w after' w' =>
        A (after.withdraw (live.ask prompt).1) w (after'.withdraw (live'.ask prompt).1) w')
      (policy.awaitLine (live.ask prompt).1 (live.ask prompt).2 w)
      (policy'.awaitLine (live'.ask prompt).1 (live'.ask prompt).2 w')
  time : ∀ {live w live' w'}, A live w live' w' → live.isAborted = false → ∀ millis,
    EndAlike A A (policy.awaitTime (live.clock + millis) live w)
      (policy'.awaitTime (live'.clock + millis) live' w')

/-- Endings at states that correspond. -/
inductive Ending.Agrees {σ τ : Type} (C : σ → τ → Prop) (E : σ → τ → Finish → Finish → Prop) :
    Ending σ → Ending τ → Prop where
  | finished {s t finish finish'} : E s t finish finish' →
      Agrees C E (.finished s finish) (.finished t finish')
  | givenUp {s t} : C s t → Agrees C E (.givenUp s) (.givenUp t)

theorem Ending.Agrees.eq {σ : Type} {ending ending' : Ending σ}
    (h : ending.Agrees Eq (fun s t a b => s = t ∧ a = b) ending') : ending = ending' := by
  cases h with
  | finished same =>
    obtain ⟨rfl, rfl⟩ := same
    rfl
  | givenUp same => rw [same]

/-- Two runs that go the same way. -/
structure InStep {σ τ ω ω' : Type} (C : σ → τ → Prop) (E : σ → τ → Finish → Finish → Prop)
    (A : Surrounding ω ω') (played : Ending σ × Live × ω) (played' : Ending τ × Live × ω')
    (turns turns' : List Fragment → List Turn) : Prop where
  endings : played.1.Agrees C E played'.1
  around : A played.2.1 played.2.2 played'.2.1 played'.2.2
  turns : turns = turns'

section

variable {σ τ ω ω' : Type} {C : σ → τ → Prop} {E : σ → τ → Finish → Finish → Prop}
  {policy : Policy ω} {policy' : Policy ω'} {allowed : Call → Prop} {A : Surrounding ω ω'}
  {live live' : Live} {w : ω} {w' : ω'}

/-- Calls are answered at once on both sides or on neither. -/
theorem Policy.Mirrors.serve (mirrors : policy.Mirrors policy' allowed A)
    (around : A live w live' w') {request : Call} (may : allowed request) :
    (live.serve request = none ∧ live'.serve request = none) ∨ ∃ reply after after',
      live.serve request = some (reply, after) ∧ live'.serve request = some (reply, after') ∧
      A after w after' w' := by
  have aborted := mirrors.isAborted around
  cases request with
  | emit f => exact .inr ⟨_, _, _, rfl, rfl, mirrors.emit around f⟩
  | warn message range => exact .inr ⟨_, _, _, rfl, rfl, mirrors.warn around message range⟩
  | aborted => exact .inr ⟨live.isAborted, _, _, rfl, by rw [aborted]; rfl, around⟩
  | generation =>
    have same := mirrors.generation around may
    exact .inr ⟨live.desk.generation live.token, _, _, rfl, by rw [same]; rfl, around⟩
  | consoleDepth =>
    have same := mirrors.depth around
    exact .inr ⟨live.console.depth, _, _, rfl, by rw [same]; rfl, around⟩
  | readLine prompt =>
    simp only [Live.serve, ← aborted]
    split
    · exact .inr ⟨_, _, _, rfl, rfl, around⟩
    · exact .inl ⟨rfl, rfl⟩
  | sleep millis =>
    simp only [Live.serve, ← aborted]
    split
    · exact .inr ⟨_, _, _, rfl, rfl, around⟩
    · exact .inl ⟨rfl, rfl⟩

theorem play_mirrored_call (mirrors : policy.Mirrors policy' allowed A) {s : σ} {t : τ}
    (states : C s t) {request : Call} (may : allowed request)
    {resume : request.Reply → Process σ Finish} {resume' : request.Reply → Process τ Finish}
    (next : ∀ reply {live w live' w'}, A live w live' w' →
      InStep C E A ((resume reply).play policy live w) ((resume' reply).play policy' live' w')
        ((resume reply).turns policy live w) ((resume' reply).turns policy' live' w'))
    (around : A live w live' w') :
    InStep C E A ((Process.call s request resume).play policy live w)
      ((Process.call t request resume').play policy' live' w')
      ((Process.call s request resume).turns policy live w)
      ((Process.call t request resume').turns policy' live' w') := by
  rcases mirrors.serve around may with ⟨unserved, unserved'⟩ |
    ⟨reply, after, after', served, served', around'⟩
  · -- Only the two calls that take time are not answered at once.
    cases request with
    | emit | warn | aborted | generation | consoleDepth => cases unserved
    | readLine prompt =>
      have alive := Live.not_served_readLine unserved
      have alive' := Live.not_served_readLine unserved'
      have ended := mirrors.line around alive prompt
      rw [play_asks alive, play_asks alive', funext (turns_asks alive w),
        funext (turns_asks alive' w')]
      generalize policy.awaitLine (live.ask prompt).1 (live.ask prompt).2 w = verdict at ended ⊢
      generalize policy'.awaitLine (live'.ask prompt).1 (live'.ask prompt).2 w' = verdict' at ended ⊢
      cases ended with
      | resume around' =>
        obtain ⟨endings, around', turns⟩ := next _ around'
        exact ⟨endings, around', funext fun sofar => congrArg (_ :: ·) (congrFun turns [])⟩
      | abandon around' => exact ⟨.givenUp states, around', rfl⟩
    | sleep millis =>
      have alive := Live.not_served_sleep unserved
      have alive' := Live.not_served_sleep unserved'
      have ended := mirrors.time around alive millis
      rw [play_pauses alive, play_pauses alive', funext (turns_pauses alive w),
        funext (turns_pauses alive' w')]
      generalize policy.awaitTime (live.clock + millis) live w = verdict at ended ⊢
      generalize policy'.awaitTime (live'.clock + millis) live' w' = verdict' at ended ⊢
      cases ended with
      | resume around' =>
        obtain ⟨endings, around', turns⟩ := next _ around'
        exact ⟨endings, around', funext fun sofar => congrArg (_ :: ·) (congrFun turns [])⟩
      | abandon around' => exact ⟨.givenUp states, around', rfl⟩
  · rw [play_serve served, play_serve served', funext (turns_serve served w),
      funext (turns_serve served' w')]
    obtain ⟨endings, around'', turns⟩ := next reply around'
    exact ⟨endings, around'', funext fun sofar => congrFun turns _⟩

/-- Processes that agree go the same way under policies that mirror each other. -/
theorem play_mirrored (mirrors : policy.Mirrors policy' allowed A) {p : Process σ Finish}
    {q : Process τ Finish} (agrees : p.Agrees Eq C E q) (only : p.Only allowed)
    (around : A live w live' w') :
    InStep C E A (p.play policy live w) (q.play policy' live' w') (p.turns policy live w)
      (q.turns policy' live' w') := by
  induction agrees generalizing live w live' w' with
  | done ends => exact ⟨.finished ends, around, rfl⟩
  | @warn s t message range range' resume resume' states ranges _ ih =>
    obtain rfl : range = range' := by
      cases ranges with
      | none => rfl
      | some same => rw [same]
    exact play_mirrored_call mirrors states only.1
      (fun reply _ _ _ _ around => ih (only.2 reply) around) around
  | call states _ ih =>
    exact play_mirrored_call mirrors states only.1
      (fun reply _ _ _ _ around => ih reply (only.2 reply) around) around

/-- One process goes the same way under both. -/
theorem play_mirrored_self {A : Surrounding ω ω'} (mirrors : policy.Mirrors policy' (fun _ => True) A)
    (p : Process σ Finish) (around : A live w live' w') :
    InStep Eq (fun s t finish finish' => s = t ∧ finish = finish') A (p.play policy live w)
      (p.play policy' live' w') (p.turns policy live w) (p.turns policy' live' w') :=
  play_mirrored mirrors (p.agrees_self (fun _ => rfl) fun _ _ => ⟨rfl, rfl⟩) p.only_all around

end

end ScriptSession
