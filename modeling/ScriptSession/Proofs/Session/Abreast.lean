import ScriptSession.Proofs.Desk.Frames
import ScriptSession.Proofs.Script.Likeness
import ScriptSession.Proofs.Session.Collecting
import ScriptSession.Session.Schedule

/-!
# Runs side by side

Two processes that are alike go the same way if the desk is the same for both: they get the same
lines, produce the same output and end alike (`play_alike`). One of them may have produced something
before, and its clock may show another time.

Statements can also be run in two goes (`run_append`, `play_bind`).
-/
namespace ScriptSession

def Reply.line? : Reply → Option String
  | .line text => some text
  | .cancelled => none

/-! ## In two goes -/

theorem run_append (B : Backend) (first rest : List B.Statement) (env : B.Environment) :
    B.run (first ++ rest) env = (B.run first env).bind fun env finish =>
      if finish = .completed then B.run rest env else .done env finish := by
  induction first generalizing env with
  | nil => rfl
  | cons statement first ih =>
    rw [List.cons_append, Backend.run, Backend.run, Process.bind]
    congr 1
    funext aborted
    by_cases stop : aborted = true
    · rw [if_pos stop, if_pos stop]
      rfl
    · rw [if_neg stop, if_neg stop, Process.bind_bind]
      congr 1
      funext env outcome
      cases outcome with
      | value text => simp only [Process.bind, ih]
      | unit => exact ih env
      | _ => rfl

/-- What follows a process is played from where the process ends, unless it is given up. -/
theorem play_bind {σ ω : Type} (policy : Policy ω) (p : Process σ Finish)
    (next : σ → Finish → Process σ Finish) (live : Live) (w : ω) :
    (p.bind next).play policy live w = match p.play policy live w with
      | (.finished s finish, live, w) => (next s finish).play policy live w
      | (.givenUp s, live, w) => (.givenUp s, live, w) := by
  induction p generalizing live w with
  | done s finish => rfl
  | call s request resume ih =>
    cases request with
    | emit | warn | aborted | generation | consoleDepth => exact ih _ _ _
    | readLine prompt =>
      simp only [Process.bind, Process.play]
      split
      · exact ih _ _ _
      · split
        · exact ih _ _ _
        · rfl
    | sleep millis =>
      simp only [Process.bind, Process.play]
      split
      · exact ih _ _ _
      · split
        · exact ih _ _ _
        · rfl

/-! ## Answers in order -/

namespace Schedule

/-- Lines that are given one after another, as they are asked for. Who asks for more waits in vain. -/
def answering (answers : List String) : List Scheduled :=
  answers.map (fun text => { actions := [.answer text] }) ++ [{ actions := [.abandon] }]

/-- A wait for a line reads and changes nothing but the desk. -/
theorem awaitLine_answering (id : Nat) (answers : List String) (live : Live) (w : Schedule) :
    ∃ verdict desk w', desk.managers = live.desk.managers ∧
      (verdict = .abandon ∨ ∃ left, w'.upcoming = answering left) ∧
      ∀ other : Live, other.desk = live.desk → awaitLine id other w (answering answers) =
        (verdict, { other with desk := desk }, w') := by
  induction answers generalizing live w with
  | nil =>
    refine ⟨.abandon, live.desk, { w.note live.desk.visible none with upcoming := [] }, rfl,
      .inl rfl, ?_⟩
    intro other same
    rw [← same]
    rfl
  | cons text rest ih =>
    have managers := Desk.managers_answer live.desk text
    let noted : Schedule := { w.note live.desk.visible
      (some [.answered (live.desk.answer text).1]) with upcoming := answering rest }
    cases fetched : (live.desk.answer text).2.fetch? id with
    | some found =>
      obtain ⟨reply, desk⟩ := found
      refine ⟨.resume reply.line?, desk, noted, (Desk.managers_fetch fetched).trans managers,
        .inr ⟨rest, rfl⟩, ?_⟩
      intro other same
      simp only [awaitLine, answering, List.map_cons, List.cons_append, act, Live.answer,
        Live.reply?, same, fetched, Option.map_some]
      rfl
    | none =>
      obtain ⟨verdict, desk, w', kept, left, goes⟩ :=
        ih { live with desk := (live.desk.answer text).2 } noted
      refine ⟨verdict, desk, w', kept.trans managers, left, ?_⟩
      intro other same
      have later := goes { other with desk := (live.desk.answer text).2 } rfl
      simp only [awaitLine, answering, List.map_cons, List.cons_append, act, Live.answer,
        Live.reply?, same, fetched, Option.map_none]
      exact later

theorem policy_awaitLine (id : Nat) (live : Live) {w : Schedule} {answers : List String}
    (upcoming : w.upcoming = answering answers) :
    ∃ verdict desk w', desk.managers = live.desk.managers ∧
      (verdict = .abandon ∨ ∃ left, w'.upcoming = answering left) ∧
      ∀ other : Live, other.desk = live.desk → policy.awaitLine id other w =
        (verdict, { other with desk := desk }, w') := by
  have waited := awaitLine_answering id answers live w
  rwa [← upcoming] at waited

theorem policy_awaitTime (deadline : Nat) (live : Live) {w : Schedule} {answers : List String}
    (upcoming : w.upcoming = answering answers) :
    policy.awaitTime deadline live w = (.resume true, live.advanceTo deadline, w) := by
  unfold policy
  dsimp only
  rw [upcoming]
  cases answers <;> rfl

end Schedule

/-! ## Side by side -/

/-- What the evaluation's own collector keeps and that only warnings were noted. The console had
other collectors before. -/
structure Live.Keeps (live : Live) (outer : List Nat) (kept : List Fragment) : Prop where
  installed : live.console.installed = live.collector :: outer
  own : ∃ c, live.console.collector? live.collector = some c ∧ c.fragments.toList = kept
  harmless : hasErrors live.warnings = false

/-- The second of two evaluations has produced something before the first one started. -/
structure Live.Abreast (outer : List Nat) (before : List Fragment) (live live' : Live) : Prop where
  desk : live.desk = live'.desk
  token : live.token = live'.token
  current : live.desk.currentToken 0 = live.token
  kept : ∃ fragments, live.Keeps outer fragments ∧ live'.Keeps outer (before ++ fragments)

namespace Live

variable {live live' : Live} {outer : List Nat} {kept before : List Fragment}

theorem Keeps.collects (h : live.Keeps outer kept) :
    ∃ c, live.Collects c ∧ c.fragments.toList = kept := by
  obtain ⟨c, own, fragments⟩ := h.own
  exact ⟨c, ⟨by rw [h.installed]; rfl, own⟩, fragments⟩

theorem Keeps.congr {other : Live} (h : live.Keeps outer kept)
    (console : other.console = live.console) (collector : other.collector = live.collector)
    (warnings : other.warnings = live.warnings) : other.Keeps outer kept where
  installed := by rw [console, collector]; exact h.installed
  own := by rw [console, collector]; exact h.own
  harmless := by rw [warnings]; exact h.harmless

theorem installed_emit (live : Live) (f : Fragment) :
    (live.emit f).console.installed = live.console.installed := by
  unfold emit
  split
  · rfl
  · unfold Console.emit
    split <;> rfl

theorem keeps_emit (h : live.Keeps outer kept) (f : Fragment) :
    (live.emit f).Keeps outer (kept ++ [f]) := by
  obtain ⟨c, collects, fragments⟩ := h.collects
  obtain ⟨results, emitted⟩ := collects_emit collects f
  refine ⟨(installed_emit live f).trans h.installed, ⟨_, emitted.own, ?_⟩, h.harmless⟩
  simp [Collector.deliver, fragments]

theorem keeps_warn (h : live.Keeps outer kept) (message : String) (range : Option Span) :
    (live.warn message range).Keeps outer kept where
  installed := h.installed
  own := h.own
  harmless := by
    have noError : Diagnostic.isError (.warning message range) = false := rfl
    simp only [warn, hasErrors, List.any_append, List.any_cons, List.any_nil, noError]
    simpa [hasErrors] using h.harmless

namespace Abreast

theorem isAborted_eq (h : live.Abreast outer before live') : live.isAborted = live'.isAborted := by
  rw [isAborted, isAborted, h.desk, h.token]

theorem depth_eq (h : live.Abreast outer before live') :
    live.console.depth = live'.console.depth := by
  obtain ⟨fragments, keeps, keeps'⟩ := h.kept
  rw [Console.depth, Console.depth, keeps.installed, keeps'.installed]
  rfl

theorem emit (h : live.Abreast outer before live') (f : Fragment) :
    (live.emit f).Abreast outer before (live'.emit f) := by
  obtain ⟨fragments, keeps, keeps'⟩ := h.kept
  refine ⟨h.desk, h.token, h.current, fragments ++ [f], keeps_emit keeps f, ?_⟩
  rw [← List.append_assoc]
  exact keeps_emit keeps' f

theorem warn (h : live.Abreast outer before live') (message : String) (range range' : Option Span) :
    (live.warn message range).Abreast outer before (live'.warn message range') := by
  obtain ⟨fragments, keeps, keeps'⟩ := h.kept
  exact ⟨h.desk, h.token, h.current, fragments, keeps_warn keeps _ _, keeps_warn keeps' _ _⟩

theorem withDesk (h : live.Abreast outer before live') {desk : Desk}
    (managers : desk.managers = live.desk.managers) :
    Abreast outer before { live with desk := desk } { live' with desk := desk } := by
  obtain ⟨fragments, keeps, keeps'⟩ := h.kept
  refine ⟨rfl, h.token, ?_, fragments, keeps.congr rfl rfl rfl, keeps'.congr rfl rfl rfl⟩
  rw [← h.current]
  exact congrArg (fun managers => ((managers[0]?).map Manager.current).getD 0) managers

theorem advance (h : live.Abreast outer before live') (clock clock' : Nat) :
    (live.advanceTo clock).Abreast outer before (live'.advanceTo clock') := by
  obtain ⟨fragments, keeps, keeps'⟩ := h.kept
  exact ⟨h.desk, h.token, h.current, fragments, keeps.congr rfl rfl rfl, keeps'.congr rfl rfl rfl⟩

end Abreast

end Live

/-- The state that a run ends with. -/
def Ending.state {σ : Type} : Ending σ → σ
  | .finished s _ | .givenUp s => s

inductive Ending.Like {σ τ : Type} (R : Span → Span → Prop) (S : σ → τ → Prop) :
    Ending σ → Ending τ → Prop where
  | finished {s t finish finish'} : S s t → finish.Like R finish' →
      Like R S (.finished s finish) (.finished t finish')
  | givenUp {s t} : S s t → Like R S (.givenUp s) (.givenUp t)

/-- Where two runs side by side end. -/
structure PlayedAlike {σ τ : Type} (R : Span → Span → Prop) (S : σ → τ → Prop) (outer : List Nat)
    (before : List Fragment) (played : Ending σ × Live × Schedule)
    (played' : Ending τ × Live × Schedule) : Prop where
  endings : played.1.Like R S played'.1
  lives : played.2.1.Abreast outer before played'.2.1
  schedules : played.2.2 = played'.2.2
  answers : (∃ s, played.1 = .givenUp s) ∨ ∃ left, played.2.2.upcoming = Schedule.answering left

theorem play_alike {σ τ : Type} {R : Span → Span → Prop} {S : σ → τ → Prop} {outer : List Nat}
    {before : List Fragment} {p : Process σ Finish} {p' : Process τ Finish}
    (h : p.Like R S (Finish.Like R) p') {live live' : Live}
    (lives : live.Abreast outer before live') {w : Schedule} {answers : List String}
    (upcoming : w.upcoming = Schedule.answering answers) :
    PlayedAlike R S outer before (p.play Schedule.policy live w)
      (p'.play Schedule.policy live' w) := by
  induction h generalizing live live' w answers with
  | done states finishes => exact ⟨.finished states finishes, lives, rfl, .inr ⟨_, upcoming⟩⟩
  | warn states ranges _ ih => exact ih (lives.warn ..) upcoming
  | @call s t request resume resume' states _ ih =>
    cases request with
    | emit f => exact ih () (lives.emit f) upcoming
    | warn message range => exact ih () (lives.warn message range range) upcoming
    | aborted =>
      simp only [Process.play]
      rw [lives.isAborted_eq]
      exact ih _ lives upcoming
    | generation =>
      simp only [Process.play]
      rw [lives.desk, lives.token]
      exact ih _ lives upcoming
    | consoleDepth =>
      simp only [Process.play]
      rw [lives.depth_eq]
      exact ih _ lives upcoming
    | readLine prompt =>
      simp only [Process.play]
      rw [lives.isAborted_eq]
      split
      · exact ih _ lives upcoming
      · rename_i alive
        have alive : live.desk.isAborted live.token = false := by
          rw [← lives.isAborted_eq] at alive
          exact Bool.eq_false_iff.mpr alive
        have queued := lives.withDesk (Desk.managers_enqueue alive prompt none)
        have same : live'.desk.enqueue prompt live'.token none =
            live.desk.enqueue prompt live.token none := by rw [lives.desk, lives.token]
        rw [same]
        generalize live.desk.enqueue prompt live.token none = request at queued ⊢
        obtain ⟨verdict, desk, w', managers, left, goes⟩ :=
          Schedule.policy_awaitLine request.1 { live with desk := request.2 } upcoming
        have waited := queued.withDesk managers
        have first := goes { live with desk := request.2 } rfl
        have second := goes { live' with desk := request.2 } rfl
        rw [first, second]
        cases verdict with
        | resume line =>
          obtain ⟨left, upcoming⟩ := left.resolve_left nofun
          exact ih _ waited upcoming
        | abandon =>
          exact ⟨.givenUp states, waited.withDesk (Desk.managers_withdraw ..), rfl, .inl ⟨_, rfl⟩⟩
    | sleep millis =>
      simp only [Process.play]
      rw [lives.isAborted_eq]
      split
      · exact ih _ lives upcoming
      · rw [Schedule.policy_awaitTime _ _ upcoming, Schedule.policy_awaitTime _ _ upcoming]
        exact ih _ (lives.advance ..) upcoming

end ScriptSession
