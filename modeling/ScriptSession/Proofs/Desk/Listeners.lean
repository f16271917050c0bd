import ScriptSession.Proofs.Desk.Heard

/-!
# Listeners run once

A listener stands on its token until it is removed or the token is retired (`holds_after`); one that is
removed in time is lost (`Heard.Lost`). An interrupt calls the listeners of the token that it retires,
and a listener that comes to an aborted token is called at once. Whatever is called lies on top of what
was due before, so it has run when no more is due than then (`Heard.Above`), however many aborts the
listeners start in between. `listeners_run_once` puts this together for any moves.
-/
namespace ScriptSession

/-! ## Listeners that are lost -/

/-- A listener stands as long as nobody removes it and its token is not retired. -/
theorem holds_after {s : Scene} {p : Post} (h : s.desk.signals.Orderly)
    (holds : s.desk.signals.Holds p) {moves : List Move} (kept : p.place ∉ removals (s.past moves))
    (alive : p.token ∉ retirements (s.past moves)) : (s.after moves).desk.signals.Holds p := by
  induction moves generalizing s with
  | nil => exact holds
  | cons m rest ih =>
    have signals := s.signals_next (Desk.guided_of_orderly h) m
    have cut : s.past (m :: rest) = [(s, m)] ++ (s.next m).past rest := rfl
    rw [cut, removals, List.filterMap_append, List.mem_append, not_or] at kept
    rw [cut, retirements_append, List.mem_append, not_or] at alive
    refine ih (s.orderly_next h m) ?_ kept.2 alive.2
    rw [signals]
    refine holds.next (s.allows_change m) (fun removes => kept.1 ?_) fun manager retires => alive.1 ?_
    · simp [removes]
    · simp [retirements, retires, Change.retired?]

/-- A listener that had the place is not there any more, and nobody comes there again. -/
structure Heard.Lost (h : Heard) (s : Scene) (place : Nat × Nat) : Prop where
  gave : s.desk.signals.Gave place
  away : ∀ p : Post, p.place = place → ¬ s.desk.signals.Holds p
  unheard : ∀ p ∈ h.all, p.place ≠ place

namespace Heard

variable {h : Heard} {s : Scene} {place : Nat × Nat}

theorem Lost.next (lost : h.Lost s place) (orderly : s.desk.signals.Orderly) (m : Move) :
    (h.next s m).Lost (s.next m) place := by
  have signals := s.signals_next (Desk.guided_of_orderly orderly) m
  have allowed := s.allows_change m
  have fresh : ∀ p, s.change m = .registered p → p.place ≠ place := by
    rintro p registers rfl
    rw [registers] at allowed
    exact (Signals.gave_registered allowed).1 lost.gave
  refine ⟨signals ▸ lost.gave.next allowed, fun p same holds => ?_, fun p mem => ?_⟩
  · rw [signals] at holds
    rcases Signals.holds_of_next orderly allowed holds with ⟨stood, -⟩ | ⟨registers, -⟩
    · exact lost.away p same stood
    · exact fresh p registers same
  · rcases mem_next mem with ⟨manager, -, holds⟩ | ⟨registers, -⟩ | old
    · exact fun same => lost.away p same holds
    · exact fresh p registers
    · exact lost.unheard p old

theorem Lost.after (lost : h.Lost s place) (orderly : s.desk.signals.Orderly) (moves : List Move) :
    (h.after (s.past moves)).Lost (s.after moves) place := by
  induction moves generalizing h s with
  | nil => exact lost
  | cons m rest ih => exact ih (lost.next orderly m) (s.orderly_next orderly m)

/-- A listener that is removed while its token is alive. -/
theorem Tracks.lost (tracks : h.Tracks s) (orderly : s.desk.signals.Orderly) {m : Move}
    (removes : (s.change m).removed? = some place) (gave : s.desk.signals.Gave place)
    (alive : ¬ s.desk.signals.Aborted place.1) : (h.next s m).Lost (s.next m) place := by
  have signals := s.signals_next (Desk.guided_of_orderly orderly) m
  have allowed := s.allows_change m
  refine ⟨signals ▸ gave.next allowed, fun p same holds => ?_, fun p mem same => ?_⟩
  · rw [signals] at holds
    rcases Signals.holds_of_next orderly allowed holds with ⟨-, kept⟩ | ⟨registers, -⟩
    · exact kept (same ▸ removes)
    · rw [registers] at removes
      cases removes
  · rcases mem_next mem with ⟨manager, retires, -⟩ | ⟨registers, -⟩ | old
    · rw [retires] at removes
      cases removes
    · rw [registers] at removes
      cases removes
    · exact alive (same ▸ (tracks.spent p old).1)

end Heard

/-! ## Calls that return -/

/-- What is due on top of some errands, with the listeners that are pending for them. -/
def Heard.Above (h : Heard) (s : Scene) (base : List Due) (below : List Post) : Prop :=
  ∃ top posts, s.due = top ++ base ∧ h.pending = posts ++ below ∧
    listeners top = posts.map (·.listener)

namespace Heard

variable {h : Heard} {s : Scene} {base : List Due} {below : List Post}

theorem sublist_after (h : Heard) (past : List (Scene × Move)) : h.all.Sublist (h.after past).all := by
  induction past generalizing h with
  | nil => exact List.Sublist.refl _
  | cons entry rest ih => exact (sublist_next h entry.1 entry.2).trans (ih _)

theorem ran_after (h : Heard) (past : List (Scene × Move)) : h.ran <+: (h.after past).ran := by
  induction past generalizing h with
  | nil => exact List.prefix_rfl
  | cons entry rest ih => exact (List.prefix_append ..).trans (ih (h.next entry.1 entry.2))

theorem after_append (h : Heard) (a b : List (Scene × Move)) :
    h.after (a ++ b) = (h.after a).after b :=
  List.foldl_append

theorem Above.pending (above : h.Above s base below) (few : s.due.length ≤ base.length) :
    h.pending = below := by
  obtain ⟨top, posts, due, pending, same⟩ := above
  rw [due, List.length_append] at few
  cases List.eq_nil_of_length_eq_zero (show top.length = 0 by omega)
  rw [pending, List.map_eq_nil_iff.mp same.symm, List.nil_append]

theorem Above.next (above : h.Above s base below) (orderly : s.desk.signals.Orderly)
    (more : base.length < s.due.length) (m : Move) : (h.next s m).Above (s.next m) base below := by
  obtain ⟨top, posts, due, pending, same⟩ := above
  obtain ⟨gone, called, left, rest, advances⟩ :=
    s.advances_next (Desk.guided_of_orderly orderly) m
  -- At most one errand is worked off, and there is one on top.
  obtain ⟨top', rfl, rfl⟩ : ∃ top', top = gone ++ top' ∧ rest = top' ++ base := by
    have split := advances.before.symm.trans due
    cases gone with
    | nil => exact ⟨top, rfl, split⟩
    | cons x none =>
      cases List.eq_nil_of_length_eq_zero (Nat.le_zero.mp (Nat.le_of_succ_le_succ advances.one))
      cases top with
      | nil => exact absurd (due ▸ more) (Nat.lt_irrefl _)
      | cons y top' =>
        obtain ⟨rfl, rfl⟩ := List.cons.inj split
        exact ⟨top', rfl, rfl⟩
  rw [listeners_append, advances.run] at same
  have few : (s.runs m).length ≤ posts.length := by
    have := congrArg List.length same
    rw [List.length_append, List.length_map] at this
    omega
  refine ⟨called ++ left ++ top', s.calls m ++ posts.drop (s.runs m).length, ?_, ?_, ?_⟩
  · rw [advances.after]
    simp
  · rw [Heard.next, pending, List.drop_append_of_le_length few, List.append_assoc]
  · rw [listeners_append, listeners_append, advances.called, advances.quiet, List.map_append,
      List.map_drop, ← same, List.drop_left, List.append_nil]

/-- When no more is due than the base, whoever was called above it has run. -/
theorem Above.returned (above : h.Above s base below) (orderly : s.desk.signals.Orderly)
    {moves : List Move} {scene : Scene} (mem : scene ∈ (s.past moves).map (·.1) ++ [s.after moves])
    (few : scene.due.length ≤ base.length) :
    ∃ first rest, s.past moves = first ++ rest ∧ (h.after first).pending = below := by
  induction moves generalizing h s with
  | nil =>
    cases List.mem_singleton.mp mem
    exact ⟨[], [], rfl, above.pending few⟩
  | cons m rest ih =>
    by_cases more : base.length < s.due.length
    · rcases List.mem_cons.mp mem with rfl | later
      · exact absurd few (Nat.not_le.mpr more)
      · obtain ⟨first, behind, split, reached⟩ :=
          ih (above.next orderly more m) (s.orderly_next orderly m) later
        exact ⟨(s, m) :: first, behind, congrArg ((s, m) :: ·) split, reached⟩
    · exact ⟨[], s.past (m :: rest), rfl, above.pending (Nat.not_lt.mp more)⟩

end Heard

/-- Every call returns if the listeners do nothing but their acts. -/
theorem worked_off (s : Scene) : ∃ n, (s.after (List.replicate n .errand)).due = [] := by
  generalize weight : Errand.weights s.errands + s.desk.weight = w
  induction w using Nat.strongRecOn generalizing s with
  | ind w ih =>
    cases due : s.due with
    | nil => exact ⟨0, due⟩
    | cons x rest =>
      have next : s.next .errand = ⟨(s.desk.step x.errand).2,
          (s.desk.step x.errand).1.map x.leaves ++ rest, s.keys x.errand ++ s.given⟩ := by
        simp [Scene.next, Scene.runErrand, due]
      have lighter : Errand.weights (s.next .errand).errands + (s.next .errand).desk.weight < w := by
        have used := s.desk.weight_step x.errand
        have left : ((s.desk.step x.errand).1.map x.leaves).map (·.errand) =
            (s.desk.step x.errand).1 := by
          simp [Due.leaves, Function.comp_def]
        rw [← weight, next, Scene.errands, Scene.errands, due, List.map_append, left, List.map_cons,
          Errand.weights_append, Errand.weights_cons]
        dsimp only
        omega
      obtain ⟨n, done⟩ := ih _ lighter (s.next .errand) rfl
      exact ⟨n + 1, done⟩

section

variable {s : Scene} {past : List (Scene × Move)}

theorem ran_cut (past : List (Scene × Move)) (s : Scene) (m : Move)
    (later : List (Scene × Move)) :
    ran (past ++ (s, m) :: later) = (((heard past).next s m).after later).ran := by
  rw [ran, List.append_cons, heard_append, heard_concat]

theorem once_after (records : s.Records past) (m : Move) (later : List Move) :
    ((((heard past).next s m).after ((s.next m).past later)).all.map Post.place).Nodup := by
  have once := ((records_next records m).after later).tracks.once
  rwa [heard_append, heard_concat] at once

/-- When a call has returned, all that it called has run. -/
theorem calls_returned (records : s.Records past) (m : Move) (later : List Move)
    (returned : Returned s ((s.next m).past later) ((s.next m).after later)) :
    ∀ p ∈ s.calls m, p ∈ ran (past ++ (s, m) :: (s.next m).past later) := by
  intro p call
  obtain ⟨scene, mem, few⟩ := returned
  obtain ⟨gone, called, left, base, advances⟩ :=
    s.advances_next (Desk.guided_of_orderly records.orderly) m
  have above : ((heard past).next s m).Above (s.next m) (left ++ base)
      ((heard past).pending.drop (s.runs m).length) :=
    ⟨called, s.calls m, advances.after, rfl, advances.called⟩
  have level : (left ++ base).length = s.due.length := by
    rw [advances.before, List.length_append, List.length_append,
      advances.inPlace (List.ne_nil_of_mem call)]
  obtain ⟨first, behind, split, reached⟩ :=
    above.returned (s.orderly_next records.orderly m) mem (level ▸ few)
  -- It is called, so it is pending at first, but not among those that were pending before.
  have waits : p ∈ ((heard past).next s m).all :=
    List.mem_append_right _ (List.mem_append_left _ call)
  have new : p ∉ (heard past).pending.drop (s.runs m).length := by
    intro old
    have once : ((s.calls m ++ (heard past).pending.drop (s.runs m).length).map Post.place).Nodup :=
      (once_after records m []).sublist ((List.sublist_append_right ..).map _)
    rw [List.map_append, List.nodup_append] at once
    exact once.2.2 _ (List.mem_map_of_mem call) _ (List.mem_map_of_mem old) rfl
  have started : p ∈ (((heard past).next s m).after first).ran := by
    rcases List.mem_append.mp ((Heard.sublist_after _ first).subset waits) with started | pending
    · exact started
    · exact absurd (reached ▸ pending) new
  rw [ran_cut, split, Heard.after_append]
  exact (Heard.ran_after _ behind).subset started

/-- What a move calls runs in its order, and all of it by the time that the call returns. -/
theorem calls_run (records : s.Records past) (m : Move) (later : List Move) :
    ∃ done rest, s.calls m = done ++ rest ∧
      done.Sublist (ran (past ++ (s, m) :: (s.next m).past later)) ∧
      (∀ p ∈ rest, p ∉ ran (past ++ (s, m) :: (s.next m).past later)) ∧
      (Returned s ((s.next m).past later) ((s.next m).after later) → rest = []) := by
  have among : (s.calls m).Sublist ((heard past).next s m).all :=
    (List.sublist_append_left ..).trans (List.sublist_append_right ..)
  obtain ⟨done, rest, split, started, pending⟩ :=
    List.sublist_append_iff.mp (among.trans (Heard.sublist_after _ ((s.next m).past later)))
  have apart : ∀ p ∈ rest, p ∉ ran (past ++ (s, m) :: (s.next m).past later) := by
    intro p mem early
    rw [ran_cut] at early
    have once := once_after records m later
    rw [Heard.all, List.map_append, List.nodup_append] at once
    exact once.2.2 _ (List.mem_map_of_mem early) _ (List.mem_map_of_mem (pending.subset mem)) rfl
  refine ⟨done, rest, split, ?_, apart, fun returned => ?_⟩
  · rw [ran_cut]
    exact started
  · refine List.eq_nil_iff_forall_not_mem.mpr fun p mem => apart p mem ?_
    exact calls_returned records m later returned p (split ▸ List.mem_append_right _ mem)

/-- A listener that comes to an aborted token runs before the call that registered it returns. -/
theorem registered_late (records : s.Records past) {m : Move} {p : Post}
    (registers : s.change m = .registered p) (later : List Move) :
    p ∉ ran past ∧ (s.desk.isAborted p.token = true →
      Returned s ((s.next m).past later) ((s.next m).after later) →
      p ∈ ran (past ++ (s, m) :: (s.next m).past later)) := by
  have allowed := s.allows_change m
  rw [registers] at allowed
  refine ⟨fun early => ?_, fun aborted returned => ?_⟩
  · have known := records.known p (records.came p (List.mem_append_left _ early))
    exact (Signals.gave_registered allowed).1 known
  · refine calls_returned records m later returned p ?_
    simp [Scene.calls, registers, Desk.calls, aborted]

/-- A listener that is removed while its token is alive does not run. -/
theorem removed_silent (records : s.Records past) {m : Move} {p : Post}
    (removes : (s.change m).removed? = some p.place) (known : p ∈ registrations past)
    (alive : ¬ s.desk.signals.Aborted p.token) (later : List Move) :
    p ∉ ran (past ++ (s, m) :: (s.next m).past later) := by
  have lost := records.tracks.lost records.orderly removes (records.known p known) alive
  rw [ran_cut]
  intro started
  have unheard := (lost.after (s.orderly_next records.orderly m) later).unheard
  exact unheard p (List.mem_append_left _ started) rfl

end

section

variable {managers : Nat} {moves : List Move} {m : Move} {s₀ : Scene}
  {before later : List (Scene × Move)}

theorem records_past (managers : Nat) (moves : List Move) :
    ((Scene.opened managers).after moves).Records ((Scene.opened managers).past moves) :=
  (records_opened managers).after moves

theorem records_split (split : (Scene.opened managers).past moves = before ++ (s₀, m) :: later) :
    s₀.Records before ∧ ∃ rest, later = (s₀.next m).past rest ∧
      (Scene.opened managers).after moves = (s₀.next m).after rest := by
  obtain ⟨first, rest, rfl, rfl, behind, reached⟩ := Scene.past_split split
  exact ⟨records_past managers first, rest, behind, reached⟩

/-- A token that is retired now was not retired before. -/
theorem retires_alive (split : (Scene.opened managers).past moves = before ++ (s₀, m) :: later)
    {manager token : Nat} (retires : s₀.change m = .retired manager token) :
    token ∉ retirements before := by
  obtain ⟨records, -⟩ := records_split split
  have allowed := s₀.allows_change m
  rw [retires] at allowed
  exact fun retired => records.orderly.alive allowed ((records.aborted token).mpr retired)

variable {m₁ : Move} {s₁ : Scene} {during : List (Scene × Move)} {p : Post} {manager : Nat}

/-- A listener that is removed before the abort of its token. -/
theorem removed_early
    (split : (Scene.opened managers).past moves = before ++ (s₀, m) :: during ++ (s₁, m₁) :: later)
    (registers : s₀.change m = .registered p) (retires : s₁.change m₁ = .retired manager p.token)
    (removed : p.place ∈ removals during) : p ∉ ran ((Scene.opened managers).past moves) := by
  obtain ⟨⟨s₂, m₂⟩, mem, removes⟩ := List.mem_filterMap.mp removed
  obtain ⟨first, second, rfl⟩ := List.append_of_mem mem
  have cut : (Scene.opened managers).past moves =
      (before ++ (s₀, m) :: first) ++ (s₂, m₂) :: (second ++ (s₁, m₁) :: later) := by
    rw [split]
    simp
  obtain ⟨records, rest, behind, -⟩ := records_split cut
  have known : p ∈ registrations (before ++ (s₀, m) :: first) :=
    List.mem_filterMap.mpr ⟨(s₀, m), by simp, by simp [registers, Change.registered?]⟩
  have alive : ¬ s₂.desk.signals.Aborted p.token := by
    intro aborted
    have retired := (records.aborted p.token).mp aborted
    refine retires_alive split retires ?_
    have longer : before ++ (s₀, m) :: (first ++ (s₂, m₂) :: second) =
        (before ++ (s₀, m) :: first) ++ (s₂, m₂) :: second := by simp
    rw [longer, retirements_append]
    exact List.mem_append_left _ retired
  rw [cut, behind]
  exact removed_silent records removes known alive rest

/-- A listener that is not removed stands on its token when the abort begins. -/
theorem kept_early
    (split : (Scene.opened managers).past moves = before ++ (s₀, m) :: during ++ (s₁, m₁) :: later)
    (registers : s₀.change m = .registered p) (retires : s₁.change m₁ = .retired manager p.token)
    (kept : p.place ∉ removals during) : p ∈ s₁.desk.posts p.token := by
  have unretired := retires_alive split retires
  rw [List.append_assoc] at split
  obtain ⟨records, rest, behind, -⟩ := records_split split
  obtain ⟨first, -, rfl, rfl, -, -⟩ := Scene.past_split behind.symm
  rw [List.append_cons, retirements_append, retirements_append, List.mem_append, List.mem_append,
    not_or, not_or] at unretired
  have allowed := s₀.allows_change m
  rw [registers] at allowed
  have alive : ¬ s₀.desk.signals.Aborted p.token := fun aborted =>
    unretired.1.1 ((records.aborted p.token).mp aborted)
  have stands : (s₀.next m).desk.signals.Holds p := by
    rw [s₀.signals_next (Desk.guided_of_orderly records.orderly), registers]
    exact Signals.holds_registered allowed alive
  have holds := holds_after (s₀.orderly_next records.orderly m) stands kept unretired.2
  exact Signals.mem_posts.mpr ⟨rfl, holds⟩

/-! ## Runs -/

/-- Tokens and their managers after a past. -/
structure TokensRetire (managers : Nat) (past : List (Scene × Move)) (s : Scene) : Prop where
  /-- Nothing but the changes of the moves was done to tokens and managers. -/
  history : s.desk.signals =
    past.foldl (fun g entry => g.next (entry.1.change entry.2)) (Scene.opened managers).desk.signals
  /-- New work of a manager runs under a token that is not aborted. -/
  current : ∀ k < managers, s.desk.currentToken k < s.desk.tokens.length ∧
    s.desk.isAborted (s.desk.currentToken k) = false
  /-- The numbers of a manager's tokens rise, and its last one is current. -/
  rising : ∀ k < managers, (installations k past).getLast? = some (s.desk.currentToken k) ∧
    ((installations k past).map s.desk.generation).Pairwise (· < ·)
  aborted : ∀ token, s.desk.isAborted token = true ↔ token ∈ retirements past
  /-- No token is retired by two interrupts. -/
  once : (retirements past).Nodup
  /-- Once aborted, a token stays so and does not become current again. -/
  ever : ∀ before s₀ m later, past = before ++ (s₀, m) :: later →
    ∀ token, s₀.desk.isAborted token = true →
      s.desk.isAborted token = true ∧ ∀ k < managers, s.desk.currentToken k ≠ token

/-- Listeners after a past. -/
structure ListenersRun (past : List (Scene × Move)) (s : Scene) : Prop where
  /-- The listeners that have run are those that moves started, in their order. -/
  started : (ran past).map (·.listener) = past.flatMap fun entry => entry.1.runs entry.2
  /-- No two registrations get the same place. -/
  apart : ((registrations past).map Post.place).Nodup
  once : ((ran past).map Post.place).Nodup
  /-- A listener whose token is not aborted has not run. -/
  aborted : ∀ p ∈ ran past, p ∈ registrations past ∧ s.desk.isAborted p.token = true
  /-- A listener that comes to an aborted token has run when it is registered. -/
  late : ∀ before s₀ m later p, past = before ++ (s₀, m) :: later → s₀.change m = .registered p →
    p ∉ ran before ∧
    (s₀.desk.isAborted p.token = true → Returned s₀ later s → p ∈ ran past)
  /-- A listener that comes to its token before the abort does not run before it, and never if it is
  removed in time; else it stands on the token when the abort begins. -/
  early : ∀ before s₀ m during s₁ m₁ later p manager,
    past = before ++ (s₀, m) :: during ++ (s₁, m₁) :: later → s₀.change m = .registered p →
    s₁.change m₁ = .retired manager p.token →
      p ∉ ran (before ++ (s₀, m) :: during) ∧
      (p.place ∈ removals during → p ∉ ran past) ∧
      (p.place ∉ removals during → p ∈ s₁.desk.posts p.token)
  /-- The listeners that stand on a token when its abort begins run in the order in which they were
  registered, and when the abort has returned all of them have. -/
  inOrder : ∀ before s₁ m₁ later manager token, past = before ++ (s₁, m₁) :: later →
    s₁.change m₁ = .retired manager token →
      (s₁.desk.posts token).Sublist (registrations before) ∧
      ∃ done rest, s₁.desk.posts token = done ++ rest ∧ done.Sublist (ran past) ∧
        (∀ p ∈ rest, p ∉ ran past) ∧ (Returned s₁ later s → rest = [])
  /-- What is due is worked off, so that every call returns. -/
  ends : ∃ n, (s.after (List.replicate n .errand)).due = []

theorem signals_past {s : Scene} (orderly : s.desk.signals.Orderly) (moves : List Move) :
    (s.after moves).desk.signals =
      (s.past moves).foldl (fun g entry => g.next (entry.1.change entry.2)) s.desk.signals := by
  induction moves generalizing s with
  | nil => rfl
  | cons m rest ih =>
    refine (ih (s.orderly_next orderly m)).trans ?_
    rw [s.signals_next (Desk.guided_of_orderly orderly)]
    rfl

theorem tokens_retire (managers : Nat) (moves : List Move) :
    TokensRetire managers ((Scene.opened managers).past moves)
      ((Scene.opened managers).after moves) := by
  have records := records_past managers moves
  have aborted := fun token => (Desk.isAborted_iff ..).trans (records.aborted token)
  have alive : ∀ k < managers, ((Scene.opened managers).after moves).desk.isAborted
      (((Scene.opened managers).after moves).desk.currentToken k) = false := by
    intro k bound
    obtain ⟨m, installed⟩ := Scene.installed_after bound moves
    exact Desk.current_alive records.orderly installed.found
  refine ⟨signals_past (orderly_opened managers) moves, fun k bound => ⟨?_, alive k bound⟩,
    fun k bound => ?_, aborted, records.retired, ?_⟩
  · obtain ⟨m, installed⟩ := Scene.installed_after bound moves
    rw [Desk.currentToken_of installed.found]
    exact (installed.below _ (List.mem_of_getLast? installed.last)).1
  · obtain ⟨m, installed⟩ := Scene.installed_after bound moves
    rw [Desk.currentToken_of installed.found]
    exact ⟨installed.last, installed.rising⟩
  · intro before s₀ m later split token already
    obtain ⟨early, -⟩ := records_split split
    have retired := (early.aborted token).mp ((Desk.isAborted_iff ..).mp already)
    have still : ((Scene.opened managers).after moves).desk.isAborted token = true := by
      rw [aborted, split, retirements_append]
      exact List.mem_append_left _ retired
    refine ⟨still, fun k bound same => ?_⟩
    rw [← same, alive k bound] at still
    cases still

theorem listeners_run (managers : Nat) (moves : List Move) :
    ListenersRun ((Scene.opened managers).past moves) ((Scene.opened managers).after moves) := by
  have records := records_past managers moves
  have all : (ran ((Scene.opened managers).past moves)).Sublist
      (heard ((Scene.opened managers).past moves)).all := List.sublist_append_left ..
  refine ⟨records.started, records.keys, records.tracks.once.sublist (all.map _), fun p mem => ?_,
    ?_, ?_, ?_, worked_off _⟩
  · exact ⟨records.came p (all.subset mem),
      (Desk.isAborted_iff ..).mpr (records.tracks.spent p (all.subset mem)).1⟩
  · intro before s₀ m later p split registers
    obtain ⟨early, rest, rfl, reached⟩ := records_split split
    rw [split, reached]
    exact registered_late early registers rest
  · intro before s₀ m during s₁ m₁ later p manager split registers retires
    refine ⟨fun started => ?_, removed_early split registers retires, kept_early split registers retires⟩
    obtain ⟨early, -⟩ := records_split split
    have aborted := (early.tracks.spent p (List.mem_append_left _ started)).1
    exact retires_alive split retires ((early.aborted p.token).mp aborted)
  · intro before s₁ m₁ later manager token split retires
    obtain ⟨early, rest, rfl, reached⟩ := records_split split
    have calls : s₁.calls m₁ = s₁.desk.posts token := by rw [Scene.calls, retires]; rfl
    rw [split, reached, ← calls]
    exact ⟨calls ▸ early.standing token, calls_run early m₁ rest⟩

/-- Wherever a run stands, also inside listeners that interrupt managers and register others: tokens
are retired once and for good, and every listener runs once, in the abort of its token or, if it came
too late for that, before its registration returns. -/
theorem listeners_run_once (managers : Nat) (moves : List Move) :
    TokensRetire managers ((Scene.opened managers).past moves)
      ((Scene.opened managers).after moves) ∧
    ListenersRun ((Scene.opened managers).past moves) ((Scene.opened managers).after moves) :=
  ⟨tokens_retire managers moves, listeners_run managers moves⟩

/-- A listener interrupts its manager once more, for the token that was just installed, and then comes
back to the token whose abort it belongs to; another one is removed in time. -/
def nestedAborts : List Move :=
  [.listen 0 "first" [.listen 2 "inner" [], .interrupt 0, .listen 0 "late" []],
    .listen 0 "second" [], .listen 0 "gone" [], .unlisten 0 2, .interrupt 0] ++
  List.replicate 11 .errand

/-- The listener of the inner abort runs, and the late one, before the second one of the outer abort. -/
theorem nested_aborts_run_once :
    let past := (Scene.opened 2).past nestedAborts
    let s := (Scene.opened 2).after nestedAborts
    (registrations past).map Post.place = [(0, 0), (0, 1), (0, 2), (2, 0), (0, 3)] ∧
    removals past = [(0, 2)] ∧ installations 0 past = [0, 2, 3] ∧ s.due.length = 0 ∧
    (ran past).map Post.place = [(0, 0), (2, 0), (0, 3), (0, 1)] ∧
    ((ran past).map Post.place).Nodup ∧ s.desk.isAborted 2 = true := by
  obtain ⟨tokens, listeners⟩ := listeners_run_once 2 nestedAborts
  have retired : retirements ((Scene.opened 2).past nestedAborts) = [0, 2] := by decide +kernel
  refine ⟨by decide +kernel, by decide +kernel, by decide +kernel, by decide +kernel,
    by decide +kernel, listeners.once, ?_⟩
  rw [tokens.aborted, retired]
  decide

end

end ScriptSession
