import Mathlib.Data.List.Nodup
import ScriptSession.Proofs.Desk.Orderly

/-!
# What a run has done

A run leaves a history: the listeners that were registered and those that were removed, the tokens that
were retired and the ones that managers got for them. Who was called runs before everyone who was called
earlier, as on a stack; `Heard` keeps that account, and what is pending on it is what is due
(`Heard.Tracks`). `records_next` is the step that every entry of the history goes through, and
`Scene.Records.after` the run.
-/
namespace ScriptSession

/-! ## Histories -/

/-- The listeners that were registered, in this order. -/
def registrations (past : List (Scene × Move)) : List Post :=
  past.filterMap fun (s, m) => (s.change m).registered?

/-- The keys that were taken back, each with its token. -/
def removals (past : List (Scene × Move)) : List (Nat × Nat) :=
  past.filterMap fun (s, m) => (s.change m).removed?

/-- The tokens that were retired, each time that one was. -/
def retirements (past : List (Scene × Move)) : List Nat :=
  past.filterMap fun (s, m) => (s.change m).retired?.map (·.2)

/-- The token that a move installs for a manager. -/
def Scene.installs (s : Scene) (manager : Nat) (m : Move) : Option Nat :=
  (s.change m).retired?.bind fun (k, _) => if k = manager then some s.desk.tokens.length else none

/-- The tokens that a manager had, the one that it was opened with first. -/
def installations (manager : Nat) (past : List (Scene × Move)) : List Nat :=
  manager :: past.filterMap fun (s, m) => s.installs manager m

/-- The listeners that have run, in the order in which they started, and those that are called and
still have to. -/
structure Heard where
  ran : List Post := []
  pending : List Post := []

namespace Heard

def all (h : Heard) : List Post := h.ran ++ h.pending

/-- Who is called runs before everyone who was called before. -/
def next (h : Heard) (s : Scene) (m : Move) : Heard where
  ran := h.ran ++ h.pending.take (s.runs m).length
  pending := s.calls m ++ h.pending.drop (s.runs m).length

def after (h : Heard) (past : List (Scene × Move)) : Heard :=
  past.foldl (fun h entry => h.next entry.1 entry.2) h

end Heard

def heard (past : List (Scene × Move)) : Heard := Heard.after {} past

def ran (past : List (Scene × Move)) : List Post := (heard past).ran

/-- The call that was made in a scene has returned: what was due before it is due again, or less. -/
def Returned (s₀ : Scene) (later : List (Scene × Move)) (s : Scene) : Prop :=
  ∃ scene ∈ later.map (·.1) ++ [s], scene.due.length ≤ s₀.due.length

namespace Scene

/-- What holds at first, and is kept by each move, holds after any moves. -/
theorem past_induction {P : List (Scene × Move) → Scene → Prop} {past : List (Scene × Move)}
    {s : Scene} (start : P past s)
    (next : ∀ past s m, P past s → P (past ++ [(s, m)]) (s.next m)) (moves : List Move) :
    P (past ++ s.past moves) (s.after moves) := by
  induction moves generalizing past s with
  | nil => exact (List.append_nil past).symm ▸ start
  | cons m rest ih =>
    have later := ih (next past s m start)
    rwa [List.append_assoc] at later

/-- A past that is cut at one of its moves. -/
theorem past_split {s s₀ : Scene} {moves : List Move} {m : Move} {before later : List (Scene × Move)}
    (split : s.past moves = before ++ (s₀, m) :: later) : ∃ first rest, before = s.past first ∧
      s₀ = s.after first ∧ later = (s₀.next m).past rest ∧ s.after moves = (s₀.next m).after rest := by
  induction before generalizing s moves with
  | nil =>
    cases moves with
    | nil => cases split
    | cons m' rest =>
      cases split
      exact ⟨[], rest, rfl, rfl, rfl, rfl⟩
  | cons entry before ih =>
    cases moves with
    | nil => cases split
    | cons m' rest =>
      have split : (s, m') :: (s.next m').past rest = entry :: (before ++ (s₀, m) :: later) := split
      obtain ⟨rfl, behind⟩ := List.cons.inj split
      obtain ⟨first, rest', rfl, rfl, rfl, reached⟩ := ih behind
      exact ⟨m' :: first, rest', rfl, rfl, rfl, reached⟩

end Scene

/-! ## Who was called -/

namespace Scene

variable {s : Scene} {m : Move} {p : Post}

theorem calls_cases (mem : p ∈ s.calls m) :
    (∃ manager, s.change m = .retired manager p.token ∧ s.desk.signals.Holds p) ∨
    s.change m = .registered p ∧ s.desk.signals.Aborted p.token := by
  unfold calls Desk.calls at mem
  split at mem
  · rename_i manager token retires
    obtain ⟨rfl, holds⟩ := Signals.mem_posts.mp mem
    exact .inl ⟨manager, retires, holds⟩
  · rename_i q registers
    split at mem
    · rename_i aborted
      cases List.mem_singleton.mp mem
      exact .inr ⟨registers, (Desk.isAborted_iff ..).mp aborted⟩
    · cases mem
  · cases mem
  · cases mem

theorem places_calls (h : s.desk.signals.Orderly) (m : Move) :
    ((s.calls m).map Post.place).Nodup := by
  unfold calls Desk.calls
  split
  · exact h.places _
  · split
    · exact List.nodup_singleton _
    · exact .nil
  · exact .nil
  · exact .nil

end Scene

/-- What was called was called once, on tokens that are aborted, and what is pending is due. -/
structure Heard.Tracks (h : Heard) (s : Scene) : Prop where
  due : listeners s.due = h.pending.map (·.listener)
  once : (h.all.map Post.place).Nodup
  spent : ∀ p ∈ h.all, s.desk.signals.Aborted p.token ∧ s.desk.signals.Gave p.place

namespace Heard

variable {h : Heard} {s : Scene}

theorem all_eq (h : Heard) (n : Nat) : h.all = h.ran ++ h.pending.take n ++ h.pending.drop n := by
  rw [List.append_assoc, List.take_append_drop]
  rfl

theorem all_next (h : Heard) (s : Scene) (m : Move) :
    (h.next s m).all.Perm (s.calls m ++ h.all) := by
  rw [h.all_eq (s.runs m).length]
  exact List.perm_append_comm_assoc ..

/-- Who is called stands on the token that is retired, or comes to an aborted one. -/
theorem mem_next {p : Post} {m : Move} (mem : p ∈ (h.next s m).all) :
    (∃ manager, s.change m = .retired manager p.token ∧ s.desk.signals.Holds p) ∨
    (s.change m = .registered p ∧ s.desk.signals.Aborted p.token) ∨ p ∈ h.all := by
  rcases List.mem_append.mp ((all_next h s m).mem_iff.mp mem) with new | old
  · exact (Scene.calls_cases new).imp id .inl
  · exact .inr (.inr old)

/-- Who was called before stays in order. -/
theorem sublist_next (h : Heard) (s : Scene) (m : Move) : h.all.Sublist (h.next s m).all := by
  rw [h.all_eq (s.runs m).length]
  exact (List.Sublist.refl _).append (List.sublist_append_right ..)

/-- The listener that starts to run is the first one that is pending. -/
theorem Tracks.runs (tracks : h.Tracks s) (orderly : s.desk.signals.Orderly) (m : Move) :
    (h.pending.take (s.runs m).length).map (·.listener) = s.runs m := by
  obtain ⟨gone, called, left, rest, advances⟩ :=
    s.advances_next (Desk.guided_of_orderly orderly) m
  rw [List.map_take, ← tracks.due, advances.before, listeners_append, advances.run, List.take_left]

theorem Tracks.next (tracks : h.Tracks s) (orderly : s.desk.signals.Orderly) (m : Move) :
    (h.next s m).Tracks (s.next m) := by
  have guided := Desk.guided_of_orderly orderly
  have allowed := s.allows_change m
  refine ⟨?_, ?_, ?_⟩
  · obtain ⟨gone, called, left, rest, advances⟩ := s.advances_next guided m
    have before := tracks.due
    rw [advances.before, listeners_append, advances.run] at before
    have behind : listeners rest = (h.pending.drop (s.runs m).length).map (·.listener) := by
      rw [List.map_drop, ← before, List.drop_left]
    rw [advances.after, listeners_append, listeners_append, advances.called, advances.quiet, behind,
      List.nil_append, ← List.map_append]
    rfl
  · refine ((all_next h s m).map Post.place).nodup_iff.mpr ?_
    rw [List.map_append, List.nodup_append]
    refine ⟨s.places_calls orderly m, tracks.once, ?_⟩
    intro place new other old same
    obtain ⟨p, mem, rfl⟩ := List.mem_map.mp new
    obtain ⟨q, mem', rfl⟩ := List.mem_map.mp old
    obtain ⟨aborted, gave⟩ := tracks.spent q mem'
    rcases Scene.calls_cases mem with ⟨manager, retires, holds⟩ | ⟨registers, -⟩
    · have token : p.token = q.token := congrArg Prod.fst same
      rw [retires] at allowed
      exact orderly.alive allowed (token ▸ aborted)
    · rw [registers] at allowed
      exact (Signals.gave_registered allowed).1 (same ▸ gave)
  · intro p mem
    rw [Scene.signals_next guided]
    rcases mem_next mem with ⟨manager, retires, holds⟩ | ⟨registers, aborted⟩ | old
    · exact ⟨(Signals.aborted_next allowed orderly p.token).mpr (.inr ⟨manager, retires⟩),
        (orderly.gave holds).next allowed⟩
    · refine ⟨(Signals.aborted_next allowed orderly p.token).mpr (.inl aborted), ?_⟩
      rw [registers] at allowed ⊢
      exact (Signals.gave_registered allowed).2
    · obtain ⟨aborted, gave⟩ := tracks.spent p old
      exact ⟨(Signals.aborted_next allowed orderly p.token).mpr (.inl aborted), gave.next allowed⟩

end Heard

/-! ## What a run has done -/

theorem filterMap_concat {α β : Type} (f : α → Option β) (l : List α) (a : α) :
    (l ++ [a]).filterMap f = l.filterMap f ++ (f a).toList := by
  rw [List.filterMap_append]
  cases found : f a <;> simp [found]

theorem registrations_concat (past : List (Scene × Move)) (s : Scene) (m : Move) :
    registrations (past ++ [(s, m)]) = registrations past ++ (s.change m).registered?.toList :=
  filterMap_concat ..

theorem retirements_append (a b : List (Scene × Move)) :
    retirements (a ++ b) = retirements a ++ retirements b :=
  List.filterMap_append

theorem retirements_concat (past : List (Scene × Move)) (s : Scene) (m : Move) :
    retirements (past ++ [(s, m)]) =
      retirements past ++ ((s.change m).retired?.map (·.2)).toList :=
  filterMap_concat ..

theorem installations_concat (manager : Nat) (past : List (Scene × Move)) (s : Scene) (m : Move) :
    installations manager (past ++ [(s, m)]) =
      installations manager past ++ (s.installs manager m).toList :=
  congrArg (manager :: ·) (filterMap_concat ..)

theorem heard_concat (past : List (Scene × Move)) (s : Scene) (m : Move) :
    heard (past ++ [(s, m)]) = (heard past).next s m :=
  List.foldl_append

theorem ran_concat (past : List (Scene × Move)) (s : Scene) (m : Move) :
    ran (past ++ [(s, m)]) = ran past ++ (heard past).pending.take (s.runs m).length := by
  rw [ran, heard_concat]
  rfl

theorem heard_append (a b : List (Scene × Move)) : heard (a ++ b) = (heard a).after b :=
  List.foldl_append

/-- A listener comes behind those that stand on its token. -/
theorem posts_next {s : Scene} (orderly : s.desk.signals.Orderly) (m : Move) (token : Nat) :
    ((s.next m).desk.posts token).Sublist
      (s.desk.posts token ++ (s.change m).registered?.toList) := by
  rw [Desk.posts, Desk.posts, Scene.signals_next (Desk.guided_of_orderly orderly)]
  exact Signals.posts_next orderly (s.allows_change m) token

/-- What a run has done, beside the tokens that it leads to. -/
structure Scene.Records (s : Scene) (past : List (Scene × Move)) : Prop where
  orderly : s.desk.signals.Orderly
  tracks : (heard past).Tracks s
  started : (ran past).map (·.listener) = past.flatMap fun entry => entry.1.runs entry.2
  keys : ((registrations past).map Post.place).Nodup
  known : ∀ p ∈ registrations past, s.desk.signals.Gave p.place
  standing : ∀ token, (s.desk.posts token).Sublist (registrations past)
  came : ∀ p ∈ (heard past).all, p ∈ registrations past
  aborted : ∀ i, s.desk.signals.Aborted i ↔ i ∈ retirements past
  retired : (retirements past).Nodup

theorem records_next {past : List (Scene × Move)} {s : Scene} (h : s.Records past) (m : Move) :
    (s.next m).Records (past ++ [(s, m)]) := by
  have signals := s.signals_next (Desk.guided_of_orderly h.orderly) m
  have allowed := s.allows_change m
  refine ⟨s.orderly_next h.orderly m, ?_, ?_, ?_, fun p mem => ?_, fun token => ?_,
    fun p mem => ?_, fun i => ?_, ?_⟩
  · rw [heard_concat]
    exact h.tracks.next h.orderly m
  · rw [ran_concat, List.map_append, List.flatMap_append, h.started, h.tracks.runs h.orderly,
      List.flatMap_singleton]
  · rw [registrations_concat, List.map_append, List.nodup_append]
    refine ⟨h.keys, ?_, ?_⟩
    · cases (s.change m).registered? <;> simp
    · intro place old other new same
      obtain ⟨p, mem, rfl⟩ := List.mem_map.mp old
      obtain ⟨q, mem', rfl⟩ := List.mem_map.mp new
      rw [Change.registered?_eq_some.mp (Option.mem_toList.mp mem')] at allowed
      exact (Signals.gave_registered allowed).1 (same ▸ h.known p mem)
  · rw [registrations_concat] at mem
    rw [signals]
    rcases List.mem_append.mp mem with old | new
    · exact (h.known p old).next allowed
    · have registers := Change.registered?_eq_some.mp (Option.mem_toList.mp new)
      rw [registers] at allowed ⊢
      exact (Signals.gave_registered allowed).2
  · rw [registrations_concat]
    exact (posts_next h.orderly m token).trans ((h.standing token).append (List.Sublist.refl _))
  · rw [heard_concat] at mem
    rw [registrations_concat]
    rcases Heard.mem_next mem with ⟨manager, -, holds⟩ | ⟨registers, -⟩ | old
    · have stands := (h.standing p.token).subset (Signals.mem_posts.mpr ⟨rfl, holds⟩)
      exact List.mem_append_left _ stands
    · simp [registers, Change.registered?]
    · exact List.mem_append_left _ (h.came p old)
  · rw [signals, Signals.aborted_next allowed h.orderly, h.aborted, retirements_concat,
      List.mem_append]
    refine or_congr_right ?_
    cases s.change m <;> simp [Change.retired?, eq_comm]
  · rw [retirements_concat, List.nodup_append]
    refine ⟨h.retired, ?_, ?_⟩
    · cases (s.change m).retired? <;> simp
    · rintro token old _ new rfl
      obtain ⟨⟨manager, _⟩, retires, rfl⟩ := Option.map_eq_some_iff.mp (Option.mem_toList.mp new)
      rw [Change.retired?_eq_some.mp retires] at allowed
      exact h.orderly.alive allowed ((h.aborted _).mpr old)

theorem managers_opened {managers k : Nat} {m : Manager} :
    (Desk.opened managers).managers[k]? = some m ↔ k < managers ∧ m = ⟨k, 1⟩ := by
  simp only [Desk.opened, List.getElem?_eq_some_iff, List.length_map, List.length_range,
    List.getElem_map, List.getElem_range]
  exact exists_prop.trans (and_congr_right fun _ => eq_comm)

theorem orderly_opened (managers : Nat) : (Scene.opened managers).desk.signals.Orderly where
  tokens t mem := by
    simp only [Scene.opened, Desk.opened, Desk.signals, List.map_replicate, List.mem_replicate] at mem
    rw [mem.2]
    exact Token.orderly_fresh 0
  current k m found := by
    obtain ⟨bound, rfl⟩ := managers_opened.mp found
    refine ⟨.fresh 0, ?_, rfl, Nat.zero_lt_one⟩
    simp [Scene.opened, Desk.opened, Desk.signals, bound, Token.alone, Token.fresh]
  apart j k m n found found' same := by
    obtain ⟨-, rfl⟩ := managers_opened.mp found
    obtain ⟨-, rfl⟩ := managers_opened.mp found'
    exact same

theorem records_opened (managers : Nat) : (Scene.opened managers).Records [] where
  orderly := orderly_opened managers
  tracks := ⟨rfl, .nil, nofun⟩
  started := rfl
  keys := .nil
  known := nofun
  standing token := by
    simp only [Scene.opened, Desk.opened, Desk.posts, Desk.signals, Signals.posts, List.map_replicate,
      List.getElem?_replicate]
    split <;> exact List.nil_sublist _
  came := nofun
  aborted i := by
    simp only [Scene.opened, Desk.opened, Desk.signals, Signals.Aborted, List.map_replicate,
      List.getElem?_replicate]
    split <;> simp [retirements, Token.alone]
  retired := .nil

theorem Scene.Records.after {past : List (Scene × Move)} {s : Scene} (h : s.Records past)
    (moves : List Move) : (s.after moves).Records (past ++ s.past moves) :=
  Scene.past_induction (P := fun past s => s.Records past) h (fun _ _ m h => records_next h m) moves

/-! ## Tokens of a manager -/

/-- The tokens that a manager had are there, each with a larger number than those before, and the last
one is the manager's. -/
structure Scene.Installed (s : Scene) (manager : Nat) (past : List (Scene × Move)) (m : Manager) :
    Prop where
  found : s.desk.managers[manager]? = some m
  last : (installations manager past).getLast? = some m.current
  below : ∀ i ∈ installations manager past,
    i < s.desk.tokens.length ∧ s.desk.generation i < m.nextGeneration
  rising : ((installations manager past).map s.desk.generation).Pairwise (· < ·)

namespace Scene

variable {s : Scene} {manager : Nat} {past : List (Scene × Move)} {m : Manager}

theorem generation_next (orderly : s.desk.signals.Orderly) (move : Move) {i : Nat}
    (bound : i < s.desk.tokens.length) : i < (s.next move).desk.tokens.length ∧
      (s.next move).desk.generation i = s.desk.generation i := by
  have there : s.desk.signals.tokens[i]? = some s.desk.tokens[i].alone := by
    simp [Desk.signals, bound]
  have kept := Signals.token_next (s.allows_change move) there
  rw [← s.signals_next (Desk.guided_of_orderly orderly)] at kept
  refine ⟨Desk.token_bound kept, ?_⟩
  rw [Desk.generation_eq kept, Signals.generation_on, Desk.generation_eq there]

/-- The token that an interrupt installs takes the number that its manager has ready. -/
theorem generation_installed (orderly : s.desk.signals.Orderly) {move : Move} {token : Nat}
    (retires : s.change move = .retired manager token)
    (found : s.desk.managers[manager]? = some m) :
    s.desk.tokens.length < (s.next move).desk.tokens.length ∧
      (s.next move).desk.generation s.desk.tokens.length = m.nextGeneration := by
  have allowed := s.allows_change move
  rw [retires] at allowed
  obtain ⟨n, found', rfl⟩ := allowed
  cases found.symm.trans found'
  have fresh := orderly.token_fresh found
  rw [← retires, ← s.signals_next (Desk.guided_of_orderly orderly)] at fresh
  rw [s.desk.length_signals] at fresh
  exact ⟨Desk.token_bound fresh, Desk.generation_eq fresh⟩

/-- The tokens that a manager had are the same after a move. -/
theorem Installed.older (h : s.Installed manager past m) (orderly : s.desk.signals.Orderly)
    (move : Move) :
    (∀ i ∈ installations manager past, i < (s.next move).desk.tokens.length ∧
      (s.next move).desk.generation i < m.nextGeneration) ∧
    ((installations manager past).map (s.next move).desk.generation).Pairwise (· < ·) := by
  have same : ∀ i ∈ installations manager past, i < (s.next move).desk.tokens.length ∧
      (s.next move).desk.generation i = s.desk.generation i :=
    fun i mem => generation_next orderly move (h.below i mem).1
  constructor
  · exact fun i mem => ⟨(same i mem).1, (same i mem).2 ▸ (h.below i mem).2⟩
  · rw [List.map_congr_left fun i mem => (same i mem).2]
    exact h.rising

theorem managers_next (orderly : s.desk.signals.Orderly) (move : Move) :
    (s.next move).desk.managers = (s.desk.signals.next (s.change move)).managers :=
  congrArg Signals.managers (s.signals_next (Desk.guided_of_orderly orderly) move)

theorem Installed.retire (h : s.Installed manager past m) (orderly : s.desk.signals.Orderly)
    {move : Move} {token : Nat} (retires : s.change move = .retired manager token) :
    (s.next move).Installed manager (past ++ [(s, move)])
      ⟨s.desk.tokens.length, m.nextGeneration + 1⟩ := by
  obtain ⟨below, rising⟩ := h.older orderly move
  obtain ⟨bound, generation⟩ := generation_installed orderly retires h.found
  have installs : s.installs manager move = some s.desk.tokens.length := by
    simp [installs, retires, Change.retired?]
  refine ⟨?_, ?_, ?_, ?_⟩
  · rw [managers_next orderly, retires, ← s.desk.length_signals]
    exact Signals.manager_retired (g := s.desk.signals) token h.found
  all_goals rw [installations_concat, installs]
  · exact List.getLast?_concat
  · intro i mem
    rcases List.mem_append.mp mem with old | new
    · exact ⟨(below i old).1, Nat.lt_succ_of_lt (below i old).2⟩
    · cases List.mem_singleton.mp new
      exact ⟨bound, Nat.lt_succ_of_le (Nat.le_of_eq generation)⟩
  · rw [List.map_append, List.pairwise_append]
    refine ⟨rising, List.pairwise_singleton .., ?_⟩
    rintro _ old _ new
    obtain ⟨i, mem, rfl⟩ := List.mem_map.mp old
    rw [List.mem_singleton.mp new, generation]
    exact (below i mem).2

theorem Installed.keep (h : s.Installed manager past m) (orderly : s.desk.signals.Orderly)
    {move : Move} (kept : ∀ token, s.change move ≠ .retired manager token) :
    (s.next move).Installed manager (past ++ [(s, move)]) m := by
  obtain ⟨below, rising⟩ := h.older orderly move
  have none : s.installs manager move = none := by
    unfold installs
    cases changes : s.change move with
    | nothing | removed | registered => rfl
    | retired k token => exact if_neg fun same => kept token (by rw [changes, same])
  have same : installations manager (past ++ [(s, move)]) = installations manager past := by
    rw [installations_concat, none]
    exact List.append_nil _
  refine ⟨?_, same ▸ h.last, same ▸ below, same ▸ rising⟩
  rw [managers_next orderly]
  exact Signals.manager_next (g := s.desk.signals) h.found kept

theorem Installed.next (h : s.Installed manager past m) (orderly : s.desk.signals.Orderly)
    (move : Move) : ∃ n, (s.next move).Installed manager (past ++ [(s, move)]) n := by
  by_cases retires : ∃ token, s.change move = .retired manager token
  · obtain ⟨token, retires⟩ := retires
    exact ⟨_, h.retire orderly retires⟩
  · exact ⟨m, h.keep orderly fun token changes => retires ⟨token, changes⟩⟩

theorem installed_opened {managers : Nat} (bound : manager < managers) :
    (opened managers).Installed manager [] ⟨manager, 1⟩ where
  found := managers_opened.mpr ⟨bound, rfl⟩
  last := rfl
  below i mem := by
    cases List.mem_singleton.mp mem
    simp [opened, Desk.opened, Desk.generation, bound]
  rising := List.pairwise_singleton ..

theorem installed_after {managers : Nat} (bound : manager < managers) (moves : List Move) :
    ∃ m, ((opened managers).after moves).Installed manager ((opened managers).past moves) m := by
  have both := past_induction
    (P := fun past s => s.desk.signals.Orderly ∧ ∃ m, s.Installed manager past m)
    ⟨orderly_opened managers, _, installed_opened bound⟩
    (fun _ _ move ⟨orderly, _, h⟩ => ⟨orderly_next orderly move, h.next orderly move⟩) moves
  exact both.2

end Scene

end ScriptSession
