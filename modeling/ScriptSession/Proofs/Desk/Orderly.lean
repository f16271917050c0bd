import ScriptSession.Proofs.Desk.Signals

/-!
# Managers guide their tokens

The current tokens of the managers are alive, and no two of them the same; keys rise along the listeners
of a token, and an aborted token has none (`Signals.Orderly`). Whatever is done to tokens and managers
keeps that (`Signals.Orderly.next`): a token that is aborted stays so (`Signals.aborted_next`), a key is
given once (`Signals.gave_registered`), and a listener stands until it is removed or its token is retired
(`Signals.Holds.next`, `Signals.holds_of_next`).
-/
namespace ScriptSession

namespace Change

def registered? : Change → Option Post
  | registered p => some p
  | nothing | removed .. | retired .. => none

def removed? : Change → Option (Nat × Nat)
  | removed token key => some (token, key)
  | nothing | registered _ | retired .. => none

/-- The token that is retired, with its manager. -/
def retired? : Change → Option (Nat × Nat)
  | retired manager token => some (manager, token)
  | nothing | registered _ | removed .. => none

/-- What becomes of a token. -/
def on (c : Change) (i : Nat) (t : Token) : Token :=
  match c with
  | nothing => t
  | removed token key => if token = i then t.without key else t
  | registered p => if p.token = i then t.receive p else t
  | retired _ token => if token = i then t.retire else t

theorem registered?_eq_some {c : Change} {p : Post} :
    c.registered? = some p ↔ c = registered p := by
  cases c <;> simp [registered?]

theorem retired?_eq_some {c : Change} {manager token : Nat} :
    c.retired? = some (manager, token) ↔ c = retired manager token := by
  cases c <;> simp [retired?]

end Change

/-- The keys of the listeners rise, all of them were given, and no listener stands on an aborted
token. -/
structure Token.Orderly (t : Token) : Prop where
  rising : (t.listeners.map (·.1)).Pairwise (· < ·)
  below : ∀ entry ∈ t.listeners, entry.1 < t.nextKey
  silent : t.aborted = true → t.listeners = []

namespace Token

variable {t : Token}

theorem Orderly.without (h : t.Orderly) (key : Nat) : (t.without key).Orderly where
  rising := h.rising.sublist (List.filter_sublist.map _)
  below entry mem := h.below entry (List.mem_filter.mp mem).1
  silent aborted := by rw [Token.without, h.silent aborted, List.filter_nil]

theorem Orderly.receive (h : t.Orderly) {p : Post} (next : p.key = t.nextKey) :
    (t.receive p).Orderly := by
  unfold Token.receive
  cases aborted : t.aborted with
  | true =>
    have silent := h.silent aborted
    refine ⟨?_, ?_, fun _ => ?_⟩ <;> simp [silent]
  | false =>
    simp only [Bool.false_eq_true, if_false]
    refine ⟨?_, fun entry mem => ?_, nofun⟩
    · rw [List.map_append, List.pairwise_append]
      refine ⟨h.rising, by simp, fun key old last new => ?_⟩
      obtain ⟨entry, mem, rfl⟩ := List.mem_map.mp old
      have new : last = t.nextKey := by simpa [next] using new
      exact new ▸ h.below entry mem
    · rcases List.mem_append.mp mem with old | new
      · exact Nat.lt_succ_of_lt (next ▸ h.below entry old)
      · rw [List.mem_singleton.mp new]
        exact Nat.lt_succ_self p.key

theorem orderly_retire (t : Token) : t.retire.Orderly := by
  refine ⟨?_, ?_, fun _ => ?_⟩ <;> simp [retire]

theorem orderly_fresh (generation : Nat) : (fresh generation).Orderly := by
  refine ⟨?_, ?_, fun _ => ?_⟩ <;> simp [fresh]

end Token

namespace Signals

variable {g : Signals} {c : Change} {i : Nat} {t : Token}

/-- A listener gets the next key of its token, and a manager retires its own token. -/
def Allows (g : Signals) : Change → Prop
  | .registered p => ∃ t, g.tokens[p.token]? = some t ∧ p.key = t.nextKey
  | .retired manager token => ∃ m, g.managers[manager]? = some m ∧ m.current = token
  | .nothing | .removed .. => True

/-- The current tokens of the managers are alive, and no two of them the same. -/
structure Orderly (g : Signals) : Prop where
  tokens : ∀ t ∈ g.tokens, t.Orderly
  current : ∀ (k : Nat) (m : Manager), g.managers[k]? = some m →
    ∃ t : Token, g.tokens[m.current]? = some t ∧ t.aborted = false ∧ t.generation < m.nextGeneration
  apart : ∀ (j k : Nat) (m n : Manager), g.managers[j]? = some m → g.managers[k]? = some n →
    m.current = n.current → j = k

theorem getElem?_modify_eq (g : Signals) (token : Nat) (f : Token → Token) (i : Nat) :
    (g.modify token f).tokens[i]? = (g.tokens[i]?).map fun t => if token = i then f t else t := by
  simp [modify, List.getElem?_modify]

theorem token_next (allowed : g.Allows c) (there : g.tokens[i]? = some t) :
    (g.next c).tokens[i]? = some (c.on i t) := by
  cases c with
  | nothing => exact there
  | removed token key | registered p =>
    rw [next, getElem?_modify_eq, there]
    rfl
  | retired manager token =>
    obtain ⟨m, found, -⟩ := allowed
    have bound := (List.getElem?_eq_some_iff.mp there).1
    simp only [next, found, List.getElem?_modify, List.getElem?_append_left bound, there]
    rfl

/-- Only a manager that retires its token makes a new one. -/
theorem token_of_next (allowed : g.Allows c) (there : (g.next c).tokens[i]? = some t) :
    (∃ u, g.tokens[i]? = some u ∧ t = c.on i u) ∨
    g.tokens.length = i ∧ ∃ manager token m, c = .retired manager token ∧
      g.managers[manager]? = some m ∧ t = c.on i (.fresh m.nextGeneration) := by
  cases found : g.tokens[i]? with
  | some u =>
    rw [token_next allowed found] at there
    cases there
    exact .inl ⟨u, rfl, rfl⟩
  | none =>
    refine .inr ?_
    have beyond : g.tokens.length ≤ i := List.getElem?_eq_none_iff.mp found
    cases c with
    | nothing =>
      rw [next, found] at there
      cases there
    | removed | registered =>
      rw [next, getElem?_modify_eq, found] at there
      cases there
    | retired manager token =>
      obtain ⟨m, manages, rfl⟩ := allowed
      simp only [next, manages] at there
      have bound := (List.getElem?_eq_some_iff.mp there).1
      rw [List.length_modify, List.length_append, List.length_singleton] at bound
      have here : g.tokens.length = i := Nat.le_antisymm beyond (Nat.le_of_lt_succ bound)
      subst here
      refine ⟨rfl, manager, m.current, m, rfl, manages, ?_⟩
      rw [List.getElem?_modify, List.getElem?_concat_length] at there
      exact (Option.some.inj there).symm

/-! ## What changes keep -/

theorem orderly_on (h : t.Orderly) (allowed : g.Allows c) (there : g.tokens[i]? = some t) :
    (c.on i t).Orderly := by
  cases c with
  | nothing => exact h
  | removed token key =>
    simp only [Change.on]
    split
    · exact h.without key
    · exact h
  | registered p =>
    simp only [Change.on]
    split
    · rename_i here
      subst here
      obtain ⟨u, found, key⟩ := allowed
      cases found.symm.trans there
      exact h.receive key
    · exact h
  | retired manager token =>
    simp only [Change.on]
    split
    · exact Token.orderly_retire t
    · exact h

theorem Orderly.current_lt (h : g.Orderly) {k : Nat} {m : Manager} (found : g.managers[k]? = some m) :
    m.current < g.tokens.length := by
  obtain ⟨t, there, -⟩ := h.current k m found
  exact (List.getElem?_eq_some_iff.mp there).1

/-- A token that is just made is not the one that is retired. -/
theorem Orderly.token_fresh (h : g.Orderly) {k : Nat} {m : Manager} (found : g.managers[k]? = some m) :
    (g.next (.retired k m.current)).tokens[g.tokens.length]? = some (.fresh m.nextGeneration) := by
  simp only [Signals.next, found]
  rw [List.getElem?_modify, List.getElem?_concat_length]
  exact congrArg some (if_neg (Nat.ne_of_lt (h.current_lt found)))

theorem generation_on (c : Change) (i : Nat) (t : Token) : (c.on i t).generation = t.generation := by
  cases c <;> simp only [Change.on] <;> split <;> rfl

theorem aborted_on (c : Change) (i : Nat) (t : Token) :
    (c.on i t).aborted = true ↔ t.aborted = true ∨ ∃ manager, c = .retired manager i := by
  cases c with
  | nothing => simp [Change.on]
  | removed | registered =>
    simp only [Change.on]
    split <;> simp [Token.without, Token.receive]
  | retired manager token =>
    simp only [Change.on]
    split
    · rename_i here
      simp [here, Token.retire]
    · rename_i other
      simp [other]

theorem nextKey_on (allowed : g.Allows c) (there : g.tokens[i]? = some t) :
    t.nextKey ≤ (c.on i t).nextKey := by
  cases c with
  | nothing => exact Nat.le_refl _
  | removed | retired =>
    simp only [Change.on]
    split <;> exact Nat.le_refl _
  | registered p =>
    simp only [Change.on]
    split
    · rename_i here
      subst here
      obtain ⟨u, found, key⟩ := allowed
      cases found.symm.trans there
      exact Nat.le_of_lt (Nat.lt_succ_of_le (Nat.le_of_eq key.symm))
    · exact Nat.le_refl _

/-- A manager is the same as before, or it has just retired its token. -/
theorem manager_of_next {k : Nat} {m : Manager} (allowed : g.Allows c)
    (there : (g.next c).managers[k]? = some m) :
    (g.managers[k]? = some m ∧ ∀ token, c ≠ .retired k token) ∨
    ∃ n : Manager, c = .retired k n.current ∧ g.managers[k]? = some n ∧
      m = ⟨g.tokens.length, n.nextGeneration + 1⟩ := by
  cases c with
  | nothing | removed | registered => exact .inl ⟨there, fun _ => nofun⟩
  | retired manager token =>
    obtain ⟨n, found, rfl⟩ := allowed
    simp only [next, found] at there
    by_cases same : manager = k
    · subst same
      have bound := (List.getElem?_eq_some_iff.mp found).1
      rw [List.getElem?_set_self bound] at there
      exact .inr ⟨n, rfl, found, (Option.some.inj there).symm⟩
    · rw [List.getElem?_set_ne same] at there
      refine .inl ⟨there, fun token eq => ?_⟩
      cases eq
      exact same rfl

theorem manager_next {k : Nat} {m : Manager} (there : g.managers[k]? = some m)
    (kept : ∀ token, c ≠ .retired k token) : (g.next c).managers[k]? = some m := by
  cases c with
  | nothing | removed | registered => exact there
  | retired manager token =>
    have other : manager ≠ k := fun same => kept token (by rw [same])
    unfold Signals.next
    dsimp only
    split
    · exact there
    · exact (List.getElem?_set_ne other).trans there

theorem manager_retired (token : Nat) {k : Nat} {m : Manager} (there : g.managers[k]? = some m) :
    (g.next (.retired k token)).managers[k]? = some ⟨g.tokens.length, m.nextGeneration + 1⟩ := by
  simp only [Signals.next, there]
  exact List.getElem?_set_self (List.getElem?_eq_some_iff.mp there).1

theorem Orderly.next (h : g.Orderly) (allowed : g.Allows c) : (g.next c).Orderly where
  tokens t mem := by
    obtain ⟨i, there⟩ := List.mem_iff_getElem?.mp mem
    rcases token_of_next allowed there with ⟨u, found, rfl⟩ | ⟨rfl, k, token, m, rfl, found, -⟩
    · exact orderly_on (h.tokens u (List.mem_of_getElem? found)) allowed found
    · obtain ⟨n, found', rfl⟩ := allowed
      cases found.symm.trans found'
      cases (h.token_fresh found).symm.trans there
      exact Token.orderly_fresh _
  current k m there := by
    rcases manager_of_next allowed there with ⟨found, other⟩ | ⟨n, rfl, found, rfl⟩
    · obtain ⟨t, current, alive, generation⟩ := h.current k m found
      refine ⟨c.on m.current t, token_next allowed current, ?_, generation_on c _ t ▸ generation⟩
      refine Bool.eq_false_iff.mpr fun aborted => ?_
      rcases (aborted_on c m.current t).mp aborted with already | ⟨manager, rfl⟩
      · exact Bool.false_ne_true (alive.symm.trans already)
      · obtain ⟨n, found', same⟩ := allowed
        cases h.apart manager k n m found' found same
        exact other _ rfl
    · exact ⟨.fresh n.nextGeneration, h.token_fresh found, rfl, Nat.lt_succ_self _⟩
  apart j k m n there there' same := by
    rcases manager_of_next allowed there with ⟨found, -⟩ | ⟨m', rfl, -, rfl⟩
    · rcases manager_of_next allowed there' with ⟨found', -⟩ | ⟨n', rfl, -, rfl⟩
      · exact h.apart j k m n found found' same
      · exact absurd same (Nat.ne_of_lt (h.current_lt found))
    · rcases manager_of_next allowed there' with ⟨found', -⟩ | ⟨n', retires, -, rfl⟩
      · exact absurd same.symm (Nat.ne_of_lt (h.current_lt found'))
      · exact (Change.retired.inj retires).1

/-! ## Tokens and keys -/

def Aborted (g : Signals) (i : Nat) : Prop := ∃ t, g.tokens[i]? = some t ∧ t.aborted = true

/-- The token gave the key to a listener. -/
def Gave (g : Signals) (place : Nat × Nat) : Prop :=
  ∃ t, g.tokens[place.1]? = some t ∧ place.2 < t.nextKey

/-- The listener stands on its token. -/
def Holds (g : Signals) (p : Post) : Prop :=
  ∃ t, g.tokens[p.token]? = some t ∧ (p.key, p.listener) ∈ t.listeners

theorem Orderly.alive (h : g.Orderly) {manager token : Nat} (allowed : g.Allows (.retired manager token)) :
    ¬ g.Aborted token := by
  rintro ⟨t, there, aborted⟩
  obtain ⟨m, found, rfl⟩ := allowed
  obtain ⟨u, current, alive, -⟩ := h.current manager m found
  cases there.symm.trans current
  exact Bool.false_ne_true (alive.symm.trans aborted)

theorem aborted_next (allowed : g.Allows c) (h : g.Orderly) (i : Nat) :
    (g.next c).Aborted i ↔ g.Aborted i ∨ ∃ manager, c = .retired manager i := by
  constructor
  · rintro ⟨t, there, aborted⟩
    rcases token_of_next allowed there with ⟨u, found, rfl⟩ | ⟨rfl, k, token, m, rfl, found, -⟩
    · exact ((aborted_on c i u).mp aborted).imp (fun already => ⟨u, found, already⟩) id
    · obtain ⟨n, found', rfl⟩ := allowed
      cases found.symm.trans found'
      cases (h.token_fresh found).symm.trans there
      cases aborted
  · rintro (⟨t, there, aborted⟩ | ⟨manager, rfl⟩)
    · exact ⟨_, token_next allowed there, (aborted_on c i t).mpr (.inl aborted)⟩
    · obtain ⟨m, found, rfl⟩ := id allowed
      obtain ⟨t, there, -⟩ := h.current manager m found
      exact ⟨_, token_next allowed there, (aborted_on _ m.current t).mpr (.inr ⟨manager, rfl⟩)⟩

theorem Gave.next {place : Nat × Nat} (gave : g.Gave place) (allowed : g.Allows c) :
    (g.next c).Gave place := by
  obtain ⟨t, there, below⟩ := gave
  exact ⟨_, token_next allowed there, Nat.lt_of_lt_of_le below (nextKey_on allowed there)⟩

/-- A listener that is registered gets a key that none had before. -/
theorem gave_registered {p : Post} (allowed : g.Allows (.registered p)) :
    ¬ g.Gave p.place ∧ (g.next (.registered p)).Gave p.place := by
  obtain ⟨t, there, key⟩ := id allowed
  constructor
  · rintro ⟨u, found, below⟩
    cases there.symm.trans found
    exact Nat.lt_irrefl _ (key ▸ below)
  · refine ⟨_, token_next allowed there, ?_⟩
    simp [Change.on, Token.receive, Post.place]

theorem Orderly.gave (h : g.Orderly) {p : Post} (holds : g.Holds p) : g.Gave p.place := by
  obtain ⟨t, there, mem⟩ := holds
  exact ⟨t, there, (h.tokens t (List.mem_of_getElem? there)).below _ mem⟩

/-- A listener stands until it is removed or its token is retired. -/
theorem Holds.next {p : Post} (holds : g.Holds p) (allowed : g.Allows c)
    (kept : c.removed? ≠ some p.place) (alive : ∀ manager, c ≠ .retired manager p.token) :
    (g.next c).Holds p := by
  obtain ⟨t, there, mem⟩ := holds
  refine ⟨_, token_next allowed there, ?_⟩
  cases c with
  | nothing => exact mem
  | removed token key =>
    simp only [Change.on]
    split
    · rename_i here
      subst here
      refine List.mem_filter.mpr ⟨mem, ?_⟩
      have other : key ≠ p.key := fun same => kept (by rw [same]; rfl)
      simpa using Ne.symm other
    · exact mem
  | registered q =>
    simp only [Change.on]
    split
    · unfold Token.receive
      dsimp only
      split
      · exact mem
      · exact List.mem_append_left _ mem
    · exact mem
  | retired manager token =>
    simp only [Change.on]
    split
    · rename_i here
      subst here
      exact absurd rfl (alive manager)
    · exact mem

/-- A listener that comes to a token that is not aborted stands there. -/
theorem holds_registered {p : Post} (allowed : g.Allows (.registered p)) (alive : ¬ g.Aborted p.token) :
    (g.next (.registered p)).Holds p := by
  obtain ⟨t, there, -⟩ := id allowed
  have alive : t.aborted = false := Bool.eq_false_iff.mpr fun aborted => alive ⟨t, there, aborted⟩
  refine ⟨_, token_next allowed there, ?_⟩
  simp [Change.on, Token.receive, alive]

/-- A listener that a change leaves on a token stood there before, or it is the one that comes. -/
theorem listener_of_on {entry : Nat × Listener} (mem : entry ∈ (c.on i t).listeners) :
    entry ∈ t.listeners ∧ c.removed? ≠ some (i, entry.1) ∨
    c = .registered ⟨i, entry.1, entry.2⟩ ∧ t.aborted = false := by
  cases c with
  | nothing => exact .inl ⟨mem, nofun⟩
  | removed token key =>
    simp only [Change.on] at mem
    split at mem
    · obtain ⟨mem, other⟩ := List.mem_filter.mp mem
      refine .inl ⟨mem, fun same => ?_⟩
      have same : (token, key) = (i, entry.1) := Option.some.inj same
      simp [(Prod.mk.inj same).2] at other
    · rename_i elsewhere
      exact .inl ⟨mem, fun same => elsewhere (congrArg Prod.fst (Option.some.inj same))⟩
  | registered p =>
    simp only [Change.on] at mem
    split at mem
    · rename_i here
      unfold Token.receive at mem
      cases aborted : t.aborted with
      | true =>
        rw [aborted] at mem
        exact .inl ⟨mem, nofun⟩
      | false =>
        rw [aborted] at mem
        rcases List.mem_append.mp mem with old | new
        · exact .inl ⟨old, nofun⟩
        · cases List.mem_singleton.mp new
          exact .inr ⟨by rw [← here], rfl⟩
    · exact .inl ⟨mem, nofun⟩
  | retired manager token =>
    simp only [Change.on] at mem
    split at mem
    · cases mem
    · exact .inl ⟨mem, nofun⟩

/-- A listener stands if it stood before, or if it comes to a token that is not aborted. -/
theorem holds_of_next (h : g.Orderly) {p : Post} (allowed : g.Allows c) (holds : (g.next c).Holds p) :
    g.Holds p ∧ c.removed? ≠ some p.place ∨ c = .registered p ∧ ¬ g.Aborted p.token := by
  obtain ⟨t, there, mem⟩ := holds
  rcases token_of_next allowed there with ⟨u, found, rfl⟩ | ⟨here, k, token, m, rfl, manages, -⟩
  · rcases listener_of_on mem with ⟨stood, kept⟩ | ⟨registers, alive⟩
    · exact .inl ⟨⟨u, found, stood⟩, kept⟩
    · refine .inr ⟨registers, ?_⟩
      rintro ⟨u', found', aborted⟩
      cases found.symm.trans found'
      exact Bool.false_ne_true (alive.symm.trans aborted)
  · obtain ⟨n, found, rfl⟩ := allowed
    cases manages.symm.trans found
    rw [← here, h.token_fresh found] at there
    cases there
    cases mem

/-! ## Listeners on a token -/

theorem posts_of_some (there : g.tokens[i]? = some t) :
    g.posts i = t.listeners.map fun entry => ⟨i, entry.1, entry.2⟩ := by
  rw [posts, there]
  exact List.flatMap_singleton ..

theorem mem_posts {p : Post} : p ∈ g.posts i ↔ p.token = i ∧ g.Holds p := by
  simp only [posts, Holds, List.mem_flatMap, Option.mem_toList, List.mem_map]
  constructor
  · rintro ⟨t, there, entry, mem, rfl⟩
    exact ⟨rfl, t, there, mem⟩
  · rintro ⟨rfl, t, there, mem⟩
    exact ⟨t, there, _, mem, rfl⟩

theorem Orderly.places (h : g.Orderly) (i : Nat) : ((g.posts i).map Post.place).Nodup := by
  cases there : g.tokens[i]? with
  | none =>
    rw [posts, there]
    exact .nil
  | some t =>
    have rising := (h.tokens t (List.mem_of_getElem? there)).rising
    have places : (g.posts i).map Post.place = (t.listeners.map (·.1)).map fun key => (i, key) := by
      simp [posts_of_some there, Post.place, Function.comp_def]
    rw [places]
    exact (rising.imp Nat.ne_of_lt).map _ fun _ _ other same => other (congrArg Prod.snd same)

/-- A listener comes behind those that stand on its token. -/
theorem posts_next (h : g.Orderly) (allowed : g.Allows c) (i : Nat) :
    ((g.next c).posts i).Sublist (g.posts i ++ c.registered?.toList) := by
  cases there : (g.next c).tokens[i]? with
  | none =>
    rw [posts, there]
    exact List.nil_sublist _
  | some t =>
    rw [posts_of_some there]
    rcases token_of_next allowed there with ⟨u, found, rfl⟩ | ⟨here, k, token, m, rfl, manages, -⟩
    · rw [posts_of_some found]
      cases c with
      | nothing => exact List.sublist_append_left ..
      | removed token key =>
        simp only [Change.on]
        split
        · exact (List.filter_sublist.map _).trans (List.sublist_append_left ..)
        · exact List.sublist_append_left ..
      | registered p =>
        simp only [Change.on]
        split
        · rename_i here
          subst here
          unfold Token.receive
          dsimp only
          split
          · exact List.sublist_append_left ..
          · rw [List.map_append]
            exact List.Sublist.refl _
        · exact List.sublist_append_left ..
      | retired manager token =>
        simp only [Change.on]
        split
        · exact List.nil_sublist _
        · exact List.sublist_append_left ..
    · obtain ⟨n, found, rfl⟩ := allowed
      cases manages.symm.trans found
      rw [← here, h.token_fresh found] at there
      cases there
      exact List.nil_sublist _

end Signals

/-! ## Scenes -/

namespace Desk

variable {d : Desk}

theorem isAborted_iff (d : Desk) (i : Nat) : d.isAborted i = true ↔ d.signals.Aborted i := by
  simp only [isAborted, Signals.Aborted, signals, List.getElem?_map]
  cases d.tokens[i]? <;> simp [Token.alone]

theorem length_signals (d : Desk) : d.signals.tokens.length = d.tokens.length :=
  List.length_map ..

theorem generation_eq {i : Nat} {t : Token} (there : d.signals.tokens[i]? = some t) :
    d.generation i = t.generation := by
  simp only [signals, List.getElem?_map, Option.map_eq_some_iff] at there
  obtain ⟨u, found, rfl⟩ := there
  simp [generation, found, Token.alone]

theorem token_bound {i : Nat} {t : Token} (there : d.signals.tokens[i]? = some t) :
    i < d.tokens.length :=
  d.length_signals ▸ (List.getElem?_eq_some_iff.mp there).1

theorem currentToken_of {manager : Nat} {m : Manager} (found : d.managers[manager]? = some m) :
    d.currentToken manager = m.current := by
  rw [currentToken, found]
  rfl

theorem current_alive (h : d.signals.Orderly) {manager : Nat} {m : Manager}
    (found : d.managers[manager]? = some m) : d.isAborted (d.currentToken manager) = false := by
  rw [currentToken_of found, Bool.eq_false_iff, Ne, isAborted_iff]
  have allowed : d.signals.Allows (.retired manager m.current) := ⟨m, found, rfl⟩
  exact h.alive allowed

theorem guided_of_orderly (h : d.signals.Orderly) : d.Guided := by
  intro m mem
  obtain ⟨k, found⟩ := List.mem_iff_getElem?.mp mem
  obtain ⟨t, there, alive, -⟩ := h.current k m found
  simp only [signals, List.getElem?_map, Option.map_eq_some_iff] at there
  obtain ⟨u, there, rfl⟩ := there
  exact ⟨u, there, alive⟩

theorem allows_registers (d : Desk) (token : Nat) (listener : Listener) :
    d.signals.Allows (d.registers token listener) := by
  unfold registers
  split
  · rename_i t found
    exact ⟨t.alone, by simp [signals, found], rfl⟩
  · trivial

theorem allows_retires (d : Desk) (manager : Nat) : d.signals.Allows (d.retires manager) := by
  unfold retires
  split
  · rename_i m found
    exact ⟨m, found, rfl⟩
  · trivial

theorem allows_dropped (g : Signals) (r : PendingRequest) : g.Allows r.dropped := by
  unfold PendingRequest.dropped
  split <;> trivial

theorem allows_dismisses (d : Desk) : d.signals.Allows d.dismisses := by
  unfold dismisses
  split
  · split
    · exact allows_dropped _ _
    · trivial
  · trivial

theorem allows_performs (d : Desk) (act : Act) : d.signals.Allows (d.performs act) := by
  cases act with
  | report | note => trivial
  | answer => exact allows_dismisses d
  | interrupt manager => exact allows_retires d manager
  | listen token label acts => exact allows_registers d token _

end Desk

namespace Scene

variable {s : Scene}

theorem allows_change (s : Scene) (m : Move) : s.desk.signals.Allows (s.change m) := by
  cases m with
  | interrupt manager => exact Desk.allows_retires _ manager
  | ask | wait | unlisten => trivial
  | poll k =>
    simp only [change, Desk.polls]
    split
    · split
      · trivial
      · exact Desk.allows_registers ..
    · trivial
  | drop k =>
    simp only [change, Desk.drops, Desk.withdraws]
    split
    · split
      · exact Desk.allows_dropped _ _
      · trivial
    · trivial
  | answer text => exact Desk.allows_dismisses _
  | listen token label acts => exact Desk.allows_registers ..
  | errand =>
    unfold change
    dsimp only
    split
    · exact Desk.allows_performs _ _
    · trivial

theorem orderly_next (h : s.desk.signals.Orderly) (m : Move) :
    (s.next m).desk.signals.Orderly := by
  rw [signals_next (Desk.guided_of_orderly h)]
  exact h.next (allows_change s m)

end Scene

end ScriptSession
