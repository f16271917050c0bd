import Mathlib.Data.List.Nodup
import ScriptSession.Proofs.Desk.Frames

/-!
# Guards of the queue

* `Front.Lined`: what is shown, the active request and the head of the queue agree, and the queue
  stands in the order of its numbers.
* `Desk.Guarded`: for each queued request a listener stands on its own token, or the errand of that
  listener is still due.
* `Desk.Sound`: both together, and a hidden head waits for an errand that will take it away.

Every call at the desk keeps `Sound`; `due` are the errands that are still to be run around it.
-/
namespace ScriptSession

structure Front.Lined (f : Front) : Prop where
  agrees : f.Agrees
  ordered : (f.queue.map (·.id)).Pairwise (· < ·)
  below : ∀ r ∈ f.queue, r.id < f.nextRequest

/-- Keys of listeners are given once. -/
structure Token.Keyed (t : Token) : Prop where
  distinct : (t.listeners.map (·.1)).Nodup
  below : ∀ entry ∈ t.listeners, entry.1 < t.nextKey

namespace Desk

/-- The listener recorded for a request stands on the request's own token. -/
def Registered (d : Desk) (r : PendingRequest) : Prop :=
  ∃ t key, d.tokens[r.token]? = some t ∧ r.listener = some key ∧ (key, .reject r.id) ∈ t.listeners

/-- An abort cannot miss the request: its listener stands there, or has become an errand. -/
structure Guarded (d : Desk) (due : List Errand) (r : PendingRequest) : Prop where
  exist : r.token < d.tokens.length
  registered : d.isAborted r.token = false → d.Registered r
  doomed : d.isAborted r.token = true → .run (.reject r.id) ∈ due

structure Sound (d : Desk) (due : List Errand) : Prop where
  lined : d.front.Lined
  keyed : ∀ t ∈ d.tokens, t.Keyed
  guarded : ∀ r ∈ d.queue, d.Guarded due r
  /-- Only a head whose token is aborted stays hidden. -/
  moving : d.active = none → ∀ head rest, d.queue = head :: rest → d.isAborted head.token = true

end Desk

/-! ## The front -/

namespace Front.Lined

theorem distinct {f : Front} (h : f.Lined) {a b : PendingRequest} (ha : a ∈ f.queue)
    (hb : b ∈ f.queue) (same : a.id = b.id) : a = b := by
  have nodup : (f.queue.map (·.id)).Nodup := h.ordered.imp fun lt => Nat.ne_of_lt lt
  exact List.inj_on_of_nodup_map nodup ha hb same

/-- With a request taken out, no other one has its number. -/
theorem ne_of_mem_eraseP {f : Front} (h : f.Lined) {id : Nat} {r : PendingRequest}
    (mem : r ∈ f.queue.eraseP (·.id == id)) : r.id ≠ id := by
  have nodup : f.queue.Nodup := List.Nodup.of_map _ (h.ordered.imp fun lt => Nat.ne_of_lt lt)
  intro same
  cases found : f.queue.find? (·.id == id) with
  | none =>
    have := List.find?_eq_none.mp found r (List.mem_of_mem_eraseP mem)
    simp [same] at this
  | some first =>
    obtain ⟨firstId, before, after, split, absent⟩ := List.find?_eq_some_iff_append.mp found
    have eq : first = r := h.distinct (by simp [split]) (List.mem_of_mem_eraseP mem)
      (by rw [same]; simpa using firstId)
    rw [split, List.eraseP_append_right _ (by simpa using absent),
      List.eraseP_cons_of_pos (by simpa using firstId), ← eq] at mem
    rw [split, List.nodup_append, List.nodup_cons] at nodup
    rcases List.mem_append.mp mem with earlier | later
    · exact nodup.2.2 first earlier first (by simp) rfl
    · exact nodup.2.1.1 later

end Front.Lined

namespace Desk

theorem lined_without {d : Desk} (h : d.front.Lined) (id : Nat) : (d.without id).Lined where
  ordered := h.ordered.sublist (List.eraseP_sublist.map _)
  below r mem := h.below r (List.mem_of_mem_eraseP mem)
  agrees := by
    rcases h.agrees with ⟨active, visible⟩ | ⟨head, rest, queue, active, visible⟩
    · refine .inl ⟨?_, ?_⟩ <;> simp_all [without, front]
    · by_cases same : head.id = id
      · refine .inl ⟨?_, ?_⟩ <;> simp_all [without, front]
      · refine .inr ⟨head, rest.eraseP (·.id == id), ?_⟩
        simp_all [without, front]

theorem lined_showHead {d : Desk} (h : d.front.Lined) : d.showHead.front.Lined := by
  unfold showHead
  split
  · rename_i head rest active queue
    split
    · exact h
    · exact ⟨.inr ⟨head, rest, queue, rfl, rfl⟩, h.ordered, h.below⟩
  · exact h

theorem moving_showHead (d : Desk) (hidden : d.showHead.active = none) :
    ∀ head rest, d.showHead.queue = head :: rest → d.showHead.isAborted head.token = true := by
  intro head rest queue
  rw [queue_showHead] at queue
  rw [isAborted_congr (tokens_showHead d)]
  unfold showHead at hidden
  split at hidden
  · rename_i first _ _ queue'
    split at hidden
    · rename_i doomed
      rw [queue] at queue'
      cases queue'
      exact doomed
    · cases hidden
  · rename_i other
    exact absurd queue (other head rest hidden)

/-! ## Guards -/

/-- A guard needs only what its own token keeps of it. -/
theorem Guarded.transfer {d e : Desk} {due due' : List Errand} {r : PendingRequest}
    (h : d.Guarded due r)
    (kept : ∀ t, d.tokens[r.token]? = some t → ∃ t', e.tokens[r.token]? = some t' ∧
      t'.aborted = t.aborted ∧ (t.aborted = false → ∀ key, r.listener = some key →
        (key, .reject r.id) ∈ t.listeners → (key, .reject r.id) ∈ t'.listeners))
    (errand : .run (.reject r.id) ∈ due → .run (.reject r.id) ∈ due') : e.Guarded due' r := by
  have exist := h.exist
  have found : d.tokens[r.token]? = some d.tokens[r.token] := List.getElem?_eq_getElem exist
  obtain ⟨t', there, aborted, stays⟩ := kept _ found
  have same : e.isAborted r.token = d.isAborted r.token := by
    rw [isAborted_eq there, isAborted_eq found, aborted]
  refine ⟨(List.getElem?_eq_some_iff.mp there).1, ?_, fun doomed => errand (h.doomed (same ▸ doomed))⟩
  intro alive
  rw [same] at alive
  obtain ⟨t, key, ht, hkey, mem⟩ := h.registered alive
  rw [isAborted_eq ht] at alive
  rw [found, Option.some.injEq] at ht
  subst ht
  exact ⟨t', key, there, hkey, stays alive key hkey mem⟩

theorem Guarded.congr {d e : Desk} {due due' : List Errand} {r : PendingRequest}
    (h : d.Guarded due r) (tokens : e.tokens = d.tokens)
    (errand : .run (.reject r.id) ∈ due → .run (.reject r.id) ∈ due') : e.Guarded due' r :=
  h.transfer (fun t ht => ⟨t, tokens ▸ ht, rfl, fun _ _ _ mem => mem⟩) errand

/-- A change of one token keeps the guards of the requests that keep their listeners there. -/
theorem Guarded.modifyToken {d : Desk} {due : List Errand} {r : PendingRequest}
    (h : d.Guarded due r) {token : Nat} {f : Token → Token}
    (aborted : ∀ t, d.tokens[token]? = some t → (f t).aborted = t.aborted)
    (kept : ∀ t key, token = r.token → d.tokens[token]? = some t → t.aborted = false →
      r.listener = some key → (key, .reject r.id) ∈ t.listeners →
      (key, .reject r.id) ∈ (f t).listeners) :
    (d.modifyToken token f).Guarded due r := by
  refine h.transfer (fun t ht => ?_) id
  rw [tokens_modifyToken]
  by_cases same : token = r.token
  · rw [← same] at ht ⊢
    refine ⟨f t, by simp [ht], aborted t ht, fun alive key hkey mem => ?_⟩
    exact kept t key same ht alive hkey mem
  · exact ⟨t, by simpa [same] using ht, rfl, fun _ _ _ mem => mem⟩

theorem keyed_modifyToken {d : Desk} (h : ∀ t ∈ d.tokens, t.Keyed) (token : Nat)
    (f : Token → Token) (hf : ∀ t, d.tokens[token]? = some t → t.Keyed → (f t).Keyed) :
    ∀ t ∈ (d.modifyToken token f).tokens, t.Keyed := by
  intro t mem
  obtain ⟨i, found⟩ := List.mem_iff_getElem?.mp mem
  rw [tokens_modifyToken] at found
  split at found
  · rename_i same
    obtain ⟨old, there, rfl⟩ := Option.map_eq_some_iff.mp found
    exact hf old (same ▸ there) (h old (List.mem_of_getElem? there))
  · exact h t (List.mem_of_getElem? found)

theorem keyed_filter {t : Token} (h : t.Keyed) (key : Nat) :
    Token.Keyed { t with listeners := t.listeners.filter (·.1 != key) } where
  distinct := h.distinct.sublist (List.filter_sublist.map _)
  below entry mem := h.below entry (List.mem_filter.mp mem).1

theorem keyed_append {t : Token} (h : t.Keyed) (listener : Listener) :
    Token.Keyed { t with
      nextKey := t.nextKey + 1, listeners := t.listeners ++ [(t.nextKey, listener)] } where
  distinct := by
    rw [List.map_append, List.nodup_append]
    refine ⟨h.distinct, by simp, ?_⟩
    intro key old other new
    obtain ⟨entry, mem, rfl⟩ := List.mem_map.mp old
    have := h.below entry mem
    simp at new
    omega
  below entry mem := by
    rcases List.mem_append.mp mem with old | new
    · exact Nat.lt_succ_of_lt (h.below entry old)
    · simp only [List.mem_singleton] at new
      simp [new]

/-! ## Calls -/

theorem Sound.congr {d e : Desk} {due due' : List Errand} (h : d.Sound due)
    (front : e.front = d.front) (tokens : e.tokens = d.tokens)
    (errands : ∀ id, .run (.reject id) ∈ due → .run (.reject id) ∈ due') : e.Sound due' := by
  have queue : e.queue = d.queue := congrArg Front.queue front
  have active : e.active = d.active := congrArg Front.active front
  refine ⟨front ▸ h.lined, tokens ▸ h.keyed, ?_, ?_⟩
  · intro r mem
    exact (h.guarded r (queue ▸ mem)).congr tokens (errands r.id)
  · intro hidden head rest first
    rw [isAborted_congr tokens]
    exact h.moving (active ▸ hidden) head rest (queue ▸ first)

theorem Sound.due {d : Desk} {due due' : List Errand} (h : d.Sound due)
    (errands : ∀ id, .run (.reject id) ∈ due → .run (.reject id) ∈ due') : d.Sound due' :=
  h.congr rfl rfl errands

theorem sound_showHead {d : Desk} {due : List Errand} (lined : d.front.Lined)
    (keyed : ∀ t ∈ d.tokens, t.Keyed) (guarded : ∀ r ∈ d.front.queue, d.Guarded due r) :
    d.showHead.Sound due where
  lined := lined_showHead lined
  keyed := tokens_showHead d ▸ keyed
  guarded r mem := (guarded r (show r ∈ d.queue from queue_showHead d ▸ mem)).congr (tokens_showHead d) id
  moving := moving_showHead d

theorem keyed_dropListener {d : Desk} (h : ∀ t ∈ d.tokens, t.Keyed) (r : PendingRequest) :
    ∀ t ∈ (d.dropListener r).tokens, t.Keyed := by
  unfold dropListener
  split
  · exact keyed_modifyToken h _ _ fun _ _ keyed => keyed_filter keyed _
  · exact h

/-- Dropping the listener of one request leaves the listeners of the others. -/
theorem Sound.guarded_dropListener {d : Desk} {due : List Errand} (h : d.Sound due)
    {r other : PendingRequest} (mem : r ∈ d.queue) (mem' : other ∈ d.queue)
    (ne : other.id ≠ r.id) : (d.dropListener r).Guarded due other := by
  unfold dropListener
  split
  · rename_i key hkey
    refine (h.guarded other mem').modifyToken (fun _ _ => rfl) ?_
    intro t key' same ht alive _ there
    obtain ⟨t', key'', ht', hkey', there'⟩ :=
      (h.guarded r mem).registered ((isAborted_eq ht).trans alive)
    rw [ht, Option.some.injEq] at ht'
    rw [hkey, Option.some.injEq] at hkey'
    subst ht' hkey'
    refine List.mem_filter.mpr ⟨there, ?_⟩
    have keys := (h.keyed t (List.mem_of_getElem? ht)).distinct
    simp only [bne_iff_ne, ne_eq]
    intro eq
    have entry := List.inj_on_of_nodup_map keys there there' eq
    simp only [Prod.mk.injEq, Listener.reject.injEq] at entry
    exact ne entry.2
  · exact h.guarded other mem'

theorem sound_reject {d : Desk} {due : List Errand} {id : Nat}
    (h : d.Sound (.run (.reject id) :: due)) : (d.reject id).Sound due := by
  have errand : ∀ r : PendingRequest, r.id ≠ id →
      .run (.reject r.id) ∈ Errand.run (.reject id) :: due → .run (.reject r.id) ∈ due := by
    intro r ne mem
    simpa [ne] using mem
  unfold reject
  split
  · rename_i absent
    refine ⟨h.lined, h.keyed, fun r mem => ?_, h.moving⟩
    exact (h.guarded r mem).congr rfl (errand r (take_eq_none absent r mem))
  · rename_i r rest taken
    have front := front_hide_of_take taken (front_settle rest r .cancelled)
    have tokens : ((rest.settle r .cancelled).hide (d.active = some id)).tokens = d.tokens := by
      rw [tokens_hide, tokens_settle, tokens_take taken]
    apply sound_showHead (front ▸ lined_without h.lined id) (tokens ▸ h.keyed)
    intro other mem
    rw [front] at mem
    exact (h.guarded other (List.mem_of_mem_eraseP mem)).congr tokens
      (errand other (h.lined.ne_of_mem_eraseP mem))

theorem sound_withdraw {d : Desk} {due : List Errand} (h : d.Sound due) (id : Nat) :
    (d.withdraw id).Sound due := by
  unfold withdraw
  split
  · exact h
  · rename_i r rest taken
    obtain ⟨mem, rfl, -⟩ := take_eq_some taken
    have front := front_hide_of_take taken (front_dropListener rest r)
    have tokens : ((rest.dropListener r).hide (d.active = some r.id)).tokens =
        (d.dropListener r).tokens := by
      rw [tokens_hide, tokens_dropListener_congr (tokens_take taken)]
    refine sound_showHead (front ▸ lined_without h.lined r.id)
      (tokens ▸ keyed_dropListener h.keyed r) ?_
    intro other mem'
    rw [front] at mem'
    exact (h.guarded_dropListener mem (List.mem_of_mem_eraseP mem')
      (h.lined.ne_of_mem_eraseP mem')).congr tokens id

theorem sound_answer {d : Desk} {due : List Errand} (h : d.Sound due) (text : String) :
    (d.answer text).2.Sound due := by
  rcases answer_cases h.lined.agrees text with ⟨-, -, refused⟩ |
    ⟨r, rest, queue, active, -, accepted⟩
  · rw [refused]
    exact h
  · have front := front_served queue active text
    have tokens := tokens_served d r rest text
    rw [accepted]
    refine sound_showHead (front ▸ lined_without h.lined r.id)
      (tokens ▸ keyed_dropListener h.keyed r) ?_
    intro other mem
    rw [front] at mem
    exact (h.guarded_dropListener (by simp [queue]) (List.mem_of_mem_eraseP mem)
      (h.lined.ne_of_mem_eraseP mem)).congr tokens id

/-- A change of one token that takes no request's listener away. -/
theorem Sound.modifyToken {d : Desk} {due : List Errand} (h : d.Sound due) {token : Nat}
    {f : Token → Token}
    (aborted : ∀ t, d.tokens[token]? = some t → (f t).aborted = t.aborted)
    (keyed : ∀ t, d.tokens[token]? = some t → t.Keyed → (f t).Keyed)
    (kept : ∀ t, d.tokens[token]? = some t → ∀ key request,
      (key, .reject request) ∈ t.listeners → (key, .reject request) ∈ (f t).listeners) :
    (d.modifyToken token f).Sound due where
  lined := h.lined
  keyed := keyed_modifyToken h.keyed token f keyed
  guarded r mem := (h.guarded r mem).modifyToken aborted
    fun t key _ ht _ _ there => kept t ht key r.id there
  moving hidden head rest queue := by
    have doomed := h.moving hidden head rest queue
    rw [isAborted, tokens_modifyToken]
    split
    · rename_i same
      subst same
      cases ht : d.tokens[head.token]? with
      | none => simp [isAborted, ht] at doomed
      | some t => simpa [isAborted, ht, aborted t ht] using doomed
    · exact doomed

theorem sound_removeListener {d : Desk} {due : List Errand} (h : d.Sound due) {token key : Nat}
    (own : ∀ t, d.tokens[token]? = some t → ∀ request, (key, .reject request) ∉ t.listeners) :
    (d.removeListener token key).Sound due := by
  refine h.modifyToken (fun _ _ => rfl) (fun _ _ keyed => keyed_filter keyed key) ?_
  intro t ht key' request mem
  refine List.mem_filter.mpr ⟨mem, ?_⟩
  simp only [bne_iff_ne, ne_eq]
  rintro rfl
  exact own t ht request mem

theorem sound_register {d : Desk} {due : List Errand} (h : d.Sound due) (token : Nat)
    (label : String) (acts : List Act) :
    (d.register token (.custom label acts)).2.2.Sound due := by
  unfold register
  split
  · exact h
  · rename_i t ht
    have only : ∀ u, d.tokens[token]? = some u → u = t := fun u hu => by simp_all
    split
    · refine h.modifyToken (fun _ _ => rfl) (fun u hu keyed => ?_) (fun _ _ _ _ mem => mem)
      exact ⟨keyed.distinct, fun entry mem =>
        Nat.lt_succ_of_lt (only u hu ▸ keyed.below entry mem)⟩
    · refine h.modifyToken (fun _ _ => rfl) (fun u hu keyed => ?_) (fun _ _ _ _ mem => ?_)
      · rw [only u hu] at keyed ⊢
        exact keyed_append keyed _
      · exact List.mem_append_left _ mem

theorem lined_joined {d : Desk} (h : d.front.Lined) (prompt : String) (token key : Nat)
    (task : Option Nat) : (d.joined prompt token key task).front.Lined where
  agrees := by
    rcases h.agrees with ⟨active, visible⟩ | ⟨head, rest, queue, active, visible⟩
    · exact .inl ⟨active, visible⟩
    · refine .inr ⟨head, rest ++ [d.newcomer prompt token key task], ?_, active, visible⟩
      have queue : d.queue = head :: rest := queue
      simp [front, joined, queue]
  ordered := by
    simp only [front, joined, List.map_append, List.pairwise_append]
    refine ⟨h.ordered, by simp, ?_⟩
    intro a mem b new
    obtain ⟨r, there, rfl⟩ := List.mem_map.mp mem
    have := h.below r there
    simp only [List.map_cons, List.map_nil, List.mem_singleton] at new
    simpa [new, newcomer, front] using this
  below r mem := by
    rcases List.mem_append.mp mem with old | new
    · exact Nat.lt_succ_of_lt (h.below r old)
    · simp only [List.mem_singleton] at new
      simp [new, newcomer, front, joined]

/-- A request joins with its listener on a token that is not aborted. -/
theorem sound_joined {d : Desk} {due : List Errand} (h : d.Sound due) (prompt : String)
    {token : Nat} (task : Option Nat) {t : Token} (ht : d.tokens[token]? = some t)
    (alive : t.aborted = false) : (d.joined prompt token t.nextKey task).showHead.Sound due := by
  have only : ∀ u, d.tokens[token]? = some u → u = t := fun u hu => by simp_all
  apply sound_showHead (lined_joined h.lined ..)
  · apply keyed_modifyToken h.keyed token _
    intro u hu keyed
    rw [only u hu] at keyed ⊢
    exact keyed_append keyed _
  · intro r mem
    rcases List.mem_append.mp mem with old | new
    · have kept := (h.guarded r old).modifyToken (f := fun u => { u with
        nextKey := t.nextKey + 1
        listeners := u.listeners ++ [(t.nextKey, .reject d.nextRequest)] })
        (fun u (_ : d.tokens[token]? = some u) => rfl)
        fun _ _ _ _ _ _ there => List.mem_append_left _ there
      exact kept.congr rfl id
    · simp only [List.mem_singleton] at new
      subst new
      have there : (d.joined prompt token t.nextKey task).tokens[token]? = some { t with
          nextKey := t.nextKey + 1
          listeners := t.listeners ++ [(t.nextKey, .reject d.nextRequest)] } := by
        simp [joined, modifyToken, ht]
      refine ⟨(List.getElem?_eq_some_iff.mp there).1, fun _ => ?_, fun doomed => ?_⟩
      · exact ⟨_, t.nextKey, there, rfl, List.mem_append_right _ (by simp [newcomer])⟩
      · have dead := (isAborted_eq there).symm.trans doomed
        simp [alive] at dead

theorem sound_fresh {d e : Desk} {due : List Errand} (h : d.Sound due)
    (front : e.front = d.front) {generation : Nat}
    (tokens : e.tokens = d.tokens ++ [{ generation := generation }]) : e.Sound due := by
  have old : ∀ {i : Nat} {t : Token}, d.tokens[i]? = some t → e.tokens[i]? = some t := by
    intro i t ht
    rw [tokens, List.getElem?_append_left (List.getElem?_eq_some_iff.mp ht).1, ht]
  have queue : e.queue = d.queue := congrArg Front.queue front
  have active : e.active = d.active := congrArg Front.active front
  refine ⟨front ▸ h.lined, ?_, ?_, ?_⟩
  · intro t mem
    rw [tokens] at mem
    rcases List.mem_append.mp mem with there | fresh
    · exact h.keyed t there
    · simp only [List.mem_singleton] at fresh
      subst fresh
      exact ⟨by simp, by simp⟩
  · intro r mem
    exact (h.guarded r (queue ▸ mem)).transfer (fun t ht => ⟨t, old ht, rfl, fun _ _ _ there => there⟩) id
  · intro hidden head rest first
    have doomed := h.moving (active ▸ hidden) head rest (queue ▸ first)
    cases ht : d.tokens[head.token]? with
    | none => simp [isAborted, ht] at doomed
    | some t => rw [isAborted_eq (old ht), ← isAborted_eq ht, doomed]

/-- An abort turns the listeners of its token into errands, so no guard is lost. -/
theorem sound_abort {d e : Desk} {due : List Errand} (h : d.Sound due) (front : e.front = d.front)
    {token : Nat} {t : Token} (ht : d.tokens[token]? = some t) (alive : t.aborted = false)
    (tokens : e.tokens = (d.modifyToken token
      ({ · with aborted := true, listeners := [], waiting := [] })).tokens) :
    e.Sound ((t.listeners.map fun (_, listener) => .run listener) ++ due) := by
  have queue : e.queue = d.queue := congrArg Front.queue front
  have active : e.active = d.active := congrArg Front.active front
  have aborted : e.isAborted token = true := by
    rw [isAborted_congr tokens, isAborted, tokens_modifyToken]
    simp [ht]
  have other : ∀ i, i ≠ token → e.tokens[i]? = d.tokens[i]? := by
    intro i ne
    rw [tokens, tokens_modifyToken, if_neg (Ne.symm ne)]
  refine ⟨front ▸ h.lined, ?_, ?_, ?_⟩
  · rw [tokens]
    exact keyed_modifyToken h.keyed token _ fun _ _ _ => ⟨by simp, by simp⟩
  · intro r mem
    have guarded := h.guarded r (queue ▸ mem)
    by_cases same : r.token = token
    · refine ⟨?_, fun still => ?_, fun _ => ?_⟩
      · rw [tokens, modifyToken, List.length_modify]
        exact guarded.exist
      · rw [same, aborted] at still
        cases still
      · obtain ⟨t', key, there, -, entry⟩ :=
          guarded.registered (same ▸ (isAborted_eq ht).trans alive)
        rw [same, ht, Option.some.injEq] at there
        subst there
        exact List.mem_append_left _ (List.mem_map.mpr ⟨_, entry, rfl⟩)
    · exact guarded.transfer
        (fun u hu => ⟨u, (other _ same).trans hu, rfl, fun _ _ _ there => there⟩)
        (List.mem_append_right _)
  · intro hidden head rest first
    have doomed := h.moving (active ▸ hidden) head rest (queue ▸ first)
    by_cases same : head.token = token
    · rw [same, aborted]
    · rw [isAborted, other _ same, ← isAborted, doomed]

theorem sound_retire {d : Desk} {due : List Errand} (h : d.Sound due) (manager : Nat) :
    (d.retire manager).2.Sound ((d.retire manager).1 ++ due) := by
  unfold retire
  split
  · exact h
  · rename_i m _
    simp only
    have fresh : Desk.Sound { d with
        tokens := d.tokens ++ [{ generation := m.nextGeneration }]
        managers := d.managers.set manager
          { current := d.tokens.length, nextGeneration := m.nextGeneration + 1 } } due :=
      sound_fresh h rfl rfl
    split
    · exact fresh
    · rename_i t ht
      split
      · exact fresh
      · rename_i alive
        refine sound_abort fresh ?_ ht (by simpa using alive) ?_
        · rw [front_foldl_wake]
          rfl
        · rw [tokens_foldl_wake]

end Desk

end ScriptSession
