import ScriptSession.Proofs.Desk.Frames

/-!
# One request at a time

The desk of a session has one manager, and an evaluation asks for one line before it goes on. So at
most one request is there, it is the one that is shown, and its listener is the only one
(`Desk.Single`). Whatever is done to such a desk leaves one: a request comes (`single_enqueue`) and
goes with an answer, an interrupt or a withdrawal (`single_answer`, `single_interrupt`,
`single_withdraw`).
-/
namespace ScriptSession

/-- The listeners that a token has for a request. -/
def PendingRequest.listeners (r : PendingRequest) (token : Nat) : List (Nat × Listener) :=
  if r.token = token then r.listener.toList.map fun key => (key, .reject r.id) else []

namespace Desk

/-- The manager's token is there and not aborted. -/
structure Alive (d : Desk) : Prop where
  manager : ∃ m, d.managers[0]? = some m
  token : ∃ t, d.tokens[d.currentToken 0]? = some t ∧ t.aborted = false

/-- The request that is asked, if any, is all there is to see and to listen. -/
structure Single (d : Desk) (asked : Option PendingRequest) : Prop where
  queue : d.queue = asked.toList
  active : d.active = asked.map (·.id)
  visible : d.visible = asked.map fun r => ⟨r.id, r.prompt⟩
  alive : d.Alive
  listeners : ∀ (i : Nat) (t : Token), d.tokens[i]? = some t →
    t.listeners = asked.toList.flatMap (·.listeners i)
  asker : ∀ r ∈ asked, r.token = d.currentToken 0 ∧ r.listener.isSome ∧ r.id < d.nextRequest
  replies : ∀ entry ∈ d.replies, entry.1 < d.nextRequest ∧ ∀ r ∈ asked, entry.1 ≠ r.id

theorem isAborted_dropListener (d : Desk) (r : PendingRequest) (i : Nat) :
    (d.dropListener r).isAborted i = d.isAborted i := by
  unfold dropListener
  split
  · exact isAborted_modifyToken d _ i fun _ => rfl
  · rfl

theorem currentToken_congr {d e : Desk} (h : e.managers = d.managers) :
    e.currentToken 0 = d.currentToken 0 := by
  rw [currentToken, currentToken, h]

theorem Alive.isAborted_eq {d : Desk} (h : d.Alive) : d.isAborted (d.currentToken 0) = false := by
  obtain ⟨t, there, alive⟩ := h.token
  rw [Desk.isAborted_eq there, alive]

theorem Alive.congr {d e : Desk} (h : d.Alive) (managers : e.managers = d.managers)
    (tokens : ∀ (i : Nat) (t : Token), d.tokens[i]? = some t →
      ∃ t', e.tokens[i]? = some t' ∧ t'.aborted = t.aborted) : e.Alive := by
  obtain ⟨⟨m, there⟩, t, current, alive⟩ := h
  obtain ⟨t', current', same⟩ := tokens _ t current
  refine ⟨⟨m, managers ▸ there⟩, t', ?_, same.trans alive⟩
  rw [currentToken_congr managers]
  exact current'

/-- A token is there after a change of another one, or of itself, and just as alive. -/
theorem kept_modifyToken (d : Desk) (token : Nat) {f : Token → Token}
    (kept : ∀ t, (f t).aborted = t.aborted) (i : Nat) (t : Token) (there : d.tokens[i]? = some t) :
    ∃ t', (d.modifyToken token f).tokens[i]? = some t' ∧ t'.aborted = t.aborted := by
  rw [tokens_modifyToken, there]
  split
  · exact ⟨f t, rfl, kept t⟩
  · exact ⟨t, rfl, rfl⟩

/-- What is seen of a desk while something or nothing is asked. -/
def frontOf (asked : Option PendingRequest) (next : Nat) : Front where
  queue := asked.toList
  active := asked.map (·.id)
  visible := asked.map fun r => ⟨r.id, r.prompt⟩
  nextRequest := next

theorem Single.front_eq {d : Desk} {asked : Option PendingRequest} (h : d.Single asked) :
    d.front = frontOf asked d.nextRequest := by
  rw [front, frontOf, h.queue, h.active, h.visible]

theorem single_none {d : Desk} {next : Nat} (front : d.front = frontOf none next) (alive : d.Alive)
    (unheard : ∀ (i : Nat) (t : Token), d.tokens[i]? = some t → t.listeners = [])
    (replies : ∀ entry ∈ d.replies, entry.1 < next) : d.Single none where
  queue := congrArg Front.queue front
  active := congrArg Front.active front
  visible := congrArg Front.visible front
  alive := alive
  listeners := unheard
  asker := by simp
  replies entry mem := by
    have same : d.nextRequest = next := congrArg Front.nextRequest front
    exact ⟨same ▸ replies entry mem, by simp⟩

theorem Single.front_without {d : Desk} {r : PendingRequest} (h : d.Single (some r)) :
    d.without r.id = frontOf none d.nextRequest := by
  simp [without, frontOf, h.queue, h.active]

section

variable {d : Desk} {r : PendingRequest}

/-- A request leaves with its listener, and then no listener is left. -/
theorem Single.unheard (h : d.Single (some r)) (i : Nat) (t : Token)
    (there : (d.dropListener r).tokens[i]? = some t) : t.listeners = [] := by
  obtain ⟨key, listener⟩ := Option.isSome_iff_exists.mp (h.asker r rfl).2.1
  rw [dropListener, listener] at there
  simp only [removeListener, tokens_modifyToken] at there
  split at there
  · rename_i own
    obtain ⟨t', before, rfl⟩ := Option.map_eq_some_iff.mp there
    simp [h.listeners i t' before, PendingRequest.listeners, own, listener]
  · rename_i other
    simp [h.listeners i t there, PendingRequest.listeners, other]

theorem Single.alive_dropListener (h : d.Single (some r)) : (d.dropListener r).Alive := by
  refine h.alive.congr (managers_dropListener d r) fun i t there => ?_
  unfold dropListener
  split
  · refine kept_modifyToken d r.token ?_ i t there
    exact fun _ => rfl
  · exact ⟨t, there, rfl⟩

/-- Without the request nothing is asked. -/
theorem Single.of_without {e : Desk} (h : d.Single (some r)) (front : e.front = d.without r.id)
    (tokens : e.tokens = (d.dropListener r).tokens) (managers : e.managers = d.managers)
    (replies : ∀ entry ∈ e.replies, entry.1 < d.nextRequest) : e.Single none := by
  refine single_none (front.trans h.front_without) ?_
    (fun i t there => h.unheard i t (tokens ▸ there)) replies
  refine h.alive_dropListener.congr (managers.trans (managers_dropListener d r).symm) ?_
  exact fun i t there => ⟨t, tokens ▸ there, rfl⟩

end

/-! ## Answers and withdrawals -/

theorem showHead_of_nil {d : Desk} (h : d.queue = []) : d.showHead = d := by
  unfold showHead
  split
  · simp_all
  · rfl

section

variable {d : Desk} {asked : Option PendingRequest}

theorem Single.agrees (h : d.Single asked) : d.front.Agrees := by
  cases asked with
  | none => exact .inl ⟨h.active, h.visible⟩
  | some r => exact .inr ⟨r, [], h.queue, h.active, h.visible⟩

/-- Who asks is answered; else an answer is refused. -/
theorem single_answer (h : d.Single asked) (text : String) :
    (d.answer text).2.Single none ∧
    (d.answer text).2.replies = d.replies ++ asked.toList.map fun r => (r.id, .line text) := by
  rcases answer_cases h.agrees text with ⟨active, -, eq⟩ | ⟨r, rest, queue, active, -, eq⟩
  · rw [h.active, Option.map_eq_none_iff] at active
    subst active
    rw [eq]
    exact ⟨h, by simp⟩
  · have same : asked.toList = r :: rest := h.queue.symm.trans queue
    obtain ⟨rfl, rfl⟩ : asked = some r ∧ rest = [] := by
      cases asked with
      | none => cases same
      | some r' => simpa [eq_comm] using same
    have front := front_served queue active text
    have empty : (d.served r [] text).queue = [] := by
      have := congrArg Front.queue front
      simpa [Desk.front, without, queue] using this
    rw [eq]
    simp only [showHead_of_nil empty, replies_served]
    refine ⟨h.of_without front (tokens_served d r [] text) ?_ ?_, by simp⟩
    · have managers := managers_answer d text
      rwa [eq, showHead_of_nil empty] at managers
    · intro entry mem
      rw [replies_served, List.mem_append, List.mem_singleton] at mem
      rcases mem with old | rfl
      · exact (h.replies entry old).1
      · exact (h.asker r rfl).2.2

/-- Only the request that is asked can be withdrawn. -/
theorem single_withdraw (h : d.Single asked) {id : Nat} (about : ∀ r ∈ asked, r.id = id) :
    (d.withdraw id).Single none ∧ (d.withdraw id).replies = d.replies := by
  refine ⟨?_, replies_withdraw d id⟩
  have managers := managers_withdraw d id
  have replies := replies_withdraw d id
  unfold withdraw at managers replies ⊢
  cases taken : d.take? id with
  | none =>
    cases asked with
    | none => exact h
    | some r => exact absurd (about r rfl) (take_eq_none taken r (by simp [h.queue]))
  | some found =>
    obtain ⟨r, rest⟩ := found
    simp only [taken] at managers replies ⊢
    obtain ⟨mem, rfl, -⟩ := take_eq_some taken
    rw [h.queue, Option.mem_toList] at mem
    cases mem
    have front := front_hide_of_take taken (front_dropListener rest r)
    have empty := congrArg Front.queue front
    simp only [Desk.front, without, h.queue] at empty
    have empty : ((rest.dropListener r).hide (d.active = some r.id)).queue = [] := by
      simpa using empty
    rw [showHead_of_nil empty] at managers replies ⊢
    refine h.of_without front ?_ managers fun entry mem => (h.replies entry (replies ▸ mem)).1
    rw [tokens_hide, tokens_dropListener_congr (tokens_take taken)]

end

/-! ## A new request -/

theorem showHead_of_alive {d : Desk} {r : PendingRequest} {rest : List PendingRequest}
    (active : d.active = none) (queue : d.queue = r :: rest) (alive : d.isAborted r.token = false) :
    d.showHead = { d with active := some r.id, shown := some ⟨r.id, r.prompt⟩ :: d.shown } := by
  simp [showHead, active, queue, alive, publish]

theorem single_enqueue {d : Desk} (h : d.Single none) (prompt : String) : ∃ r e,
    d.enqueue prompt (d.currentToken 0) none = (r.id, e) ∧ r.prompt = prompt ∧
    e.Single (some r) ∧ e.replies = d.replies ∧ e.currentToken 0 = d.currentToken 0 ∧
    ∀ i, e.isAborted i = d.isAborted i := by
  obtain ⟨t, there, alive⟩ := h.alive.token
  let r := d.newcomer prompt (d.currentToken 0) t.nextKey none
  let joined := d.joined prompt (d.currentToken 0) t.nextKey none
  have same : ∀ i, joined.isAborted i = d.isAborted i :=
    fun i => isAborted_modifyToken d _ i fun _ => rfl
  have current : joined.isAborted r.token = false := (same _).trans h.alive.isAborted_eq
  have queue : joined.queue = [r] := by
    have empty : d.queue = [] := h.queue
    simp [joined, Desk.joined, empty, r]
  have shown := showHead_of_alive (d := joined) h.active queue current
  refine ⟨r, joined.showHead, enqueue_eq there alive prompt none, rfl, ?_⟩
  rw [shown]
  refine ⟨?_, rfl, rfl, same⟩
  constructor
  · exact queue
  · rfl
  · rfl
  · exact h.alive.congr rfl (kept_modifyToken d _ fun _ => rfl)
  · intro i t' there'
    simp only [joined, Desk.joined, tokens_modifyToken] at there'
    split at there'
    · rename_i own
      obtain ⟨t'', before, rfl⟩ := Option.map_eq_some_iff.mp there'
      have none : t''.listeners = [] := h.listeners i t'' before
      simp [none, PendingRequest.listeners, r, newcomer, own]
    · rename_i other
      have none : t'.listeners = [] := h.listeners i t' there'
      simp [none, PendingRequest.listeners, r, newcomer, other]
  · rintro r' ⟨⟩
    exact ⟨rfl, rfl, Nat.lt_succ_self _⟩
  · intro entry mem
    have old := (h.replies entry mem).1
    refine ⟨Nat.lt_succ_of_lt old, ?_⟩
    rintro r' ⟨⟩
    exact Nat.ne_of_lt old

/-- The request has the next number, and is shown. -/
theorem enqueued {d : Desk} (h : d.Single none) (prompt : String) : ∃ e,
    d.enqueue prompt (d.currentToken 0) none = (d.nextRequest, e) ∧
    e.shown = some ⟨d.nextRequest, prompt⟩ :: d.shown ∧ e.nextRequest = d.nextRequest + 1 := by
  obtain ⟨t, there, alive⟩ := h.alive.token
  let joined := d.joined prompt (d.currentToken 0) t.nextKey none
  have same : joined.isAborted (d.currentToken 0) = d.isAborted (d.currentToken 0) :=
    isAborted_modifyToken d _ _ fun _ => rfl
  have current : joined.isAborted (d.currentToken 0) = false := same.trans h.alive.isAborted_eq
  have queue : joined.queue = [d.newcomer prompt (d.currentToken 0) t.nextKey none] := by
    have empty : d.queue = [] := h.queue
    simp [joined, Desk.joined, empty]
  have shown := showHead_of_alive (d := joined) h.active queue current
  refine ⟨joined.showHead, enqueue_eq there alive prompt none, ?_⟩
  rw [shown]
  exact ⟨rfl, rfl⟩

/-! ## What was shown -/

theorem suffix_showHead (d : Desk) : d.shown <:+ d.showHead.shown := by
  unfold showHead
  split
  · split
    · exact List.suffix_refl _
    · exact List.suffix_cons ..
  · exact List.suffix_refl _

/-- An answer takes nothing back that was shown. -/
theorem suffix_answer {d : Desk} (h : d.front.Agrees) (text : String) :
    d.shown <:+ (d.answer text).2.shown := by
  rcases answer_cases h text with ⟨-, -, eq⟩ | ⟨r, rest, -, -, -, eq⟩
  · exact eq.symm ▸ List.suffix_refl _
  · rw [eq]
    refine List.IsSuffix.trans ?_ (suffix_showHead _)
    rw [served, publish, shown_settle, shown_dropListener]
    exact List.suffix_cons ..

/-! ## An interrupt -/

/-- The desk with the manager's token aborted and a fresh one in its place, before listeners run. -/
def renewed (d : Desk) (m : Manager) : Desk :=
  let fresh : Desk := { d with
    tokens := d.tokens ++ [{ generation := m.nextGeneration }]
    managers := d.managers.set 0 ⟨d.tokens.length, m.nextGeneration + 1⟩ }
  fresh.modifyToken m.current ({ · with aborted := true, listeners := [], waiting := [] })

theorem retire_alive {d : Desk} {m : Manager} {t : Token} (manager : d.managers[0]? = some m)
    (there : d.tokens[m.current]? = some t) (alive : t.aborted = false) :
    d.retire 0 = (t.listeners.map fun entry => .run entry.2, t.waiting.foldl wake (d.renewed m)) := by
  have old := (List.getElem?_eq_some_iff.mp there).1
  have there' : (d.tokens ++ [{ generation := m.nextGeneration }])[m.current]? = some t := by
    rw [List.getElem?_append_left old, there]
  simp only [retire, manager, there', alive, Bool.false_eq_true, if_false]
  rfl

/-- The old token is aborted, the new one is fresh, and the others are as they were. -/
theorem tokens_renewed {d : Desk} {m : Manager} {t : Token} (there : d.tokens[m.current]? = some t)
    (i : Nat) (t' : Token) (found : (d.renewed m).tokens[i]? = some t') :
    i = m.current ∧ t' = { t with aborted := true, listeners := [], waiting := [] } ∨
    i = d.tokens.length ∧ t' = { generation := m.nextGeneration } ∨
    i ≠ m.current ∧ d.tokens[i]? = some t' := by
  have old := (List.getElem?_eq_some_iff.mp there).1
  simp only [renewed, tokens_modifyToken] at found
  by_cases own : m.current = i
  · subst own
    rw [if_pos rfl, List.getElem?_append_left old, there] at found
    cases found
    exact .inl ⟨rfl, rfl⟩
  · rw [if_neg own, List.getElem?_append] at found
    split at found
    · exact .inr (.inr ⟨Ne.symm own, found⟩)
    · rename_i new
      obtain ⟨zero, rfl⟩ := List.getElem?_eq_some_iff.mp found
      have : i = d.tokens.length := by
        simp only [List.length_singleton] at zero
        omega
      subst this
      exact .inr (.inl ⟨rfl, by simp⟩)

theorem isAborted_renewed {d : Desk} {m : Manager} {t : Token}
    (there : d.tokens[m.current]? = some t) (i : Nat) :
    (d.renewed m).isAborted i = (d.isAborted i || decide (i = m.current)) := by
  have old := (List.getElem?_eq_some_iff.mp there).1
  simp only [isAborted, renewed, tokens_modifyToken]
  by_cases own : m.current = i
  · subst own
    simp [List.getElem?_append_left old, there]
  · rw [if_neg own, decide_eq_false (Ne.symm own), Bool.or_false, List.getElem?_append]
    split
    · rfl
    · rename_i new
      rw [List.getElem?_eq_none (Nat.le_of_not_lt new)]
      cases i - d.tokens.length <;> rfl

theorem alive_renewed {d : Desk} {m : Manager} {t : Token} (manager : d.managers[0]? = some m)
    (there : d.tokens[m.current]? = some t) : (d.renewed m).Alive := by
  have old := (List.getElem?_eq_some_iff.mp there).1
  obtain ⟨first, -⟩ := List.getElem?_eq_some_iff.mp manager
  have renewed : (d.renewed m).managers[0]? = some ⟨d.tokens.length, m.nextGeneration + 1⟩ := by
    simp [Desk.renewed, modifyToken, first]
  refine ⟨⟨_, renewed⟩, { generation := m.nextGeneration }, ?_, rfl⟩
  have current : (d.renewed m).currentToken 0 = d.tokens.length := by
    simp [currentToken, renewed]
  rw [current]
  simp only [Desk.renewed, tokens_modifyToken, if_neg (Nat.ne_of_lt old)]
  simp

theorem alive_congr {d e : Desk} (h : d.Alive) (managers : e.managers = d.managers)
    (tokens : e.tokens = d.tokens) : e.Alive :=
  h.congr managers fun _ t there => ⟨t, tokens ▸ there, rfl⟩

/-- Once the manager's token is renewed, no listener is left but those that are due. -/
theorem Single.unheard_renewed {d : Desk} {asked : Option PendingRequest} {m : Manager} {t : Token}
    (h : d.Single asked) (manager : d.managers[0]? = some m)
    (there : d.tokens[m.current]? = some t) (i : Nat) (t' : Token)
    (found : (d.renewed m).tokens[i]? = some t') : t'.listeners = [] := by
  have current : d.currentToken 0 = m.current := by simp [currentToken, manager]
  rcases tokens_renewed there i t' found with ⟨-, rfl⟩ | ⟨-, rfl⟩ | ⟨other, before⟩
  · rfl
  · rfl
  · rw [h.listeners i t' before]
    cases asked with
    | none => rfl
    | some r =>
      have own : r.token ≠ i := (h.asker r rfl).1.trans current ▸ Ne.symm other
      simp [PendingRequest.listeners, own]

/-- What an interrupt leaves before its listeners run. -/
structure Renews (d e : Desk) : Prop where
  front : e.front = d.front
  alive : e.Alive
  unheard : ∀ (i : Nat) (t : Token), e.tokens[i]? = some t → t.listeners = []
  replies : e.replies = d.replies
  aborted : ∀ i, e.isAborted i = (d.isAborted i || decide (i = d.currentToken 0))

theorem retire_single {d : Desk} {asked : Option PendingRequest} (h : d.Single asked) : ∃ e,
    d.retire 0 = (asked.toList.map fun r => .run (.reject r.id), e) ∧ d.Renews e := by
  obtain ⟨⟨m, manager⟩, t, there, alive⟩ := h.alive
  have current : d.currentToken 0 = m.current := by simp [currentToken, manager]
  rw [current] at there
  have errands : t.listeners.map (fun entry => Errand.run entry.2) =
      asked.toList.map fun r => .run (.reject r.id) := by
    rw [h.listeners _ t there]
    cases asked with
    | none => rfl
    | some r =>
      obtain ⟨token, listening, -⟩ := h.asker r rfl
      obtain ⟨key, listener⟩ := Option.isSome_iff_exists.mp listening
      simp [PendingRequest.listeners, token, current, listener]
  have tokens := tokens_foldl_wake (d.renewed m) t.waiting
  obtain ⟨tasks, shape, -⟩ := wake_shape (d.renewed m) t.waiting
  have managers : (t.waiting.foldl wake (d.renewed m)).managers = (d.renewed m).managers := by
    rw [shape]
  refine ⟨_, (retire_alive manager there alive).trans (congrArg (·, _) errands), ?_⟩
  constructor
  · exact front_foldl_wake (d.renewed m) t.waiting
  · exact alive_congr (alive_renewed manager there) managers tokens
  · exact fun i t' found => h.unheard_renewed manager there i t' (tokens ▸ found)
  · rw [shape]
    rfl
  · intro i
    rw [isAborted_congr tokens, isAborted_renewed there, current]

/-- Its listener takes the request out. -/
theorem single_reject {d e : Desk} {r : PendingRequest} (h : d.Single (some r)) (renews : d.Renews e) :
    (e.reject r.id).Single none ∧
    (e.reject r.id).replies = d.replies ++ [(r.id, .cancelled)] ∧
    (e.reject r.id).nextRequest = d.nextRequest := by
  have queue : e.queue = [r] := (congrArg Front.queue renews.front).trans h.queue
  have active : e.active = some r.id := (congrArg Front.active renews.front).trans h.active
  have same : e.without r.id = frontOf none d.nextRequest := by
    have next : e.nextRequest = d.nextRequest := congrArg Front.nextRequest renews.front
    simp [without, frontOf, queue, active, next]
  unfold reject
  cases taken : e.take? r.id with
  | none => exact absurd rfl (take_eq_none taken r (by simp [queue]))
  | some found =>
    obtain ⟨r', rest⟩ := found
    obtain ⟨mem, -⟩ := take_eq_some taken
    rw [queue, List.mem_singleton] at mem
    subst mem
    have front := (front_hide_of_take taken (front_settle rest r' .cancelled)).trans same
    have empty := congrArg Front.queue front
    dsimp only
    rw [showHead_of_nil empty]
    have replies : ((rest.settle r' .cancelled).hide (e.active = some r'.id)).replies =
        d.replies ++ [(r'.id, .cancelled)] := by
      rw [replies_hide, replies_settle, replies_take taken, renews.replies]
    have tokens : ((rest.settle r' .cancelled).hide (e.active = some r'.id)).tokens = e.tokens := by
      rw [tokens_hide, tokens_settle, tokens_take taken]
    refine ⟨single_none front (alive_congr renews.alive ?_ tokens)
      (fun i t found => renews.unheard i t (tokens ▸ found)) fun entry mem => ?_, replies,
      congrArg Front.nextRequest front⟩
    · rw [managers_hide, managers_settle, managers_take taken]
    · rw [replies, List.mem_append, List.mem_singleton] at mem
      rcases mem with old | rfl
      · exact (h.replies entry old).1
      · exact (h.asker r' rfl).2.2

/-- The request that is asked is rejected, and nothing else happens but that the token changes. -/
theorem single_interrupt {d : Desk} {asked : Option PendingRequest} (h : d.Single asked) :
    (d.interrupt 0).Single none ∧
    (d.interrupt 0).replies = d.replies ++ asked.toList.map (fun r => (r.id, .cancelled)) ∧
    (∀ i, (d.interrupt 0).isAborted i = (d.isAborted i || decide (i = d.currentToken 0))) ∧
    (d.interrupt 0).nextRequest = d.nextRequest := by
  obtain ⟨e, retired, renews⟩ := retire_single h
  unfold interrupt
  rw [retired]
  cases asked with
  | none =>
    simp only [Option.toList_none, List.map_nil, runAll_nil, List.append_nil]
    refine ⟨?_, renews.replies, renews.aborted, congrArg Front.nextRequest renews.front⟩
    exact single_none (renews.front.trans h.front_eq) renews.alive renews.unheard fun entry mem =>
      (h.replies entry (renews.replies ▸ mem)).1
  | some r =>
    obtain ⟨single, replies, next⟩ := single_reject h renews
    have ran : e.runAll [.run (.reject r.id)] = e.reject r.id := by
      rw [runAll, step, List.nil_append, runAll_nil]
    simp only [Option.toList_some, List.map_cons, List.map_nil, ran]
    refine ⟨single, replies, fun i => ?_, next⟩
    rw [isAborted_congr (tokens_reject e r.id), renews.aborted]

/-! ## Replies -/

section

variable {d e : Desk} {asked : Option PendingRequest} {r : PendingRequest}

theorem single_opened : (Desk.opened 1).Single none where
  queue := rfl
  active := rfl
  visible := rfl
  alive := ⟨⟨⟨0, 1⟩, rfl⟩, { generation := 0 }, rfl, rfl⟩
  listeners i t there := by
    have mem : t ∈ List.replicate 1 ({ generation := 0 } : Token) := List.mem_of_getElem? there
    rw [List.eq_of_mem_replicate mem]
    rfl
  asker := by simp
  replies := by simp [opened]

theorem Single.find_eq_none (h : d.Single (some r)) : d.replies.find? (·.1 == r.id) = none := by
  rw [List.find?_eq_none]
  intro entry mem
  simpa using (h.replies entry mem).2 r rfl

/-- Who asks has no reply yet. -/
theorem Single.fetch_eq_none (h : d.Single (some r)) : d.fetch? r.id = none := by
  simp [fetch?, h.find_eq_none]

/-- The first reply after that is the one that is fetched. -/
theorem Single.fetch_settled (h : d.Single (some r)) {reply : Reply}
    (replies : e.replies = d.replies ++ [(r.id, reply)]) :
    ∃ rest, e.fetch? r.id = some (reply, rest) := by
  refine ⟨{ e with replies := e.replies.eraseP (·.1 == r.id) }, ?_⟩
  simp [fetch?, replies, List.find?_append, h.find_eq_none]

theorem fetch_congr (replies : e.replies = d.replies) (id : Nat) :
    (e.fetch? id).map (·.1) = (d.fetch? id).map (·.1) := by
  unfold fetch?
  rw [replies]
  split <;> rfl

theorem single_fetch (h : d.Single asked) {id : Nat} {reply : Reply}
    (found : d.fetch? id = some (reply, e)) : e.Single asked := by
  rw [fetch_shape found]
  exact ⟨h.queue, h.active, h.visible, alive_congr h.alive rfl rfl, h.listeners, h.asker,
    fun entry mem => h.replies entry (List.mem_of_mem_eraseP mem)⟩

theorem isAborted_answer (h : d.Single asked) (text : String) (i : Nat) :
    (d.answer text).2.isAborted i = d.isAborted i := by
  rcases answer_cases h.agrees text with ⟨-, -, eq⟩ | ⟨r, rest, -, -, -, eq⟩
  · rw [eq]
  · rw [eq, isAborted_congr (tokens_showHead _), isAborted_congr (tokens_served ..),
      isAborted_dropListener]

theorem nextRequest_answer (h : d.Single asked) (text : String) :
    (d.answer text).2.nextRequest = d.nextRequest := by
  rcases answer_cases h.agrees text with ⟨-, -, eq⟩ | ⟨r, rest, queue, active, -, eq⟩
  · rw [eq]
  · rw [eq, nextRequest_showHead]
    exact congrArg Front.nextRequest (front_served queue active text)

theorem isAborted_withdraw (d : Desk) (id i : Nat) : (d.withdraw id).isAborted i = d.isAborted i := by
  unfold withdraw
  split
  · rfl
  · rename_i r rest taken
    rw [isAborted_congr (tokens_showHead _), isAborted_congr (tokens_hide ..),
      isAborted_dropListener, isAborted_congr (tokens_take taken)]

end

end Desk

end ScriptSession
