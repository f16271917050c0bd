import ScriptSession.Desk.Task

/-!
# What the operations of a desk leave alone

The invariants of a desk read three groups of its fields, and most operations change one group only:

* the front, which is the queue with what is shown of it (`Front`);
* the tokens;
* the tasks, apart from who has been called for (`Desk.works`), and the replies.

`*_shape` say what an operation changes at all. From that follow `front_*`, `tokens_*`, `works_*` and
`replies_*`, which say that a group is kept, `managers_*`, that every manager keeps its token, and
`grows_*`, that no token is lost and no key given twice (`Desk.Grows`).
-/
namespace ScriptSession

/-- The queue with everything that is shown of it. -/
structure Front where
  queue : List PendingRequest
  active : Option Nat
  visible : Option ActiveRequest
  nextRequest : Nat

/-- The number of the active request, the value shown and the head of the queue are about the same
request, or nothing is active and nothing is shown. -/
def Front.Agrees (f : Front) : Prop :=
  f.active = none ∧ f.visible = none ∨
  ∃ head rest, f.queue = head :: rest ∧ f.active = some head.id ∧
    f.visible = some ⟨head.id, head.prompt⟩

namespace Desk

def front (d : Desk) : Front := ⟨d.queue, d.active, d.visible, d.nextRequest⟩

/-- The tasks, whether they were called for or not. -/
def works (d : Desk) : List Task := d.tasks.map ({ · with woken := false })

theorem runAll_nil (d : Desk) : d.runAll [] = d := by rw [runAll]

/-! ## Shapes -/

theorem showHead_shape (d : Desk) :
    ∃ active shown, d.showHead = { d with active := active, shown := shown } := by
  unfold showHead
  split
  · split
    · exact ⟨d.active, d.shown, rfl⟩
    · exact ⟨_, _, rfl⟩
  · exact ⟨d.active, d.shown, rfl⟩

theorem hide_shape (d : Desk) (wasActive : Bool) :
    ∃ shown, d.hide wasActive = { d with shown := shown } := by
  unfold hide
  split
  · exact ⟨_, rfl⟩
  · exact ⟨d.shown, rfl⟩

theorem take_shape {d : Desk} {id : Nat} {r : PendingRequest} {rest : Desk}
    (h : d.take? id = some (r, rest)) :
    ∃ active, rest = { d with queue := d.queue.eraseP (·.id == id), active := active } := by
  unfold take? at h
  split at h
  · cases h
  · simp only [Option.some.injEq, Prod.mk.injEq] at h
    rw [← h.2]
    split
    · exact ⟨none, rfl⟩
    · exact ⟨d.active, rfl⟩

theorem dropListener_shape (d : Desk) (r : PendingRequest) :
    ∃ tokens, d.dropListener r = { d with tokens := tokens } := by
  unfold dropListener
  split
  · exact ⟨_, rfl⟩
  · exact ⟨d.tokens, rfl⟩

theorem register_shape (d : Desk) (token : Nat) (listener : Listener) :
    ∃ tokens, (d.register token listener).2.2 = { d with tokens := tokens } := by
  unfold register
  split
  · exact ⟨d.tokens, rfl⟩
  · split <;> exact ⟨_, rfl⟩

theorem fetch_shape {d : Desk} {id : Nat} {reply : Reply} {rest : Desk}
    (h : d.fetch? id = some (reply, rest)) :
    rest = { d with replies := d.replies.eraseP (·.1 == id) } := by
  unfold fetch? at h
  split at h
  · simp only [Option.some.injEq, Prod.mk.injEq] at h
    exact h.2.symm
  · cases h

theorem works_wake (d : Desk) (k : Nat) : (d.wake k).works = d.works := by
  apply List.ext_getElem?
  intro i
  simp only [works, wake, List.getElem?_map, List.getElem?_modify]
  split <;> simp [Function.comp_def]

/-- Tasks that are called for are the same tasks. -/
theorem wake_shape (d : Desk) (woken : List Nat) :
    ∃ tasks, woken.foldl wake d = { d with tasks := tasks } ∧
      (woken.foldl wake d).works = d.works := by
  induction woken generalizing d with
  | nil => exact ⟨d.tasks, rfl, rfl⟩
  | cons k rest ih =>
    obtain ⟨tasks, eq, works⟩ := ih (d.wake k)
    exact ⟨tasks, eq, works.trans (works_wake d k)⟩

theorem settle_shape (d : Desk) (r : PendingRequest) (reply : Reply) :
    ∃ tasks, d.settle r reply =
        { d with replies := d.replies ++ [(r.id, reply)], tasks := tasks } ∧
      (d.settle r reply).works = d.works := by
  unfold settle
  split
  · exact ⟨_, rfl, works_wake _ _⟩
  · exact ⟨d.tasks, rfl, rfl⟩

theorem retire_shape (d : Desk) (manager : Nat) :
    ∃ tokens managers tasks, (d.retire manager).2 =
        { d with tokens := tokens, managers := managers, tasks := tasks } ∧
      (d.retire manager).2.works = d.works := by
  unfold retire
  split
  · exact ⟨d.tokens, d.managers, d.tasks, rfl, rfl⟩
  · dsimp only
    split
    · exact ⟨_, _, d.tasks, rfl, rfl⟩
    · rename_i t _
      split
      · exact ⟨_, _, d.tasks, rfl, rfl⟩
      · obtain ⟨tasks, eq, works⟩ := wake_shape _ t.waiting
        exact ⟨_, _, tasks, eq, works⟩

/-! ## The front -/

theorem front_removeListener (d : Desk) (token key : Nat) :
    (d.removeListener token key).front = d.front := rfl

theorem front_dropListener (d : Desk) (r : PendingRequest) :
    (d.dropListener r).front = d.front := by
  obtain ⟨tokens, eq⟩ := dropListener_shape d r
  rw [eq]
  rfl

theorem front_settle (d : Desk) (r : PendingRequest) (reply : Reply) :
    (d.settle r reply).front = d.front := by
  obtain ⟨tasks, eq, -⟩ := settle_shape d r reply
  rw [eq]
  rfl

theorem front_foldl_wake (d : Desk) (tasks : List Nat) : (tasks.foldl wake d).front = d.front := by
  obtain ⟨woken, eq, -⟩ := wake_shape d tasks
  rw [eq]
  rfl

theorem front_register (d : Desk) (token : Nat) (listener : Listener) :
    (d.register token listener).2.2.front = d.front := by
  obtain ⟨tokens, eq⟩ := register_shape d token listener
  rw [eq]
  rfl

theorem front_retire (d : Desk) (manager : Nat) : (d.retire manager).2.front = d.front := by
  obtain ⟨tokens, managers, tasks, eq, -⟩ := retire_shape d manager
  rw [eq]
  rfl

theorem front_setStage (d : Desk) (k : Nat) (stage : Stage) :
    (d.setStage k stage).front = d.front := rfl

theorem front_fetch {d : Desk} {id : Nat} {reply : Reply} {rest : Desk}
    (h : d.fetch? id = some (reply, rest)) : rest.front = d.front := by
  rw [fetch_shape h]
  rfl

/-! ## The tokens -/

theorem tokens_fetch {d : Desk} {id : Nat} {reply : Reply} {rest : Desk}
    (h : d.fetch? id = some (reply, rest)) : rest.tokens = d.tokens := by
  rw [fetch_shape h]

theorem isAborted_congr {d e : Desk} (h : e.tokens = d.tokens) (token : Nat) :
    e.isAborted token = d.isAborted token := by
  rw [isAborted, isAborted, h]

theorem isAborted_eq {d : Desk} {token : Nat} {t : Token} (h : d.tokens[token]? = some t) :
    d.isAborted token = t.aborted := by
  simp [isAborted, h]

/-- A changed token changes nothing about the others. -/
theorem tokens_modifyToken (d : Desk) (token i : Nat) (f : Token → Token) :
    (d.modifyToken token f).tokens[i]? =
      if token = i then d.tokens[i]?.map f else d.tokens[i]? := by
  simp only [modifyToken, List.getElem?_modify]
  split <;> simp

theorem isAborted_modifyToken (d : Desk) (token i : Nat) {f : Token → Token}
    (kept : ∀ t, (f t).aborted = t.aborted) : (d.modifyToken token f).isAborted i = d.isAborted i := by
  simp only [isAborted, tokens_modifyToken]
  split
  · cases d.tokens[i]? <;> simp [kept]
  · rfl

/-! ## Taking a request out -/

/-- The desk without a request: it is off the queue and off the screen. -/
def without (d : Desk) (id : Nat) : Front where
  queue := d.queue.eraseP (·.id == id)
  active := if d.active = some id then none else d.active
  visible := if d.active = some id then none else d.visible
  nextRequest := d.nextRequest

theorem take_eq_none {d : Desk} {id : Nat} (h : d.take? id = none) :
    ∀ r ∈ d.queue, r.id ≠ id := by
  unfold take? at h
  split at h
  · rename_i absent
    intro r mem same
    exact List.find?_eq_none.mp absent r mem (by simp [same])
  · cases h

theorem take_eq_some {d : Desk} {id : Nat} {r : PendingRequest} {rest : Desk}
    (h : d.take? id = some (r, rest)) :
    r ∈ d.queue ∧ r.id = id ∧ rest.queue = d.queue.eraseP (·.id == id) ∧
    rest.active = (if d.active = some id then none else d.active) ∧ rest.shown = d.shown ∧
    rest.nextRequest = d.nextRequest := by
  unfold take? at h
  split at h
  · cases h
  · rename_i request found
    simp only [Option.some.injEq, Prod.mk.injEq] at h
    obtain ⟨rfl, rfl⟩ := h
    refine ⟨List.mem_of_find?_eq_some found, by simpa using List.find?_some found, ?_⟩
    by_cases shown : d.active = some id <;> simp [shown]

theorem front_hide_of_take {d e : Desk} {id : Nat} {r : PendingRequest} {rest : Desk}
    (h : d.take? id = some (r, rest)) (same : e.front = rest.front) :
    (e.hide (d.active = some id)).front = d.without id := by
  obtain ⟨-, -, queue, active, shown, next⟩ := take_eq_some h
  simp only [front, Front.mk.injEq] at same
  obtain ⟨hq, ha, hv, hn⟩ := same
  have kept : rest.visible = d.visible := by rw [visible, visible, shown]
  by_cases visible : d.active = some id <;>
    simp_all [without, hide, front, publish, Desk.visible]

theorem queue_showHead (d : Desk) : d.showHead.queue = d.queue := by
  obtain ⟨active, shown, eq⟩ := showHead_shape d
  rw [eq]

theorem nextRequest_showHead (d : Desk) : d.showHead.nextRequest = d.nextRequest := by
  obtain ⟨active, shown, eq⟩ := showHead_shape d
  rw [eq]

theorem queue_withdraw (d : Desk) (id : Nat) :
    (d.withdraw id).queue = d.queue.eraseP (·.id == id) := by
  unfold withdraw
  split
  · rename_i absent
    refine (List.eraseP_of_forall_not fun r mem => ?_).symm
    simpa using take_eq_none absent r mem
  · rename_i r rest taken
    have front := front_hide_of_take taken (front_dropListener rest r)
    rw [queue_showHead]
    exact congrArg Front.queue front

theorem nextRequest_withdraw (d : Desk) (id : Nat) : (d.withdraw id).nextRequest = d.nextRequest := by
  unfold withdraw
  split
  · rfl
  · rename_i r rest taken
    have front := front_hide_of_take taken (front_dropListener rest r)
    rw [nextRequest_showHead]
    exact congrArg Front.nextRequest front

/-! ## Answering and joining -/

theorem tokens_dropListener_congr {d e : Desk} (h : e.tokens = d.tokens) (r : PendingRequest) :
    (e.dropListener r).tokens = (d.dropListener r).tokens := by
  unfold dropListener
  split
  · simp only [removeListener, modifyToken, h]
  · exact h

/-- The desk on which the head `r` of the queue is answered, before the next one of `rest` is shown. -/
def served (d : Desk) (r : PendingRequest) (rest : List PendingRequest) (text : String) : Desk :=
  ((({ d with active := none, queue := rest }).dropListener r).settle r (.line text)).publish none

/-- An answer is refused, or goes to the request that is shown. -/
theorem answer_cases {d : Desk} (h : d.front.Agrees) (text : String) :
    d.active = none ∧ d.visible = none ∧ d.answer text = (false, d) ∨
    ∃ r rest, d.queue = r :: rest ∧ d.active = some r.id ∧ d.visible = some ⟨r.id, r.prompt⟩ ∧
      d.answer text = (true, (d.served r rest text).showHead) := by
  rcases h with ⟨active, visible⟩ | ⟨r, rest, queue, active, visible⟩
  · have active : d.active = none := active
    exact .inl ⟨active, visible, by simp [answer, active]⟩
  · have active : d.active = some r.id := active
    have queue : d.queue = r :: rest := queue
    refine .inr ⟨r, rest, queue, active, visible, ?_⟩
    simp only [answer, active, queue, if_true, served]

theorem front_served {d : Desk} {r : PendingRequest} {rest : List PendingRequest}
    (queue : d.queue = r :: rest) (active : d.active = some r.id) (text : String) :
    (d.served r rest text).front = d.without r.id := by
  have front := (front_settle (({ d with active := none, queue := rest }).dropListener r) r
    (.line text)).trans (front_dropListener _ r)
  simp only [Desk.front, Front.mk.injEq] at front
  simp [Desk.front, served, publish, visible, without, front, queue, active]

theorem tokens_served (d : Desk) (r : PendingRequest) (rest : List PendingRequest)
    (text : String) : (d.served r rest text).tokens = (d.dropListener r).tokens := by
  rw [served, publish, tokens_settle]
  exact tokens_dropListener_congr (d := d) (e := { d with active := none, queue := rest }) rfl r

/-- The request that joins the queue next. -/
def newcomer (d : Desk) (prompt : String) (token key : Nat) (task : Option Nat) : PendingRequest where
  id := d.nextRequest
  prompt := prompt
  token := token
  listener := some key
  task := task

/-- The desk with the newcomer at the end of the queue, before a head is shown. -/
def joined (d : Desk) (prompt : String) (token key : Nat) (task : Option Nat) : Desk :=
  { d.modifyToken token fun t =>
      { t with nextKey := key + 1, listeners := t.listeners ++ [(key, .reject d.nextRequest)] } with
    nextRequest := d.nextRequest + 1
    queue := d.queue ++ [d.newcomer prompt token key task] }

theorem enqueue_eq {d : Desk} {token : Nat} {t : Token} (ht : d.tokens[token]? = some t)
    (alive : t.aborted = false) (prompt : String) (task : Option Nat) :
    d.enqueue prompt token task = (d.nextRequest, (d.joined prompt token t.nextKey task).showHead) := by
  simp only [enqueue, register, ht, alive, Bool.false_eq_true, if_false, runAll_nil]
  rfl

/-! ## Tokens stay, and give new keys only -/

/-- Every token is still there, and a listener that is new on it has a new key. -/
def Grows (d e : Desk) : Prop :=
  ∀ (i : Nat) (t : Token), d.tokens[i]? = some t → ∃ t' : Token, e.tokens[i]? = some t' ∧
    t.nextKey ≤ t'.nextKey ∧ ∀ entry ∈ t'.listeners, entry ∈ t.listeners ∨ t.nextKey ≤ entry.1

theorem Grows.of_tokens {d e : Desk} (h : e.tokens = d.tokens) : d.Grows e := fun _ t ht =>
  ⟨t, h ▸ ht, Nat.le_refl _, fun _ mem => .inl mem⟩

theorem Grows.trans {d e g : Desk} (first : d.Grows e) (second : e.Grows g) : d.Grows g := by
  intro i t ht
  obtain ⟨u, hu, le, old⟩ := first i t ht
  obtain ⟨v, hv, le', old'⟩ := second i u hu
  refine ⟨v, hv, Nat.le_trans le le', fun entry mem => ?_⟩
  rcases old' entry mem with there | new
  · exact old entry there
  · exact .inr (Nat.le_trans le new)

theorem Grows.exist {d e : Desk} (h : d.Grows e) {token : Nat} (exist : token < d.tokens.length) :
    token < e.tokens.length := by
  obtain ⟨t, there, -⟩ := h token _ (List.getElem?_eq_getElem exist)
  exact (List.getElem?_eq_some_iff.mp there).1

theorem grows_modifyToken {d : Desk} (token : Nat) {f : Token → Token}
    (hf : ∀ t, d.tokens[token]? = some t → t.nextKey ≤ (f t).nextKey ∧
      ∀ entry ∈ (f t).listeners, entry ∈ t.listeners ∨ t.nextKey ≤ entry.1) :
    d.Grows (d.modifyToken token f) := by
  intro i t ht
  rw [tokens_modifyToken]
  by_cases same : token = i
  · subst same
    exact ⟨f t, by simp [ht], hf t ht⟩
  · exact ⟨t, by simpa [same] using ht, Nat.le_refl _, fun _ mem => .inl mem⟩

theorem grows_removeListener (d : Desk) (token key : Nat) : d.Grows (d.removeListener token key) :=
  grows_modifyToken _ fun _ _ => ⟨Nat.le_refl _, fun _ mem => .inl (List.mem_filter.mp mem).1⟩

theorem grows_dropListener (d : Desk) (r : PendingRequest) : d.Grows (d.dropListener r) := by
  unfold dropListener
  split
  · exact grows_removeListener d _ _
  · exact .of_tokens rfl

theorem grows_withdraw (d : Desk) (id : Nat) : d.Grows (d.withdraw id) := by
  unfold withdraw
  split
  · exact .of_tokens rfl
  · rename_i r rest taken
    refine (Grows.of_tokens (tokens_take taken)).trans ((grows_dropListener rest r).trans ?_)
    exact .of_tokens (by rw [tokens_showHead, tokens_hide])

theorem grows_answer {d : Desk} (h : d.front.Agrees) (text : String) :
    d.Grows (d.answer text).2 := by
  rcases answer_cases h text with ⟨-, -, refused⟩ | ⟨r, rest, -, -, -, accepted⟩
  · rw [refused]
    exact .of_tokens rfl
  · rw [accepted]
    refine (grows_dropListener d r).trans (.of_tokens ?_)
    rw [tokens_showHead, tokens_served]

theorem grows_register (d : Desk) (token : Nat) (listener : Listener) :
    d.Grows (d.register token listener).2.2 := by
  unfold register
  split
  · exact .of_tokens rfl
  · rename_i t ht
    have only : ∀ u, d.tokens[token]? = some u → u = t := fun u hu => by simp_all
    split
    · refine grows_modifyToken _ fun u hu => ⟨?_, fun _ mem => .inl mem⟩
      simp [only u hu]
    · refine grows_modifyToken _ fun u hu => ⟨by simp [only u hu], fun entry mem => ?_⟩
      rcases List.mem_append.mp mem with old | new
      · exact .inl old
      · simp only [List.mem_singleton] at new
        exact .inr (by simp [new, only u hu])

theorem grows_joined {d : Desk} {token : Nat} {t : Token} (ht : d.tokens[token]? = some t)
    (prompt : String) (task : Option Nat) : d.Grows (d.joined prompt token t.nextKey task) := by
  have only : ∀ u, d.tokens[token]? = some u → u = t := fun u hu => by simp_all
  have grown : d.Grows (d.modifyToken token fun u => { u with
      nextKey := t.nextKey + 1, listeners := u.listeners ++ [(t.nextKey, .reject d.nextRequest)] }) := by
    refine grows_modifyToken _ fun u hu => ⟨by simp [only u hu], fun entry mem => ?_⟩
    rcases List.mem_append.mp mem with old | new
    · exact .inl old
    · simp only [List.mem_singleton] at new
      exact .inr (by simp [new, only u hu])
  exact grown.trans (.of_tokens rfl)

theorem grows_abort (d : Desk) (token : Nat) : d.Grows
    (d.modifyToken token ({ · with aborted := true, listeners := [], waiting := [] })) :=
  grows_modifyToken token fun _ _ => ⟨Nat.le_refl _, by simp⟩

theorem grows_retire (d : Desk) (manager : Nat) : d.Grows (d.retire manager).2 := by
  unfold retire
  split
  · exact .of_tokens rfl
  · rename_i m _
    simp only
    have fresh : d.Grows { d with
        tokens := d.tokens ++ [{ generation := m.nextGeneration }]
        managers := d.managers.set manager
          { current := d.tokens.length, nextGeneration := m.nextGeneration + 1 } } := by
      intro i t ht
      refine ⟨t, ?_, Nat.le_refl _, fun _ mem => .inl mem⟩
      rw [List.getElem?_append_left (List.getElem?_eq_some_iff.mp ht).1, ht]
    split
    · exact fresh
    · split
      · exact fresh
      · exact fresh.trans ((grows_abort _ m.current).trans (.of_tokens (tokens_foldl_wake ..)))

/-! ## The tasks -/

theorem works_settle (d : Desk) (r : PendingRequest) (reply : Reply) :
    (d.settle r reply).works = d.works := by
  obtain ⟨tasks, -, same⟩ := settle_shape d r reply
  exact same

theorem works_showHead (d : Desk) : d.showHead.works = d.works := by
  obtain ⟨active, shown, eq⟩ := showHead_shape d
  rw [eq]
  rfl

theorem works_hide (d : Desk) (wasActive : Bool) : (d.hide wasActive).works = d.works := by
  obtain ⟨shown, eq⟩ := hide_shape d wasActive
  rw [eq]
  rfl

theorem works_dropListener (d : Desk) (r : PendingRequest) :
    (d.dropListener r).works = d.works := by
  obtain ⟨tokens, eq⟩ := dropListener_shape d r
  rw [eq]
  rfl

theorem works_take {d : Desk} {id : Nat} {r : PendingRequest} {rest : Desk}
    (h : d.take? id = some (r, rest)) : rest.works = d.works := by
  obtain ⟨active, rfl⟩ := take_shape h
  rfl

theorem works_reject (d : Desk) (id : Nat) : (d.reject id).works = d.works := by
  unfold reject
  split
  · rfl
  · rename_i taken
    rw [works_showHead, works_hide, works_settle, works_take taken]

theorem works_withdraw (d : Desk) (id : Nat) : (d.withdraw id).works = d.works := by
  unfold withdraw
  split
  · rfl
  · rename_i taken
    rw [works_showHead, works_hide, works_dropListener, works_take taken]

theorem works_served (d : Desk) (r : PendingRequest) (rest : List PendingRequest)
    (text : String) : (d.served r rest text).works = d.works := by
  have dropped := works_dropListener { d with active := none, queue := rest } r
  have settled := works_settle (({ d with active := none, queue := rest }).dropListener r) r
    (.line text)
  exact settled.trans dropped

theorem works_answer {d : Desk} (h : d.front.Agrees) (text : String) :
    (d.answer text).2.works = d.works := by
  rcases answer_cases h text with ⟨-, -, refused⟩ | ⟨r, rest, -, -, -, accepted⟩
  · rw [refused]
  · rw [accepted, works_showHead, works_served]

theorem works_register (d : Desk) (token : Nat) (listener : Listener) :
    (d.register token listener).2.2.works = d.works := by
  obtain ⟨tokens, eq⟩ := register_shape d token listener
  rw [eq]
  rfl

theorem works_retire (d : Desk) (manager : Nat) : (d.retire manager).2.works = d.works := by
  obtain ⟨tokens, managers, tasks, -, same⟩ := retire_shape d manager
  exact same

theorem works_fetch {d : Desk} {id : Nat} {reply : Reply} {rest : Desk}
    (h : d.fetch? id = some (reply, rest)) : rest.works = d.works := by
  rw [fetch_shape h]
  rfl

theorem works_setStage (d : Desk) (k : Nat) (stage : Stage) :
    (d.setStage k stage).works = d.works.modify k ({ · with stage := stage }) := by
  apply List.ext_getElem?
  intro i
  simp only [works, setStage, List.getElem?_map, List.getElem?_modify]
  split <;> simp [Function.comp_def]

theorem works_perform {d : Desk} (h : d.front.Agrees) (label : String) (act : Act) :
    (d.perform label act).2.works = d.works := by
  cases act with
  | report | note => rfl
  | answer text => exact works_answer h text
  | interrupt manager => exact works_retire d manager
  | listen token label acts => exact works_register d token _

theorem works_step {d : Desk} (h : d.front.Agrees) (e : Errand) : (d.step e).2.works = d.works := by
  cases e with
  | run listener =>
    cases listener with
    | reject request => exact works_reject d request
    | custom => rfl
  | perform label acts =>
    cases acts with
    | nil => rfl
    | cons act acts => exact works_perform h label act

theorem grows_perform {d : Desk} (h : d.front.Agrees) (label : String) (act : Act) :
    d.Grows (d.perform label act).2 := by
  cases act with
  | report | note => exact .of_tokens rfl
  | answer text => exact (grows_answer h text).trans (.of_tokens rfl)
  | interrupt manager => exact grows_retire d manager
  | listen token label acts => exact grows_register d token _

theorem grows_step {d : Desk} (h : d.front.Agrees) (e : Errand) : d.Grows (d.step e).2 := by
  cases e with
  | run listener =>
    cases listener with
    | reject request => exact .of_tokens (tokens_reject d request)
    | custom => exact .of_tokens rfl
  | perform label acts =>
    cases acts with
    | nil => exact .of_tokens rfl
    | cons act acts => exact grows_perform h label act

/-! ## What was shown -/

theorem shown_settle (d : Desk) (r : PendingRequest) (reply : Reply) :
    (d.settle r reply).shown = d.shown := by
  obtain ⟨tasks, eq, -⟩ := settle_shape d r reply
  rw [eq]

theorem shown_dropListener (d : Desk) (r : PendingRequest) : (d.dropListener r).shown = d.shown := by
  obtain ⟨tokens, eq⟩ := dropListener_shape d r
  rw [eq]

/-! ## The replies -/

theorem replies_showHead (d : Desk) : d.showHead.replies = d.replies := by
  obtain ⟨active, shown, eq⟩ := showHead_shape d
  rw [eq]

theorem replies_hide (d : Desk) (wasActive : Bool) : (d.hide wasActive).replies = d.replies := by
  obtain ⟨shown, eq⟩ := hide_shape d wasActive
  rw [eq]

theorem replies_dropListener (d : Desk) (r : PendingRequest) :
    (d.dropListener r).replies = d.replies := by
  obtain ⟨tokens, eq⟩ := dropListener_shape d r
  rw [eq]

theorem replies_settle (d : Desk) (r : PendingRequest) (reply : Reply) :
    (d.settle r reply).replies = d.replies ++ [(r.id, reply)] := by
  obtain ⟨tasks, eq, -⟩ := settle_shape d r reply
  rw [eq]

theorem replies_take {d : Desk} {id : Nat} {r : PendingRequest} {rest : Desk}
    (h : d.take? id = some (r, rest)) : rest.replies = d.replies := by
  obtain ⟨active, rfl⟩ := take_shape h
  rfl

theorem replies_withdraw (d : Desk) (id : Nat) : (d.withdraw id).replies = d.replies := by
  unfold withdraw
  split
  · rfl
  · rename_i taken
    rw [replies_showHead, replies_hide, replies_dropListener, replies_take taken]

theorem replies_served (d : Desk) (r : PendingRequest) (rest : List PendingRequest)
    (text : String) : (d.served r rest text).replies = d.replies ++ [(r.id, .line text)] := by
  have dropped := replies_dropListener { d with active := none, queue := rest } r
  have settled := replies_settle (({ d with active := none, queue := rest }).dropListener r) r
    (.line text)
  rwa [dropped] at settled

theorem replies_register (d : Desk) (token : Nat) (listener : Listener) :
    (d.register token listener).2.2.replies = d.replies := by
  obtain ⟨tokens, eq⟩ := register_shape d token listener
  rw [eq]

theorem replies_retire (d : Desk) (manager : Nat) : (d.retire manager).2.replies = d.replies := by
  obtain ⟨tokens, managers, tasks, eq, -⟩ := retire_shape d manager
  rw [eq]

/-! ## The managers -/

theorem managers_showHead (d : Desk) : d.showHead.managers = d.managers := by
  obtain ⟨active, shown, eq⟩ := showHead_shape d
  rw [eq]

theorem managers_hide (d : Desk) (wasActive : Bool) : (d.hide wasActive).managers = d.managers := by
  obtain ⟨shown, eq⟩ := hide_shape d wasActive
  rw [eq]

theorem managers_settle (d : Desk) (r : PendingRequest) (reply : Reply) :
    (d.settle r reply).managers = d.managers := by
  obtain ⟨tasks, eq, -⟩ := settle_shape d r reply
  rw [eq]

theorem managers_dropListener (d : Desk) (r : PendingRequest) :
    (d.dropListener r).managers = d.managers := by
  obtain ⟨tokens, eq⟩ := dropListener_shape d r
  rw [eq]

theorem managers_take {d : Desk} {id : Nat} {r : PendingRequest} {rest : Desk}
    (h : d.take? id = some (r, rest)) : rest.managers = d.managers := by
  obtain ⟨active, rfl⟩ := take_shape h
  rfl

theorem managers_withdraw (d : Desk) (id : Nat) : (d.withdraw id).managers = d.managers := by
  unfold withdraw
  split
  · rfl
  · rename_i taken
    rw [managers_showHead, managers_hide, managers_dropListener, managers_take taken]

theorem managers_answer (d : Desk) (text : String) :
    (d.answer text).2.managers = d.managers := by
  unfold answer
  split
  · rfl
  · dsimp only
    split
    · split
      · exact (managers_showHead _).trans ((managers_settle ..).trans (managers_dropListener ..))
      · rfl
    · rfl

theorem managers_fetch {d : Desk} {id : Nat} {reply : Reply} {rest : Desk}
    (h : d.fetch? id = some (reply, rest)) : rest.managers = d.managers := by
  rw [fetch_shape h]

theorem managers_enqueue {d : Desk} {token : Nat} (alive : d.isAborted token = false)
    (prompt : String) (task : Option Nat) :
    (d.enqueue prompt token task).2.managers = d.managers := by
  unfold enqueue register
  dsimp only
  split
  · rw [runAll_nil]
    exact managers_showHead _
  · rename_i t found
    have live : t.aborted = false := (isAborted_eq found).symm.trans alive
    rw [live, if_neg Bool.false_ne_true, runAll_nil]
    exact managers_showHead _

/-! ## Polling -/

/-- What polling a task does. -/
inductive Polled (d : Desk) (k : Nat) (task : Task) : Poll → Desk → Prop where
  | refused (prompt : String) : task.stage = .unpolled → task.kind = .request prompt →
      d.isAborted task.token = true →
      Polled d k task (.settled .cancelled) (d.setStage k .ended)
  | joins (prompt : String) (t : Token) : task.stage = .unpolled → task.kind = .request prompt →
      d.tokens[task.token]? = some t → t.aborted = false →
      Polled d k task .pending ((d.joined prompt task.token t.nextKey (some k)).showHead.setStage k
        (.queued d.nextRequest))
  | watches : task.stage = .unpolled → task.kind = .wait → d.isAborted task.token = false →
      Polled d k task .pending (d.watch k task.token)
  | told : task.stage = .unpolled ∧ task.kind = .wait ∨ task.stage = .watching →
      d.isAborted task.token = true → Polled d k task .aborted (d.setStage k .ended)
  | fetches (id : Nat) (reply : Reply) (rest : Desk) : task.stage = .queued id →
      d.fetch? id = some (reply, rest) →
      Polled d k task (.settled reply) (rest.setStage k .ended)
  | waits (id : Nat) : task.stage = .queued id → d.fetch? id = none → Polled d k task .pending d
  | watching : task.stage = .watching → d.isAborted task.token = false →
      Polled d k task .pending d
  | gone : task.stage = .ended → Polled d k task .gone d

theorem polled_pollStage {d : Desk} (k : Nat) {task : Task}
    (exist : task.token < d.tokens.length) :
    Polled d k task (d.pollStage k task).1 (d.pollStage k task).2 := by
  have ht : d.tokens[task.token]? = some d.tokens[task.token] := List.getElem?_eq_getElem exist
  unfold pollStage
  split
  · rename_i prompt stage kind
    split
    · rename_i aborted
      exact .refused prompt stage kind aborted
    · rename_i alive
      rw [isAborted_eq ht, Bool.not_eq_true] at alive
      rw [enqueue_eq ht alive]
      exact .joins prompt _ stage kind ht alive
  · rename_i stage kind
    split
    · rename_i aborted
      exact .told (.inl ⟨stage, kind⟩) aborted
    · rename_i alive
      exact .watches stage kind (by simpa using alive)
  · rename_i id stage
    split
    · rename_i reply rest fetched
      exact .fetches id reply rest stage fetched
    · rename_i none
      exact .waits id stage none
  · rename_i stage
    split
    · rename_i aborted
      exact .told (.inr stage) aborted
    · rename_i alive
      exact .watching stage (by simpa using alive)
  · rename_i stage
    exact .gone stage

/-- The desk once a task answers the call that woke it. -/
def unwoken (d : Desk) (k : Nat) : Desk :=
  { d with tasks := d.tasks.modify k ({ · with woken := false }) }

theorem works_unwoken (d : Desk) (k : Nat) : (d.unwoken k).works = d.works := by
  apply List.ext_getElem?
  intro i
  simp only [works, unwoken, List.getElem?_map, List.getElem?_modify]
  split <;> simp [Function.comp_def]

/-- A poll finds a task, or nothing is left to poll. -/
theorem poll_cases {d : Desk} (held : ∀ task ∈ d.works, task.token < d.tokens.length) (k : Nat) :
    (∀ task, d.works[k]? = some task → task.stage = .ended) ∧ d.poll k = (.gone, d) ∨
    ∃ task, d.works[k]? = some task ∧ task.stage ≠ .ended ∧
      Polled (d.unwoken k) k task (d.poll k).1 (d.poll k).2 := by
  unfold poll
  split
  · rename_i none
    refine .inl ⟨fun task there => ?_, rfl⟩
    simp [works, none] at there
  · rename_i task found
    have there : d.works[k]? = some { task with woken := false } := by simp [works, found]
    split
    · rename_i stage
      refine .inl ⟨fun task' there' => ?_, rfl⟩
      rw [there, Option.some.injEq] at there'
      rw [← there', stage]
    · rename_i stage
      refine .inr ⟨_, there, stage, ?_⟩
      exact polled_pollStage k (held _ (List.mem_of_getElem? there))

end Desk

end ScriptSession
