import ScriptSession.Proofs.Desk.Settlement

/-!
# Who is called for

A task that waits is called for in two ways: a settled request calls for its task, and an abort for
everyone on the token's list. `Desk.Alert` compares who was called for with what a poll would find.
Every call at the desk keeps it: a request is settled (`Alert.settle`), a token is aborted
(`Alert.abort`), or a task goes on to another stage (`Alert.ask`, `Alert.watch`, `Alert.finish`).
-/
namespace ScriptSession

/-- A stage in which a task waits. -/
def Stage.waits : Stage → Bool
  | .queued _ | .watching => true
  | .unpolled | .ended => false

namespace Desk

/-- The poll was the last one. -/
def Poll.completes : Poll → Bool
  | .settled _ | .aborted => true
  | .pending | .gone => false

/-- Whether a task was called for since its last poll. -/
def woken (d : Desk) (k : Nat) : Bool := (d.tasks[k]?).any (·.woken)

/-- The tasks that an abort of the token calls for. -/
def waiters (d : Desk) (token : Nat) : List Nat := ((d.tokens[token]?).map (·.waiting)).getD []

/-- A poll of the task would be its last one. -/
def ready (d : Desk) (task : Task) : Bool :=
  match task.stage with
  | .queued id => d.replies.any (·.1 == id)
  | .watching => d.isAborted task.token
  | .unpolled | .ended => false

structure Alert (d : Desk) : Prop where
  called : ∀ k task, d.works[k]? = some task → task.stage ≠ .ended → d.woken k = d.ready task
  heard : ∀ k task, d.works[k]? = some task → task.stage = .watching →
    d.isAborted task.token = false → k ∈ d.waiters task.token
  known : ∀ token, ∀ k ∈ d.waiters token, ∃ task, d.works[k]? = some task ∧
    task.token = token ∧ (task.stage = .watching ∨ task.stage = .ended)

/-! ## Who was called for -/

section

variable {d e : Desk}

theorem woken_congr (h : e.tasks = d.tasks) (k : Nat) : e.woken k = d.woken k := by
  rw [woken, woken, h]

theorem waiters_congr (h : e.tokens = d.tokens) (token : Nat) :
    e.waiters token = d.waiters token := by
  rw [waiters, waiters, h]

theorem woken_wake (d : Desk) (k j : Nat) :
    (d.wake k).woken j = if k = j then (d.works[j]?).isSome else d.woken j := by
  simp only [woken, wake, works, List.getElem?_modify, List.getElem?_map]
  by_cases same : k = j
  · subst same
    cases d.tasks[k]? <;> simp
  · cases d.tasks[j]? <;> simp [same]

/-- An abort calls for everyone on the list. -/
theorem woken_foldl_wake (d : Desk) (tasks : List Nat) (k : Nat) :
    (tasks.foldl wake d).woken k =
      if k ∈ tasks then (d.works[k]?).isSome else d.woken k := by
  induction tasks generalizing d with
  | nil => simp
  | cons j rest ih =>
    rw [List.foldl_cons, ih, works_wake, woken_wake]
    by_cases later : k ∈ rest
    · simp [later]
    · by_cases same : j = k
      · simp [same]
      · simp [later, same, Ne.symm same]

theorem woken_setStage (d : Desk) (k : Nat) (stage : Stage) (j : Nat) :
    (d.setStage k stage).woken j = d.woken j := by
  simp only [woken, setStage, List.getElem?_modify]
  split <;> cases d.tasks[j]? <;> rfl

theorem woken_unwoken (d : Desk) (k j : Nat) :
    (d.unwoken k).woken j = if k = j then false else d.woken j := by
  simp only [woken, unwoken, List.getElem?_modify]
  by_cases same : k = j
  · cases d.tasks[j]? <;> simp [same]
  · simp [same]

theorem tasks_showHead (d : Desk) : d.showHead.tasks = d.tasks := by
  obtain ⟨active, shown, eq⟩ := showHead_shape d
  rw [eq]

theorem tasks_hide (d : Desk) (wasActive : Bool) : (d.hide wasActive).tasks = d.tasks := by
  obtain ⟨shown, eq⟩ := hide_shape d wasActive
  rw [eq]

theorem tasks_dropListener (d : Desk) (r : PendingRequest) :
    (d.dropListener r).tasks = d.tasks := by
  obtain ⟨tokens, eq⟩ := dropListener_shape d r
  rw [eq]

theorem tasks_take {id : Nat} {r : PendingRequest} {rest : Desk}
    (h : d.take? id = some (r, rest)) : rest.tasks = d.tasks := by
  obtain ⟨active, rfl⟩ := take_shape h
  rfl

theorem tasks_register (d : Desk) (token : Nat) (listener : Listener) :
    (d.register token listener).2.2.tasks = d.tasks := by
  obtain ⟨tokens, eq⟩ := register_shape d token listener
  rw [eq]

theorem tasks_withdraw (d : Desk) (id : Nat) : (d.withdraw id).tasks = d.tasks := by
  unfold withdraw
  split
  · rfl
  · rename_i taken
    rw [tasks_showHead, tasks_hide, tasks_dropListener, tasks_take taken]

theorem woken_settle {r : PendingRequest} {k : Nat} (task : r.task = some k) (d : Desk)
    (reply : Reply) (j : Nat) :
    (d.settle r reply).woken j = if k = j then (d.works[j]?).isSome else d.woken j := by
  simp only [settle, task]
  exact woken_wake { d with replies := d.replies ++ [(r.id, reply)] } k j

/-! ## Who waits where -/

/-- No token is aborted, and on no list does anyone come or go. -/
def Rests (d e : Desk) : Prop :=
  ∀ i, e.isAborted i = d.isAborted i ∧ e.waiters i = d.waiters i

theorem Rests.of_tokens (h : e.tokens = d.tokens) : d.Rests e := fun i =>
  ⟨isAborted_congr h i, waiters_congr h i⟩

theorem Rests.trans {g : Desk} (first : d.Rests e) (second : e.Rests g) : d.Rests g := fun i =>
  ⟨(second i).1.trans (first i).1, (second i).2.trans (first i).2⟩

theorem waiters_modifyToken (d : Desk) (token i : Nat) {f : Token → Token}
    (g : List Nat → List Nat) (changed : ∀ t, (f t).waiting = g t.waiting) (none : g [] = []) :
    (d.modifyToken token f).waiters i = if token = i then g (d.waiters i) else d.waiters i := by
  simp only [waiters, tokens_modifyToken]
  split
  · cases d.tokens[i]? <;> simp [changed, none]
  · rfl

theorem rests_modifyToken (d : Desk) (token : Nat) {f : Token → Token}
    (kept : ∀ t, (f t).aborted = t.aborted ∧ (f t).waiting = t.waiting) :
    d.Rests (d.modifyToken token f) := by
  intro i
  refine ⟨isAborted_modifyToken d token i fun t => (kept t).1, ?_⟩
  exact (waiters_modifyToken d token i id (fun t => (kept t).2) rfl).trans (ite_self _)

theorem rests_dropListener (d : Desk) (r : PendingRequest) : d.Rests (d.dropListener r) := by
  unfold dropListener
  split
  · exact rests_modifyToken d _ fun _ => ⟨rfl, rfl⟩
  · exact .of_tokens rfl

theorem rests_register (d : Desk) (token : Nat) (listener : Listener) :
    d.Rests (d.register token listener).2.2 := by
  unfold register
  split
  · exact .of_tokens rfl
  · split <;> exact rests_modifyToken d token fun _ => ⟨rfl, rfl⟩

theorem rests_withdraw (d : Desk) (id : Nat) : d.Rests (d.withdraw id) := by
  unfold withdraw
  split
  · exact .of_tokens rfl
  · rename_i r rest taken
    refine (Rests.of_tokens (tokens_take taken)).trans ((rests_dropListener rest r).trans ?_)
    exact .of_tokens (by rw [tokens_showHead, tokens_hide])

theorem rests_fresh (d : Desk) (generation : Nat) (managers : List Manager) :
    d.Rests { d with tokens := d.tokens ++ [{ generation := generation }], managers := managers } := by
  intro i
  simp only [isAborted, waiters, List.getElem?_append]
  split
  · exact ⟨rfl, rfl⟩
  · rename_i beyond
    rw [List.getElem?_eq_none (Nat.le_of_not_lt beyond)]
    cases found : [({ generation := generation } : Token)][i - d.tokens.length]? with
    | none => exact ⟨rfl, rfl⟩
    | some t =>
      cases List.mem_singleton.mp (List.mem_of_getElem? found)
      exact ⟨rfl, rfl⟩

end

/-! ## Calls keep everyone alert -/

theorem ready_congr {d e : Desk} {task : Task}
    (replies : ∀ id, task.stage = .queued id →
      e.replies.any (·.1 == id) = d.replies.any (·.1 == id))
    (aborted : task.stage = .watching → e.isAborted task.token = d.isAborted task.token) :
    e.ready task = d.ready task := by
  unfold ready
  split
  · rename_i id queued
    exact replies id queued
  · rename_i watching
    exact aborted watching
  · rfl
  · rfl

namespace Alert

variable {d e : Desk} {k : Nat}

/-- Lists and stages are the same, so only who was called for is left to look at. -/
theorem of_rests (h : d.Alert) (rests : d.Rests e) (works : e.works = d.works)
    (called : ∀ j task, d.works[j]? = some task → task.stage ≠ .ended →
      e.woken j = e.ready task) : e.Alert where
  called j task there going := by
    rw [works] at there
    exact called j task there going
  heard j task there watching alive := by
    rw [works] at there
    rw [(rests task.token).1] at alive
    rw [(rests task.token).2]
    exact h.heard j task there watching alive
  known token j mem := by
    rw [(rests token).2] at mem
    rw [works]
    exact h.known token j mem

theorem keep (h : d.Alert) (rests : d.Rests e) (woken : ∀ j, e.woken j = d.woken j)
    (replies : e.replies = d.replies) (works : e.works = d.works) : e.Alert := by
  refine h.of_rests rests works fun j task there going => ?_
  rw [woken, h.called j task there going]
  exact (ready_congr (fun id _ => by rw [replies]) fun _ => (rests task.token).1).symm

/-- A settled request calls for its task. -/
theorem settle (h : d.Alert) {id : Nat} (reply : Reply) (waits : d.stage? k = some (.queued id))
    (alone : ∀ j, d.stage? j = some (.queued id) → j = k) (rests : d.Rests e)
    (woken : ∀ j, e.woken j = if k = j then (d.works[j]?).isSome else d.woken j)
    (replies : e.replies = d.replies ++ [(id, reply)]) (works : e.works = d.works) : e.Alert := by
  refine h.of_rests rests works fun j task there going => ?_
  have stage : d.stage? j = some task.stage := by rw [stage_works, there]; rfl
  rw [woken]
  by_cases same : k = j
  · subst same
    have queued : task.stage = .queued id := Option.some.inj (stage.symm.trans waits)
    simp [there, ready, queued, replies]
  · rw [if_neg same, h.called j task there going]
    refine (ready_congr (fun id' queued => ?_) fun _ => (rests task.token).1).symm
    have other : id ≠ id' := by
      rintro rfl
      exact same (alone j (stage.trans (congrArg some queued))).symm
    simp [replies, other]

/-- An abort calls for everyone on the token's list, and clears it. -/
theorem abort (h : d.Alert) {token : Nat} (alive : d.isAborted token = false)
    (aborted : ∀ i, e.isAborted i = if token = i then true else d.isAborted i)
    (waiters : ∀ i, e.waiters i = if token = i then [] else d.waiters i)
    (woken : ∀ j, e.woken j = if j ∈ d.waiters token then (d.works[j]?).isSome else d.woken j)
    (replies : e.replies = d.replies) (works : e.works = d.works) : e.Alert where
  called j task there going := by
    rw [works] at there
    rw [woken]
    by_cases listed : j ∈ d.waiters token
    · obtain ⟨task', there', same, stage⟩ := h.known token j listed
      rw [there, Option.some.injEq] at there'
      subst there'
      have watching := stage.resolve_right going
      simp [listed, there, ready, watching, aborted, same]
    · rw [if_neg listed, h.called j task there going]
      refine (ready_congr (fun id _ => by rw [replies]) fun watching => ?_).symm
      rw [aborted, if_neg]
      rintro rfl
      exact listed (h.heard j task there watching alive)
  heard j task there watching alive' := by
    rw [works] at there
    rw [aborted] at alive'
    rw [waiters]
    by_cases same : token = task.token
    · simp [same] at alive'
    · rw [if_neg same] at alive' ⊢
      exact h.heard j task there watching alive'
  known i j mem := by
    rw [waiters] at mem
    rw [works]
    split at mem
    · cases mem
    · exact h.known i j mem

/-- A task goes on to a stage that fits who was called for. The others are left alone. -/
theorem move (h : d.Alert) {stage : Stage}
    (works : e.works = d.works.modify k ({ · with stage := stage }))
    (woken : ∀ j, j ≠ k → e.woken j = d.woken j)
    (replies : ∀ j id, j ≠ k → d.stage? j = some (.queued id) →
      e.replies.any (·.1 == id) = d.replies.any (·.1 == id))
    (aborted : ∀ i, e.isAborted i = d.isAborted i)
    (stays : ∀ i j, j ≠ k → (j ∈ e.waiters i ↔ j ∈ d.waiters i))
    (called : ∀ task, d.works[k]? = some task → stage ≠ .ended →
      e.woken k = e.ready { task with stage := stage })
    (heard : ∀ task, d.works[k]? = some task → stage = .watching →
      d.isAborted task.token = false → k ∈ e.waiters task.token)
    (known : ∀ i, k ∈ e.waiters i → ∃ task, d.works[k]? = some task ∧ task.token = i ∧
      (stage = .watching ∨ stage = .ended)) : e.Alert where
  called j task there going := by
    rw [works, List.getElem?_modify] at there
    obtain ⟨old, before, rfl⟩ := Option.map_eq_some_iff.mp there
    by_cases same : k = j
    · subst same
      simp only [if_true] at going ⊢
      exact called old before going
    · simp only [same, if_false] at going ⊢
      rw [woken j (Ne.symm same), h.called j old before going]
      refine (ready_congr (fun id queued => ?_) fun _ => aborted old.token).symm
      exact replies j id (Ne.symm same) (by rw [stage_works, before]; exact congrArg some queued)
  heard j task there watching alive := by
    rw [works, List.getElem?_modify] at there
    obtain ⟨old, before, rfl⟩ := Option.map_eq_some_iff.mp there
    by_cases same : k = j
    · subst same
      simp only [if_true] at watching alive ⊢
      exact heard old before watching (aborted old.token ▸ alive)
    · simp only [same, if_false] at watching alive ⊢
      exact (stays _ j (Ne.symm same)).mpr
        (h.heard j old before watching (aborted old.token ▸ alive))
  known i j mem := by
    rw [works, List.getElem?_modify]
    by_cases same : k = j
    · subst same
      obtain ⟨task, there, token, stage⟩ := known i mem
      exact ⟨_, by rw [there]; rfl, by simpa using token, by simpa using stage⟩
    · obtain ⟨task, there, token, stage⟩ := h.known i j ((stays i j (Ne.symm same)).mp mem)
      exact ⟨task, by simp [there, same], token, stage⟩

/-- A task ends. -/
theorem finish (h : d.Alert) (works : e.works = d.works.modify k ({ · with stage := .ended }))
    (woken : ∀ j, j ≠ k → e.woken j = d.woken j)
    (replies : ∀ j id, j ≠ k → d.stage? j = some (.queued id) →
      e.replies.any (·.1 == id) = d.replies.any (·.1 == id))
    (aborted : ∀ i, e.isAborted i = d.isAborted i)
    (stays : ∀ i j, j ≠ k → (j ∈ e.waiters i ↔ j ∈ d.waiters i))
    (left : ∀ i, k ∈ e.waiters i → k ∈ d.waiters i) : e.Alert := by
  refine h.move works woken replies aborted stays (by simp) (by simp) fun i mem => ?_
  obtain ⟨task, there, token, -⟩ := h.known i k (left i mem)
  exact ⟨task, there, token, .inr rfl⟩

/-- Nobody is on a list before the first poll. -/
theorem unlisted (h : d.Alert) {task : Task} (there : d.works[k]? = some task)
    (unpolled : task.stage = .unpolled) (token : Nat) : k ∉ d.waiters token := by
  intro mem
  obtain ⟨task', there', -, stage⟩ := h.known token k mem
  rw [Option.some.inj (there'.symm.trans there), unpolled] at stage
  rcases stage with watching | ended <;> contradiction

/-- A task waits for a request that is new, and so is not settled. -/
theorem ask (h : d.Alert) {task : Task} (there : d.works[k]? = some task)
    (unpolled : task.stage = .unpolled) (id : Nat) (new : ∀ entry ∈ d.replies, entry.1 ≠ id)
    (works : e.works = d.works.modify k ({ · with stage := .queued id }))
    (woken : ∀ j, e.woken j = if k = j then false else d.woken j)
    (replies : e.replies = d.replies) (rests : d.Rests e) : e.Alert := by
  refine h.move works (fun j ne => ?_) (fun _ _ _ _ => by rw [replies]) (fun i => (rests i).1)
    (fun i j _ => by rw [(rests i).2]) (fun _ _ _ => ?_) (by simp) fun i mem => ?_
  · rw [woken, if_neg (Ne.symm ne)]
  · rw [woken, if_pos rfl]
    simpa [ready, replies] using new
  · rw [(rests i).2] at mem
    exact absurd mem (h.unlisted there unpolled i)

/-- A task puts itself on the list of its token, which is not aborted. -/
theorem watch (h : d.Alert) {task : Task} (there : d.works[k]? = some task)
    (unpolled : task.stage = .unpolled) (alive : d.isAborted task.token = false)
    (works : e.works = d.works.modify k ({ · with stage := .watching }))
    (woken : ∀ j, e.woken j = if k = j then false else d.woken j)
    (replies : e.replies = d.replies) (aborted : ∀ i, e.isAborted i = d.isAborted i)
    (waiters : ∀ i, e.waiters i = if task.token = i then d.waiters i ++ [k] else d.waiters i) :
    e.Alert := by
  have own : ∀ task', d.works[k]? = some task' → task' = task := fun task' there' =>
    Option.some.inj (there'.symm.trans there)
  refine h.move works (fun j ne => ?_) (fun _ _ _ _ => by rw [replies]) aborted
    (fun i j ne => ?_) (fun task' there' _ => ?_) (fun task' there' _ _ => ?_) fun i mem => ?_
  · rw [woken, if_neg (Ne.symm ne)]
  · rw [waiters]
    split <;> simp [ne]
  · rw [woken, if_pos rfl, own task' there']
    exact ((aborted task.token).trans alive).symm
  · rw [own task' there', waiters, if_pos rfl]
    simp
  · rw [waiters] at mem
    split at mem
    · rename_i same
      exact ⟨task, there, same, .inl rfl⟩
    · exact absurd mem (h.unlisted there unpolled i)

end Alert

section

variable {d e : Desk} {log : List (Nat × Reply)} {k : Nat}

/-- Only one task waits for a request, so nobody else misses its reply. -/
theorem any_eraseP (books : d.Books log) {id : Nat} (waits : d.stage? k = some (.queued id)) {j id' : Nat}
    (other : j ≠ k) (waits' : d.stage? j = some (.queued id')) :
    (d.replies.eraseP (·.1 == id)).any (·.1 == id') = d.replies.any (·.1 == id') := by
  have ne : id' ≠ id := by
    rintro rfl
    exact other (books.alone j k id' waits' waits)
  rw [Bool.eq_iff_iff, List.any_eq_true, List.any_eq_true]
  constructor
  · rintro ⟨entry, mem, same⟩
    exact ⟨entry, List.mem_of_mem_eraseP mem, same⟩
  · rintro ⟨entry, mem, same⟩
    have own : entry.1 = id' := by simpa using same
    refine ⟨entry, (List.mem_eraseP_of_neg ?_).mpr mem, same⟩
    simpa [own] using ne

theorem alert_reject (h : d.Alert) (books : d.Books log) (id : Nat) : (d.reject id).Alert := by
  unfold reject
  split
  · exact h
  · rename_i r rest taken
    obtain ⟨mem, rfl, -⟩ := take_eq_some taken
    obtain ⟨k, task, waits⟩ := books.owned r mem
    refine h.settle .cancelled waits (fun j waits' => books.alone j k r.id waits' waits)
      (.of_tokens ?_) (fun j => ?_) ?_ ?_
    · rw [Desk.tokens_showHead, tokens_hide, tokens_settle, tokens_take taken]
    · rw [woken_congr (Desk.tasks_showHead _), woken_congr (tasks_hide _ _), woken_settle task,
        works_take taken, woken_congr (tasks_take taken)]
    · rw [replies_showHead, replies_hide, replies_settle, replies_take taken]
    · rw [works_showHead, works_hide, works_settle, works_take taken]

theorem alert_answer (h : d.Alert) (books : d.Books log) (agrees : d.front.Agrees) (text : String) :
    (d.answer text).2.Alert := by
  rcases answer_cases agrees text with ⟨-, -, refused⟩ | ⟨r, rest, queue, active, -, accepted⟩
  · rw [refused]
    exact h
  · obtain ⟨k, task, waits⟩ := books.owned r (by simp [queue])
    rw [accepted]
    refine h.settle (.line text) waits
      (fun j waits' => books.alone j k r.id waits' waits) ?_ (fun j => ?_) ?_ ?_
    · refine (rests_dropListener d r).trans (.of_tokens ?_)
      rw [Desk.tokens_showHead, tokens_served]
    · have dropped := tasks_dropListener { d with active := none, queue := rest } r
      have works := works_dropListener { d with active := none, queue := rest } r
      rw [woken_congr (Desk.tasks_showHead _)]
      refine (woken_settle task _ (.line text) j).trans ?_
      rw [works, woken_congr dropped]
      rfl
    · rw [replies_showHead, replies_served]
    · rw [works_showHead, works_served]

/-- The abort of a token: its list is cleared, and everyone on it called for. -/
theorem alert_abort {token : Nat} {t : Token} (h : d.Alert) (there : d.tokens[token]? = some t)
    (alive : t.aborted = false) : Alert (t.waiting.foldl wake
      (d.modifyToken token ({ · with aborted := true, listeners := [], waiting := [] }))) := by
  obtain ⟨tasks, shape, works⟩ := wake_shape
    (d.modifyToken token ({ · with aborted := true, listeners := [], waiting := [] })) t.waiting
  refine h.abort ((isAborted_eq there).trans alive) (fun i => ?_) (fun i => ?_)
    (fun j => ?_) ?_ works
  · rw [isAborted_congr (tokens_foldl_wake ..), isAborted, tokens_modifyToken]
    split
    · rename_i own
      simp [← own, there]
    · rfl
  · rw [waiters_congr (tokens_foldl_wake ..)]
    exact waiters_modifyToken d token i (fun _ => []) (fun _ => rfl) rfl
  · have listed : d.waiters token = t.waiting := by simp [waiters, there]
    rw [woken_foldl_wake, listed]
    rfl
  · rw [shape]
    rfl

theorem alert_retire (h : d.Alert) (manager : Nat) : (d.retire manager).2.Alert := by
  unfold retire
  split
  · exact h
  · rename_i m _
    simp only
    have fresh : Alert { d with
        tokens := d.tokens ++ [{ generation := m.nextGeneration }]
        managers := d.managers.set manager
          { current := d.tokens.length, nextGeneration := m.nextGeneration + 1 } } :=
      h.keep (rests_fresh d _ _) (fun _ => rfl) rfl rfl
    split
    · exact fresh
    · rename_i t there
      split
      · exact fresh
      · rename_i alive
        exact alert_abort fresh there (by simpa using alive)

/-- A poll that finds nothing new changes nothing about who was called for. -/
theorem alert_unwoken {task : Task} (h : d.Alert) (there : d.works[k]? = some task)
    (going : task.stage ≠ .ended) (early : d.ready task = false) : (d.unwoken k).Alert := by
  refine h.keep (.of_tokens rfl) (fun j => ?_) rfl (works_unwoken d k)
  rw [woken_unwoken]
  split
  · rename_i same
    rw [← same, h.called k task there going, early]
  · rfl

/-- The task leaves word with its token. -/
theorem waiters_watch {token : Nat} (exist : token < d.tokens.length) (i : Nat) :
    (d.watch k token).waiters i = if token = i then d.waiters i ++ [k] else d.waiters i := by
  simp only [watch, setStage, waiters, tokens_modifyToken]
  split
  · rename_i same
    subst same
    simp [List.getElem?_eq_getElem exist]
  · rfl

theorem isAborted_watch (d : Desk) (k token i : Nat) :
    (d.watch k token).isAborted i = d.isAborted i :=
  isAborted_modifyToken d token i fun _ => rfl

theorem fetch_isSome (d : Desk) (id : Nat) :
    (d.fetch? id).isSome = d.replies.any (·.1 == id) := by
  unfold fetch?
  split
  · rename_i found
    exact (List.any_eq_true.mpr ⟨_, List.mem_of_find?_eq_some found, List.find?_some found⟩).symm
  · rename_i none
    exact (List.any_eq_false.mpr (List.find?_eq_none.mp none)).symm

/-- A task that waits is polled for the last time exactly if it is ready. -/
theorem polled_completes {task : Task} {found : Poll} (waits : task.stage.waits)
    (polled : Polled (d.unwoken k) k task found e) : found.completes = d.ready task := by
  cases polled with
  | refused _ unpolled | joins _ _ unpolled | watches unpolled => simp [unpolled, Stage.waits] at waits
  | gone ended => simp [ended, Stage.waits] at waits
  | told before aborted =>
    rcases before with ⟨unpolled, -⟩ | watching
    · simp [unpolled, Stage.waits] at waits
    · simp only [ready, watching]
      exact aborted.symm
  | fetches id reply rest queued fetched =>
    simp only [ready, queued]
    exact (congrArg Option.isSome fetched).symm.trans (fetch_isSome (d.unwoken k) id)
  | waits id queued none =>
    simp only [ready, queued]
    exact (congrArg Option.isSome none).symm.trans (fetch_isSome (d.unwoken k) id)
  | watching watching alive =>
    simp only [ready, watching]
    exact alive.symm

theorem alert_polled {task : Task} {found : Poll} (h : d.Alert) (books : d.Books log)
    (exist : task.token < d.tokens.length) (there : d.works[k]? = some task)
    (going : task.stage ≠ .ended) (polled : Polled (d.unwoken k) k task found e) : e.Alert := by
  have works := works_unwoken d k
  have woken := woken_unwoken d k
  have others : ∀ j, j ≠ k → (d.unwoken k).woken j = d.woken j := by
    intro j ne
    rw [woken, if_neg (Ne.symm ne)]
  cases polled with
  | refused | told =>
    refine h.finish (k := k) ?_ (fun j ne => ?_) (fun _ _ _ _ => rfl) (fun _ => rfl)
      (fun _ _ _ => .rfl) fun _ => id
    · rw [works_setStage, works]
    · rw [woken_setStage, others j ne]
  | fetches id reply rest queued fetched =>
    have stage : d.stage? k = some (.queued id) := by
      rw [stage_works, there]
      exact congrArg some queued
    have shape := fetch_shape fetched
    subst shape
    refine h.finish (k := k) ?_ (fun j ne => ?_) (fun j id' ne waits => ?_) (fun _ => rfl)
      (fun _ _ _ => .rfl) fun _ mem => mem
    · rw [works_setStage]
      exact congrArg (·.modify k ({ · with stage := .ended })) works
    · rw [woken_setStage]
      exact others j ne
    · exact any_eraseP books stage ne waits
  | joins prompt t unpolled =>
    have replies := replies_showHead ((d.unwoken k).joined prompt task.token t.nextKey (some k))
    have tokens := Desk.tokens_showHead ((d.unwoken k).joined prompt task.token t.nextKey (some k))
    refine h.ask there unpolled d.nextRequest (fun entry mem => ?_) ?_ (fun j => ?_)
      replies ?_
    · exact Nat.ne_of_lt (books.left entry (books.replied.subset mem)).1
    · rw [works_setStage, works_showHead]
      exact congrArg (·.modify k ({ · with stage := .queued d.nextRequest })) works
    · rw [woken_setStage, woken_congr (Desk.tasks_showHead _)]
      exact woken j
    · refine (rests_modifyToken d task.token ?_).trans (.of_tokens tokens)
      exact fun _ => ⟨rfl, rfl⟩
  | watches unpolled kind alive =>
    refine h.watch there unpolled alive ?_ (fun j => ?_) rfl
      (isAborted_watch (d.unwoken k) k task.token)
      (waiters_watch (d := d.unwoken k) (k := k) exist)
    · rw [Desk.watch, works_setStage]
      exact congrArg (·.modify k ({ · with stage := .watching })) works
    · rw [Desk.watch, woken_setStage]
      exact woken j
  | waits id queued none =>
    have waits : task.stage.waits := by rw [queued]; rfl
    exact alert_unwoken h there going (polled_completes waits (.waits id queued none)).symm
  | watching watching alive =>
    have waits : task.stage.waits := by rw [watching]; rfl
    exact alert_unwoken h there going (polled_completes waits (.watching watching alive)).symm
  | gone ended => exact absurd ended going

theorem alert_dropTask (h : d.Alert) (books : d.Books log) (k : Nat) : (d.dropTask k).Alert := by
  have works := works_dropTask d k
  unfold dropTask at works ⊢
  split
  · exact h
  · rename_i task found
    have stage : d.stage? k = some task.stage := by simp [stage?, found]
    simp only [found] at works
    split
    · rename_i id queued
      simp only [queued] at works
      have rests := rests_withdraw (d.setStage k .ended) id
      refine h.finish works (fun j _ => ?_) (fun j id' ne waits => ?_) (fun i => (rests i).1)
        (fun i j _ => ?_) fun i mem => ?_
      · exact (woken_congr (tasks_withdraw (d.setStage k .ended) id) j).trans (woken_setStage ..)
      · have replies := replies_withdraw (d.setStage k .ended) id
        refine (congrArg (fun r => (r.eraseP (·.1 == id)).any (·.1 == id')) replies).trans ?_
        exact any_eraseP books (stage.trans (congrArg some queued)) ne waits
      · exact iff_of_eq (congrArg (j ∈ ·) (rests i).2)
      · exact (rests i).2 ▸ mem
    · have waiters : ∀ i, Desk.waiters ((d.setStage k .ended).modifyToken task.token fun t =>
          { t with waiting := t.waiting.erase k }) i =
          if task.token = i then (d.waiters i).erase k else d.waiters i := fun i =>
        waiters_modifyToken (d.setStage k .ended) task.token i (·.erase k) (fun _ => rfl) rfl
      refine h.finish (works_setStage ..) (fun j _ => woken_setStage ..) (fun _ _ _ _ => rfl)
        (fun i => isAborted_modifyToken (d.setStage k .ended) task.token i fun _ => rfl)
        (fun i j ne => ?_) fun i mem => ?_
      · rw [waiters]
        split
        · exact List.mem_erase_of_ne ne
        · rfl
      · rw [waiters] at mem
        split at mem
        · exact List.mem_of_mem_erase mem
        · exact mem
    · exact h.finish (works_setStage ..) (fun j _ => woken_setStage ..) (fun _ _ _ _ => rfl)
        (fun _ => rfl) (fun _ _ _ => .rfl) fun _ mem => mem
    · exact h.finish (works_setStage ..) (fun j _ => woken_setStage ..) (fun _ _ _ _ => rfl)
        (fun _ => rfl) (fun _ _ _ => .rfl) fun _ mem => mem

/-- A new task is not called for. -/
theorem woken_addTask (d : Desk) (kind : TaskKind) (token k : Nat) :
    (d.addTask kind token).2.woken k = d.woken k := by
  simp only [woken, addTask, List.getElem?_append]
  split
  · rfl
  · rename_i beyond
    rw [List.getElem?_eq_none (Nat.le_of_not_lt beyond)]
    cases found : [({ kind := kind, token := token } : Task)][k - d.tasks.length]? with
    | none => rfl
    | some task =>
      rw [List.mem_singleton.mp (List.mem_of_getElem? found)]
      rfl

theorem works_addTask (d : Desk) (kind : TaskKind) (token : Nat) :
    (d.addTask kind token).2.works = d.works ++ [{ kind := kind, token := token }] := by
  simp [works, addTask]

theorem alert_addTask (h : d.Alert) (kind : TaskKind) (token : Nat) :
    (d.addTask kind token).2.Alert := by
  have old : ∀ (k : Nat) (task : Task), (d.addTask kind token).2.works[k]? = some task → task.stage ≠ .unpolled →
      d.works[k]? = some task := by
    intro k task there polled
    rw [works_addTask, List.getElem?_append] at there
    split at there
    · exact there
    · have new := List.mem_singleton.mp (List.mem_of_getElem? there)
      exact absurd (congrArg Task.stage new) polled
  refine ⟨fun k task there going => ?_, fun k task there watching alive => ?_,
    fun token k mem => ?_⟩
  · rw [woken_addTask]
    rw [works_addTask, List.getElem?_append] at there
    split at there
    · rw [h.called k task there going]
      exact (ready_congr (fun _ _ => rfl) fun _ => rfl).symm
    · rename_i beyond
      have beyond : d.tasks.length ≤ k := by simpa [works] using beyond
      rw [List.mem_singleton.mp (List.mem_of_getElem? there), woken,
        List.getElem?_eq_none beyond]
      rfl
  · exact h.heard k task (old k task there (by simp [watching])) watching alive
  · obtain ⟨task, there, same, stage⟩ := h.known token k mem
    refine ⟨task, ?_, same, stage⟩
    rw [works_addTask, List.getElem?_append_left (List.getElem?_eq_some_iff.mp there).1, there]

theorem alert_perform (h : d.Alert) (books : d.Books log) (agrees : d.front.Agrees) (label : String)
    (act : Act) : (d.perform label act).2.Alert := by
  cases act with
  | report | note => exact h.keep (.of_tokens rfl) (fun _ => rfl) rfl rfl
  | answer text =>
    exact (alert_answer h books agrees text).keep (.of_tokens rfl) (fun _ => rfl) rfl rfl
  | interrupt manager => exact alert_retire h manager
  | listen token label acts =>
    exact h.keep (rests_register d token _) (woken_congr (tasks_register d token _))
      (replies_register d token _) (works_register d token _)

theorem alert_step (h : d.Alert) (books : d.Books log) (agrees : d.front.Agrees) (e : Errand) :
    (d.step e).2.Alert := by
  cases e with
  | run listener =>
    cases listener with
    | reject id => exact alert_reject h books id
    | custom => exact h
  | perform label acts =>
    cases acts with
    | nil => exact h
    | cons act acts => exact alert_perform h books agrees label act

end

end Desk

end ScriptSession
