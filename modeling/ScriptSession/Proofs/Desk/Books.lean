import ScriptSession.Proofs.Desk.Guards

/-!
# The books of a desk

The log lists every request that was settled, with its reply. `Desk.Books` compares a desk with it:
a settled request has left the queue for good, its reply is the one logged, and a task that waits
for a request finds it in the queue or finds its reply.

Three things happen to a request: it joins the queue (`Books.join`), it is settled
(`Books.settle`), and its task stops waiting, with the reply or without (`Books.leave`). Everything
else keeps the books (`Books.congr`).
-/
namespace ScriptSession

def Reply.isLine : Reply → Bool
  | .line _ => true
  | .cancelled => false

/-- The requests that were answered, in the order of the answers. -/
def answered (log : List (Nat × Reply)) : List Nat :=
  (log.filter (·.2.isLine)).map (·.1)

theorem answered_append (log : List (Nat × Reply)) (id : Nat) (reply : Reply) :
    answered (log ++ [(id, reply)]) = answered log ++ if reply.isLine then [id] else [] := by
  cases reply <;> simp [answered, Reply.isLine]

theorem mem_log_of_answered {log : List (Nat × Reply)} {id : Nat} (mem : id ∈ answered log) :
    ∃ reply, (id, reply) ∈ log := by
  obtain ⟨entry, there, rfl⟩ := List.mem_map.mp mem
  exact ⟨entry.2, (List.mem_filter.mp there).1⟩

namespace Desk

/-- The stage of a task, if there is such a task. -/
def stage? (d : Desk) (k : Nat) : Option Stage := (d.tasks[k]?).map (·.stage)

theorem stage_works (d : Desk) (k : Nat) : d.stage? k = (d.works[k]?).map (·.stage) := by
  simp [stage?, works, Function.comp_def]

theorem stage_congr {d e : Desk} (h : e.works = d.works) (k : Nat) : e.stage? k = d.stage? k := by
  rw [stage_works, stage_works, h]

theorem stage_modify {d e : Desk} {k : Nat} {stage : Stage}
    (h : e.works = d.works.modify k ({ · with stage := stage })) (j : Nat) :
    e.stage? j = if k = j then (d.stage? j).map fun _ => stage else d.stage? j := by
  rw [stage_works, stage_works, h, List.getElem?_modify]
  by_cases same : k = j <;> simp [same, Function.comp_def]

structure Books (d : Desk) (log : List (Nat × Reply)) : Prop where
  once : (log.map (·.1)).Nodup
  left : ∀ entry ∈ log, entry.1 < d.nextRequest ∧ ∀ r ∈ d.queue, r.id ≠ entry.1
  replied : d.replies.Sublist log
  owned : ∀ r ∈ d.queue, ∃ k, r.task = some k ∧ d.stage? k = some (.queued r.id)
  waiting : ∀ k id, d.stage? k = some (.queued id) →
    (∃ r ∈ d.queue, r.id = id) ∨ ∃ reply, (id, reply) ∈ d.replies
  alone : ∀ k j id, d.stage? k = some (.queued id) → d.stage? j = some (.queued id) → k = j
  rising : (answered log).Pairwise (· < ·)
  ahead : ∀ id ∈ answered log, ∀ r ∈ d.queue, id < r.id

namespace Books

variable {d e : Desk} {log : List (Nat × Reply)}

theorem congr (h : d.Books log) (queue : e.queue = d.queue)
    (next : e.nextRequest = d.nextRequest) (replies : e.replies = d.replies)
    (waits : ∀ k id, e.stage? k = some (.queued id) ↔ d.stage? k = some (.queued id)) :
    e.Books log where
  once := h.once
  left := by rw [next, queue]; exact h.left
  replied := by rw [replies]; exact h.replied
  owned := by
    rw [queue]
    intro r mem
    obtain ⟨k, task, waiting⟩ := h.owned r mem
    exact ⟨k, task, (waits k r.id).mpr waiting⟩
  waiting := by
    rw [queue, replies]
    intro k id waiting
    exact h.waiting k id ((waits k id).mp waiting)
  alone k j id hk hj := h.alone k j id ((waits k id).mp hk) ((waits j id).mp hj)
  rising := h.rising
  ahead := by rw [queue]; exact h.ahead

/-- A request in the queue is not settled yet. -/
theorem unsettled (h : d.Books log) {r : PendingRequest} (mem : r ∈ d.queue) (reply : Reply) :
    (r.id, reply) ∉ log := fun logged => (h.left _ logged).2 r mem rfl

/-- A task waits for a request that was queued. -/
theorem number_lt (h : d.Books log) (lined : d.front.Lined) {k id : Nat}
    (waits : d.stage? k = some (.queued id)) : id < d.nextRequest := by
  rcases h.waiting k id waits with ⟨r, mem, rfl⟩ | ⟨reply, mem⟩
  · exact lined.below r mem
  · exact (h.left _ (h.replied.subset mem)).1

/-- One settlement is all that a request gets. -/
theorem reply_unique (h : d.Books log) {id : Nat} {a b : Reply} (ha : (id, a) ∈ log)
    (hb : (id, b) ∈ log) : a = b := by
  have same := List.inj_on_of_nodup_map h.once ha hb rfl
  exact congrArg (·.2) same

/-- A request leaves the queue with a reply. Answers come in the order of the queue. -/
theorem settle (h : d.Books log) (lined : d.front.Lined) {r : PendingRequest}
    (mem : r ∈ d.queue) {reply : Reply}
    (first : reply.isLine = true → ∀ other ∈ d.queue, r.id ≤ other.id)
    (queue : e.queue = d.queue.eraseP (·.id == r.id)) (next : e.nextRequest = d.nextRequest)
    (replies : e.replies = d.replies ++ [(r.id, reply)]) (works : e.works = d.works) :
    e.Books (log ++ [(r.id, reply)]) where
  once := by
    rw [List.map_append, List.nodup_append]
    refine ⟨h.once, by simp, ?_⟩
    intro id logged id' new
    obtain ⟨entry, there, rfl⟩ := List.mem_map.mp logged
    simp only [List.map_cons, List.map_nil, List.mem_singleton] at new
    rw [new]
    exact Ne.symm ((h.left entry there).2 r mem)
  left := by
    intro entry there
    rw [next, queue]
    rcases List.mem_append.mp there with old | new
    · obtain ⟨below, gone⟩ := h.left entry old
      exact ⟨below, fun other mem' => gone other (List.mem_of_mem_eraseP mem')⟩
    · simp only [List.mem_singleton] at new
      subst new
      exact ⟨lined.below r mem, fun other mem' => lined.ne_of_mem_eraseP mem'⟩
  replied := by
    rw [replies]
    exact h.replied.append (List.Sublist.refl _)
  owned := by
    intro other mem'
    rw [queue] at mem'
    obtain ⟨k, task, waits⟩ := h.owned other (List.mem_of_mem_eraseP mem')
    exact ⟨k, task, (stage_congr works k).trans waits⟩
  waiting := by
    intro k id waits
    rw [stage_congr works] at waits
    rw [queue, replies]
    rcases h.waiting k id waits with ⟨other, mem', rfl⟩ | ⟨reply', there⟩
    · by_cases same : other.id = r.id
      · exact .inr ⟨reply, by simp [same]⟩
      · exact .inl ⟨other, (List.mem_eraseP_of_neg (by simpa using same)).mpr mem', rfl⟩
    · exact .inr ⟨reply', List.mem_append_left _ there⟩
  alone k j id hk hj := by
    rw [stage_congr works] at hk hj
    exact h.alone k j id hk hj
  rising := by
    rw [answered_append]
    split
    · rw [List.pairwise_append]
      refine ⟨h.rising, by simp, fun id there id' new => ?_⟩
      rw [List.mem_singleton.mp new]
      exact h.ahead id there r mem
    · simpa using h.rising
  ahead := by
    intro id there other mem'
    rw [queue] at mem'
    have mem'' := List.mem_of_mem_eraseP mem'
    rw [answered_append] at there
    rcases List.mem_append.mp there with old | new
    · exact h.ahead id old other mem''
    · split at new
      · rename_i line
        have le := first line other mem''
        have ne := lined.ne_of_mem_eraseP mem'
        rw [List.mem_singleton.mp new]
        omega
      · cases new

/-- A task stops waiting: its request leaves the queue, or its reply is fetched. -/
theorem leave (h : d.Books log) (lined : d.front.Lined) {k id : Nat}
    (waits : d.stage? k = some (.queued id))
    (queue : e.queue = d.queue.eraseP (·.id == id)) (next : e.nextRequest = d.nextRequest)
    (replies : e.replies = d.replies.eraseP (·.1 == id))
    (works : e.works = d.works.modify k ({ · with stage := .ended })) : e.Books log := by
  -- The tasks that still wait are others, and wait for other requests.
  have others : ∀ j id', e.stage? j = some (.queued id') →
      d.stage? j = some (.queued id') ∧ id' ≠ id := by
    intro j id' waits'
    rw [stage_modify works] at waits'
    by_cases same : k = j
    · rw [if_pos same, ← same, waits] at waits'
      cases waits'
    · rw [if_neg same] at waits'
      refine ⟨waits', ?_⟩
      rintro rfl
      exact same (h.alone k j id' waits waits')
  refine ⟨h.once, ?_, ?_, ?_, ?_, ?_, h.rising, ?_⟩
  · intro entry logged
    rw [next, queue]
    obtain ⟨below, gone⟩ := h.left entry logged
    exact ⟨below, fun r mem => gone r (List.mem_of_mem_eraseP mem)⟩
  · rw [replies]
    exact List.eraseP_sublist.trans h.replied
  · intro r mem
    rw [queue] at mem
    obtain ⟨j, task, waits'⟩ := h.owned r (List.mem_of_mem_eraseP mem)
    refine ⟨j, task, ?_⟩
    rw [stage_modify works, if_neg]
    · exact waits'
    · rintro rfl
      rw [waits] at waits'
      cases waits'
      exact lined.ne_of_mem_eraseP mem rfl
  · intro j id' waits'
    obtain ⟨before, ne⟩ := others j id' waits'
    rw [queue, replies]
    rcases h.waiting j id' before with ⟨r, mem, rfl⟩ | ⟨reply, mem⟩
    · exact .inl ⟨r, (List.mem_eraseP_of_neg (by simpa using ne)).mpr mem, rfl⟩
    · exact .inr ⟨reply, (List.mem_eraseP_of_neg (by simpa using ne)).mpr mem⟩
  · intro i j id' hi hj
    exact h.alone i j id' (others i id' hi).1 (others j id' hj).1
  · intro id' there r mem
    rw [queue] at mem
    exact h.ahead id' there r (List.mem_of_mem_eraseP mem)

/-- The reply is not the only trace of a request: nobody else is in the queue for it. -/
theorem eraseP_of_replied (h : d.Books log) {id : Nat} {reply : Reply}
    (mem : (id, reply) ∈ d.replies) : d.queue.eraseP (·.id == id) = d.queue := by
  apply List.eraseP_of_forall_not
  intro r queued
  simpa using (h.left _ (h.replied.subset mem)).2 r queued

/-- A task asks: its request is the last in the queue, with a number that none had before. -/
theorem join (h : d.Books log) (lined : d.front.Lined) {k : Nat}
    (unpolled : d.stage? k = some .unpolled) {r : PendingRequest} (task : r.task = some k)
    (id : r.id = d.nextRequest) (queue : e.queue = d.queue ++ [r])
    (next : e.nextRequest = d.nextRequest + 1) (replies : e.replies = d.replies)
    (works : e.works = d.works.modify k ({ · with stage := .queued d.nextRequest })) :
    e.Books log := by
  have asks : e.stage? k = some (.queued d.nextRequest) := by
    rw [stage_modify works, if_pos rfl, unpolled]
    rfl
  have others : ∀ j id', e.stage? j = some (.queued id') →
      d.stage? j = some (.queued id') ∧ id' < d.nextRequest ∨ j = k ∧ id' = d.nextRequest := by
    intro j id' waits
    by_cases same : k = j
    · subst same
      rw [asks] at waits
      cases waits
      exact .inr ⟨rfl, rfl⟩
    · rw [stage_modify works, if_neg same] at waits
      exact .inl ⟨waits, h.number_lt lined waits⟩
  refine ⟨h.once, ?_, replies ▸ h.replied, ?_, ?_, ?_, h.rising, ?_⟩
  · intro entry logged
    obtain ⟨below, gone⟩ := h.left entry logged
    rw [next, queue]
    refine ⟨Nat.lt_succ_of_lt below, fun other mem => ?_⟩
    rcases List.mem_append.mp mem with old | new
    · exact gone other old
    · rw [List.mem_singleton.mp new, id]
      exact Nat.ne_of_gt below
  · intro other mem
    rw [queue] at mem
    rcases List.mem_append.mp mem with old | new
    · obtain ⟨j, task', waits⟩ := h.owned other old
      refine ⟨j, task', ?_⟩
      rw [stage_modify works, if_neg]
      · exact waits
      · rintro rfl
        rw [unpolled] at waits
        cases waits
    · rw [List.mem_singleton.mp new, id]
      exact ⟨k, task, asks⟩
  · intro j id' waits
    rw [queue, replies]
    rcases others j id' waits with ⟨before, -⟩ | ⟨rfl, rfl⟩
    · rcases h.waiting j id' before with ⟨other, mem, same⟩ | replied
      · exact .inl ⟨other, List.mem_append_left _ mem, same⟩
      · exact .inr replied
    · exact .inl ⟨r, by simp, id⟩
  · intro i j id' hi hj
    rcases others i id' hi with ⟨hi, below⟩ | ⟨isNew, number⟩
    · rcases others j id' hj with ⟨hj, -⟩ | ⟨-, number⟩
      · exact h.alone i j id' hi hj
      · omega
    · rcases others j id' hj with ⟨-, below⟩ | ⟨isNew', -⟩
      · omega
      · rw [isNew, isNew']
  · intro id' there other mem
    rw [queue] at mem
    rcases List.mem_append.mp mem with old | new
    · exact h.ahead id' there other old
    · obtain ⟨reply, logged⟩ := mem_log_of_answered there
      rw [List.mem_singleton.mp new, id]
      exact (h.left _ logged).1

end Books

end Desk

end ScriptSession
