import ScriptSession.Proofs.Desk.Heard
import ScriptSession.Proofs.Desk.Turns

/-!
# An interrupt sweeps the queue

An interrupt rejects the requests of the retired token one at a time, while others of them are still in
the queue. The listeners of a token's requests stand in the order of the queue (`Signals.Filed`, kept by
each move), so whoever is in front of a request when it is rejected survives. By that each rejection does
its part of the whole (`Desk.Sweeps`), and `interrupt_sweeps_queue` says what all of them leave.
-/
namespace ScriptSession

/-! ## Listeners of requests -/

/-- The request that a listener takes out of the queue. -/
def Listener.request? : Listener → Option Nat
  | .reject id => some id
  | .custom .. => none

def Post.request? (p : Post) : Option Nat := p.listener.request?

theorem Post.isSome_request? (p : Post) :
    p.request?.isSome = true ↔ ∃ id, p.listener = .reject id := by
  unfold Post.request?
  cases p.listener <;> simp [Listener.request?]

namespace Signals

/-- The requests that listeners on a token take out of the queue, in the order of the listeners. -/
def requests (g : Signals) (token : Nat) : List Nat := (g.posts token).filterMap Post.request?

/-- Requests are numbered as they come, below `n`, and each has its listener on one token only. -/
structure Filed (g : Signals) (n : Nat) : Prop where
  rising : ∀ i, (g.requests i).Pairwise (· < ·)
  below : ∀ i, ∀ id ∈ g.requests i, id < n
  own : ∀ i j, ∀ id ∈ g.requests i, id ∈ g.requests j → i = j

variable {g : Signals} {c : Change} {n n' : Nat}

theorem requests_next (h : g.Orderly) (allowed : g.Allows c) (i : Nat) :
    ((g.next c).requests i).Sublist
      (g.requests i ++ (c.registered?.bind Post.request?).toList) := by
  have posts := (posts_next h allowed i).filterMap Post.request?
  rw [List.filterMap_append] at posts
  cases came : c.registered? with
  | none => simpa [requests, came] using posts
  | some p => cases asks : p.request? <;> simpa [requests, came, asks] using posts

/-- A request on a token was there before, or its listener comes. -/
theorem mem_requests_next (h : g.Orderly) (allowed : g.Allows c) {i id : Nat}
    (mem : id ∈ (g.next c).requests i) :
    id ∈ g.requests i ∨ ∃ p, c = .registered p ∧ p.token = i ∧ p.request? = some id := by
  obtain ⟨p, there, asks⟩ := List.mem_filterMap.mp mem
  obtain ⟨rfl, holds⟩ := mem_posts.mp there
  rcases holds_of_next h allowed holds with ⟨stood, -⟩ | ⟨came, -⟩
  · exact .inl (List.mem_filterMap.mpr ⟨p, mem_posts.mpr ⟨rfl, stood⟩, asks⟩)
  · exact .inr ⟨p, came, rfl, asks⟩

/-- A listener that comes is for no request, or for a new one. -/
theorem Filed.next (filed : g.Filed n) (h : g.Orderly) (allowed : g.Allows c) (grows : n ≤ n')
    (fresh : ∀ p id, c = .registered p → p.request? = some id → id = n ∧ n < n') :
    (g.next c).Filed n' where
  rising i := by
    refine List.Pairwise.sublist (requests_next h allowed i) ?_
    rw [List.pairwise_append]
    refine ⟨filed.rising i, ?_, fun old mem new came => ?_⟩
    · cases c.registered?.bind Post.request? <;> simp
    · simp only [Option.mem_toList, Option.bind_eq_some_iff] at came
      obtain ⟨p, came, asks⟩ := came
      have number := (fresh p new (Change.registered?_eq_some.mp came) asks).1
      exact number ▸ filed.below i old mem
  below i id mem := by
    rcases mem_requests_next h allowed mem with old | ⟨p, came, -, asks⟩
    · exact Nat.lt_of_lt_of_le (filed.below i id old) grows
    · obtain ⟨rfl, bound⟩ := fresh p id came asks
      exact bound
  own i j id here there := by
    have new {p : Post} (came : c = .registered p) (asks : p.request? = some id) (k : Nat) :
        id ∉ g.requests k := by
      intro old
      have := filed.below k id old
      have := (fresh p id came asks).1
      omega
    rcases mem_requests_next h allowed here with old | ⟨p, came, rfl, asks⟩
    · rcases mem_requests_next h allowed there with old' | ⟨q, came', -, asks'⟩
      · exact filed.own i j id old old'
      · exact absurd old (new came' asks' i)
    · rcases mem_requests_next h allowed there with old' | ⟨q, came', rfl, -⟩
      · exact absurd old' (new came asks j)
      · cases came.symm.trans came'
        rfl

end Signals

/-! ## Runs -/

theorem Desk.nextRequest_turn {d e : Desk} {done : List Effect} (turn : d.Turn done e) :
    d.nextRequest ≤ e.nextRequest := by
  cases turn with
  | still front => exact Nat.le_of_eq (congrArg Front.nextRequest front).symm
  | leaves id how ready silent left without before front =>
    have shown : e.nextRequest = ready.nextRequest :=
      (congrArg Front.nextRequest front).trans (nextRequest_showHead ready)
    have kept : ready.nextRequest = d.nextRequest := congrArg Front.nextRequest without
    exact Nat.le_of_eq (shown.trans kept).symm
  | joins prompt token key task ready queued before front =>
    have shown : e.nextRequest = ready.nextRequest :=
      (congrArg Front.nextRequest front).trans (nextRequest_showHead ready)
    have more : ready.nextRequest = d.nextRequest + 1 := congrArg Front.nextRequest queued
    omega

namespace Scene

variable {s : Scene}

theorem registers_eq {d : Desk} {token : Nat} {listener : Listener} {p : Post}
    (h : d.registers token listener = .registered p) :
    p.token = token ∧ p.listener = listener ∧ ∃ t, d.tokens[token]? = some t := by
  unfold Desk.registers at h
  split at h
  · rename_i t found
    cases h
    exact ⟨rfl, rfl, t, found⟩
  · cases h

theorem dropped_ne (r : PendingRequest) (p : Post) : r.dropped ≠ .registered p := by
  unfold PendingRequest.dropped
  split <;> nofun

theorem dismisses_ne (d : Desk) (p : Post) : d.dismisses ≠ .registered p := by
  unfold Desk.dismisses
  split
  · split
    · exact dropped_ne _ p
    · nofun
  · nofun

theorem retires_ne (d : Desk) (manager : Nat) (p : Post) : d.retires manager ≠ .registered p := by
  unfold Desk.retires
  split <;> nofun

/-- Only a task that asks for the first time brings a request's listener. -/
theorem change_request {m : Move} {p : Post} {id : Nat} (came : s.change m = .registered p)
    (asks : p.request? = some id) : ∃ k, m = .poll k := by
  have custom : ∀ {token label acts}, s.desk.registers token (.custom label acts) ≠ .registered p := by
    intro token label acts registers
    obtain ⟨-, same, -⟩ := registers_eq registers
    rw [Post.request?, same] at asks
    cases asks
  cases m with
  | poll k => exact ⟨k, rfl⟩
  | interrupt manager => exact absurd came (retires_ne _ manager p)
  | ask | wait | unlisten => cases came
  | drop k =>
    simp only [change, Desk.drops, Desk.withdraws] at came
    split at came
    · split at came
      · exact absurd came (dropped_ne _ p)
      · cases came
    · cases came
  | answer text => exact absurd came (dismisses_ne _ p)
  | listen token label acts => exact absurd came custom
  | errand =>
    simp only [change] at came
    split at came
    · rename_i act _ _ _ _
      cases act with
      | report | note => cases came
      | answer => exact absurd came (dismisses_ne _ p)
      | interrupt manager => exact absurd came (retires_ne _ manager p)
      | listen token label acts => exact absurd came custom
    · cases came

/-- It gets the next number. -/
theorem poll_request {k : Nat} {p : Post} {id : Nat} (came : s.change (.poll k) = .registered p)
    (asks : p.request? = some id) :
    id = s.desk.nextRequest ∧ s.desk.nextRequest < (s.next (.poll k)).desk.nextRequest := by
  simp only [change, Desk.polls] at came
  split at came
  · rename_i prompt token woken found
    split at came
    · cases came
    · rename_i alive
      obtain ⟨-, same, t, there⟩ := registers_eq came
      rw [Post.request?, same] at asks
      cases asks
      refine ⟨rfl, ?_⟩
      have alive : t.aborted = false :=
        (Desk.isAborted_eq there).symm.trans (Bool.eq_false_iff.mpr alive)
      have enqueued := Desk.enqueue_eq (d := s.desk.unwoken k) (t := t) there alive prompt (some k)
      have number : (s.next (.poll k)).desk.nextRequest =
          ((s.desk.unwoken k).enqueue prompt token (some k)).2.nextRequest := by
        have alive' : (s.desk.unwoken k).isAborted token = false :=
          (Desk.isAborted_eq (d := s.desk.unwoken k) there).trans alive
        simp only [next, Desk.poll, found, Desk.pollStage]
        rw [if_neg (by simpa [Desk.unwoken] using alive')]
        rfl
      rw [number, enqueued, Desk.nextRequest_showHead]
      exact Nat.lt_succ_self _
  · cases came

theorem filed_next (consistent : s.Consistent) (orderly : s.desk.signals.Orderly)
    (filed : s.desk.signals.Filed s.desk.nextRequest) (m : Move) :
    (s.next m).desk.signals.Filed (s.next m).desk.nextRequest := by
  rw [signals_next (Desk.guided_of_orderly orderly)]
  apply filed.next orderly (allows_change s m) (Desk.nextRequest_turn (turn_next consistent m))
  intro p id came asks
  obtain ⟨k, rfl⟩ := change_request came asks
  exact poll_request came asks

end Scene

theorem filed_run {managers : Nat} {past : List (Scene × Move)} {s : Scene}
    (run : Run (.opened managers) past s) :
    s.desk.signals.Orderly ∧ s.desk.signals.Filed s.desk.nextRequest := by
  induction run with
  | start =>
    have none : ∀ i, (Scene.opened managers).desk.signals.requests i = [] := by
      intro i
      simp only [Signals.requests, Signals.posts, Scene.opened, Desk.opened, Desk.signals,
        List.map_replicate, List.getElem?_replicate]
      split <;> rfl
    exact ⟨orderly_opened managers, by simp [none], by simp [none], by simp [none]⟩
  | @move past s m run _ ih =>
    have consistent := consistent_run (Scene.consistent_opened managers) run
    exact ⟨Scene.orderly_next ih.1 m, Scene.filed_next consistent ih.1 ih.2 m⟩

/-! ## One rejection after another -/

namespace Desk

variable {d e : Desk} {token : Nat} {ids : List Nat}

/-- The queued requests of a token. -/
def under (d : Desk) (token : Nat) : List PendingRequest := d.queue.filter (·.token == token)

/-- The queued requests of the other tokens. -/
def others (d : Desk) (token : Nat) : List PendingRequest := d.queue.filter (·.token != token)

def cancellations (d : Desk) (token : Nat) : List (Nat × Reply) :=
  (d.under token).map fun r => (r.id, .cancelled)

/-- What is published when the requests of a token are gone: nothing if somebody else is asked, and else
that nobody is, before the first of the others. -/
def handover (d : Desk) (token : Nat) : List (Option ActiveRequest) :=
  if (d.under token).any fun r => d.active = some r.id then
    none :: (d.others token).head?.toList.map fun r => some ⟨r.id, r.prompt⟩
  else []

/-- The requests of an aborted token are still to be rejected, the earlier ones first. The others are
safe. -/
structure Sweeps (d : Desk) (token : Nat) (ids : List Nat) : Prop where
  lined : d.front.Lined
  rising : ids.Pairwise (· < ·)
  named : ∀ r ∈ d.queue, r.token = token ↔ r.id ∈ ids
  aborted : d.isAborted token = true
  alive : ∀ r ∈ d.queue, r.token ≠ token → d.isAborted r.token = false
  moving : d.active = none → ∀ head rest, d.queue = head :: rest → head.token = token

/-- What the rest of a sweep publishes. A head that is to go may be hidden by now. -/
def sweeping (d : Desk) (token : Nat) : List (Option ActiveRequest) :=
  match d.queue with
  | [] => []
  | head :: _ =>
    if head.token = token then
      (if d.active = some head.id then [none] else []) ++
        (d.others token).head?.toList.map fun r => some ⟨r.id, r.prompt⟩
    else []

theorem sweeping_goes {head : PendingRequest} {rest : List PendingRequest}
    (queue : d.queue = head :: rest) (goes : head.token = token) :
    d.sweeping token = (if d.active = some head.id then [none] else []) ++
      (d.others token).head?.toList.map fun r => some ⟨r.id, r.prompt⟩ := by
  simp only [sweeping, queue, goes, if_true]

theorem sweeping_stays {head : PendingRequest} {rest : List PendingRequest}
    (queue : d.queue = head :: rest) (stays : head.token ≠ token) : d.sweeping token = [] := by
  simp only [sweeping, queue, stays, if_false]

/-- If a request is active it is the head of the queue. -/
theorem active_cases {head : PendingRequest} {rest : List PendingRequest} (h : d.front.Lined)
    (queue : d.queue = head :: rest) : d.active = none ∨ d.active = some head.id := by
  rcases h.agrees with ⟨active, -⟩ | ⟨first, after, queue', active, -⟩
  · exact .inl active
  · have queue' : d.queue = first :: after := queue'
    cases queue.symm.trans queue'
    exact .inr active

theorem runAll_rejects (d : Desk) (ids : List Nat) :
    d.runAll (ids.map fun id => .run (.reject id)) = ids.foldl reject d := by
  induction ids generalizing d with
  | nil => exact runAll_nil d
  | cons id rest ih =>
    rw [List.map_cons, runAll, step, List.nil_append, ih]
    rfl

/-- What rejecting a queued request does. -/
theorem reject_shape {r : PendingRequest} {before after : List PendingRequest}
    (lined : d.front.Lined) (queue : d.queue = before ++ r :: after) :
    ∃ ready : Desk, d.reject r.id = ready.showHead ∧ ready.queue = before ++ after ∧
      ready.active = (if d.active = some r.id then none else d.active) ∧
      ready.replies = d.replies ++ [(r.id, .cancelled)] ∧ ready.tokens = d.tokens ∧
      ready.front = d.without r.id ∧
      ready.shown = (if d.active = some r.id then [none] else []) ++ d.shown := by
  have mem : r ∈ d.queue := by simp [queue]
  cases taken : d.take? r.id with
  | none => exact absurd rfl (take_eq_none taken r mem)
  | some found =>
    obtain ⟨r', rest⟩ := found
    obtain ⟨mem', same, -, -, shown, -⟩ := take_eq_some taken
    have same : r' = r := lined.distinct mem' mem same
    subst same
    have front := front_hide_of_take taken (front_settle rest r' .cancelled)
    refine ⟨(rest.settle r' .cancelled).hide (d.active = some r'.id), ?_, ?_,
      congrArg Front.active front, ?_, ?_, front, ?_⟩
    · simp only [reject, taken]
    · have ordered := lined.ordered
      have absent : ∀ q ∈ before, ¬ (q.id == r'.id) = true := by
        intro q early
        simp only [Desk.front, queue, List.map_append, List.pairwise_append] at ordered
        have lt := ordered.2.2 q.id (List.mem_map_of_mem early) r'.id (by simp)
        simpa using Nat.ne_of_lt lt
      refine (congrArg Front.queue front).trans ?_
      rw [without, queue, List.eraseP_append_right _ absent, List.eraseP_cons_of_pos (by simp)]
    · rw [replies_hide, replies_settle, replies_take taken]
    · rw [tokens_hide, tokens_settle, tokens_take taken]
    · rw [shown_hide, shown_settle, shown, hides]
      split <;> rfl

theorem reject_absent {id : Nat} (absent : ∀ r ∈ d.queue, r.id ≠ id) : d.reject id = d := by
  cases taken : d.take? id with
  | none => simp only [reject, taken]
  | some found =>
    obtain ⟨mem, same, -⟩ := take_eq_some taken
    exact absurd same (absent _ mem)

namespace Sweeps

/-- Whoever stands in front of the next request to go stays. -/
theorem before_stays {id : Nat} (h : d.Sweeps token (id :: ids)) {r : PendingRequest}
    {before after : List PendingRequest} (queue : d.queue = before ++ r :: after) (number : r.id = id) :
    ∀ q ∈ before, q.token ≠ token := by
  intro q early same
  have ordered := h.lined.ordered
  simp only [Desk.front, queue, List.map_append, List.pairwise_append] at ordered
  have lt := ordered.2.2 q.id (List.mem_map_of_mem early) r.id (by simp)
  rcases List.mem_cons.mp ((h.named q (by simp [queue, early])).mp same) with first | later
  · omega
  · have above := (List.pairwise_cons.mp h.rising).1 q.id later
    omega

theorem showHead {r : PendingRequest} {before after : List PendingRequest} {ready : Desk}
    (h : d.Sweeps token (r.id :: ids)) (stay : ready.queue = before ++ after) (tokens : ready.tokens = d.tokens)
    (front : ready.front = d.without r.id) : ready.showHead.Sweeps token ids := by
  have kept : ready.showHead.queue = before ++ after := (queue_showHead ready).trans stay
  have same : ∀ i, ready.showHead.isAborted i = d.isAborted i :=
    isAborted_congr ((tokens_showHead ready).trans tokens)
  have others : ∀ q ∈ ready.showHead.queue, q ∈ d.queue ∧ q.id ≠ r.id := by
    intro q mem
    have same : ready.queue = d.queue.eraseP (·.id == r.id) := congrArg Front.queue front
    have erased : q ∈ d.queue.eraseP (·.id == r.id) := same ▸ queue_showHead ready ▸ mem
    exact ⟨List.mem_of_mem_eraseP erased, h.lined.ne_of_mem_eraseP erased⟩
  have alive : ∀ q ∈ ready.showHead.queue, q.token ≠ token →
      ready.showHead.isAborted q.token = false := fun q mem other =>
    (same q.token).trans (h.alive q (others q mem).1 other)
  refine ⟨lined_showHead (front ▸ lined_without h.lined r.id), h.rising.of_cons, ?_,
    (same token).trans h.aborted, alive, ?_⟩
  · intro q mem
    obtain ⟨there, other⟩ := others q mem
    rw [h.named q there, List.mem_cons]
    exact or_iff_right other
  · intro hidden head rest first
    by_contra other
    have doomed := moving_showHead ready hidden head rest first
    rw [alive head (by simp [first]) other] at doomed
    cases doomed

section

variable {r : PendingRequest} {before after : List PendingRequest} {ready : Desk}

/-- If the head goes, its going is published, and who comes next if that one stays. -/
theorem sweeping_head (h : d.Sweeps token (r.id :: ids)) (queue : d.queue = r :: after)
    (stay : ready.queue = after) (tokens : ready.tokens = d.tokens)
    (active : ready.active = if d.active = some r.id then none else d.active) :
    d.sweeping token = (if d.active = some r.id then [none] else []) ++
      (written ready.shows ++ ready.showHead.sweeping token) := by
  have goes : r.token = token := (h.named r (by simp [queue])).mpr (List.mem_cons_self ..)
  have hidden : ready.active = none := by
    rcases active_cases h.lined queue with none | some
    · rw [active, none]
      exact if_neg nofun
    · rw [active, some, if_pos rfl]
  rw [sweeping_goes queue goes, written_shows]
  cases after with
  | nil => simp [sweeping, queue_showHead, stay, next?, hidden, others, queue, goes]
  | cons next rest =>
    have there : next ∈ d.queue := by simp [queue]
    have first : ready.showHead.queue = next :: rest := (queue_showHead ready).trans stay
    by_cases same : next.token = token
    · -- The next one has to go as well, so it stays hidden.
      have doomed : ready.isAborted next.token = true := by
        rw [isAborted_congr tokens, same, h.aborted]
      have waits : ready.next? = none := by simp [next?, hidden, stay, doomed]
      have asleep : ready.showHead.active = none := by rw [showHead_eq, waits, hidden]
      have silent : ¬ (none : Option Nat) = some next.id := nofun
      rw [sweeping_goes first same, asleep, waits, if_neg silent]
      simp [others, queue_showHead, stay, queue, goes, same]
    · have alive : ready.isAborted next.token = false := by
        rw [isAborted_congr tokens, h.alive next there same]
      have comes : ready.next? = some next := by simp [next?, hidden, stay, alive]
      rw [sweeping_stays first same, comes]
      simp [others, queue, goes, same]

/-- If another one is the head, it is active and stays so. -/
theorem active_before {b : PendingRequest} (h : d.Sweeps token (r.id :: ids))
    (queue : d.queue = b :: (before ++ r :: after)) :
    d.active = some b.id ∧ d.active ≠ some r.id ∧ b.token ≠ token := by
  have whole : d.queue = (b :: before) ++ r :: after := queue
  have stays : b.token ≠ token := h.before_stays whole rfl b (List.mem_cons_self ..)
  have there : d.active = some b.id :=
    (active_cases h.lined queue).resolve_left fun none => stays (h.moving none b _ queue)
  refine ⟨there, ?_, stays⟩
  intro same
  have ordered := h.lined.ordered
  simp only [Desk.front, queue, List.map_cons, List.pairwise_cons] at ordered
  have lt := ordered.1 r.id (by simp)
  rw [there, Option.some.injEq] at same
  omega

/-- What is still to be published goes down by what is. -/
theorem sweeping_showHead (h : d.Sweeps token (r.id :: ids)) (queue : d.queue = before ++ r :: after)
    (stay : ready.queue = before ++ after) (tokens : ready.tokens = d.tokens)
    (active : ready.active = if d.active = some r.id then none else d.active)
    (shown : ready.shown = (if d.active = some r.id then [none] else []) ++ d.shown) :
    (ready.showHead.sweeping token).reverse ++ ready.showHead.shown =
      (d.sweeping token).reverse ++ d.shown := by
  rw [shown_showHead, shown]
  cases before with
  | nil =>
    have off : (if d.active = some r.id then [none] else [] : List (Option ActiveRequest)).reverse =
        if d.active = some r.id then [none] else [] := by split <;> rfl
    rw [h.sweeping_head queue stay tokens active, List.reverse_append, List.reverse_append, off,
      written_shows_reverse]
    simp only [List.append_assoc]
  | cons b rest =>
    obtain ⟨there, other, stays⟩ := h.active_before queue
    have first : ready.showHead.queue = b :: (rest ++ after) := (queue_showHead ready).trans stay
    have shows : ready.active = some b.id := by rw [active, if_neg other, there]
    have busy : ready.next? = none := by simp [next?, shows]
    rw [sweeping_stays first stays, sweeping_stays queue stays, if_neg other, written_shows, busy]
    rfl

end

/-- Each rejection does its part: the others stay, one request less is to be cancelled, and what is
published was still to be. -/
theorem reject {id : Nat} (h : d.Sweeps token (id :: ids)) :
    (d.reject id).Sweeps token ids ∧ (d.reject id).others token = d.others token ∧
    (d.reject id).replies ++ (d.reject id).cancellations token =
      d.replies ++ d.cancellations token ∧
    ((d.reject id).sweeping token).reverse ++ (d.reject id).shown =
      (d.sweeping token).reverse ++ d.shown := by
  by_cases queued : ∃ r ∈ d.queue, r.id = id
  · obtain ⟨r, mem, rfl⟩ := queued
    obtain ⟨before, after, queue⟩ := List.append_of_mem mem
    obtain ⟨ready, rejected, stay, active, replies, tokens, front, shown⟩ :=
      reject_shape h.lined queue
    have goes : r.token = token := (h.named r mem).mpr (List.mem_cons_self ..)
    have stays : before.filter (·.token == token) = [] := by
      simpa using h.before_stays queue rfl
    rw [rejected]
    refine ⟨h.showHead stay tokens front, ?_, ?_, h.sweeping_showHead queue stay tokens active shown⟩
    · simp [others, queue_showHead, stay, queue, goes]
    · simp [cancellations, under, queue_showHead, replies_showHead, replies, stay, queue, goes, stays]
  · have absent : ∀ r ∈ d.queue, r.id ≠ id := fun r mem same => queued ⟨r, mem, same⟩
    rw [reject_absent absent]
    refine ⟨⟨h.lined, h.rising.of_cons, fun r mem => ?_, h.aborted, h.alive, h.moving⟩, rfl, rfl, rfl⟩
    rw [h.named r mem, List.mem_cons]
    exact or_iff_right (absent r mem)

/-- All of them together leave the others in the queue. -/
theorem rejects (h : d.Sweeps token ids) :
    (ids.foldl Desk.reject d).queue = d.others token ∧
    (ids.foldl Desk.reject d).replies = d.replies ++ d.cancellations token ∧
    (ids.foldl Desk.reject d).shown = (d.sweeping token).reverse ++ d.shown := by
  induction ids generalizing d with
  | nil =>
    have stays : ∀ r ∈ d.queue, r.token ≠ token := fun r mem same =>
      List.not_mem_nil ((h.named r mem).mp same)
    have none : d.sweeping token = [] := by
      cases queue : d.queue with
      | nil => simp only [sweeping, queue]
      | cons head rest => exact sweeping_stays queue (stays head (by simp [queue]))
    have all : d.others token = d.queue := List.filter_eq_self.mpr (by simpa using stays)
    have nobody : d.under token = [] := by simpa [under] using stays
    simp [all, none, cancellations, nobody]
  | cons id rest ih =>
    obtain ⟨sweeps, others, replies, shown⟩ := h.reject
    obtain ⟨left, settled, published⟩ := ih sweeps
    exact ⟨left.trans others, settled.trans replies, published.trans shown⟩

end Sweeps

/-! ## Interrupts -/

/-- Nobody but requests listens to the token. -/
def Plain (d : Desk) (token : Nat) : Prop := ∀ p ∈ d.posts token, ∃ id, p.listener = .reject id

instance (d : Desk) (token : Nat) : Decidable (d.Plain token) :=
  decidable_of_iff (∀ p ∈ d.posts token, p.request?.isSome = true)
    (forall₂_congr fun p _ => p.isSome_request?)

/-- Then its listeners are the rejections of its requests. -/
theorem Plain.errands (plain : d.Plain token) :
    (d.posts token).map (fun p => Errand.run p.listener) =
      (d.signals.requests token).map fun id => .run (.reject id) := by
  unfold Plain at plain
  unfold Signals.requests
  rw [posts] at plain ⊢
  generalize d.signals.posts token = listening at plain ⊢
  induction listening with
  | nil => rfl
  | cons p rest ih =>
    obtain ⟨id, same⟩ := plain p (List.mem_cons_self ..)
    have asks : p.request? = some id := by rw [Post.request?, same, Listener.request?]
    rw [List.map_cons, List.filterMap_cons_some asks, List.map_cons, same,
      ih fun q mem => plain q (List.mem_cons_of_mem p mem)]

theorem retires_eq {manager : Nat} {m : Manager} (found : d.managers[manager]? = some m) :
    d.retires manager = .retired manager m.current := by
  rw [retires, found]

theorem Plain.retire {manager : Nat} {m : Manager} (plain : d.Plain m.current)
    (h : d.signals.Orderly) (found : d.managers[manager]? = some m) :
    (d.retire manager).1 = (d.signals.requests m.current).map fun id => .run (.reject id) := by
  rw [errands_retire (guided_of_orderly h), retires_eq found]
  exact plain.errands

theorem aborted_retire (h : d.signals.Orderly) {manager : Nat} {m : Manager}
    (found : d.managers[manager]? = some m) (i : Nat) :
    (d.retire manager).2.isAborted i = true ↔ d.isAborted i = true ∨ m.current = i := by
  have allowed : d.signals.Allows (.retired manager m.current) := ⟨m, found, rfl⟩
  rw [isAborted_iff, isAborted_iff, signals_retire (guided_of_orderly h), retires_eq found,
    Signals.aborted_next allowed h]
  refine or_congr_right ⟨fun ⟨_, same⟩ => ?_, fun same => ⟨manager, same ▸ rfl⟩⟩
  exact (Change.retired.inj same).2

/-- Once a token is retired, its requests are swept. -/
theorem sweeps_retire {managers : Nat} {past : List (Scene × Move)} {s : Scene}
    (run : Run (.opened managers) past s) (calm : s.aborting = false) {manager : Nat} {m : Manager}
    (found : s.desk.managers[manager]? = some m) :
    (s.desk.retire manager).2.Sweeps m.current (s.desk.signals.requests m.current) := by
  have consistent := consistent_run (Scene.consistent_opened managers) run
  obtain ⟨orderly, filed⟩ := filed_run run
  obtain ⟨-, -, -, outside⟩ := runs_stay_consistent run
  obtain ⟨safe, moving⟩ := outside calm
  have front := front_retire s.desk manager
  have queue : (s.desk.retire manager).2.queue = s.desk.queue := congrArg Front.queue front
  have active : (s.desk.retire manager).2.active = s.desk.active := congrArg Front.active front
  have aborted := aborted_retire orderly found
  refine ⟨front ▸ consistent.sound.lined, filed.rising m.current, ?_, (aborted _).mpr (.inr rfl), ?_, ?_⟩
  · intro r mem
    rw [queue] at mem
    -- The listener that stands for the request on its own token is the only one.
    obtain ⟨t, key, there, -, listens⟩ := (safe r mem).2
    have asks : r.id ∈ s.desk.signals.requests r.token := by
      refine List.mem_filterMap.mpr ⟨⟨r.token, key, .reject r.id⟩, Signals.mem_posts.mpr ⟨rfl, ?_⟩, rfl⟩
      exact ⟨t.alone, by simp [signals, there], listens⟩
    exact ⟨fun same => same ▸ asks, fun asks' => filed.own _ _ _ asks asks'⟩
  · intro r mem other
    rw [queue] at mem
    refine Bool.eq_false_iff.mpr fun doomed => ?_
    rcases (aborted r.token).mp doomed with before | same
    · exact Bool.false_ne_true ((safe r mem).1.symm.trans before)
    · exact other same.symm
  · intro hidden head rest first
    rw [active] at hidden
    rw [queue] at first
    exact absurd hidden (moving.mp (by simp [first]))

/-- While a request is active the sweep hands over from it. -/
theorem sweeping_eq_handover (lined : d.front.Lined) (moving : d.queue ≠ [] ↔ d.active ≠ none) :
    d.sweeping token = d.handover token := by
  unfold handover
  cases queue : d.queue with
  | nil => simp [sweeping, under, queue]
  | cons head rest =>
    have active := (active_cases lined queue).resolve_left (moving.mp (by simp [queue]))
    by_cases goes : head.token = token
    · have shown : (d.under token).any (fun r => d.active = some r.id) = true := by
        simp [under, queue, goes, active]
      rw [sweeping_goes queue goes, if_pos active, if_pos shown]
      rfl
    · have kept : ¬ (d.under token).any (fun r => d.active = some r.id) = true := by
        intro shown
        simp only [under, List.any_eq_true, List.mem_filter, beq_iff_eq, decide_eq_true_eq] at shown
        obtain ⟨r, ⟨mem, same⟩, isActive⟩ := shown
        have there : head ∈ d.queue := by simp [queue]
        have number : head.id = r.id := Option.some.inj (active.symm.trans isActive)
        exact goes (lined.distinct there mem number ▸ same)
      rw [sweeping_stays queue goes, if_neg kept]

theorem interrupt_sweeps {managers : Nat} {past : List (Scene × Move)} {s : Scene}
    (run : Run (.opened managers) past s) (calm : s.aborting = false) {manager : Nat} {m : Manager}
    (found : s.desk.managers[manager]? = some m) (plain : s.desk.Plain m.current) :
    (s.desk.interrupt manager).queue = s.desk.others m.current ∧
    (s.desk.interrupt manager).replies = s.desk.replies ++ s.desk.cancellations m.current ∧
    (s.desk.interrupt manager).shown = (s.desk.handover m.current).reverse ++ s.desk.shown := by
  have consistent := consistent_run (Scene.consistent_opened managers) run
  obtain ⟨-, -, -, outside⟩ := runs_stay_consistent run
  have orderly := (filed_run run).1
  have front := front_retire s.desk manager
  have queue : (s.desk.retire manager).2.queue = s.desk.queue := congrArg Front.queue front
  have active : (s.desk.retire manager).2.active = s.desk.active := congrArg Front.active front
  have swept := (sweeps_retire run calm found).rejects
  have errands := plain.retire orderly found
  have handed : (s.desk.retire manager).2.sweeping m.current = s.desk.handover m.current := by
    rw [← sweeping_eq_handover consistent.sound.lined (outside calm).2]
    simp only [sweeping, others, queue, active]
  have left : (s.desk.retire manager).2.others m.current = s.desk.others m.current := by
    rw [others, queue, others]
  have cancelled : (s.desk.retire manager).2.cancellations m.current =
      s.desk.cancellations m.current := by
    rw [cancellations, under, queue, cancellations, under]
  rw [left, cancelled, handed, replies_retire, shown_retire] at swept
  unfold interrupt
  dsimp only
  rw [errands, runAll_rejects]
  exact swept

theorem signals_rejects (d : Desk) (ids : List Nat) : (ids.foldl reject d).signals = d.signals := by
  induction ids generalizing d with
  | nil => rfl
  | cons id rest ih => rw [List.foldl_cons, ih, signals_reject]

/-- A manager whose token nobody listens to interrupts nobody. -/
theorem interrupt_silent (h : d.signals.Orderly) {manager : Nat} {m : Manager}
    (found : d.managers[manager]? = some m) (silent : d.posts m.current = []) :
    d.interrupt manager = (d.retire manager).2 := by
  unfold interrupt
  dsimp only
  rw [errands_retire (guided_of_orderly h), retires_eq found, calls, silent]
  exact runAll_nil _

/-- The token that an interrupt installs is nobody's yet, so another interrupt comes to nothing. -/
theorem interrupt_again (h : d.signals.Orderly) {manager : Nat} {m : Manager}
    (found : d.managers[manager]? = some m) (plain : d.Plain m.current) :
    ((d.interrupt manager).interrupt manager) = ((d.interrupt manager).retire manager).2 := by
  have allowed : d.signals.Allows (.retired manager m.current) := ⟨m, found, rfl⟩
  have signals : (d.interrupt manager).signals = d.signals.next (.retired manager m.current) := by
    unfold interrupt
    dsimp only
    rw [plain.retire h found, runAll_rejects, signals_rejects,
      signals_retire (guided_of_orderly h), retires_eq found]
  have fresh := h.token_fresh (k := manager) (m := m) found
  refine interrupt_silent (signals ▸ h.next allowed)
    (m := ⟨d.signals.tokens.length, m.nextGeneration + 1⟩) ?_ ?_
  · have manages := Signals.manager_retired (g := d.signals) m.current found
    rw [← signals] at manages
    exact manages
  · rw [posts, signals, Signals.posts_of_some fresh]
    rfl

end Desk

/-- An interrupt outside of aborts, of a manager whose token only requests listen to, cancels the queued
requests of that token, in the order of the queue. The other ones stay as they stood, and nobody settles
them. If the active request is cancelled, the first of the others is shown after it; else what is shown
stays. Another interrupt right after changes nothing about that. -/
theorem interrupt_sweeps_queue {managers : Nat} {past : List (Scene × Move)} {s : Scene}
    (run : Run (.opened managers) past s) (calm : s.aborting = false) {manager : Nat}
    (there : manager < s.desk.managers.length)
    (plain : s.desk.Plain (s.desk.currentToken manager)) :
    (s.desk.interrupt manager).queue = s.desk.others (s.desk.currentToken manager) ∧
    (s.desk.interrupt manager).replies =
      s.desk.replies ++ s.desk.cancellations (s.desk.currentToken manager) ∧
    (s.desk.interrupt manager).shown.reverse =
      s.desk.shown.reverse ++ s.desk.handover (s.desk.currentToken manager) ∧
    (∀ r ∈ (s.desk.interrupt manager).queue, ∀ reply,
      (r.id, reply) ∉ (s.desk.interrupt manager).replies) ∧
    ((s.desk.interrupt manager).interrupt manager).queue = (s.desk.interrupt manager).queue ∧
    ((s.desk.interrupt manager).interrupt manager).shown = (s.desk.interrupt manager).shown ∧
    ((s.desk.interrupt manager).interrupt manager).replies = (s.desk.interrupt manager).replies := by
  have found : s.desk.managers[manager]? = some s.desk.managers[manager] :=
    List.getElem?_eq_getElem there
  rw [Desk.currentToken_of found] at plain ⊢
  obtain ⟨queue, replies, shown⟩ := Desk.interrupt_sweeps run calm found plain
  have again := Desk.interrupt_again (filed_run run).1 found plain
  refine ⟨queue, replies, ?_, ?_, ?_, ?_, ?_⟩
  · rw [shown, List.reverse_append, List.reverse_reverse]
  · intro r mem reply settled
    rw [queue] at mem
    obtain ⟨queued, other⟩ := List.mem_filter.mp mem
    rw [replies] at settled
    rcases List.mem_append.mp settled with old | new
    · have books := books_run run
      exact books.unsettled queued reply (books.replied.subset old)
    · obtain ⟨q, swept, same⟩ := List.mem_map.mp new
      obtain ⟨queued', own⟩ := List.mem_filter.mp swept
      have lined := (consistent_run (Scene.consistent_opened managers) run).sound.lined
      have same : q = r := lined.distinct queued' queued (Prod.mk.inj same).1
      subst same
      rw [beq_iff_eq.mp own, bne_self_eq_false] at other
      cases other
  · rw [again]
    exact congrArg Front.queue (Desk.front_retire _ manager)
  · rw [again, Desk.shown_retire]
  · rw [again, Desk.replies_retire]

/-- Four requests of two managers in turn, and a task that waits for the first manager's abort. -/
def alternating : List Move :=
  [.ask "first" 0, .ask "second" 1, .ask "third" 0, .ask "fourth" 1, .wait 0, .poll 0, .poll 1,
    .poll 2, .poll 3, .poll 4]

theorem alternating_swept :
    ∃ past s, Run (.opened 2) past s ∧
      (s.desk.interrupt 0).queue.map (·.prompt) = ["second", "fourth"] ∧
      (s.desk.interrupt 0).replies = [(0, .cancelled), (2, .cancelled)] ∧
      (s.desk.interrupt 0).shown.reverse =
        [some ⟨0, "first"⟩, none, some ⟨1, "second"⟩] ∧
      ((s.desk.interrupt 0).interrupt 0).queue = (s.desk.interrupt 0).queue := by
  have run := run_past (.opened 2) alternating (by decide +kernel)
  have calm : ((Scene.opened 2).after alternating).aborting = false := by decide +kernel
  have there : 0 < ((Scene.opened 2).after alternating).desk.managers.length := by decide +kernel
  have plain : ((Scene.opened 2).after alternating).desk.Plain
      (((Scene.opened 2).after alternating).desk.currentToken 0) := by decide +kernel
  obtain ⟨queue, replies, shown, -, again, -⟩ := interrupt_sweeps_queue run calm there plain
  refine ⟨_, _, run, ?_, ?_, ?_, again⟩
  · rw [queue]
    decide +kernel
  · rw [replies]
    decide +kernel
  · rw [shown]
    decide +kernel

end ScriptSession
