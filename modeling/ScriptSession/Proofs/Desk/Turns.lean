import ScriptSession.Proofs.Desk.Effects

/-!
# Requests are shown in turn

`Desk.Turn` says what a call may do to the queue and to what is shown of it, and what is done by
that. Every move is such a turn (`Scene.turn_next`), so the history of a run holds everything that
was ever shown (`written_effects`) and agrees with the front it led to (`told_run`).
`requests_shown_in_turn` says what follows for every run.
-/
namespace ScriptSession

/-! ## One call at a time -/

/-- What a call may do to the queue and to what is shown of it: nothing, or a request leaves and the
next one is shown, or a request joins and is shown if nothing is. -/
inductive Desk.Turn (d : Desk) : List Effect → Desk → Prop where
  | still {e : Desk} : e.front = d.front → e.shown = d.shown → Turn d [] e
  | leaves {e : Desk} (id : Nat) (how : Effect) (ready : Desk) : how.value? = none →
      Left [how] id → ready.front = d.without id →
      ready.shown = written (d.hides id) ++ d.shown →
      e.front = ready.showHead.front → e.shown = ready.showHead.shown → e.tokens = ready.tokens →
      Turn d (d.leaves id how ready) e
  | joins {e : Desk} (prompt : String) (token key : Nat) (task : Option Nat) (ready : Desk) :
      ready.front = (d.joined prompt token key task).front → ready.shown = d.shown →
      e.front = ready.showHead.front → e.shown = ready.showHead.shown → e.tokens = ready.tokens →
      Turn d ready.shows e

namespace Desk

variable {d e : Desk} {log done : List Effect}

theorem shown_showHead (d : Desk) : d.showHead.shown = written d.shows ++ d.shown := by
  rw [showHead_eq, written_shows]
  cases d.next? <;> rfl

theorem shown_hide (d e : Desk) (id : Nat) :
    (e.hide (d.active = some id)).shown = written (d.hides id) ++ e.shown := by
  unfold hide hides
  by_cases active : d.active = some id
  · simp [active, publish, written, Effect.value?]
  · simp [active, written]

theorem shown_served {r : PendingRequest} (active : d.active = some r.id)
    (rest : List PendingRequest) (text : String) :
    (d.served r rest text).shown = written (d.hides r.id) ++ d.shown := by
  have settled := shown_settle (({ d with active := none, queue := rest }).dropListener r) r
    (.line text)
  have dropped := shown_dropListener { d with active := none, queue := rest } r
  simp [served, publish, settled, dropped, hides, active, written, Effect.value?]

/-- At most one value is published at a time. -/
theorem written_shows_reverse (d : Desk) : (written d.shows).reverse = written d.shows := by
  rw [written_shows]
  cases d.next? <;> rfl

namespace Turn

/-- Everything that is shown is in the history. -/
theorem shown (turn : d.Turn done e) : e.shown.reverse = d.shown.reverse ++ written done := by
  cases turn with
  | still _ shown => simp [shown, written]
  | leaves id how ready silent _ _ before _ after =>
    have hidden : (written (d.hides id)).reverse = written (how :: d.hides id) := by
      rw [written_leave silent, hides]
      split <;> rfl
    rw [after, shown_showHead, before, List.reverse_append, List.reverse_append,
      written_shows_reverse, hidden, List.append_assoc, ← written_append, Desk.leaves]
  | joins prompt token key task ready _ before _ after =>
    rw [after, shown_showHead, before, List.reverse_append, written_shows_reverse]

theorem told (turn : d.Turn done e) (h : d.front.Told log) (lined : d.front.Lined) :
    e.front.Told (log ++ done) := by
  cases turn with
  | still front => simpa [front] using h
  | leaves id how ready silent left without _ front =>
    have off := h.leave lined silent left
    rw [← without] at off
    have next := off.showHead (without ▸ lined_without lined id)
    rw [front, Desk.leaves, ← List.append_assoc]
    exact next
  | joins prompt token key task ready queued _ front =>
    have on := h.join prompt token key task
    rw [← queued] at on
    rw [front]
    exact on.showHead (queued ▸ lined_joined lined prompt token key task)

/-- What is shown is asked by someone whose token is not aborted. -/
theorem alive (turn : d.Turn done e) {r : ActiveRequest} (mem : .published (some r) ∈ done) :
    ∃ q ∈ e.queue, q.id = r.id ∧ q.prompt = r.prompt ∧ e.isAborted q.token = false := by
  have shows : ∀ {ready : Desk}, e.front = ready.showHead.front → e.tokens = ready.tokens →
      .published (some r) ∈ ready.shows →
      ∃ q ∈ e.queue, q.id = r.id ∧ q.prompt = r.prompt ∧ e.isAborted q.token = false := by
    intro ready front tokens mem
    obtain ⟨q, next, same⟩ := List.mem_map.mp mem
    obtain ⟨-, ⟨rest, queue⟩, alive⟩ := next_eq_some (Option.mem_toList.mp next)
    cases same
    have queue' : e.queue = ready.queue := (congrArg Front.queue front).trans (queue_showHead ready)
    refine ⟨q, by simp [queue', queue], rfl, rfl, ?_⟩
    rw [isAborted_congr tokens, alive]
  cases turn with
  | still => cases mem
  | leaves id how ready silent _ _ _ front _ tokens =>
    rcases List.mem_append.mp mem with off | next
    · have request : r ∈ shownRequests (how :: d.hides id) := List.mem_filterMap.mpr ⟨_, off, rfl⟩
      rw [shownRequests_leave silent] at request
      cases request
    · exact shows front tokens next
  | joins prompt token key task ready _ _ front _ tokens => exact shows front tokens mem

/-- The stages of the tasks have no part in it. -/
theorem of_tasks {tasks : List Task} (turn : Turn { d with tasks := tasks } done e) :
    d.Turn done e := by
  cases turn with
  | still front shown => exact .still front shown
  | leaves id how ready silent left without before front after tokens =>
    exact .leaves id how ready silent left without before front after tokens
  | joins prompt token key task ready queued before front after tokens =>
    exact .joins prompt token key task ready queued before front after tokens

end Turn

theorem turn_answer (h : d.front.Agrees) (text : String) :
    d.Turn (d.answering text) (d.answer text).2 := by
  rcases answer_cases h text with ⟨hidden, -, refused⟩ | ⟨r, rest, queue, active, -, accepted⟩
  · simp only [answering, hidden, refused]
    exact .still rfl rfl
  · simp only [answering, active, queue, if_true, accepted]
    exact .leaves r.id _ (d.served r rest text) rfl (.inl ⟨.line text, by simp⟩)
      (front_served queue active text) (shown_served active rest text) rfl rfl
      (tokens_showHead _)

theorem turn_reject (d : Desk) (id : Nat) : d.Turn (d.rejecting id) (d.reject id) := by
  unfold rejecting reject
  cases taken : d.take? id with
  | none => exact .still rfl rfl
  | some found =>
    obtain ⟨r, rest⟩ := found
    refine .leaves id _ _ rfl (.inl ⟨.cancelled, by simp⟩)
      (front_hide_of_take taken (front_settle rest r .cancelled)) ?_ rfl rfl (tokens_showHead _)
    obtain ⟨-, -, -, -, shown, -⟩ := take_eq_some taken
    rw [shown_hide, shown_settle, shown]

theorem turn_withdraw (d : Desk) (id : Nat) : d.Turn (d.withdrawing id) (d.withdraw id) := by
  unfold withdrawing withdraw
  cases taken : d.take? id with
  | none => exact .still rfl rfl
  | some found =>
    obtain ⟨r, rest⟩ := found
    refine .leaves id _ _ rfl (.inr (by simp))
      (front_hide_of_take taken (front_dropListener rest r)) ?_ rfl rfl (tokens_showHead _)
    obtain ⟨-, -, -, -, shown, -⟩ := take_eq_some taken
    rw [shown_hide, shown_dropListener, shown]

/-- What is done to the desk afterwards concerns neither the queue nor the tokens. -/
theorem Turn.congr {e' : Desk} (turn : d.Turn done e) (front : e'.front = e.front)
    (shown : e'.shown = e.shown) (tokens : e'.tokens = e.tokens) : d.Turn done e' := by
  cases turn with
  | still front' shown' => exact .still (front.trans front') (shown.trans shown')
  | leaves id how ready silent left without before front' after tokens' =>
    exact .leaves id how ready silent left without before (front.trans front')
      (shown.trans after) (tokens.trans tokens')
  | joins prompt token key task ready queued before front' after tokens' =>
    exact .joins prompt token key task ready queued before (front.trans front')
      (shown.trans after) (tokens.trans tokens')

theorem shown_register (d : Desk) (token : Nat) (listener : Listener) :
    (d.register token listener).2.2.shown = d.shown := by
  obtain ⟨tokens, eq⟩ := register_shape d token listener
  rw [eq]

theorem shown_retire (d : Desk) (manager : Nat) : (d.retire manager).2.shown = d.shown := by
  obtain ⟨tokens, managers, tasks, eq, -⟩ := retire_shape d manager
  rw [eq]

theorem turn_perform (h : d.front.Agrees) (label : String) (act : Act) :
    d.Turn (match act with | .answer text => d.answering text | _ => []) (d.perform label act).2 := by
  cases act with
  | report | note => exact .still rfl rfl
  | answer text => exact (turn_answer h text).congr rfl rfl rfl
  | interrupt manager => exact .still (front_retire d manager) (shown_retire d manager)
  | listen token label acts =>
    exact .still (front_register d token _) (shown_register d token _)

theorem turn_dropTask (d : Desk) (k : Nat) :
    d.Turn (match d.stage? k with
      | some (.queued id) => (d.setStage k .ended).withdrawing id
      | _ => []) (d.dropTask k) := by
  unfold dropTask stage?
  cases d.tasks[k]? with
  | none => exact .still rfl rfl
  | some task =>
    cases stage : task.stage with
    | queued id =>
      simp only [Option.map_some, stage]
      apply Turn.of_tasks
      exact (turn_withdraw (d.setStage k .ended) id).congr rfl rfl rfl
    | unpolled | watching | ended =>
      simp only [Option.map_some, stage]
      exact .still rfl rfl

theorem turn_polled {k : Nat} {task : Task} {found : Poll} (polled : Polled d k task found e) :
    d.Turn (d.asking k task) e := by
  unfold asking
  cases polled with
  | refused prompt unpolled kind aborted =>
    cases there : d.tokens[task.token]? with
    | none => simp [isAborted, there] at aborted
    | some t =>
      rw [isAborted_eq there] at aborted
      simp only [unpolled, kind, aborted, if_true]
      exact .still rfl rfl
  | joins prompt t unpolled kind there alive =>
    simp only [unpolled, kind, there, alive, Bool.false_eq_true, if_false]
    exact .joins prompt task.token t.nextKey (some k) _ rfl rfl rfl rfl (tokens_showHead _)
  | watches unpolled kind =>
    simp only [unpolled, kind]
    exact .still rfl rfl
  | told waits =>
    rcases waits with ⟨unpolled, kind⟩ | watching
    · simp only [unpolled, kind]
      exact .still rfl rfl
    · simp only [watching]
      exact .still rfl rfl
  | fetches id reply rest queued fetched =>
    simp only [queued]
    have shape := fetch_shape fetched
    subst shape
    exact .still rfl rfl
  | waits id queued | watching queued | gone queued =>
    simp only [queued]
    exact .still rfl rfl

end Desk

namespace Scene

theorem turn_errand {s : Scene} (agrees : s.desk.front.Agrees) :
    s.desk.Turn (s.effects .errand) s.runErrand.desk := by
  unfold effects runErrand
  cases s.due with
  | nil => exact .still rfl rfl
  | cons x rest =>
    obtain ⟨e, inAbort⟩ := x
    cases e with
    | run listener =>
      cases listener with
      | reject id => exact Desk.turn_reject s.desk id
      | custom => exact .still rfl rfl
    | perform label acts =>
      cases acts with
      | nil => exact .still rfl rfl
      | cons act acts =>
        have turn := Desk.turn_perform agrees label act
        cases act <;> exact turn

theorem turn_poll {s : Scene} (h : s.Consistent) (k : Nat) :
    s.desk.Turn (s.effects (.poll k)) (s.desk.poll k).2 := by
  have asked : s.effects (.poll k) = (s.desk.works[k]?).toList.flatMap (s.desk.asking k) := by
    simp only [effects, Desk.works, List.getElem?_map]
    cases s.desk.tasks[k]? <;> simp [Desk.asking]
  rw [asked]
  rcases Desk.poll_cases h.held k with ⟨ended, gone⟩ | ⟨task, there, -, polled⟩
  · rw [gone]
    cases there : s.desk.works[k]? with
    | none => exact .still rfl rfl
    | some task =>
      simp only [Option.toList_some, List.flatMap_singleton, Desk.asking, ended task there]
      exact .still rfl rfl
  · rw [there, Option.toList_some, List.flatMap_singleton]
    exact (Desk.turn_polled polled).of_tasks

/-- Every move is a turn. -/
theorem turn_next {s : Scene} (h : s.Consistent) (m : Move) :
    s.desk.Turn (s.effects m) (s.next m).desk := by
  have agrees := h.sound.lined.agrees
  cases m with
  | answer text => exact Desk.turn_answer agrees text
  | errand => exact turn_errand agrees
  | poll k => exact turn_poll h k
  | drop k => exact Desk.turn_dropTask s.desk k
  | interrupt manager =>
    exact .still (Desk.front_retire s.desk manager) (Desk.shown_retire s.desk manager)
  | listen token label acts =>
    exact .still (Desk.front_register s.desk token _) (Desk.shown_register s.desk token _)
  | ask | wait | unlisten => exact .still rfl rfl

theorem told_opened (managers : Nat) : (opened managers).desk.front.Told [] where
  visible := rfl
  alternate := List.isChain_singleton none
  rising := List.Pairwise.nil
  below := by simp [shownRequests]
  gone := by simp [shownRequests]
  inTurn := by simp [InTurn]

end Scene

theorem effects_append (past : List (Scene × Move)) (s : Scene) (m : Move) :
    effects (past ++ [(s, m)]) = effects past ++ s.effects m := by
  simp [effects]

section

variable {managers : Nat} {past : List (Scene × Move)} {s : Scene}

theorem told_run (run : Run (.opened managers) past s) : s.desk.front.Told (effects past) := by
  induction run with
  | start => exact Scene.told_opened managers
  | @move past s m run _ ih =>
    have consistent := consistent_run (Scene.consistent_opened managers) run
    rw [effects_append]
    exact (Scene.turn_next consistent m).told ih consistent.sound.lined

/-- Everything that was ever shown. -/
theorem written_effects (run : Run (.opened managers) past s) :
    written (effects past) = s.desk.shown.reverse := by
  induction run with
  | start => rfl
  | @move past s m run _ ih =>
    have consistent := consistent_run (Scene.consistent_opened managers) run
    rw [effects_append, written_append, ih, (Scene.turn_next consistent m).shown]

end

/-! ## Who leaves, and how -/

/-- The task of the request was dropped while the request was in the queue. -/
def Withdrawn (past : List (Scene × Move)) (id : Nat) : Prop :=
  ∃ s k, (s, .drop k) ∈ past ∧ s.desk.stage? k = some (.queued id) ∧ ∃ r ∈ s.desk.queue, r.id = id

namespace Desk

variable {d : Desk} {effect : Effect}

theorem mem_leaves (kept : effect.value? = none) (d : Desk) (id : Nat) (how : Effect) (ready : Desk) :
    effect ∈ d.leaves id how ready ↔ effect = how := by
  have hidden : effect ∉ d.hides id := by
    unfold hides
    split
    · simp only [List.mem_singleton]
      rintro rfl
      cases kept
    · exact List.not_mem_nil
  have shown : effect ∉ ready.shows := by
    intro mem
    obtain ⟨r, -, rfl⟩ := List.mem_map.mp mem
    cases kept
  simp [leaves, hidden, shown]

theorem not_mem_asking (kept : effect.value? = none) (d : Desk) (k : Nat) (task : Task) :
    effect ∉ d.asking k task := by
  unfold asking
  split
  · split
    · exact List.not_mem_nil
    · intro mem
      obtain ⟨r, -, rfl⟩ := List.mem_map.mp mem
      cases kept
  · exact List.not_mem_nil

theorem mem_rejecting (kept : effect.value? = none) (d : Desk) (id : Nat) :
    effect ∈ d.rejecting id ↔ effect = .settled id .cancelled ∧ ∃ r ∈ d.queue, r.id = id := by
  unfold rejecting
  cases taken : d.take? id with
  | none => simpa using fun _ => take_eq_none taken
  | some found =>
    obtain ⟨mem, same, -⟩ := take_eq_some taken
    simp only [mem_leaves kept]
    exact ⟨fun eq => ⟨eq, _, mem, same⟩, fun h => h.1⟩

theorem mem_withdrawing (kept : effect.value? = none) (d : Desk) (id : Nat) :
    effect ∈ d.withdrawing id ↔ effect = .withdrawn id ∧ ∃ r ∈ d.queue, r.id = id := by
  unfold withdrawing
  cases taken : d.take? id with
  | none => simpa using fun _ => take_eq_none taken
  | some found =>
    obtain ⟨mem, same, -⟩ := take_eq_some taken
    simp only [mem_leaves kept]
    exact ⟨fun eq => ⟨eq, _, mem, same⟩, fun h => h.1⟩

theorem mem_answering (kept : effect.value? = none) (d : Desk) (text : String) :
    effect ∈ d.answering text ↔
      ∃ id, d.active = some id ∧ (d.answer text).1 = true ∧ effect = .settled id (.line text) := by
  unfold answering answer
  cases active : d.active with
  | none => simp
  | some id =>
    cases queue : d.queue with
    | nil => simp
    | cons head rest =>
      by_cases first : head.id = id
      · simp [first, mem_leaves kept]
      · simp [first]

end Desk

/-- Whoever leaves was answered or rejected, or its task was dropped. -/
theorem Scene.mem_effects {s : Scene} {effect : Effect} (kept : effect.value? = none) (m : Move) :
    effect ∈ s.effects m ↔
      (∃ text id, s.answer? m = some text ∧ s.desk.active = some id ∧
        (s.desk.answer text).1 = true ∧ effect = .settled id (.line text)) ∨
      (∃ id, s.reject? m = some id ∧ effect = .settled id .cancelled ∧ ∃ r ∈ s.desk.queue, r.id = id) ∨
      ∃ k id, m = .drop k ∧ s.desk.stage? k = some (.queued id) ∧ effect = .withdrawn id ∧
        ∃ r ∈ s.desk.queue, r.id = id := by
  cases m with
  | answer text => simp [effects, answer?, reject?, Desk.mem_answering kept]
  | errand =>
    unfold effects answer? reject?
    dsimp only
    split
    · rename_i due
      simp only [due, Desk.mem_rejecting kept, reduceCtorEq, Option.some.injEq, false_and,
        exists_false, or_false, false_or, exists_eq_left']
    · rename_i due
      simp [due, Desk.mem_answering kept]
    · simp
  | drop k =>
    unfold effects answer? reject?
    dsimp only
    split
    · rename_i id queued
      simp only [queued, Desk.mem_withdrawing kept, Desk.setStage, reduceCtorEq, false_and,
        exists_false, false_or, Move.drop.injEq, Option.some.injEq, Stage.queued.injEq,
        exists_eq_left', exists_and_left]
    · rename_i other
      simp only [List.not_mem_nil, reduceCtorEq, false_and, exists_false, false_or, false_iff]
      rintro ⟨j, id, same, queued, -⟩
      cases same
      exact other id queued
  | poll k => simp [effects, answer?, reject?, Desk.not_mem_asking kept]
  | interrupt | ask | wait | listen | unlisten => simp [effects, answer?, reject?]

section

variable {past : List (Scene × Move)} {id : Nat}

theorem mem_effects_past {effect : Effect} (kept : effect.value? = none) :
    effect ∈ effects past ↔
      (∃ id text, Answered past id text ∧ effect = .settled id (.line text)) ∨
      (∃ id, Rejected past id ∧ effect = .settled id .cancelled) ∨
      ∃ id, Withdrawn past id ∧ effect = .withdrawn id := by
  simp only [effects, List.mem_flatMap, Prod.exists, Scene.mem_effects kept]
  constructor
  · rintro ⟨s, m, made, ⟨text, id, call, active, accepted, rfl⟩ | ⟨id, call, rfl, queued⟩ |
      ⟨k, id, rfl, waits, rfl, queued⟩⟩
    · exact .inl ⟨id, text, ⟨s, m, made, call, accepted, active⟩, rfl⟩
    · exact .inr (.inl ⟨id, ⟨s, m, made, call, queued⟩, rfl⟩)
    · exact .inr (.inr ⟨id, ⟨s, k, made, waits, queued⟩, rfl⟩)
  · rintro (⟨id, text, ⟨s, m, made, call, accepted, active⟩, rfl⟩ | ⟨id, ⟨s, m, made, call, queued⟩, rfl⟩ |
      ⟨id, ⟨s, k, made, waits, queued⟩, rfl⟩)
    · exact ⟨s, m, made, .inl ⟨text, id, call, active, accepted, rfl⟩⟩
    · exact ⟨s, m, made, .inr (.inl ⟨id, call, rfl, queued⟩)⟩
    · exact ⟨s, .drop k, made, .inr (.inr ⟨k, id, rfl, waits, rfl, queued⟩)⟩

/-- A request leaves with an answer, with the abort of its token, or because nobody waits for it. -/
theorem left_effects : Left (effects past) id ↔
    (∃ text, Answered past id text) ∨ Rejected past id ∨ Withdrawn past id := by
  constructor
  · rintro (⟨reply, mem⟩ | mem)
    · rcases (mem_effects_past rfl).mp mem with ⟨id, text, answered, same⟩ | ⟨id, rejected, same⟩ |
        ⟨id, -, same⟩ <;> cases same
      · exact .inl ⟨text, answered⟩
      · exact .inr (.inl rejected)
    · rcases (mem_effects_past rfl).mp mem with ⟨id, text, -, same⟩ | ⟨id, -, same⟩ |
        ⟨id, withdrawn, same⟩ <;> cases same
      exact .inr (.inr withdrawn)
  · rintro (⟨text, answered⟩ | rejected | withdrawn)
    · exact .inl ⟨.line text, (mem_effects_past rfl).mpr (.inl ⟨id, text, answered, rfl⟩)⟩
    · exact .inl ⟨.cancelled, (mem_effects_past rfl).mpr (.inr (.inl ⟨id, rejected, rfl⟩))⟩
    · exact .inr ((mem_effects_past rfl).mpr (.inr (.inr ⟨id, withdrawn, rfl⟩)))

end

/-! ## What is shown over a run -/

theorem shownRequests_written (log : List Effect) :
    shownRequests log = (written log).filterMap id := by
  rw [shownRequests, written, List.filterMap_filterMap]
  congr 1
  funext effect
  cases effect <;> rfl

theorem alive_past {managers : Nat} {past : List (Scene × Move)} {s : Scene}
    (run : Run (.opened managers) past s) {before : Scene} {m : Move} (made : (before, m) ∈ past)
    {r : ActiveRequest} (shown : .published (some r) ∈ before.effects m) :
    ∃ q ∈ (before.next m).desk.queue, q.id = r.id ∧ q.prompt = r.prompt ∧
      (before.next m).desk.isAborted q.token = false := by
  induction run with
  | start => cases made
  | @move past s m' run _ ih =>
    rcases List.mem_append.mp made with earlier | last
    · exact ih earlier
    · cases List.mem_singleton.mp last
      have consistent := consistent_run (Scene.consistent_opened managers) run
      exact (Scene.turn_next consistent m).alive shown

/-- The user is shown a request and nothing in turn, requests with ever greater numbers. Each has
left before the next one is shown: it was answered or rejected, or its task was dropped. And a
request is shown while its token is not aborted, also between the errands of an abort. -/
theorem requests_shown_in_turn {managers : Nat} {past : List (Scene × Move)} {s : Scene}
    (run : Run (.opened managers) past s) :
    (none :: s.desk.shown.reverse).IsChain Alternates ∧
    ((s.desk.shown.reverse.filterMap id).map (·.id)).Pairwise (· < ·) ∧
    written (effects past) = s.desk.shown.reverse ∧
    (∀ before r after, effects past = before ++ .published (some r) :: after →
      ∀ earlier ∈ shownRequests before, Left before earlier.id) ∧
    (∀ id, Left (effects past) id ↔
      (∃ text, Answered past id text) ∨ Rejected past id ∨ Withdrawn past id) ∧
    (∀ before m r, (before, m) ∈ past → .published (some r) ∈ before.effects m →
      ∃ q ∈ (before.next m).desk.queue, q.id = r.id ∧ q.prompt = r.prompt ∧
        (before.next m).desk.isAborted q.token = false) := by
  have told := told_run run
  have values := written_effects run
  have requests := (congrArg (List.filterMap id) values).symm.trans (shownRequests_written _).symm
  refine ⟨values ▸ told.alternate, requests ▸ told.rising, values, told.inTurn,
    fun _ => left_effects, fun before m r made shown => alive_past run made shown⟩

/-- Two requests of one manager and a third of another; the first manager is interrupted. -/
def doomedHead : List Move :=
  [.ask "first" 0, .ask "second" 0, .ask "third" 1, .poll 0, .poll 1, .poll 2, .interrupt 0,
    .errand, .errand]

/-- The second request is at the head of the queue once the first one is rejected. Its token is
aborted, so the third one is the next to be shown. -/
theorem shown_past_doomed_head :
    ∃ past s before, Run (.opened 2) past s ∧
      effects past = before ++ [.published (some ⟨2, "third"⟩)] ∧
      (none :: s.desk.shown.reverse).IsChain Alternates ∧ Left before 0 ∧
      (Rejected past 1 ∧ ∀ r ∈ shownRequests (effects past), r.id ≠ 1) := by
  have run := run_past (.opened 2) doomedHead (by decide +kernel)
  have history : effects ((Scene.opened 2).past doomedHead) =
      [.published (some ⟨0, "first"⟩), .settled 0 .cancelled, .published none,
        .settled 1 .cancelled] ++ [.published (some ⟨2, "third"⟩)] := by decide +kernel
  obtain ⟨alternate, -, -, inTurn, -, -⟩ := requests_shown_in_turn run
  refine ⟨_, _, _, run, history, alternate, ?_, ?_, ?_⟩
  · exact inTurn _ ⟨2, "third"⟩ [] history ⟨0, "first"⟩ (by decide)
  · apply mem_settlements_cancelled.mp
    decide +kernel
  · rw [history]
    decide

end ScriptSession
