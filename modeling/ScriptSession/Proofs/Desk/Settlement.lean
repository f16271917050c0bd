import ScriptSession.Proofs.Desk.Books
import ScriptSession.Proofs.Desk.Consistency

/-!
# Requests are settled once

The past of a run shows what every move settled (`settlements`): an accepted answer settles the
active request, and the listener of a request settles it if it finds it in the queue. Every move
keeps the books with the log of the past (`books_run`), so a poll finds exactly what the past says
about its request. `requests_settle_once` puts it together.
-/
namespace ScriptSession

namespace Desk

/-- What an answer settles: the active request, if the answer is accepted. -/
def answers (d : Desk) (text : String) : List (Nat × Reply) :=
  if (d.answer text).1 then d.active.toList.map (·, .line text) else []

/-- What the listener of a request settles: the request, if it finds it in the queue. -/
def rejects (d : Desk) (id : Nat) : List (Nat × Reply) :=
  if d.queue.any (·.id == id) then [(id, .cancelled)] else []

/-- A request that nobody polled before its token was aborted. -/
def TooLate (d : Desk) (k : Nat) : Prop :=
  ∃ task prompt, d.tasks[k]? = some task ∧ task.stage = .unpolled ∧
    task.kind = .request prompt ∧ d.isAborted task.token = true

/-- A task waits for a request that can no longer be settled, and was not. -/
def Closed (d : Desk) (k : Nat) : Prop :=
  ∃ id, d.stage? k = some (.queued id) ∧ (∀ r ∈ d.queue, r.id ≠ id) ∧
    ∀ entry ∈ d.replies, entry.1 ≠ id

end Desk

namespace Scene

/-- The text that a move answers with. A listener's answer is an errand. -/
def answer? (s : Scene) : Move → Option String
  | .answer text => some text
  | .errand =>
    match s.due with
    | ⟨.perform _ (.answer text :: _), _⟩ :: _ => some text
    | _ => none
  | _ => none

/-- The request whose own listener a move runs. -/
def reject? (s : Scene) : Move → Option Nat
  | .errand =>
    match s.due with
    | ⟨.run (.reject id), _⟩ :: _ => some id
    | _ => none
  | _ => none

def settles (s : Scene) (m : Move) : List (Nat × Reply) :=
  (s.answer? m).toList.flatMap s.desk.answers ++ (s.reject? m).toList.flatMap s.desk.rejects

end Scene

/-- Everything that was settled, in the order of the moves. -/
def settlements (past : List (Scene × Move)) : List (Nat × Reply) :=
  past.flatMap fun (s, m) => s.settles m

/-- An answer was accepted while the request was active. -/
def Answered (past : List (Scene × Move)) (id : Nat) (text : String) : Prop :=
  ∃ s m, (s, m) ∈ past ∧ s.answer? m = some text ∧ (s.desk.answer text).1 = true ∧
    s.desk.active = some id

/-- The listener of the request found it in the queue. -/
def Rejected (past : List (Scene × Move)) (id : Nat) : Prop :=
  ∃ s m, (s, m) ∈ past ∧ s.reject? m = some id ∧ ∃ r ∈ s.desk.queue, r.id = id

/-- The moves leave the task to itself. -/
def Untouched (k : Nat) (past : List (Scene × Move)) : Prop :=
  ∀ entry ∈ past, entry.2 ≠ .poll k ∧ entry.2 ≠ .drop k

theorem mem_settlements_line {past : List (Scene × Move)} {id : Nat} {text : String} :
    (id, .line text) ∈ settlements past ↔ Answered past id text := by
  constructor
  · intro mem
    obtain ⟨⟨s, m⟩, there, settled⟩ := List.mem_flatMap.mp mem
    simp only [Scene.settles, Desk.answers, Desk.rejects, List.mem_append, List.mem_flatMap,
      Option.mem_toList] at settled
    rcases settled with ⟨text', answer, settled⟩ | ⟨id', -, settled⟩
    · split at settled
      · rename_i accepted
        simp only [List.mem_map, Option.mem_toList, Prod.mk.injEq, Reply.line.injEq] at settled
        obtain ⟨id', active, rfl, rfl⟩ := settled
        exact ⟨s, m, there, answer, accepted, active⟩
      · cases settled
    · split at settled <;> simp at settled
  · rintro ⟨s, m, there, answer, accepted, active⟩
    refine List.mem_flatMap.mpr ⟨(s, m), there, List.mem_append_left _ ?_⟩
    simp [answer, Desk.answers, accepted, active]

theorem mem_settlements_cancelled {past : List (Scene × Move)} {id : Nat} :
    (id, .cancelled) ∈ settlements past ↔ Rejected past id := by
  constructor
  · intro mem
    obtain ⟨⟨s, m⟩, there, settled⟩ := List.mem_flatMap.mp mem
    simp only [Scene.settles, Desk.answers, Desk.rejects, List.mem_append, List.mem_flatMap,
      Option.mem_toList] at settled
    rcases settled with ⟨text, -, settled⟩ | ⟨id', reject, settled⟩
    · split at settled <;> simp at settled
    · split at settled
      · rename_i queued
        simp only [List.mem_singleton, Prod.mk.injEq, and_true] at settled
        subst settled
        obtain ⟨r, mem, same⟩ := List.any_eq_true.mp queued
        exact ⟨s, m, there, reject, r, mem, by simpa using same⟩
      · cases settled
  · rintro ⟨s, m, there, reject, r, mem, same⟩
    refine List.mem_flatMap.mpr ⟨(s, m), there, List.mem_append_right _ ?_⟩
    have queued : s.desk.queue.any (·.id == id) = true :=
      List.any_eq_true.mpr ⟨r, mem, by simpa using same⟩
    simp [reject, Desk.rejects, queued]

theorem settlements_append (past : List (Scene × Move)) (s : Scene) (m : Move) :
    settlements (past ++ [(s, m)]) = settlements past ++ s.settles m := by
  simp [settlements]

/-! ## Calls keep the books -/

namespace Desk

variable {d : Desk} {log : List (Nat × Reply)}

theorem books_reject (h : d.Books log) (lined : d.front.Lined) (id : Nat) :
    (d.reject id).Books (log ++ d.rejects id) := by
  unfold reject
  split
  · rename_i absent
    have none : d.queue.any (·.id == id) = false := by
      simpa using take_eq_none absent
    simpa [rejects, none] using h
  · rename_i r rest taken
    obtain ⟨mem, rfl, -⟩ := take_eq_some taken
    have front := front_hide_of_take taken (front_settle rest r .cancelled)
    have queued : d.queue.any (·.id == r.id) = true :=
      List.any_eq_true.mpr ⟨r, mem, by simp⟩
    rw [rejects, if_pos queued]
    apply h.settle lined mem (by simp [Reply.isLine])
    · rw [queue_showHead]
      exact congrArg Front.queue front
    · rw [nextRequest_showHead]
      exact congrArg Front.nextRequest front
    · rw [replies_showHead, replies_hide, replies_settle, replies_take taken]
    · rw [works_showHead, works_hide, works_settle, works_take taken]

theorem books_answer (h : d.Books log) (lined : d.front.Lined) (text : String) :
    (d.answer text).2.Books (log ++ d.answers text) := by
  rcases answer_cases lined.agrees text with ⟨-, -, refused⟩ |
    ⟨r, rest, queue, active, -, accepted⟩
  · simpa [answers, refused] using h
  · have front := front_served queue active text
    have settled : d.answers text = [(r.id, .line text)] := by simp [answers, accepted, active]
    rw [settled, accepted]
    apply h.settle lined (by simp [queue])
    · intro _ other mem
      have ordered := lined.ordered
      simp only [Desk.front, queue, List.map_cons, List.pairwise_cons] at ordered
      rcases List.mem_cons.mp (queue ▸ mem) with rfl | later
      · exact Nat.le_refl _
      · exact Nat.le_of_lt (ordered.1 _ (List.mem_map_of_mem later))
    · rw [queue_showHead]
      exact congrArg Front.queue front
    · rw [nextRequest_showHead]
      exact congrArg Front.nextRequest front
    · rw [replies_showHead, replies_served]
    · rw [works_showHead, works_served]

/-- A call that neither settles a request nor touches a task. -/
theorem Books.keep {e : Desk} (h : d.Books log) (front : e.front = d.front)
    (replies : e.replies = d.replies) (works : e.works = d.works) : e.Books log :=
  h.congr (congrArg Front.queue front) (congrArg Front.nextRequest front) replies
    fun k _ => by rw [stage_congr works]

/-- A task that waits for no request goes on to a stage that waits for none. -/
theorem Books.move {e : Desk} (h : d.Books log) (front : e.front = d.front)
    (replies : e.replies = d.replies) {k : Nat} {stage : Stage}
    (works : e.works = d.works.modify k ({ · with stage := stage }))
    (before : ∀ id, d.stage? k ≠ some (.queued id)) (after : ∀ id, stage ≠ .queued id) :
    e.Books log := by
  apply h.congr (congrArg Front.queue front) (congrArg Front.nextRequest front) replies
  intro j id
  rw [stage_modify works]
  by_cases same : k = j
  · subst same
    have before := before id
    cases found : d.stage? k <;> simp_all
  · rw [if_neg same]

theorem books_polled {e : Desk} {k : Nat} {task : Task} {found : Poll} (h : d.Books log)
    (lined : d.front.Lined) (there : d.works[k]? = some task)
    (polled : Polled d k task found e) : e.Books log := by
  have stage : d.stage? k = some task.stage := by simp [stage_works, there]
  cases polled with
  | refused prompt unpolled =>
    exact h.move (front_setStage ..) rfl (works_setStage ..) (by simp [stage, unpolled]) (by simp)
  | joins prompt t unpolled =>
    refine h.join lined (stage.trans (congrArg some unpolled))
      (r := d.newcomer prompt task.token t.nextKey (some k)) rfl rfl ?_ ?_ ?_ ?_
    · exact queue_showHead _
    · exact nextRequest_showHead _
    · exact replies_showHead _
    · rw [works_setStage, works_showHead]
      rfl
  | watches unpolled =>
    exact h.move (front_setStage ..) rfl (works_setStage ..) (by simp [stage, unpolled]) (by simp)
  | told waits =>
    refine h.move (front_setStage ..) rfl (works_setStage ..) (fun id queued => ?_) (by simp)
    rw [stage, Option.some.injEq] at queued
    rcases waits with ⟨unpolled, -⟩ | watching <;> simp_all
  | fetches id reply rest queued fetched =>
    have fetched' := fetched
    unfold fetch? at fetched'
    split at fetched'
    · rename_i number _ first
      simp only [Option.some.injEq, Prod.mk.injEq] at fetched'
      obtain ⟨rfl, rfl⟩ := fetched'
      have same : number = id := by simpa using List.find?_some first
      subst same
      have replied := List.mem_of_find?_eq_some first
      refine h.leave lined (k := k) (stage.trans (congrArg some queued)) ?_ rfl rfl
        (works_setStage ..)
      exact (h.eraseP_of_replied replied).symm
    · cases fetched'
  | waits | watching | gone => exact h

theorem books_dropTask (h : d.Books log) (lined : d.front.Lined) (k : Nat) :
    (d.dropTask k).Books log := by
  have works := works_dropTask d k
  unfold dropTask at works ⊢
  split
  · exact h
  · rename_i task found
    have stage : d.stage? k = some task.stage := by simp [stage?, found]
    simp only [found] at works
    split
    · rename_i id queued
      simp only [queued] at works
      refine h.leave lined (stage.trans (congrArg some queued)) ?_ ?_ ?_ works
      · exact queue_withdraw (d.setStage k .ended) id
      · exact nextRequest_withdraw (d.setStage k .ended) id
      · simp only [replies_withdraw]
        rfl
    · rename_i watching
      exact h.move rfl rfl (works_setStage ..) (by simp [stage, watching]) (by simp)
    · rename_i unpolled
      exact h.move rfl rfl (works_setStage ..) (by simp [stage, unpolled]) (by simp)
    · rename_i ended
      exact h.move rfl rfl (works_setStage ..) (by simp [stage, ended]) (by simp)

theorem books_perform (h : d.Books log) (label : String) (act : Act)
    (quiet : ∀ text, act ≠ .answer text) : (d.perform label act).2.Books log := by
  cases act with
  | report | note => exact h.keep rfl rfl rfl
  | answer text => exact absurd rfl (quiet text)
  | interrupt manager =>
    exact h.keep (front_retire d manager) (replies_retire d manager) (works_retire d manager)
  | listen token label acts =>
    exact h.keep (front_register d token _) (replies_register d token _) (works_register d token _)

end Desk

namespace Scene

variable {s : Scene} {log : List (Nat × Reply)}

theorem books_poll (h : s.Consistent) (books : s.desk.Books log) (k : Nat) :
    (s.desk.poll k).2.Books log := by
  rcases Desk.poll_cases h.held k with ⟨-, gone⟩ | ⟨task, there, -, polled⟩
  · rw [gone]
    exact books
  · have books : (s.desk.unwoken k).Books log := books.keep rfl rfl (Desk.works_unwoken ..)
    rw [← Desk.works_unwoken s.desk k] at there
    exact Desk.books_polled books h.sound.lined there polled

theorem books_addTask (books : s.desk.Books log) (kind : TaskKind) (token : Nat) :
    (s.desk.addTask kind token).2.Books log := by
  refine books.congr rfl rfl rfl fun k id => ?_
  simp only [Desk.stage?, Desk.addTask, List.getElem?_append]
  split
  · rfl
  · rename_i beyond
    rw [List.getElem?_eq_none (Nat.le_of_not_lt beyond)]
    cases found : [({ kind, token } : Task)][k - s.desk.tasks.length]? with
    | none => rfl
    | some task =>
      have new := List.mem_singleton.mp (List.mem_of_getElem? found)
      simp [new]

theorem books_runErrand (h : s.Consistent) (books : s.desk.Books log) :
    s.runErrand.desk.Books (log ++ s.settles .errand) := by
  have lined := h.sound.lined
  unfold runErrand settles answer? reject?
  cases s.due with
  | nil => simpa using books
  | cons x rest =>
    obtain ⟨e, inAbort⟩ := x
    cases e with
    | run listener =>
      cases listener with
      | reject id => simpa [Desk.step] using Desk.books_reject books lined id
      | custom label acts => simpa [Desk.step] using books
    | perform label acts =>
      cases acts with
      | nil => simpa [Desk.step] using books
      | cons act acts =>
        cases act with
        | answer text =>
          have answered := Desk.books_answer books lined text
          have recorded := answered.keep (e := (s.desk.perform label (.answer text)).2) rfl rfl rfl
          simpa [Desk.step] using recorded
        | report => simpa [Desk.step] using Desk.books_perform books label .report (by simp)
        | note text =>
          simpa [Desk.step] using Desk.books_perform books label (.note text) (by simp)
        | interrupt manager =>
          simpa [Desk.step] using
            Desk.books_perform books label (.interrupt manager) (by simp)
        | listen token own acts =>
          simpa [Desk.step] using
            Desk.books_perform books label (.listen token own acts) (by simp)

theorem books_next (h : s.Consistent) (books : s.desk.Books log) (m : Move) :
    (s.next m).desk.Books (log ++ s.settles m) := by
  cases m with
  | answer text =>
    simpa [next, settles, answer?, reject?] using Desk.books_answer books h.sound.lined text
  | errand => exact books_runErrand h books
  | interrupt manager =>
    simpa [next, settles, answer?, reject?] using books.keep (Desk.front_retire s.desk manager)
      (Desk.replies_retire s.desk manager) (Desk.works_retire s.desk manager)
  | ask prompt token =>
    simpa [next, settles, answer?, reject?] using books_addTask books (.request prompt) token
  | wait token => simpa [next, settles, answer?, reject?] using books_addTask books .wait token
  | poll k => simpa [next, settles, answer?, reject?] using books_poll h books k
  | drop k =>
    simpa [next, settles, answer?, reject?] using Desk.books_dropTask books h.sound.lined k
  | listen token label acts =>
    simpa [next, settles, answer?, reject?] using books.keep (Desk.front_register s.desk token _)
      (Desk.replies_register s.desk token _) (Desk.works_register s.desk token _)
  | unlisten token key =>
    simpa [next, settles, answer?, reject?] using books.keep
      (Desk.front_removeListener s.desk token key) rfl rfl

theorem books_opened (managers : Nat) : (opened managers).desk.Books [] where
  once := by simp
  left := by simp
  replied := by simp [opened, Desk.opened]
  owned := by simp [opened, Desk.opened]
  waiting := by simp [opened, Desk.opened, Desk.stage?]
  alone := by simp [opened, Desk.opened, Desk.stage?]
  rising := by simp [answered]
  ahead := by simp [answered]

end Scene

theorem books_run {managers : Nat} {past : List (Scene × Move)} {s : Scene}
    (run : Run (.opened managers) past s) : s.desk.Books (settlements past) := by
  induction run with
  | start => exact Scene.books_opened managers
  | @move past s m run _ ih =>
    have consistent := consistent_run (Scene.consistent_opened managers) run
    rw [settlements_append]
    exact Scene.books_next consistent ih m

/-! ## What a poll finds -/

namespace Desk

variable {d : Desk} {log : List (Nat × Reply)} {k id : Nat}

theorem poll_queued (waits : d.stage? k = some (.queued id)) :
    (d.poll k).1 = (d.replies.find? (·.1 == id)).elim .pending fun entry => .settled entry.2 := by
  obtain ⟨task, found, stage⟩ := Option.map_eq_some_iff.mp waits
  simp only [poll, found, stage, pollStage, fetch?]
  cases d.replies.find? (·.1 == id) <;> rfl

/-- A task that waits for a request finds what was logged for it. -/
theorem poll_waiting (books : d.Books log) (waits : d.stage? k = some (.queued id)) (reply : Reply) :
    (d.poll k).1 = .settled reply ↔ (id, reply) ∈ log := by
  rw [poll_queued waits]
  cases found : d.replies.find? (·.1 == id) with
  | none =>
    have absent : ∀ entry ∈ d.replies, entry.1 ≠ id := by
      simpa using List.find?_eq_none.mp found
    refine ⟨fun settled => (by cases settled), fun logged => ?_⟩
    rcases books.waiting k id waits with ⟨r, mem, rfl⟩ | ⟨reply', replied⟩
    · exact absurd logged (books.unsettled mem reply)
    · exact absurd rfl (absent _ replied)
  | some entry =>
    obtain ⟨number, fetched⟩ := entry
    have same : number = id := by simpa using List.find?_some found
    subst same
    have logged := books.replied.subset (List.mem_of_find?_eq_some found)
    constructor
    · intro settled
      cases settled
      exact logged
    · intro logged'
      rw [books.reply_unique logged' logged]
      rfl

/-- A task that waits for none is cancelled only if its token was aborted before its first poll. -/
theorem poll_otherwise (idle : ∀ id, d.stage? k ≠ some (.queued id)) (reply : Reply) :
    (d.poll k).1 = .settled reply ↔ reply = .cancelled ∧ d.TooLate k := by
  unfold poll TooLate
  cases found : d.tasks[k]? with
  | none => simp
  | some task =>
    have stage : d.stage? k = some task.stage := by simp [stage?, found]
    cases task_stage : task.stage with
    | queued id => exact absurd (stage.trans (congrArg some task_stage)) (idle id)
    | watching =>
      simp only [pollStage, task_stage]
      split <;> simp [task_stage]
    | ended => simp [task_stage]
    | unpolled =>
      cases kind : task.kind with
      | wait =>
        simp only [pollStage, task_stage, kind]
        split <;> simp [kind]
      | request prompt =>
        simp only [pollStage, task_stage, kind]
        by_cases aborted : d.isAborted task.token = true
        · have aborted' : isAborted { d with
              tasks := d.tasks.modify k ({ · with woken := false }) } task.token = true := aborted
          rw [if_pos aborted']
          constructor
          · intro settled
            cases settled
            exact ⟨rfl, task, prompt, rfl, task_stage, kind, aborted⟩
          · rintro ⟨rfl, -⟩
            rfl
        · have alive : ¬ isAborted { d with
              tasks := d.tasks.modify k ({ · with woken := false }) } task.token = true := aborted
          rw [if_neg alive]
          simp [aborted]

theorem poll_line_iff (books : d.Books log) (k : Nat) (text : String) :
    (d.poll k).1 = .settled (.line text) ↔
      ∃ id, d.stage? k = some (.queued id) ∧ (id, .line text) ∈ log := by
  by_cases waits : ∃ id, d.stage? k = some (.queued id)
  · obtain ⟨id, waits⟩ := waits
    rw [poll_waiting books waits]
    simp [waits]
  · rw [poll_otherwise (fun id queued => waits ⟨id, queued⟩)]
    constructor
    · rintro ⟨line, -⟩
      cases line
    · rintro ⟨id, queued, -⟩
      exact absurd ⟨id, queued⟩ waits

theorem poll_cancelled_iff (books : d.Books log) (k : Nat) :
    (d.poll k).1 = .settled .cancelled ↔
      d.TooLate k ∨ ∃ id, d.stage? k = some (.queued id) ∧ (id, .cancelled) ∈ log := by
  by_cases waits : ∃ id, d.stage? k = some (.queued id)
  · obtain ⟨id, waits⟩ := waits
    have polled : ¬ d.TooLate k := by
      rintro ⟨task, prompt, found, unpolled, -⟩
      simp [stage?, found, unpolled] at waits
    rw [poll_waiting books waits]
    simp [waits, polled]
  · rw [poll_otherwise (fun id queued => waits ⟨id, queued⟩)]
    constructor
    · rintro ⟨-, late⟩
      exact .inl late
    · rintro (late | ⟨id, queued, -⟩)
      · exact ⟨rfl, late⟩
      · exact absurd ⟨id, queued⟩ waits

theorem not_closed (books : d.Books log) (k : Nat) : ¬ d.Closed k := by
  rintro ⟨id, waits, gone, none⟩
  rcases books.waiting k id waits with ⟨r, mem, same⟩ | ⟨reply, mem⟩
  · exact gone r mem same
  · exact none _ mem rfl

end Desk

/-! ## A task is left to wait -/

namespace Scene

theorem stage_next {s : Scene} (h : s.Consistent) {k : Nat} {stage : Stage} {m : Move}
    (poll : m ≠ .poll k) (drop : m ≠ .drop k) (there : s.desk.stage? k = some stage) :
    (s.next m).desk.stage? k = some stage := by
  have agrees := h.sound.lined.agrees
  have added : ∀ kind token, (s.desk.addTask kind token).2.stage? k = some stage := by
    intro kind token
    obtain ⟨task, found, same⟩ := Option.map_eq_some_iff.mp there
    have below := (List.getElem?_eq_some_iff.mp found).1
    rw [Desk.stage?, Desk.addTask, List.getElem?_append_left below, found, ← same]
    rfl
  cases m with
  | interrupt manager => exact (Desk.stage_congr (Desk.works_retire s.desk manager) k).trans there
  | ask prompt token => exact added (.request prompt) token
  | wait token => exact added .wait token
  | poll j =>
    have ne : j ≠ k := fun same => poll (congrArg Move.poll same)
    show (s.desk.poll j).2.stage? k = some stage
    rcases Desk.poll_cases h.held j with ⟨-, gone⟩ | ⟨task, -, -, polled⟩
    · rw [gone]
      exact there
    · have unwoken : (s.desk.unwoken j).stage? k = some stage :=
        (Desk.stage_congr (Desk.works_unwoken ..) k).trans there
      rcases Desk.works_polled polled with same | ⟨stage', moved⟩
      · exact (Desk.stage_congr same k).trans unwoken
      · rw [Desk.stage_modify moved, if_neg ne]
        exact unwoken
  | drop j =>
    have ne : j ≠ k := fun same => drop (congrArg Move.drop same)
    exact (Desk.stage_modify (Desk.works_dropTask s.desk j) k).trans ((if_neg ne).trans there)
  | answer text => exact (Desk.stage_congr (Desk.works_answer agrees text) k).trans there
  | listen token label acts =>
    exact (Desk.stage_congr (Desk.works_register s.desk token _) k).trans there
  | unlisten token key => exact there
  | errand =>
    show s.runErrand.desk.stage? k = some stage
    unfold runErrand
    split
    · exact there
    · exact (Desk.stage_congr (Desk.works_step agrees _) k).trans there

end Scene

theorem stage_stays {managers : Nat} {past later : List (Scene × Move)} {s t : Scene} {k : Nat}
    {stage : Stage} (run : Run (.opened managers) past s) (on : Run s later t)
    (untouched : Untouched k later) (there : s.desk.stage? k = some stage) :
    t.desk.stage? k = some stage := by
  induction on with
  | start => exact there
  | @move later t m on _ ih =>
    have before : Untouched k later := fun entry mem =>
      untouched entry (List.mem_append_left _ mem)
    have consistent := consistent_run (Scene.consistent_opened managers) (run.trans on)
    obtain ⟨poll, drop⟩ := untouched (t, m) (by simp)
    exact Scene.stage_next consistent poll drop (ih before)

/-! ## Answers -/

theorem Scene.allows_answer {s : Scene} {m : Move} {text : String} (h : s.answer? m = some text) :
    s.Allows m := by
  cases m with
  | answer | errand => trivial
  | _ => cases h

/-- Nobody is asked, and nothing happens; or the answer reaches the task whose request is shown, and
no matter what happens before it is polled again. -/
theorem answer_reaches_task {managers : Nat} {past : List (Scene × Move)} {s : Scene}
    (run : Run (.opened managers) past s) {m : Move} {text : String}
    (call : s.answer? m = some text) :
    s.desk.visible = none ∧ s.desk.answer text = (false, s.desk) ∨
    ∃ r rest k, s.desk.queue = r :: rest ∧ s.desk.visible = some ⟨r.id, r.prompt⟩ ∧
      r.task = some k ∧ (s.desk.answer text).1 = true ∧ (s.desk.answer text).2.queue = rest ∧
      (s.desk.answer text).2.replies = s.desk.replies ++ [(r.id, .line text)] ∧
      ∀ later t, Run (s.next m) later t → Untouched k later →
        (t.desk.poll k).1 = .settled (.line text) := by
  have consistent := consistent_run (Scene.consistent_opened managers) run
  rcases Desk.answer_cases consistent.sound.lined.agrees text with ⟨-, hidden, refused⟩ |
    ⟨r, rest, queue, active, visible, accepted⟩
  · exact .inl ⟨hidden, refused⟩
  · obtain ⟨k, task, waits⟩ := (books_run run).owned r (by simp [queue])
    refine .inr ⟨r, rest, k, queue, visible, task, by rw [accepted], ?_, ?_, ?_⟩
    · rw [accepted, Desk.queue_showHead]
      have front := Desk.front_served queue active text
      apply (congrArg Front.queue front).trans
      simp [Desk.without, queue]
    · rw [accepted, Desk.replies_showHead, Desk.replies_served]
    · intro later t on untouched
      have made := run.move (Scene.allows_answer call)
      have settled : Answered (past ++ [(s, m)] ++ later) r.id text :=
        ⟨s, m, by simp, call, by rw [accepted], active⟩
      have waits' : (s.next m).desk.stage? k = some (.queued r.id) := by
        refine Scene.stage_next consistent ?_ ?_ waits
        · rintro rfl
          cases call
        · rintro rfl
          cases call
      have still := stage_stays made on untouched waits'
      exact (Desk.poll_line_iff (books_run (made.trans on)) k text).mpr
        ⟨r.id, still, mem_settlements_line.mpr settled⟩

/-- An answer goes to the request that is shown and to no other, no request is settled twice, and a
poll finds a line or a cancellation exactly if the past holds it: an accepted answer while the
request was active, or an abort that came before the first poll or found the request in the queue.
No task waits for a request that is gone, and answers come in the order of the requests. -/
theorem requests_settle_once {managers : Nat} {past : List (Scene × Move)} {s : Scene}
    (run : Run (.opened managers) past s) :
    (∀ m text, s.answer? m = some text →
      s.desk.visible = none ∧ s.desk.answer text = (false, s.desk) ∨
      ∃ r rest k, s.desk.queue = r :: rest ∧ s.desk.visible = some ⟨r.id, r.prompt⟩ ∧
        r.task = some k ∧ (s.desk.answer text).1 = true ∧ (s.desk.answer text).2.queue = rest ∧
        (s.desk.answer text).2.replies = s.desk.replies ++ [(r.id, .line text)] ∧
        ∀ later t, Run (s.next m) later t → Untouched k later →
          (t.desk.poll k).1 = .settled (.line text)) ∧
    ((settlements past).map (·.1)).Nodup ∧
    (∀ k text, (s.desk.poll k).1 = .settled (.line text) ↔
      ∃ id, s.desk.stage? k = some (.queued id) ∧ Answered past id text) ∧
    (∀ k, (s.desk.poll k).1 = .settled .cancelled ↔
      s.desk.TooLate k ∨ ∃ id, s.desk.stage? k = some (.queued id) ∧ Rejected past id) ∧
    (∀ k, ¬ s.desk.Closed k) ∧
    (answered (settlements past)).Pairwise (· < ·) := by
  have books := books_run run
  refine ⟨fun m text => answer_reaches_task run, books.once, ?_, ?_, ?_, books.rising⟩
  · intro k text
    rw [Desk.poll_line_iff books]
    simp only [mem_settlements_line]
  · intro k
    rw [Desk.poll_cancelled_iff books]
    simp only [mem_settlements_cancelled]
  · exact Desk.not_closed books

/-- The first request was rejected before the listener's answer, so the answer went to the second. -/
theorem settled_by_answering_listener :
    ∃ past s, Run (.opened 2) past s ∧ (s.desk.poll 0).1 = .settled .cancelled ∧
      (∃ id, s.desk.stage? 0 = some (.queued id) ∧ Rejected past id) ∧
      (s.desk.poll 1).1 = .settled (.line "yes") ∧
      (∃ id, s.desk.stage? 1 = some (.queued id) ∧ Answered past id "yes") ∧
      (answered (settlements past)).Pairwise (· < ·) := by
  have run := run_past (.opened 2) answeringListener (by decide +kernel)
  obtain ⟨-, -, line, cancelled, -, rising⟩ := requests_settle_once run
  have first : ((((Scene.opened 2).after answeringListener).desk).poll 0).1 =
      .settled .cancelled := by decide +kernel
  have second : ((((Scene.opened 2).after answeringListener).desk).poll 1).1 =
      .settled (.line "yes") := by decide +kernel
  have queued : (((Scene.opened 2).after answeringListener).desk).stage? 0 = some (.queued 0) := by
    decide +kernel
  refine ⟨_, _, run, first, ?_, second, (line 1 "yes").mp second, rising⟩
  apply ((cancelled 0).mp first).resolve_left
  rintro ⟨task, prompt, found, unpolled, -⟩
  simp [Desk.stage?, found, unpolled] at queued

end ScriptSession
