import ScriptSession.Proofs.Desk.Guards
import ScriptSession.Proofs.Desk.Moves

/-!
# The queue is consistent and never stands still

Every move keeps the guards of the queue (`consistent_next`), so a run of moves keeps them
(`consistent_run`). `runs_stay_consistent` says what follows for every scene of a run, inside
listeners and outside.
-/
namespace ScriptSession

/-- The key is no request's listener's, and never will be. -/
def Desk.Spent (d : Desk) (token key : Nat) : Prop :=
  ∃ t, d.tokens[token]? = some t ∧ key < t.nextKey ∧ ∀ request, (key, .reject request) ∉ t.listeners

/-- Between two moves: the queue is guarded, tasks hold tokens that there are, keys that were given
to others stand for no request, and a request's listener is due only in an abort. -/
structure Scene.Consistent (s : Scene) : Prop where
  sound : s.desk.Sound s.errands
  held : ∀ task ∈ s.desk.works, task.token < s.desk.tokens.length
  spent : ∀ entry ∈ s.given, s.desk.Spent entry.1 entry.2
  tagged : ∀ x ∈ s.due, ∀ request, x.errand = .run (.reject request) → x.inAbort = true

namespace Desk

/-! ## Polls and drops -/

theorem sound_polled {d e : Desk} {due : List Errand} {k : Nat} {task : Task} {found : Poll}
    (h : d.Sound due) (polled : Polled d k task found e) : e.Sound due := by
  cases polled with
  | refused | told => exact h.congr rfl rfl fun _ => id
  | joins prompt t _ _ ht alive =>
    exact (sound_joined h prompt (some k) ht alive).congr rfl rfl fun _ => id
  | watches =>
    have waits : (d.modifyToken task.token fun t =>
        { t with waiting := t.waiting ++ [k] }).Sound due :=
      h.modifyToken (fun _ _ => rfl) (fun _ _ keyed => ⟨keyed.distinct, keyed.below⟩)
        fun _ _ _ _ mem => mem
    exact waits.congr rfl rfl fun _ => id
  | fetches number reply rest _ fetched =>
    have front := front_fetch fetched
    have tokens := tokens_fetch fetched
    exact h.congr front tokens fun _ => id
  | waits | watching | gone => exact h

theorem grows_polled {d e : Desk} {k : Nat} {task : Task} {found : Poll}
    (polled : Polled d k task found e) : d.Grows e := by
  cases polled with
  | joins prompt t _ _ ht =>
    exact (grows_joined ht prompt (some k)).trans (.of_tokens (tokens_showHead _))
  | watches =>
    have waits : d.Grows (d.modifyToken task.token fun t =>
        { t with waiting := t.waiting ++ [k] }) :=
      grows_modifyToken _ fun _ _ => ⟨Nat.le_refl _, fun _ mem => .inl mem⟩
    exact waits.trans (.of_tokens rfl)
  | fetches number reply rest _ fetched =>
    have tokens := tokens_fetch fetched
    exact .of_tokens tokens
  | refused | told | waits | watching | gone => exact .of_tokens rfl

/-- A poll moves the polled task to another stage, or no task. -/
theorem works_polled {d e : Desk} {k : Nat} {task : Task} {found : Poll}
    (polled : Polled d k task found e) :
    e.works = d.works ∨ ∃ stage, e.works = d.works.modify k ({ · with stage := stage }) := by
  cases polled with
  | refused | told | watches => exact .inr ⟨_, works_setStage ..⟩
  | joins prompt t =>
    refine .inr ⟨.queued d.nextRequest, ?_⟩
    rw [works_setStage, works_showHead]
    rfl
  | fetches id reply rest _ fetched =>
    refine .inr ⟨.ended, ?_⟩
    rw [works_setStage, works_fetch fetched]
  | waits | watching | gone => exact .inl rfl

theorem sound_dropTask {d : Desk} {due : List Errand} (h : d.Sound due) (k : Nat) :
    (d.dropTask k).Sound due := by
  unfold dropTask
  split
  · exact h
  · rename_i task _
    have ended : (d.setStage k .ended).Sound due := h.congr rfl rfl fun _ => id
    split
    · rename_i number _
      exact (sound_withdraw ended number).congr rfl rfl fun _ => id
    · exact ended.modifyToken (fun _ _ => rfl) (fun _ _ keyed => ⟨keyed.distinct, keyed.below⟩)
        fun _ _ _ _ mem => mem
    · exact ended
    · exact ended

theorem grows_dropTask (d : Desk) (k : Nat) : d.Grows (d.dropTask k) := by
  unfold dropTask
  split
  · exact .of_tokens rfl
  · rename_i task _
    split
    · rename_i number _
      exact (grows_withdraw (d.setStage k .ended) number).trans (.of_tokens rfl)
    · have forgotten : d.Grows (d.modifyToken task.token fun t =>
          { t with waiting := t.waiting.erase k }) :=
        grows_modifyToken _ fun _ _ => ⟨Nat.le_refl _, fun _ mem => .inl mem⟩
      exact forgotten.trans (.of_tokens rfl)
    · exact .of_tokens rfl
    · exact .of_tokens rfl

theorem works_dropTask (d : Desk) (k : Nat) :
    (d.dropTask k).works = d.works.modify k ({ · with stage := .ended }) := by
  unfold dropTask
  split
  · rename_i none
    rw [List.modify_eq_self]
    simpa [works] using none
  · split
    · exact (works_withdraw ..).trans (works_setStage ..)
    · exact works_setStage ..
    · exact works_setStage ..
    · exact works_setStage ..

/-! ## Errands -/

theorem sound_perform {d : Desk} {due : List Errand} (h : d.Sound due) (label : String)
    (act : Act) : (d.perform label act).2.Sound ((d.perform label act).1 ++ due) := by
  cases act with
  | report | note => exact h.congr rfl rfl fun _ => id
  | answer text => exact (sound_answer h text).congr rfl rfl fun _ => id
  | interrupt manager => exact sound_retire h manager
  | listen token label acts =>
    exact (sound_register h token label acts).due fun _ => List.mem_append_right _

theorem sound_step {d : Desk} {e : Errand} {due : List Errand} (h : d.Sound (e :: due)) :
    (d.step e).2.Sound ((d.step e).1 ++ due) := by
  cases e with
  | run listener =>
    cases listener with
    | reject request => exact sound_reject h
    | custom label acts => exact h.due fun request mem => by simpa [step] using mem
  | perform label acts =>
    have rest : d.Sound due := h.due fun request mem => by simpa using mem
    cases acts with
    | nil => exact rest
    | cons act acts =>
      simp only [step, List.append_assoc]
      exact (sound_perform rest label act).due fun request mem => by
        rcases List.mem_append.mp mem with new | old
        · exact List.mem_append_left _ new
        · exact List.mem_append_right _ (List.mem_append_right _ old)

end Desk

/-! ## Moves -/

namespace Scene

/-- A listener of the user's own runs itself at most. -/
theorem eq_of_mem_register {d : Desk} {token : Nat} {label : String} {acts : List Act} {e : Errand}
    (mem : e ∈ (d.register token (.custom label acts)).2.1) : e = .run (.custom label acts) := by
  unfold Desk.register at mem
  split at mem
  · cases mem
  · split at mem
    · exact List.mem_singleton.mp mem
    · cases mem

/-- Only an interrupt leaves errands that reject requests. -/
theorem reject_mem_step {d : Desk} {e : Errand} {request : Nat}
    (mem : .run (.reject request) ∈ (d.step e).1) : e.isInterrupt = true := by
  cases e with
  | run listener => cases listener <;> simp [Desk.step] at mem
  | perform label acts =>
    cases acts with
    | nil => simp [Desk.step] at mem
    | cons act acts =>
      cases act with
      | report | note | answer => simp [Desk.step, Desk.perform] at mem
      | interrupt manager => rfl
      | listen token label acts =>
        rcases List.mem_append.mp mem with run | rest
        · cases eq_of_mem_register run
        · simp at rest

theorem consistent_opened (managers : Nat) : (opened managers).Consistent where
  sound := by
    refine ⟨⟨.inl ⟨rfl, rfl⟩, ?_, ?_⟩, ?_, ?_, ?_⟩
    · simp [opened, Desk.opened, Desk.front]
    · simp [opened, Desk.opened, Desk.front]
    · intro t mem
      simp only [opened, Desk.opened, List.mem_replicate] at mem
      rw [mem.2]
      exact ⟨by simp, by simp⟩
    · simp [opened, Desk.opened]
    · simp [opened, Desk.opened]
  held := by simp [opened, Desk.opened, Desk.works]
  spent := by simp [opened]
  tagged := by simp [opened]

end Scene

theorem Desk.Spent.grows {d e : Desk} {token key : Nat} (h : d.Spent token key)
    (grows : d.Grows e) : e.Spent token key := by
  obtain ⟨t, ht, below, none⟩ := h
  obtain ⟨t', ht', le, old⟩ := grows token t ht
  refine ⟨t', ht', Nat.lt_of_lt_of_le below le, fun request mem => ?_⟩
  rcases old _ mem with there | new
  · exact none request there
  · simp only at new
    omega

/-- A listener's key is spent once it is registered. -/
theorem spent_register {s : Scene} (keyed : ∀ t ∈ s.desk.tokens, t.Keyed) (token : Nat)
    (label : String) (acts : List Act) : ∀ entry ∈ s.key token,
    (s.desk.register token (.custom label acts)).2.2.Spent entry.1 entry.2 := by
  intro entry mem
  simp only [Scene.key, List.mem_map, Option.mem_toList] at mem
  obtain ⟨t, ht, rfl⟩ := mem
  have fresh : ∀ request, (t.nextKey, .reject request) ∉ t.listeners := fun request there =>
    absurd ((keyed t (List.mem_of_getElem? ht)).below _ there) (Nat.lt_irrefl _)
  simp only [Desk.register, ht]
  split
  · refine ⟨{ t with nextKey := t.nextKey + 1 }, ?_, Nat.lt_succ_self _, fresh⟩
    simp [Desk.modifyToken, ht]
  · refine ⟨{ t with nextKey := t.nextKey + 1, listeners := t.listeners ++
      [(t.nextKey, .custom label acts)] }, ?_, Nat.lt_succ_self _, ?_⟩
    · simp [Desk.modifyToken, ht]
    · simpa using fresh

theorem spent_step {s : Scene} (keyed : ∀ t ∈ s.desk.tokens, t.Keyed) (e : Errand) :
    ∀ entry ∈ s.keys e, (s.desk.step e).2.Spent entry.1 entry.2 := by
  intro entry mem
  unfold Scene.keys at mem
  split at mem
  · exact spent_register keyed _ _ _ entry mem
  · cases mem

namespace Scene

/-- What a call has to keep of a scene. -/
theorem Consistent.call {s : Scene} (h : s.Consistent) {d : Desk} {due : List Due}
    (sound : d.Sound (due.map (·.errand)))
    (held : ∀ task ∈ d.works, ∃ old ∈ s.desk.works, old.token = task.token)
    (grows : s.desk.Grows d)
    (tagged : ∀ x ∈ due, ∀ request, x.errand = .run (.reject request) → x.inAbort = true) :
    Consistent ⟨d, due, s.given⟩ where
  sound := sound
  held task mem := by
    obtain ⟨old, there, same⟩ := held task mem
    exact same ▸ grows.exist (h.held old there)
  spent entry mem := (h.spent entry mem).grows grows
  tagged := tagged

theorem Consistent.give {s : Scene} (h : s.Consistent) {keys : List (Nat × Nat)}
    (spent : ∀ entry ∈ keys, s.desk.Spent entry.1 entry.2) :
    Consistent { s with given := keys ++ s.given } where
  sound := h.sound
  held := h.held
  spent entry mem := by
    rcases List.mem_append.mp mem with new | old
    · exact spent entry new
    · exact h.spent entry old
  tagged := h.tagged

theorem mem_modify_stage {works : List Task} {k : Nat} {stage : Stage} {task : Task}
    (mem : task ∈ works.modify k ({ · with stage := stage })) :
    ∃ old ∈ works, old.token = task.token := by
  obtain ⟨i, found⟩ := List.mem_iff_getElem?.mp mem
  rw [List.getElem?_modify] at found
  obtain ⟨old, there, rfl⟩ := Option.map_eq_some_iff.mp found
  refine ⟨old, List.mem_of_getElem? there, ?_⟩
  split <;> rfl

theorem consistent_poll {s : Scene} (h : s.Consistent) (k : Nat) :
    Consistent { s with desk := (s.desk.poll k).2 } := by
  rcases Desk.poll_cases h.held k with ⟨-, gone⟩ | ⟨task, there, -, polled⟩
  · rw [gone]
    exact h
  · have sound : (s.desk.unwoken k).Sound s.errands := h.sound.congr rfl rfl fun _ => id
    have grows := (Desk.Grows.of_tokens rfl).trans (Desk.grows_polled polled)
    refine h.call (Desk.sound_polled sound polled) ?_ grows h.tagged
    intro task mem
    rcases Desk.works_polled polled with same | ⟨stage, moved⟩
    · rw [same, Desk.works_unwoken] at mem
      exact ⟨task, mem, rfl⟩
    · rw [moved, Desk.works_unwoken] at mem
      exact mem_modify_stage mem

theorem consistent_addTask {s : Scene} (h : s.Consistent) (kind : TaskKind) {token : Nat}
    (exist : token < s.desk.tokens.length) :
    Consistent { s with desk := (s.desk.addTask kind token).2 } where
  sound := h.sound.congr rfl rfl fun _ => id
  held task mem := by
    simp only [Desk.works, Desk.addTask, List.map_append, List.mem_append] at mem
    rcases mem with old | new
    · exact h.held task old
    · simp only [List.map_cons, List.map_nil, List.mem_singleton] at new
      rw [new]
      exact exist
  spent entry mem := (h.spent entry mem).grows (.of_tokens rfl)
  tagged := h.tagged

theorem consistent_listen {s : Scene} (h : s.Consistent) (token : Nat) (label : String)
    (acts : List Act) : (s.next (.listen token label acts)).Consistent := by
  have spent := spent_register h.sound.keyed token label acts
  refine Consistent.give (s := ⟨_, _, s.given⟩) (h.call ?_ (fun task mem => ⟨task, ?_, rfl⟩)
    (Desk.grows_register s.desk token _) fun x mem request isReject => ?_) spent
  · apply (Desk.sound_register h.sound token label acts).due
    intro request mem
    rw [List.map_append]
    exact List.mem_append_right _ mem
  · rwa [Desk.works_register] at mem
  · rcases List.mem_append.mp mem with new | old
    · obtain ⟨e, left, rfl⟩ := List.mem_map.mp new
      have isReject : e = .run (.reject request) := isReject
      cases (eq_of_mem_register left).symm.trans isReject
    · exact h.tagged x old request isReject

theorem consistent_runErrand {s : Scene} (h : s.Consistent) : s.runErrand.Consistent := by
  unfold runErrand
  split
  · exact h
  · rename_i x rest due
    have agrees := h.sound.lined.agrees
    have sound := h.sound
    rw [errands, due, List.map_cons] at sound
    have run : Consistent ⟨(s.desk.step x.errand).2, (s.desk.step x.errand).1.map x.leaves ++ rest,
        s.given⟩ := by
      refine h.call ?_ (fun task mem => ⟨task, ?_, rfl⟩) (Desk.grows_step agrees x.errand)
        fun y mem request isReject => ?_
      · simpa [Due.leaves, Function.comp_def] using Desk.sound_step sound
      · rwa [Desk.works_step agrees] at mem
      · rcases List.mem_append.mp mem with new | old
        · obtain ⟨e, left, rfl⟩ := List.mem_map.mp new
          have isReject : e = .run (.reject request) := isReject
          rw [isReject] at left ⊢
          simp [Due.leaves, reject_mem_step left, Errand.isRun]
        · exact h.tagged y (due ▸ List.mem_cons_of_mem x old) request isReject
    exact run.give (spent_step h.sound.keyed x.errand)

theorem consistent_next {s : Scene} (h : s.Consistent) {m : Move} (allowed : s.Allows m) :
    (s.next m).Consistent := by
  have agrees := h.sound.lined.agrees
  cases m with
  | interrupt manager =>
    show Consistent ⟨(s.desk.retire manager).2, (s.desk.retire manager).1.map (⟨·, true⟩) ++ s.due, _⟩
    refine h.call ?_ (fun task mem => ⟨task, ?_, rfl⟩) (Desk.grows_retire s.desk manager)
      fun x mem request isReject => ?_
    · simpa [errands, Function.comp_def] using Desk.sound_retire h.sound manager
    · rwa [Desk.works_retire] at mem
    · rcases List.mem_append.mp mem with new | old
      · obtain ⟨e, -, rfl⟩ := List.mem_map.mp new
        rfl
      · exact h.tagged x old request isReject
  | ask prompt token => exact consistent_addTask h _ allowed
  | wait token => exact consistent_addTask h _ allowed
  | poll k => exact consistent_poll h k
  | drop k =>
    refine h.call (Desk.sound_dropTask h.sound k) (fun task mem => ?_)
      (Desk.grows_dropTask s.desk k) h.tagged
    rw [Desk.works_dropTask] at mem
    exact mem_modify_stage mem
  | answer text =>
    refine h.call (Desk.sound_answer h.sound text) (fun task mem => ⟨task, ?_, rfl⟩)
      (Desk.grows_answer agrees text) h.tagged
    rwa [Desk.works_answer agrees] at mem
  | listen token label acts => exact consistent_listen h token label acts
  | unlisten token key =>
    obtain ⟨t, ht, -, own⟩ := h.spent _ allowed
    refine h.call (Desk.sound_removeListener h.sound fun u hu => ?_)
      (fun task mem => ⟨task, mem, rfl⟩) (Desk.grows_removeListener _ _ _) h.tagged
    rw [ht, Option.some.injEq] at hu
    exact hu ▸ own
  | errand => exact consistent_runErrand h

end Scene

theorem consistent_run {start s : Scene} {past : List (Scene × Move)} (h : start.Consistent)
    (run : Run start past s) : s.Consistent := by
  induction run with
  | start => exact h
  | move _ allowed ih => exact Scene.consistent_next ih allowed

/-- Wherever a run stands, what is shown is the head of the queue, in the order of the requests. And
outside an abort nothing is missed or stuck: no queued request is doomed, each one's listener stands
on its token, and requests wait only behind an active one. -/
theorem runs_stay_consistent {managers : Nat} {past : List (Scene × Move)} {s : Scene}
    (run : Run (.opened managers) past s) :
    s.desk.front.Agrees ∧ (s.desk.queue.map (·.id)).Pairwise (· < ·) ∧
    (∀ r ∈ s.desk.queue, r.id < s.desk.nextRequest) ∧
    (s.aborting = false →
      (∀ r ∈ s.desk.queue, s.desk.isAborted r.token = false ∧ s.desk.Registered r) ∧
      (s.desk.queue ≠ [] ↔ s.desk.active ≠ none)) := by
  have h := consistent_run (Scene.consistent_opened managers) run
  refine ⟨h.sound.lined.agrees, h.sound.lined.ordered, h.sound.lined.below, fun calm => ?_⟩
  have alive : ∀ r ∈ s.desk.queue, s.desk.isAborted r.token = false := by
    intro r mem
    by_contra doomed
    obtain ⟨x, there, isReject⟩ :=
      List.mem_map.mp ((h.sound.guarded r mem).doomed (by simpa using doomed))
    have inAbort := h.tagged x there r.id isReject
    simp only [Scene.aborting, List.any_eq_false, Bool.not_eq_true] at calm
    rw [calm x there] at inAbort
    cases inAbort
  refine ⟨fun r mem => ⟨alive r mem, (h.sound.guarded r mem).registered (alive r mem)⟩, ?_⟩
  constructor
  · intro waiting hidden
    obtain ⟨head, rest, queue⟩ := List.exists_cons_of_ne_nil waiting
    have doomed := h.sound.moving hidden head rest queue
    rw [alive head (by simp [queue])] at doomed
    cases doomed
  · intro active empty
    rcases h.sound.lined.agrees with ⟨none, -⟩ | ⟨head, rest, queue, -⟩
    · exact active none
    · have queue : s.desk.queue = head :: rest := queue
      rw [empty] at queue
      cases queue

/-- Three requests in the queues of two managers, and a listener that answers whatever is shown once
the first manager is interrupted. -/
def answeringListener : List Move :=
  [.ask "first" 0, .ask "second" 1, .ask "third" 1, .poll 0,
    .listen 0 "on abort" [.answer "yes"], .poll 1, .poll 2, .interrupt 0, .errand, .errand,
    .errand, .errand]

/-- The interrupt takes the first request away and its listener answers the second: the third one is
left, and is shown. -/
theorem consistent_after_answering_listener :
    ∃ past s, Run (.opened 2) past s ∧ s.aborting = false ∧
      s.desk.queue.map (·.prompt) = ["third"] ∧ s.desk.front.Agrees ∧
      (∀ r ∈ s.desk.queue, s.desk.isAborted r.token = false ∧ s.desk.Registered r) ∧
      (s.desk.queue ≠ [] ↔ s.desk.active ≠ none) := by
  have run := run_past (.opened 2) answeringListener (by decide +kernel)
  have calm : ((Scene.opened 2).after answeringListener).aborting = false := by decide +kernel
  obtain ⟨agrees, -, -, outside⟩ := runs_stay_consistent run
  exact ⟨_, _, run, calm, by decide +kernel, agrees, outside calm⟩

end ScriptSession
