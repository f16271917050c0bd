import ScriptSession.Proofs.Desk.Alert

/-!
# No wake-up is lost, and none is for nothing

Every move leaves the desk alert (`Scene.alert_next`), and a task that was polled stays in the stage
it waits in (`waits_stage`). `woken_exactly_when_ready` says what follows for every task that has to
wait.
-/
namespace ScriptSession

namespace Scene

variable {s : Scene} {log : List (Nat × Reply)}

theorem alert_poll (h : s.desk.Alert) (consistent : s.Consistent) (books : s.desk.Books log)
    (k : Nat) : (s.desk.poll k).2.Alert := by
  rcases Desk.poll_cases consistent.held k with ⟨-, gone⟩ | ⟨task, there, going, polled⟩
  · rw [gone]
    exact h
  · have exist := consistent.held task (List.mem_of_getElem? there)
    exact Desk.alert_polled h books exist there going polled

theorem alert_next (h : s.desk.Alert) (consistent : s.Consistent) (books : s.desk.Books log)
    (m : Move) : (s.next m).desk.Alert := by
  have agrees := consistent.sound.lined.agrees
  cases m with
  | interrupt manager => exact Desk.alert_retire h manager
  | ask prompt token => exact Desk.alert_addTask h (.request prompt) token
  | wait token => exact Desk.alert_addTask h .wait token
  | poll k => exact alert_poll h consistent books k
  | drop k => exact Desk.alert_dropTask h books k
  | answer text => exact Desk.alert_answer h books agrees text
  | listen token label acts =>
    exact h.keep (Desk.rests_register s.desk token _)
      (Desk.woken_congr (Desk.tasks_register s.desk token _))
      (Desk.replies_register s.desk token _) (Desk.works_register s.desk token _)
  | unlisten token key =>
    refine h.keep (Desk.rests_modifyToken s.desk token ?_) (fun _ => rfl) rfl rfl
    exact fun _ => ⟨rfl, rfl⟩
  | errand =>
    show s.runErrand.desk.Alert
    unfold runErrand
    split
    · exact h
    · exact Desk.alert_step h books agrees _

theorem alert_opened (managers : Nat) : (opened managers).desk.Alert where
  called := by simp [opened, Desk.opened, Desk.works]
  heard := by simp [opened, Desk.opened, Desk.works]
  known token k mem := by
    simp only [opened, Desk.opened, Desk.waiters, List.getElem?_replicate] at mem
    split at mem <;> simp at mem

end Scene

theorem alert_run {managers : Nat} {past : List (Scene × Move)} {s : Scene}
    (run : Run (.opened managers) past s) : s.desk.Alert := by
  induction run with
  | start => exact Scene.alert_opened managers
  | move run _ ih =>
    have consistent := consistent_run (Scene.consistent_opened managers) run
    exact Scene.alert_next ih consistent (books_run run) _

/-! ## Tasks that wait -/

def Move.isPoll (k : Nat) : Move → Bool
  | .poll j => j == k
  | _ => false

def Move.isDrop (k : Nat) : Move → Bool
  | .drop j => j == k
  | _ => false

/-- The task was polled, has to wait after each poll, and was not dropped. -/
def Waits (past : List (Scene × Move)) (k : Nat) : Prop :=
  (∃ entry ∈ past, entry.2.isPoll k) ∧
  (∀ entry ∈ past, entry.2.isPoll k → (entry.1.desk.poll k).1 = .pending) ∧
  ∀ entry ∈ past, ¬ entry.2.isDrop k

instance (past : List (Scene × Move)) (k : Nat) : Decidable (Waits past k) :=
  inferInstanceAs (Decidable (_ ∧ _ ∧ _))

namespace Desk

variable {d : Desk} {k : Nat}

/-- Who has to wait goes on waiting. -/
theorem stage_of_pending (held : ∀ task ∈ d.works, task.token < d.tokens.length)
    (pending : (d.poll k).1 = .pending) :
    ∃ stage, (d.poll k).2.stage? k = some stage ∧ stage.waits := by
  rcases poll_cases held k with ⟨-, gone⟩ | ⟨task, there, -, polled⟩
  · rw [gone] at pending
    cases pending
  · have before : (d.unwoken k).stage? k = some task.stage := by
      rw [stage_works, works_unwoken, there]
      rfl
    have moved : ∀ {e : Desk} (stage : Stage), e.stage? k = some task.stage →
        (e.setStage k stage).stage? k = some stage := by
      intro e stage same
      rw [stage_modify (works_setStage ..), if_pos rfl, same]
      rfl
    rw [pending] at polled
    generalize (d.poll k).2 = e at polled
    cases polled with
    | joins => exact ⟨_, moved _ ((stage_congr (works_showHead _) k).trans before), rfl⟩
    | watches => exact ⟨_, moved _ before, rfl⟩
    | waits id queued => exact ⟨_, before, by rw [queued]; rfl⟩
    | watching watching => exact ⟨_, before, by rw [watching]; rfl⟩

end Desk

theorem waits_stage {managers : Nat} {past : List (Scene × Move)} {s : Scene} {k : Nat}
    (run : Run (.opened managers) past s) (waits : Waits past k) :
    ∃ stage, s.desk.stage? k = some stage ∧ stage.waits := by
  induction run with
  | start =>
    obtain ⟨⟨entry, mem, -⟩, -⟩ := waits
    cases mem
  | @move past s m run allowed ih =>
    have consistent := consistent_run (Scene.consistent_opened managers) run
    obtain ⟨polled, pending, kept⟩ := waits
    by_cases last : m.isPoll k
    · have found := pending (s, m) (by simp) last
      cases m with
      | poll j =>
        have same : j = k := by simpa [Move.isPoll] using last
        subst same
        exact Desk.stage_of_pending consistent.held found
      | _ => cases last
    · have before : Waits past k := by
        refine ⟨?_, fun entry mem => pending entry (List.mem_append_left _ mem),
          fun entry mem => kept entry (List.mem_append_left _ mem)⟩
        obtain ⟨entry, mem, isPoll⟩ := polled
        rcases List.mem_append.mp mem with earlier | now
        · exact ⟨entry, earlier, isPoll⟩
        · rw [List.mem_singleton.mp now] at isPoll
          exact absurd isPoll last
      obtain ⟨stage, there, waits⟩ := ih before
      refine ⟨stage, Scene.stage_next consistent ?_ ?_ there, waits⟩
      · rintro rfl
        exact last (by simp [Move.isPoll])
      · rintro rfl
        exact kept (s, .drop k) (by simp) (by simp [Move.isDrop])

/-- A task that was polled and has to wait is called for exactly if its next poll is its last: a
reply or an abort calls for it, and nothing else does. It holds at every point of a run, and so also
while an abort still runs its listeners. -/
theorem woken_exactly_when_ready {managers : Nat} {past : List (Scene × Move)} {s : Scene} {k : Nat}
    (run : Run (.opened managers) past s) (waits : Waits past k) :
    s.desk.woken k = (s.desk.poll k).1.completes := by
  obtain ⟨stage, there, waiting⟩ := waits_stage run waits
  have consistent := consistent_run (Scene.consistent_opened managers) run
  rcases Desk.poll_cases consistent.held k with ⟨ended, -⟩ | ⟨task, found, going, polled⟩
  · obtain ⟨task, found, rfl⟩ := Option.map_eq_some_iff.mp ((Desk.stage_works ..).symm.trans there)
    rw [ended task found] at waiting
    cases waiting
  · have same : task.stage = stage := by
      rw [Desk.stage_works, found] at there
      exact Option.some.inj there
    rw [(alert_run run).called k task found going]
    exact (Desk.polled_completes (same ▸ waiting) polled).symm

/-- A request and a wait under one token, and a wait under another; the first token is aborted. -/
def abortWithWaiters : List Move :=
  [.ask "name" 0, .wait 0, .wait 1, .poll 0, .poll 1, .poll 2, .poll 1, .interrupt 0, .errand]

/-- The request and the wait under the aborted token are called for, the wait under the other one is
not, and so it is with what their polls find. -/
theorem woken_under_aborted_token :
    ∃ past s, Run (.opened 2) past s ∧ (∀ k ∈ [0, 1, 2], Waits past k) ∧
      [0, 1, 2].map s.desk.woken = [true, true, false] ∧
      [0, 1, 2].map (fun k => (s.desk.poll k).1.completes) = [true, true, false] := by
  have run := run_past (.opened 2) abortWithWaiters (by decide +kernel)
  have waits : ∀ k ∈ [0, 1, 2], Waits ((Scene.opened 2).past abortWithWaiters) k := by
    decide +kernel
  have woken : [0, 1, 2].map ((Scene.opened 2).after abortWithWaiters).desk.woken =
      [true, true, false] := by decide +kernel
  refine ⟨_, _, run, waits, woken, ?_⟩
  rw [← woken]
  exact List.map_congr_left fun k mem => (woken_exactly_when_ready run (waits k mem)).symm

end ScriptSession
