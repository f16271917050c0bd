import ScriptSession.Desk.Task

/-!
# What can happen at a desk

A scene is a desk between two moves, with the errands that are still due. A move is one call: a
token is interrupted, a task is made, polled or dropped, the active request is answered, a listener
is registered or taken back, or the next errand is run. Nothing else changes a desk.

Moves may come in any order and also while errands are due; then a listener that is running makes
them. So a run covers whatever listeners do, and not only the acts that they were registered with.
-/
namespace ScriptSession

/-- An errand, and whether an abort waits for it. -/
structure Due where
  errand : Errand
  inAbort : Bool

/-- A desk between two moves; the next errand stands first. -/
structure Scene where
  desk : Desk
  due : List Due := []
  /-- The keys that listeners of the user's own were given, each with its token. -/
  given : List (Nat × Nat) := []

inductive Move where
  | interrupt (manager : Nat)
  | ask (prompt : String) (token : Nat)
  | wait (token : Nat)
  | poll (task : Nat)
  | drop (task : Nat)
  | answer (text : String)
  | listen (token : Nat) (label : String) (acts : List Act)
  | unlisten (token key : Nat)
  | errand

def Errand.isInterrupt : Errand → Bool
  | .perform _ (.interrupt _ :: _) => true
  | _ => false

def Errand.isRun : Errand → Bool
  | .run _ => true
  | .perform _ _ => false

/-- An errand that another one leaves. The listeners of an interrupt belong to its abort, the acts
behind it to what they belonged to before. -/
def Due.leaves (x : Due) (e : Errand) : Due :=
  ⟨e, x.inAbort || (x.errand.isInterrupt && e.isRun)⟩

namespace Scene

def opened (managers : Nat) : Scene := { desk := .opened managers }

def errands (s : Scene) : List Errand := s.due.map (·.errand)

/-- Some abort has not run all of its listeners yet. -/
def aborting (s : Scene) : Bool := s.due.any (·.inAbort)

/-- The key that a listener gets from a token. -/
def key (s : Scene) (token : Nat) : List (Nat × Nat) :=
  (s.desk.tokens[token]?).toList.map fun t => (token, t.nextKey)

/-- The keys that an errand gives to listeners. -/
def keys (s : Scene) : Errand → List (Nat × Nat)
  | .perform _ (.listen token _ _ :: _) => s.key token
  | _ => []

def runErrand (s : Scene) : Scene :=
  match s.due with
  | [] => s
  | x :: rest =>
    let (errands, desk) := s.desk.step x.errand
    { desk := desk, due := errands.map x.leaves ++ rest, given := s.keys x.errand ++ s.given }

def next (s : Scene) : Move → Scene
  | .interrupt manager =>
    let (errands, desk) := s.desk.retire manager
    { s with desk := desk, due := errands.map (⟨·, true⟩) ++ s.due }
  | .ask prompt token => { s with desk := (s.desk.addTask (.request prompt) token).2 }
  | .wait token => { s with desk := (s.desk.addTask .wait token).2 }
  | .poll task => { s with desk := (s.desk.poll task).2 }
  | .drop task => { s with desk := s.desk.dropTask task }
  | .answer text => { s with desk := (s.desk.answer text).2 }
  | .listen token label acts =>
    let (_, errands, desk) := s.desk.register token (.custom label acts)
    { desk := desk
      due := errands.map (⟨·, s.aborting⟩) ++ s.due
      given := s.key token ++ s.given }
  | .unlisten token key => { s with desk := s.desk.removeListener token key }
  | .errand => s.runErrand

/-- Tasks are made under tokens that there are, and a listener is taken back from its own token by
the key that it was given. -/
def Allows (s : Scene) : Move → Prop
  | .ask _ token | .wait token => token < s.desk.tokens.length
  | .unlisten token key => (token, key) ∈ s.given
  | _ => True

instance (s : Scene) (m : Move) : Decidable (s.Allows m) :=
  match m with
  | .ask _ token | .wait token => inferInstanceAs (Decidable (token < _))
  | .unlisten token key => inferInstanceAs (Decidable ((token, key) ∈ _))
  | .interrupt _ | .poll _ | .drop _ | .answer _ | .listen .. | .errand => .isTrue trivial

def after (s : Scene) (moves : List Move) : Scene := moves.foldl next s

def past : Scene → List Move → List (Scene × Move)
  | _, [] => []
  | s, m :: rest => (s, m) :: past (s.next m) rest

end Scene

/-- A run with its past: every move together with the scene it was made in, the first one first. -/
inductive Run (start : Scene) : List (Scene × Move) → Scene → Prop where
  | start : Run start [] start
  | move {past s m} : Run start past s → s.Allows m → Run start (past ++ [(s, m)]) (s.next m)

theorem Run.trans {a b c : Scene} {earlier later : List (Scene × Move)} (first : Run a earlier b)
    (second : Run b later c) : Run a (earlier ++ later) c := by
  induction second with
  | start => simpa using first
  | move _ allowed ih =>
    rw [← List.append_assoc]
    exact ih.move allowed

theorem Run.single {s : Scene} {m : Move} (allowed : s.Allows m) : Run s [(s, m)] (s.next m) :=
  Run.start.move allowed

theorem run_past (s : Scene) (moves : List Move)
    (allowed : ∀ entry ∈ s.past moves, entry.1.Allows entry.2) :
    Run s (s.past moves) (s.after moves) := by
  induction moves generalizing s with
  | nil => exact .start
  | cons m rest ih =>
    have first := Run.single (allowed (s, m) (by simp [Scene.past]))
    exact first.trans (ih (s.next m) fun entry mem =>
      allowed entry (List.mem_cons_of_mem (s, m) mem))

/-- The errands that are due are worked off by moves: what `runAll` reaches, a run reaches. -/
theorem run_errands (d : Desk) (due : List Due) (given : List (Nat × Nat)) :
    ∃ past given', Run ⟨d, due, given⟩ past ⟨d.runAll (due.map (·.errand)), [], given'⟩ := by
  generalize weighed : due.map (·.errand) = errands
  fun_induction Desk.runAll d errands generalizing due given with
  | case1 d =>
    rw [List.map_eq_nil_iff] at weighed
    subst weighed
    exact ⟨[], given, .start⟩
  | case2 d e rest ih =>
    obtain ⟨x, due', rfl, rfl, rfl⟩ := List.map_eq_cons_iff.mp weighed
    obtain ⟨past, given', run⟩ := ih ((d.step x.errand).1.map x.leaves ++ due')
      (Scene.keys ⟨d, x :: due', given⟩ x.errand ++ given)
      (by simp [Due.leaves, Function.comp_def])
    exact ⟨_, given', (Run.single (s := ⟨d, x :: due', given⟩) (m := .errand) trivial).trans run⟩

/-- An interrupt with all that follows from it is a run. -/
theorem run_interrupt (d : Desk) (manager : Nat) (given : List (Nat × Nat)) :
    ∃ past given', Run ⟨d, [], given⟩ past ⟨d.interrupt manager, [], given'⟩ := by
  obtain ⟨past, given', run⟩ :=
    run_errands (d.retire manager).2 ((d.retire manager).1.map (⟨·, true⟩)) given
  have first := Run.single (s := ⟨d, [], given⟩) (m := .interrupt manager) trivial
  have next : Scene.next ⟨d, [], given⟩ (.interrupt manager) =
      ⟨(d.retire manager).2, (d.retire manager).1.map (⟨·, true⟩), given⟩ := by
    simp [Scene.next]
  have all : ((d.retire manager).1.map fun e => Due.mk e true).map (·.errand) =
      (d.retire manager).1 := by
    simp [Function.comp_def]
  rw [all] at run
  rw [next] at first
  exact ⟨_, given', first.trans run⟩

end ScriptSession
