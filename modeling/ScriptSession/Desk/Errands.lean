import ScriptSession.Desk
import ScriptSession.Total

/-! Working off the errands of an abort. An errand may leave others, which come first, but every one
uses up something: the listeners still registered, or the acts still to do. `weight` counts both, so
the work ends (`weight_step`). -/
namespace ScriptSession

mutual

def Act.weight : Act → Nat
  | .listen _ _ acts => 3 + Act.weights acts
  | .report | .note _ | .answer _ | .interrupt _ => 1

def Act.weights : List Act → Nat
  | [] => 0
  | act :: rest => act.weight + Act.weights rest

end

def Listener.weight : Listener → Nat
  | .reject _ => 1
  | .custom _ acts => 2 + Act.weights acts

def Errand.weight : Errand → Nat
  | .run listener => listener.weight
  | .perform _ acts => 1 + Act.weights acts

def Token.weight (t : Token) : Nat := total (fun entry => entry.2.weight) t.listeners

def Errand.weights (errands : List Errand) : Nat := total Errand.weight errands

theorem Errand.weights_append (a b : List Errand) :
    Errand.weights (a ++ b) = Errand.weights a + Errand.weights b := total_append ..

theorem Errand.weights_nil : Errand.weights [] = 0 := rfl

theorem Errand.weights_cons (e : Errand) (rest : List Errand) :
    Errand.weights (e :: rest) = e.weight + Errand.weights rest := rfl

/-- The listeners of a token weigh as much as the errands of running them. -/
theorem Errand.weights_run (listeners : List (Nat × Listener)) :
    Errand.weights (listeners.map fun (_, listener) => .run listener)
      = total (fun entry => entry.2.weight) listeners := total_map ..

namespace Desk

def weight (d : Desk) : Nat := total Token.weight d.tokens

theorem weight_modifyToken_le (d : Desk) (token : Nat) (f : Token → Token)
    (hf : ∀ t, (f t).weight ≤ t.weight) : (d.modifyToken token f).weight ≤ d.weight :=
  total_modify_le Token.weight f hf d.tokens token

theorem weight_removeListener (d : Desk) (token key : Nat) :
    (d.removeListener token key).weight ≤ d.weight :=
  weight_modifyToken_le d token _ fun _ => total_filter_le ..

theorem tokens_wake (d : Desk) (task : Nat) : (d.wake task).tokens = d.tokens := rfl

theorem tokens_foldl_wake (d : Desk) (tasks : List Nat) :
    (tasks.foldl wake d).tokens = d.tokens := by
  induction tasks generalizing d with
  | nil => rfl
  | cons task rest ih => rw [List.foldl_cons, ih, tokens_wake]

theorem tokens_showHead (d : Desk) : d.showHead.tokens = d.tokens := by
  unfold showHead
  split
  · split <;> rfl
  · rfl

theorem tokens_settle (d : Desk) (request : PendingRequest) (reply : Reply) :
    (d.settle request reply).tokens = d.tokens := by
  unfold settle
  split <;> rfl

theorem tokens_take {d : Desk} {id : Nat} {request : PendingRequest} {rest : Desk}
    (h : d.take? id = some (request, rest)) : rest.tokens = d.tokens := by
  unfold take? at h
  split at h
  · simp at h
  · simp only [Option.some.injEq, Prod.mk.injEq] at h
    rw [← h.2]
    split <;> rfl

theorem tokens_hide (d : Desk) (wasActive : Bool) : (d.hide wasActive).tokens = d.tokens := by
  unfold hide
  split <;> rfl

theorem tokens_reject (d : Desk) (id : Nat) : (d.reject id).tokens = d.tokens := by
  unfold reject
  split
  · rfl
  · rename_i h
    rw [tokens_showHead, tokens_hide, tokens_settle, tokens_take h]

theorem weight_dropListener (d : Desk) (request : PendingRequest) :
    (d.dropListener request).weight ≤ d.weight := by
  unfold dropListener
  split
  · exact weight_removeListener ..
  · exact Nat.le_refl _

theorem weight_congr {d e : Desk} (h : d.tokens = e.tokens) : d.weight = e.weight := by
  rw [weight, weight, h]

theorem weight_answer (d : Desk) (text : String) : (d.answer text).2.weight ≤ d.weight := by
  simp only [answer]
  split
  · exact Nat.le_refl _
  · split
    · split
      · rename_i head rest _ _
        have dropped := weight_dropListener { d with active := none, queue := rest } head
        refine Nat.le_trans (Nat.le_of_eq (weight_congr ?_)) dropped
        rw [tokens_showHead, publish, tokens_settle]
      · exact Nat.le_refl _
    · exact Nat.le_refl _

theorem weight_register (d : Desk) (token : Nat) (listener : Listener) :
    Errand.weights (d.register token listener).2.1 + (d.register token listener).2.2.weight
      ≤ listener.weight + d.weight := by
  unfold register
  split
  · simp [Errand.weights_nil]
  · rename_i t ht
    split
    · have := weight_modifyToken_le d token ({ · with nextKey := t.nextKey + 1 })
        fun _ => Nat.le_refl _
      simp only [Errand.weights_cons, Errand.weights_nil, Errand.weight]
      omega
    · have sum := total_modify_add Token.weight (fun u => { u with
        nextKey := t.nextKey + 1, listeners := u.listeners ++ [(t.nextKey, listener)] }) ht
      have more : Token.weight { t with
          nextKey := t.nextKey + 1, listeners := t.listeners ++ [(t.nextKey, listener)] }
          = t.weight + listener.weight := total_append ..
      rw [more] at sum
      simp only [Errand.weights_nil, weight, modifyToken]
      omega

/-- A fresh token weighs nothing. -/
theorem total_fresh (d : Desk) (generation : Nat) :
    total Token.weight (d.tokens ++ [{ generation := generation }]) = d.weight := by
  rw [total_append]
  rfl

theorem weight_retire (d : Desk) (manager : Nat) :
    Errand.weights (d.retire manager).1 + (d.retire manager).2.weight ≤ d.weight := by
  unfold retire
  split
  · exact Nat.le_of_eq (Nat.zero_add _)
  · rename_i m hm
    simp only
    split
    · exact Nat.le_of_eq ((Nat.zero_add _).trans (total_fresh ..))
    · rename_i t ht
      split
      · rw [Errand.weights_nil, Nat.zero_add]
        exact Nat.le_of_eq (total_fresh ..)
      · have sum := total_modify_add Token.weight
          ({ · with aborted := true, listeners := [], waiting := [] }) ht
        rw [total_fresh] at sum
        have none :
            Token.weight { t with aborted := true, listeners := [], waiting := [] } = 0 := rfl
        have errands := Errand.weights_run t.listeners
        simp only [errands, weight, tokens_foldl_wake, modifyToken]
        simp only [weight, none] at sum
        rw [← Token.weight]
        omega

theorem weight_perform (d : Desk) (label : String) (act : Act) :
    Errand.weights (d.perform label act).1 + (d.perform label act).2.weight
      < act.weight + d.weight := by
  cases act with
  | report => simp [perform, Errand.weights_nil, Act.weight, record, weight]
  | note text => simp [perform, Errand.weights_nil, Act.weight, record, weight]
  | answer text =>
    have := weight_answer d text
    simp only [perform, Errand.weights_nil, Act.weight, record]
    simp only [weight] at this ⊢
    omega
  | interrupt manager =>
    have := weight_retire d manager
    simp only [perform, Act.weight]
    omega
  | listen token label' acts =>
    refine Nat.lt_of_le_of_lt (weight_register d token (.custom label' acts)) ?_
    simp only [Act.weight, Listener.weight]
    omega

theorem weight_step (d : Desk) (e : Errand) :
    Errand.weights (d.step e).1 + (d.step e).2.weight < e.weight + d.weight := by
  match e with
  | .run (.reject request) =>
    simp [step, Errand.weights_nil, Errand.weight, Listener.weight, weight, tokens_reject]
  | .run (.custom label acts) =>
    simp only [step, Errand.weights_cons, Errand.weights_nil, Errand.weight, Listener.weight]
    omega
  | .perform label [] => simp [step, Errand.weights_nil, Errand.weight, Act.weights]
  | .perform label (act :: rest) =>
    have := weight_perform d label act
    simp only [step, Errand.weights_append, Errand.weights_cons, Errand.weights_nil, Errand.weight,
      Act.weights]
    omega

/-- Works off the errands in order, those that an errand leaves before the next one. -/
def runAll (d : Desk) : List Errand → Desk
  | [] => d
  | e :: rest => runAll (d.step e).2 ((d.step e).1 ++ rest)
  termination_by errands => Errand.weights errands + d.weight
  decreasing_by
    have := weight_step d e
    simp only [Errand.weights_append, Errand.weights_cons]
    omega

/-- Retires the manager's token, with all that follows from it. -/
def interrupt (d : Desk) (manager : Nat) : Desk :=
  let (errands, d) := d.retire manager
  d.runAll errands

/-- Registers a listener of the user's own; it runs at once on an aborted token. -/
def listen (d : Desk) (token : Nat) (label : String) (acts : List Act) : Nat × Desk :=
  let (key, errands, d) := d.register token (.custom label acts)
  (key, d.runAll errands)

end Desk

end ScriptSession
