import ScriptSession.Proofs.Script.Depth
import ScriptSession.Proofs.Script.Parts
import ScriptSession.Proofs.Script.Places

/-!
# Agreement of one evaluation

An evaluation that agrees with itself shows what holds of its environments at every call and at its
end (`Process.Agrees.throughout`, `Process.Agrees.endsIn`). Two that agree in everything are one
process (`Process.Agrees.eq`).
-/
namespace ScriptSession

namespace Process

variable {σ τ α β : Type}

/-- Every state that the process shows is of this kind, at its calls and at its end. -/
def Throughout (S : σ → Prop) : Process σ α → Prop
  | .done s _ => S s
  | .call s _ resume => S s ∧ ∀ reply, Throughout S (resume reply)

variable {R : Span → Span → Prop} {C : σ → τ → Prop} {E : σ → τ → α → β → Prop}
  {p : Process σ α} {q : Process τ β} {S : σ → Prop}

theorem Agrees.endsIn (h : Agrees R C E p q) (ends : ∀ {s t a b}, E s t a b → S s) : p.EndsIn S := by
  induction h with
  | done last => exact ends last
  | warn _ _ _ ih => exact fun _ => ih
  | call _ _ ih => exact ih

theorem Agrees.throughout (h : Agrees R C E p q) (calls : ∀ {s t}, C s t → S s)
    (ends : ∀ {s t a b}, E s t a b → S s) : p.Throughout S := by
  induction h with
  | done last => exact ends last
  | warn states _ _ ih => exact ⟨calls states, fun _ => ih⟩
  | call states _ ih => exact ⟨calls states, ih⟩

theorem Agrees.imp {E' : σ → τ → α → β → Prop} (h : Agrees R C E p q)
    (ends : ∀ {s t a b}, E s t a b → E' s t a b) : Agrees R C E' p q := by
  induction h with
  | done last => exact .done (ends last)
  | warn states ranges _ ih => exact .warn states ranges ih
  | call states _ ih => exact .call states ih

/-- Nothing is left in which the processes might differ. -/
theorem Agrees.eq {D : σ → σ → Prop} {F : σ → σ → α → α → Prop} {p q : Process σ α}
    (h : Agrees Eq D F p q) (calls : ∀ {s t}, D s t → s = t)
    (ends : ∀ {s t a b}, F s t a b → s = t ∧ a = b) : p = q := by
  induction h with
  | done last =>
    obtain ⟨rfl, rfl⟩ := ends last
    rfl
  | @warn s t message range range' resume resume' states ranges _ ih =>
    cases calls states
    have same : resume = resume' := funext fun _ => ih
    cases ranges with
    | none => rw [same]
    | some places => rw [same, places]
  | call states _ ih =>
    cases calls states
    exact congrArg _ (funext ih)

end Process

namespace Script

theorem forall₂_eq {α : Type} {P : α → α → Prop} {a b : List α} (h : List.Forall₂ P a b)
    (eq : ∀ x ∈ a, ∀ y, P x y → x = y) : a = b := by
  induction h with
  | nil => rfl
  | @cons x y rest rest' first _ ih =>
    rw [eq x List.mem_cons_self y first, ih fun z mem => eq z (List.mem_cons_of_mem x mem)]

theorem Expr.Like.eq {e e' : Expr} (h : e.Like Eq e') : e = e' := by
  induction e using Expr.byItems generalizing e' with
  | leaf e plain =>
    cases h with
    | list => exact absurd rfl (plain _ _ _)
    | int place | str place | bool place | nil place | word place => rw [place]
  | list head rest span ih ihs =>
    cases h with
    | list heads rests place => rw [ih heads, forall₂_eq rests fun e mem _ => ihs e mem, place]

variable {V : View}

/-- A value is alike to itself if its number, should it have one, corresponds to itself. -/
theorem Value.alike_self (places : ∀ s, V.places s s) {v : Value}
    (numbers : ∀ closure, v = .procedure closure → V.numbers closure.id closure.id) :
    v.Alike V v := by
  cases v with
  | procedure closure =>
    exact .procedure (numbers closure rfl) (closure.body.like_self fun s _ => places s)
  | _ => constructor

/-- Nothing may differ. -/
def View.exact (calls : Environment → Environment → Prop) : View where
  places := Eq
  numbers := Eq
  calls := calls
  oneToOne := eq_oneToOne

theorem Value.Alike.eq {calls : Environment → Environment → Prop} {v w : Value}
    (h : v.Alike (.exact calls) w) : v = w := by
  cases h with
  | procedure numbers bodies =>
    cases numbers
    cases bodies.eq
    rfl
  | _ => rfl

theorem Stop.Like.eq {a b : Stop} (h : a.Like Eq b) : a = b := by
  cases h with
  | exit | cancelled => rfl
  | failure ranges =>
    cases ranges with
    | none => rfl
    | some range => rw [range]

theorem ResultLike.eq {calls : Environment → Environment → Prop} {a b : Except Stop Value}
    (h : ResultLike Eq (Value.Alike (.exact calls)) a b) : a = b := by
  cases h with
  | ok values => rw [values.eq]
  | error stops => rw [stops.eq]

theorem Value.alike_exact (calls : Environment → Environment → Prop) (v : Value) :
    v.Alike (.exact calls) v := v.alike_self (fun _ => rfl) fun _ _ => rfl

end Script

end ScriptSession
