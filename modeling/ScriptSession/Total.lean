/-! Totals of what the members of a list count for. -/
namespace ScriptSession

variable {α : Type}

def total (f : α → Nat) : List α → Nat
  | [] => 0
  | a :: rest => f a + total f rest

theorem total_cons (f : α → Nat) (a : α) (l : List α) : total f (a :: l) = f a + total f l := rfl

theorem total_append (f : α → Nat) (a b : List α) : total f (a ++ b) = total f a + total f b := by
  induction a with
  | nil => simp [total]
  | cons x rest ih =>
    rw [List.cons_append, total_cons, total_cons, ih]
    omega

theorem total_map {β : Type} (f : β → Nat) (g : α → β) (l : List α) :
    total f (l.map g) = total (fun a => f (g a)) l := by
  induction l with
  | nil => rfl
  | cons a rest ih => rw [List.map_cons, total_cons, total_cons, ih]

theorem total_filter_le (f : α → Nat) (p : α → Bool) (l : List α) :
    total f (l.filter p) ≤ total f l := by
  induction l with
  | nil => exact Nat.le_refl _
  | cons a rest ih =>
    rw [List.filter_cons]
    split <;> simp only [total_cons] <;> omega

theorem total_modify_le (f : α → Nat) (g : α → α) (hg : ∀ a, f (g a) ≤ f a) (l : List α) (i : Nat) :
    total f (l.modify i g) ≤ total f l := by
  induction l generalizing i with
  | nil => cases i <;> simp [List.modify]
  | cons a rest ih =>
    cases i with
    | zero =>
      have := hg a
      simp only [List.modify_zero_cons, total_cons]
      omega
    | succ i =>
      have := ih i
      simp only [List.modify_succ_cons, total_cons]
      omega

/-- What a changed member counted for before goes, and what it counts for now comes. -/
theorem total_modify_add (f : α → Nat) (g : α → α) {l : List α} {i : Nat} {a : α}
    (h : l[i]? = some a) : total f (l.modify i g) + f a = total f l + f (g a) := by
  induction l generalizing i with
  | nil => simp at h
  | cons b rest ih =>
    cases i with
    | zero =>
      simp only [List.getElem?_cons_zero, Option.some.injEq] at h
      subst h
      simp only [List.modify_zero_cons, total_cons]
      omega
    | succ i =>
      simp only [List.getElem?_cons_succ] at h
      have := ih h
      simp only [List.modify_succ_cons, total_cons]
      omega

end ScriptSession
