import ScriptSession.Proofs.Script.Agreement
import ScriptSession.Script.Builtin

/-!
# Builtins cannot tell apart what is alike

A builtin reads numbers, texts and truth values of its arguments, and whether two procedures are the
same. All of that is the same for arguments that are alike, so its calls agree (`call_agrees`).
-/
namespace ScriptSession.Script

variable {V : View} {S : Correspondence}

namespace Builtin

variable {args args' : List Value}

theorem int_eq (b : Builtin) {v w : Value} (h : v.Alike V w) : b.int v = b.int w := by
  cases h <;> rfl

theorem foldInts_eq (b : Builtin) (op : Int → Int → Int) (acc : Int64)
    (h : ValuesAlike V args args') : b.foldInts op acc args = b.foldInts op acc args' := by
  induction h generalizing acc with
  | nil => rfl
  | cons first _ ih => simp only [foldInts, b.int_eq first, ih]

theorem subtract_eq (b : Builtin) (h : ValuesAlike V args args') :
    b.subtract args = b.subtract args' := by
  unfold subtract
  rw [h.length_eq]
  cases h with
  | nil => rfl
  | @cons _ _ rest rest' first others =>
    have empty : rest.isEmpty = rest'.isEmpty := by cases others <;> rfl
    simp only [b.int_eq first, b.foldInts_eq _ _ others, empty]

theorem divide_eq (b : Builtin) (op : Int → Int → Int) (h : ValuesAlike V args args') :
    b.divide op args = b.divide op args' := by
  unfold divide
  rw [h.length_eq]
  rcases h with _ | ⟨first, _ | ⟨second, _ | _⟩⟩
  · rfl
  · rfl
  · simp only [b.int_eq first, b.int_eq second]
  · rfl

theorem compare_eq (b : Builtin) (ints : Int → Int → Bool) (texts : String → String → Bool)
    (h : ValuesAlike V args args') : b.compare ints texts args = b.compare ints texts args' := by
  unfold compare
  rw [h.length_eq]
  rcases h with _ | ⟨first, _ | ⟨second, _ | _⟩⟩
  · rfl
  · rfl
  · cases first <;> cases second <;> rfl
  · rfl

theorem firstText_eq (h : ValuesAlike V args args') (default : String) :
    firstText args default = firstText args' default := by
  cases h with
  | nil => rfl
  | cons first _ => exact first.text_eq

theorem pause_eq (b : Builtin) (h : ValuesAlike V args args') : b.pause args = b.pause args' := by
  unfold pause
  rw [h.length_eq]
  cases h with
  | nil => rfl
  | cons first _ => simp only [List.headD_cons, b.int_eq first]

theorem value_eq (b : Builtin) (h : ValuesAlike V args args') : b.value args = b.value args' := by
  cases b with
  | add => exact congrArg (Value.int <$> ·) (foldInts_eq .add _ _ h)
  | mul => exact congrArg (Value.int <$> ·) (foldInts_eq .mul _ _ h)
  | sub => exact congrArg (Value.int <$> ·) (subtract_eq .sub h)
  | div => exact congrArg (Value.int <$> ·) (divide_eq .div _ h)
  | mod => exact congrArg (Value.int <$> ·) (divide_eq .mod _ h)
  | lt => exact congrArg (Value.bool <$> ·) (compare_eq .lt _ _ h)
  | gt => exact congrArg (Value.bool <$> ·) (compare_eq .gt _ _ h)
  | eq =>
    unfold value
    rw [h.length_eq]
    rcases h with _ | ⟨first, _ | ⟨second, _ | _⟩⟩
    · rfl
    · rfl
    · simp only [first.same_eq second]
    · rfl
  | not =>
    unfold value
    rw [h.length_eq]
    cases h with
    | nil => rfl
    | cons first _ => simp only [List.headD_cons, first.isTrue_eq]
  | concat =>
    unfold value
    rw [h.texts_eq]
  | str =>
    unfold value
    rw [h.length_eq, firstText_eq h]
  | len =>
    unfold value
    rw [h.length_eq]
    rcases h with _ | ⟨first, _ | _⟩
    · rfl
    · cases first <;> rfl
    · cases first <;> rfl
  | _ => rfl

theorem alike_of_map {α : Type} {f : α → Value} {found : Except String α} {v : Value}
    (plain : ∀ a, (f a).Alike V (f a)) (ok : f <$> found = .ok v) : v.Alike V v := by
  cases found with
  | error message => cases ok
  | ok a =>
    cases ok
    exact plain a

theorem alike_of_bind {α : Type} {found : Except String α} {next : α → Except String Value}
    {v : Value} (plain : ∀ a, next a = .ok v → v.Alike V v) (ok : found >>= next = .ok v) :
    v.Alike V v := by
  cases found with
  | error message => cases ok
  | ok a => exact plain a ok

/-- No builtin makes a procedure, so what one gives is alike to itself. -/
theorem value_alike (b : Builtin) {v : Value} (ok : b.value args = .ok v) : v.Alike V v := by
  cases b with
  | add | mul | sub | div | mod => exact alike_of_map (fun _ => .int) ok
  | lt | gt => exact alike_of_map (fun _ => .bool) ok
  | not | str =>
    refine alike_of_bind (fun _ given => ?_) ok
    cases given
    constructor
  | eq =>
    refine alike_of_bind (fun _ given => ?_) ok
    split at given <;> cases given <;> constructor
  | len =>
    refine alike_of_bind (fun _ given => ?_) ok
    split at given <;> cases given <;> constructor
  | _ =>
    cases ok
    constructor

open Evaluates

theorem emit_agrees (shows : V.Shows S) (level : Level) (h : ValuesAlike V args args') :
    Evaluates.Agrees V S (Value.Alike V) (emit level args) (emit level args') := by
  unfold emit
  rw [h.texts_eq]
  exact Agrees.bind (Agrees.ask shows (.emit (.console level
    (" ".intercalate (args'.map Value.text))))) fun _ _ _ => Agrees.pure .nil

theorem value_agrees (b : Builtin) (h : ValuesAlike V args args') :
    Evaluates.Agrees V S (Value.Alike V) (ofExcept (b.value args)) (ofExcept (b.value args')) := by
  rw [value_eq b h]
  cases given : b.value args' with
  | ok v => exact Agrees.pure (value_alike b given)
  | error message => exact Agrees.fail message

theorem call_agrees (shows : V.Shows S) (b : Builtin) (h : ValuesAlike V args args') :
    Evaluates.Agrees V S (Value.Alike V) (b.call args) (b.call args') := by
  cases b with
  | print | log | info | warn | error => exact emit_agrees shows _ h
  | readline =>
    unfold call
    rw [h.length_eq, firstText_eq h]
    refine Agrees.bind (Agrees.ofExcept _) fun _ _ _ => Agrees.bind (Agrees.ask shows _) ?_
    rintro line _ rfl
    cases line with
    | some text => exact Agrees.pure .str
    | none => exact Agrees.stop .cancelled
  | sleep =>
    unfold call
    rw [pause_eq .sleep h]
    apply Agrees.bind (Agrees.ofExcept _)
    rintro millis _ rfl
    apply Agrees.bind (Agrees.ask shows _)
    rintro passed _ rfl
    cases passed with
    | true => exact Agrees.pure .nil
    | false => exact Agrees.stop .cancelled
  | fail =>
    simp only [call]
    rw [h.length_eq, firstText_eq h]
    exact Agrees.bind (Agrees.ofExcept _) fun _ _ _ => Agrees.fail _
  | exit =>
    unfold call
    rw [h.length_eq]
    exact Agrees.bind (Agrees.ofExcept _) fun _ _ _ => Agrees.stop .exit
  | _ =>
    simp only [call]
    exact value_agrees _ h

end Builtin

end ScriptSession.Script
