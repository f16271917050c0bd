import Mathlib.Algebra.BigOperators.Group.List.Basic
import Mathlib.Algebra.Ring.Int.Defs
import ScriptSession.Script.Builtin

/-!
# Arithmetic is exact or fails

Integers of a script are words of 64 bits. A builtin that adds, multiplies or subtracts goes through
its arguments from the left (`partials`); it gives the exact result if a word holds everything it comes
to on the way, and otherwise it reports an overflow (`foldInts_leading`). Quotients go toward zero and
leave the remainder with the sign of the dividend; only one of them does not fit into a word
(`inWord_tdiv`).

What is wrong first is what is reported: an argument that is no integer is met behind the integers
before it.
-/
namespace ScriptSession.Script

/-- A word of 64 bits holds the integer. -/
def InWord (n : Int) : Prop := -2 ^ 63 ≤ n ∧ n < 2 ^ 63

instance (n : Int) : Decidable (InWord n) := inferInstanceAs (Decidable (_ ∧ _))

theorem inWord_toInt (word : Int64) : InWord word.toInt := ⟨word.le_toInt, word.toInt_lt⟩

theorem int64?_of_inWord {n : Int} (h : InWord n) : int64? n = some (Int64.ofInt n) := by
  have most : Int64.maxValue.toInt = 2 ^ 63 - 1 := by decide
  have least : Int64.minValue.toInt = -2 ^ 63 := by decide
  obtain ⟨low, high⟩ := h
  rw [int64?, if_pos]
  omega

theorem int64?_of_not_inWord {n : Int} (h : ¬ InWord n) : int64? n = none := by
  have most : Int64.maxValue.toInt = 2 ^ 63 - 1 := by decide
  have least : Int64.minValue.toInt = -2 ^ 63 := by decide
  unfold InWord at h
  rw [int64?, if_neg]
  omega

/-- Words as arguments. -/
def ints (words : List Int64) : List Value := words.map .int

/-- The integers that words stand for. -/
def integers (words : List Int64) : List Int := words.map Int64.toInt

def Value.IsInt : Value → Prop
  | .int _ => True
  | _ => False

namespace Builtin

/-- In every environment the call ends at once with this integer and changes nothing. -/
def Gives (b : Builtin) (args : List Value) (n : Int) : Prop :=
  ∃ word : Int64, word.toInt = n ∧ ∀ env, b.call args env = .done env (.ok (.int word))

/-- In every environment the call fails at once with this message and changes nothing. -/
def Refuses (b : Builtin) (args : List Value) (message : String) : Prop :=
  ∀ env, b.call args env = .done env (.error (.failure message none))

def folding : List Builtin := [add, mul, sub]

def dividing : List Builtin := [div, mod]

/-- What the builtin comes to on its way through the integers. -/
def partials : Builtin → List Int → List Int
  | add, ns => ns.scanl (· + ·) 0
  | mul, ns => ns.scanl (· * ·) 1
  | sub, n :: ns => ns.scanl (· - ·) n
  | _, _ => []

/-- The exact result. -/
def exact : Builtin → List Int → Int
  | add, ns => ns.sum
  | mul, ns => ns.prod
  | sub, [n] => -n
  | sub, n :: ns => n - ns.sum
  | _, _ => 0

/-! ## Calls without effects -/

theorem mem_folding {b : Builtin} : b ∈ folding ↔ b = add ∨ b = mul ∨ b = sub := by
  simp only [folding, List.mem_cons, List.not_mem_nil, or_false]

theorem mem_dividing {b : Builtin} : b ∈ dividing ↔ b = div ∨ b = mod := by
  simp only [dividing, List.mem_cons, List.not_mem_nil, or_false]

theorem call_eq {b : Builtin} (counts : b ∈ folding ++ dividing) (args : List Value) :
    b.call args = Evaluates.ofExcept (b.value args) := by
  rcases List.mem_append.mp counts with folds | divides
  · rcases mem_folding.mp folds with rfl | rfl | rfl <;> rfl
  · rcases mem_dividing.mp divides with rfl | rfl <;> rfl

theorem ofExcept_inj (r s : Except String Value) :
    (∀ env, Evaluates.ofExcept r env = Evaluates.ofExcept s env) ↔ r = s := by
  constructor
  · intro same
    have ends := same {}
    cases r <;> cases s <;> cases ends <;> rfl
  · rintro rfl env
    rfl

theorem gives_iff {b : Builtin} (counts : b ∈ folding ++ dividing) {args : List Value} {n : Int} :
    b.Gives args n ↔ ∃ word : Int64, word.toInt = n ∧ b.value args = .ok (.int word) := by
  unfold Gives
  rw [call_eq counts]
  exact exists_congr fun word => and_congr_right fun _ => ofExcept_inj _ (.ok (.int word))

theorem refuses_iff {b : Builtin} (counts : b ∈ folding ++ dividing) {args : List Value}
    {message : String} : b.Refuses args message ↔ b.value args = .error message := by
  unfold Refuses
  rw [call_eq counts]
  exact ofExcept_inj _ (.error message)

/-! ## From the left -/

theorem word_of_inWord (b : Builtin) {n : Int} (h : InWord n) : b.word n = .ok (Int64.ofInt n) := by
  rw [word, int64?_of_inWord h]

theorem word_of_not_inWord (b : Builtin) {n : Int} (h : ¬ InWord n) : b.word n = .error b.overflow := by
  rw [word, int64?_of_not_inWord h]

/-- Integers in front are combined first, and what is behind them matters only if all of that fits. -/
theorem foldInts_leading (b : Builtin) (op : Int → Int → Int) (acc : Int64) (words : List Int64)
    (rest : List Value) :
    (∀ p ∈ (integers words).scanl op acc.toInt, InWord p) ∧
      (∃ word : Int64, word.toInt = (integers words).foldl op acc.toInt ∧
        b.foldInts op acc (ints words ++ rest) = b.foldInts op word rest) ∨
    (∃ p ∈ (integers words).scanl op acc.toInt, ¬ InWord p) ∧
      b.foldInts op acc (ints words ++ rest) = .error b.overflow := by
  induction words generalizing acc with
  | nil =>
    refine .inl ⟨?_, acc, rfl, rfl⟩
    intro p mem
    rw [List.mem_singleton.mp mem]
    exact inWord_toInt acc
  | cons n words ih =>
    have steps : (integers (n :: words)).scanl op acc.toInt =
        acc.toInt :: (integers words).scanl op (op acc.toInt n.toInt) := List.scanl_cons
    have folds : b.foldInts op acc (ints (n :: words) ++ rest) =
        b.word (op acc.toInt n.toInt) >>= fun acc => b.foldInts op acc (ints words ++ rest) := rfl
    rw [steps, folds]
    by_cases fits : InWord (op acc.toInt n.toInt)
    · have stands : (Int64.ofInt (op acc.toInt n.toInt)).toInt = op acc.toInt n.toInt :=
        Int64.toInt_ofInt_of_le fits.1 fits.2
      rw [word_of_inWord b fits]
      rcases ih (Int64.ofInt (op acc.toInt n.toInt)) with ⟨all, word, result, same⟩ | ⟨⟨p, mem, out⟩, fails⟩
      · rw [stands] at all result
        exact .inl ⟨List.forall_mem_cons.mpr ⟨inWord_toInt acc, all⟩, word, result, same⟩
      · rw [stands] at mem
        exact .inr ⟨⟨p, List.mem_cons_of_mem _ mem, out⟩, fails⟩
    · rw [word_of_not_inWord b fits]
      refine .inr ⟨⟨_, List.mem_cons_of_mem _ ?_, fits⟩, rfl⟩
      cases words with
      | nil => exact List.mem_singleton.mpr rfl
      | cons m words =>
        rw [integers, List.map_cons, List.scanl_cons]
        exact List.mem_cons_self

theorem foldInts_ints (b : Builtin) (op : Int → Int → Int) (acc : Int64) (words : List Int64) :
    (∀ p ∈ (integers words).scanl op acc.toInt, InWord p) ∧
      (∃ word : Int64, word.toInt = (integers words).foldl op acc.toInt ∧
        b.foldInts op acc (ints words) = .ok word) ∨
    (∃ p ∈ (integers words).scanl op acc.toInt, ¬ InWord p) ∧
      b.foldInts op acc (ints words) = .error b.overflow := by
  have h := b.foldInts_leading op acc words []
  rwa [List.append_nil] at h

theorem foldInts_bad (b : Builtin) (op : Int → Int → Int) (acc : Int64) (words : List Int64)
    {v : Value} (bad : ¬ v.IsInt) (rest : List Value) :
    b.foldInts op acc (ints words ++ v :: rest) =
      .error (if ∀ p ∈ (integers words).scanl op acc.toInt, InWord p then b.typeError "int" v
        else b.overflow) := by
  have stops (acc : Int64) : b.foldInts op acc (v :: rest) = .error (b.typeError "int" v) := by
    cases v with
    | int n => exact absurd trivial bad
    | _ => rfl
  rcases b.foldInts_leading op acc words (v :: rest) with ⟨all, word, -, same⟩ | ⟨⟨p, mem, out⟩, fails⟩
  · rw [same, stops, if_pos all]
  · rw [fails, if_neg fun all => out (all p mem)]

/-! ## Sums, products and differences -/

theorem foldl_sub (n : Int) (ns : List Int) : ns.foldl (· - ·) n = n - ns.sum := by
  induction ns generalizing n with
  | nil => simp
  | cons m ns ih =>
    rw [List.foldl_cons, ih, List.sum_cons]
    omega

/-- Words hold everything on the way and the result as well. -/
def Fits (b : Builtin) (ns : List Int) : Prop := (∀ p ∈ b.partials ns, InWord p) ∧ InWord (b.exact ns)

instance (b : Builtin) (ns : List Int) : Decidable (b.Fits ns) := inferInstanceAs (Decidable (_ ∧ _))

/-- The call gives the exact integer if `fits`, and reports an overflow if not. -/
def Settles (b : Builtin) (args : List Value) (fits : Prop) (n : Int) : Prop :=
  fits ∧ (∃ word : Int64, word.toInt = n ∧ b.value args = .ok (.int word)) ∨
    ¬ fits ∧ b.value args = .error b.overflow

variable {b : Builtin} {args : List Value} {fits : Prop} {n m : Int}

theorem Settles.gives_iff (counts : b ∈ folding ++ dividing) (h : b.Settles args fits n) :
    b.Gives args m ↔ fits ∧ m = n := by
  rw [Builtin.gives_iff counts]
  rcases h with ⟨holds, word, result, found⟩ | ⟨fails, found⟩
  · rw [found]
    constructor
    · rintro ⟨other, rfl, same⟩
      cases same
      exact ⟨holds, result⟩
    · rintro ⟨-, rfl⟩
      exact ⟨word, result, rfl⟩
  · rw [found]
    constructor
    · rintro ⟨other, -, same⟩
      cases same
    · rintro ⟨holds, -⟩
      exact absurd holds fails

theorem Settles.refuses_iff (counts : b ∈ folding ++ dividing) (h : b.Settles args fits n) :
    b.Refuses args b.overflow ↔ ¬ fits := by
  rw [Builtin.refuses_iff counts]
  rcases h with ⟨holds, word, -, found⟩ | ⟨fails, found⟩
  · rw [found]
    exact ⟨nofun, fun fails => absurd holds fails⟩
  · exact ⟨fun _ => fails, fun _ => found⟩

/-- A builtin that folds its arguments, over integers only. -/
theorem settles_fold {op : Int → Int → Int} {acc : Int64} {words : List Int64} {ns : List Int}
    (value : b.value args = Value.int <$> b.foldInts op acc (ints words))
    (way : b.partials ns = (integers words).scanl op acc.toInt)
    (result : b.exact ns = (integers words).foldl op acc.toInt) :
    b.Settles args (b.Fits ns) (b.exact ns) := by
  unfold Settles Fits
  rw [value, way, result]
  rcases b.foldInts_ints op acc words with ⟨all, word, same, found⟩ | ⟨⟨p, mem, out⟩, found⟩
  · rw [found]
    exact .inl ⟨⟨all, same ▸ inWord_toInt word⟩, word, same, rfl⟩
  · rw [found]
    exact .inr ⟨fun holds => out (holds.1 p mem), rfl⟩

theorem settles_ints (folds : b ∈ folding) {words : List Int64} (given : b = sub → words ≠ []) :
    b.Settles (ints words) (b.Fits (integers words)) (b.exact (integers words)) := by
  rcases mem_folding.mp folds with rfl | rfl | rfl
  · exact settles_fold rfl rfl List.sum_eq_foldl
  · exact settles_fold rfl rfl List.prod_eq_foldl
  · match words, given rfl with
    | [n], _ =>
      have alone : sub.value (ints [n]) = Value.int <$> sub.word (-n.toInt) := rfl
      have way : ∀ p ∈ sub.partials (integers [n]), InWord p := by
        intro p mem
        rw [List.mem_singleton.mp mem]
        exact inWord_toInt n
      unfold Settles Fits
      rw [alone]
      by_cases h : InWord (-n.toInt)
      · rw [word_of_inWord sub h]
        exact .inl ⟨⟨way, h⟩, _, Int64.toInt_ofInt_of_le h.1 h.2, rfl⟩
      · rw [word_of_not_inWord sub h]
        exact .inr ⟨fun holds => h holds.2, rfl⟩
    | n :: m :: words, _ => exact settles_fold rfl rfl (foldl_sub _ _).symm

/-- A builtin that folds its arguments, up to one that is no integer. -/
theorem value_bad_fold {op : Int → Int → Int} {acc : Int64} {words : List Int64} {ns : List Int}
    {v : Value} (bad : ¬ v.IsInt) {rest : List Value}
    (value : b.value args = Value.int <$> b.foldInts op acc (ints words ++ v :: rest))
    (way : b.partials ns = (integers words).scanl op acc.toInt) :
    b.value args = .error (if ∀ p ∈ b.partials ns, InWord p then b.typeError "int" v
      else b.overflow) := by
  rw [value, way, foldInts_bad b op acc words bad]
  rfl

/-- The first argument that is no integer ends the call, unless the integers before it did. -/
theorem value_bad (folds : b ∈ folding) (words : List Int64) {v : Value} (bad : ¬ v.IsInt)
    (rest : List Value) : b.value (ints words ++ v :: rest) =
      .error (if ∀ p ∈ b.partials (integers words), InWord p then b.typeError "int" v
        else b.overflow) := by
  rcases mem_folding.mp folds with rfl | rfl | rfl
  · exact value_bad_fold bad rfl rfl
  · exact value_bad_fold bad rfl rfl
  · cases words with
    | nil =>
      rw [if_pos nofun]
      cases v with
      | int n => exact absurd trivial bad
      | _ => rfl
    | cons n words =>
      have more : (ints words ++ v :: rest).isEmpty = false := by cases words <;> rfl
      have value : sub.value (ints (n :: words) ++ v :: rest) =
          Value.int <$> if (ints words ++ v :: rest).isEmpty then sub.word (-n.toInt)
            else sub.foldInts (· - ·) n (ints words ++ v :: rest) := rfl
      rw [more, if_neg Bool.false_ne_true] at value
      exact value_bad_fold bad value rfl

/-! ## Quotients and remainders -/

/-- Of all quotients of words one alone is too large. -/
theorem inWord_tdiv {x y : Int64} (nonzero : y ≠ 0) :
    InWord (x.toInt.tdiv y.toInt) ↔ ¬ (x = Int64.minValue ∧ y = -1) := by
  constructor
  · rintro fits ⟨rfl, rfl⟩
    exact absurd fits (by decide)
  · intro other
    have size : (x.toInt.tdiv y.toInt).natAbs = x.toInt.natAbs / y.toInt.natAbs :=
      Int.natAbs_tdiv x.toInt y.toInt
    obtain ⟨low, high⟩ := inWord_toInt x
    have least : Int64.minValue.toInt = -2 ^ 63 := by decide
    have divisor : y.toInt ≠ 0 := fun zero => nonzero (Int64.toInt_inj.mp zero)
    rcases (by omega : y.toInt = 1 ∨ y.toInt = -1 ∨ 2 ≤ y.toInt.natAbs) with one | minus | more
    · rw [one, Int.tdiv_one]
      exact ⟨low, high⟩
    · have y_eq : y = -1 := Int64.toInt_inj.mp minus
      have x_ne : x.toInt ≠ -2 ^ 63 := by
        intro x_eq
        exact other ⟨Int64.toInt_inj.mp (x_eq.trans least.symm), y_eq⟩
      rw [minus, Int.tdiv_neg, Int.tdiv_one]
      constructor <;> omega
    · have half : x.toInt.natAbs / y.toInt.natAbs ≤ x.toInt.natAbs / 2 :=
        Nat.div_le_div_left more (by decide)
      constructor <;> omega

theorem inWord_tmod {x y : Int64} (nonzero : y ≠ 0) : InWord (x.toInt.tmod y.toInt) := by
  have size := Int.natAbs_tmod x.toInt y.toInt
  obtain ⟨low, high⟩ := inWord_toInt y
  have divisor : y.toInt ≠ 0 := fun zero => nonzero (Int64.toInt_inj.mp zero)
  have less : x.toInt.natAbs % y.toInt.natAbs < y.toInt.natAbs := Nat.mod_lt _ (by omega)
  constructor <;> omega

/-- What is asked for: the quotient or what is left. -/
def divided : Builtin → Int → Int → Int
  | mod => Int.tmod
  | _ => Int.tdiv

theorem value_divide (divides : b ∈ dividing) (x y : Int64) : b.value [.int x, .int y] =
    if y = 0 then .error "division by zero"
    else Value.int <$> (b.word (x.toInt.tdiv y.toInt) >>= fun _ =>
      b.word (b.divided x.toInt y.toInt)) := by
  rcases mem_dividing.mp divides with rfl | rfl
  · have value : div.value [.int x, .int y] = Value.int <$> if y = 0 then .error "division by zero"
      else div.word (x.toInt.tdiv y.toInt) >>= fun _ => div.word (x.toInt.tdiv y.toInt) := rfl
    rw [value]
    split <;> rfl
  · have value : mod.value [.int x, .int y] = Value.int <$> if y = 0 then .error "division by zero"
      else mod.word (x.toInt.tdiv y.toInt) >>= fun _ => mod.word (x.toInt.tmod y.toInt) := rfl
    rw [value]
    split <;> rfl

theorem settles_divide (divides : b ∈ dividing) {x y : Int64} (nonzero : y ≠ 0) :
    b.Settles [.int x, .int y] (¬ (x = Int64.minValue ∧ y = -1))
      (b.divided x.toInt y.toInt) := by
  unfold Settles
  rw [value_divide divides, if_neg nonzero]
  by_cases fits : InWord (x.toInt.tdiv y.toInt)
  · have result : InWord (b.divided x.toInt y.toInt) := by
      unfold divided
      split
      · exact inWord_tmod nonzero
      · exact fits
    rw [word_of_inWord b fits, word_of_inWord b result]
    exact .inl ⟨(inWord_tdiv nonzero).mp fits, _, Int64.toInt_ofInt_of_le result.1 result.2, rfl⟩
  · rw [word_of_not_inWord b fits]
    exact .inr ⟨fun other => fits ((inWord_tdiv nonzero).mpr other), rfl⟩

theorem overflow_ne_zero (divides : b ∈ dividing) : b.overflow ≠ "division by zero" := by
  rcases mem_dividing.mp divides with rfl | rfl <;> decide

theorem value_zero (divides : b ∈ dividing) (x : Int64) :
    b.value [.int x, .int 0] = .error "division by zero" := by
  rw [value_divide divides, if_pos rfl]

theorem refuses_zero_iff (divides : b ∈ dividing) (x y : Int64) :
    b.Refuses [.int x, .int y] "division by zero" ↔ y = 0 := by
  rw [refuses_iff (List.mem_append_right _ divides)]
  constructor
  · intro refused
    by_contra nonzero
    rcases settles_divide divides nonzero (x := x) with ⟨-, word, -, found⟩ | ⟨-, found⟩
    · rw [found] at refused
      cases refused
    · rw [found] at refused
      injection refused with same
      exact overflow_ne_zero divides same
  · rintro rfl
    exact value_zero divides x

theorem refuses_overflow_iff (divides : b ∈ dividing) (x y : Int64) :
    b.Refuses [.int x, .int y] b.overflow ↔ x = Int64.minValue ∧ y = -1 := by
  have counts : b ∈ folding ++ dividing := List.mem_append_right _ divides
  by_cases zero : y = 0
  · subst zero
    rw [refuses_iff counts, value_zero divides]
    constructor
    · intro same
      injection same with same
      exact absurd same.symm (overflow_ne_zero divides)
    · rintro ⟨-, minus⟩
      exact absurd minus (by decide)
  · rw [(settles_divide divides zero).refuses_iff counts, not_not]

theorem value_divide_bad (divides : b ∈ dividing) {v : Value} (bad : ¬ v.IsInt) :
    (∀ w, b.value [v, w] = .error (b.typeError "int" v)) ∧
      ∀ x, b.value [.int x, v] = .error (b.typeError "int" v) := by
  cases v with
  | int n => exact absurd trivial bad
  | _ => rcases mem_dividing.mp divides with rfl | rfl <;> exact ⟨fun _ => rfl, fun _ => rfl⟩

theorem tdiv_spec {a b : Int} (nonzero : b ≠ 0) : a = b * a.tdiv b + a.tmod b ∧
    (a.tmod b).natAbs < b.natAbs ∧ (a.tmod b = 0 ∨ (a.tmod b).sign = a.sign) := by
  refine ⟨?_, ?_, ?_⟩
  · rw [Int.add_comm]
    exact (Int.tmod_add_mul_tdiv a b).symm
  · rw [Int.natAbs_tmod]
    exact Nat.mod_lt _ (Int.natAbs_pos.mpr nonzero)
  · by_cases divides : b ∣ a
    · exact .inl (Int.tmod_eq_zero_of_dvd divides)
    · right
      rw [Int.sign_tmod, if_neg divides]

theorem typeError_int (b : Builtin) (v : Value) :
    b.typeError "int" v = s!"{b.name}: expected int, got {v.typeName}" := by
  cases b <;> cases v <;> rfl

end Builtin

open Builtin in
/-- Sums, products, differences: exact if a word holds everything on the way, and otherwise an overflow
is reported, unless an argument that is no integer is met before. Quotients and remainders: they fail for
the divisor zero, and there is an overflow for one pair of words only. -/
theorem integer_arithmetic_exact :
    (∀ b ∈ folding, ∀ words, (b = sub → words ≠ []) →
      (∀ n, b.Gives (ints words) n ↔ b.Fits (integers words) ∧ n = b.exact (integers words)) ∧
      (b.Refuses (ints words) s!"{b.name}: integer overflow" ↔ ¬ b.Fits (integers words))) ∧
    (∀ b ∈ folding, ∀ words v rest, ¬ v.IsInt → b.Refuses (ints words ++ v :: rest)
      (if ∀ p ∈ b.partials (integers words), InWord p
        then s!"{b.name}: expected int, got {v.typeName}" else s!"{b.name}: integer overflow")) ∧
    (∀ b ∈ dividing, ∀ x y,
      (b.Refuses [.int x, .int y] "division by zero" ↔ y = 0) ∧
      (b.Refuses [.int x, .int y] s!"{b.name}: integer overflow" ↔
        x = Int64.minValue ∧ y = -1)) ∧
    (∀ x y : Int64, y ≠ 0 → ¬ (x = Int64.minValue ∧ y = -1) →
      ∃ q r : Int, div.Gives [.int x, .int y] q ∧ mod.Gives [.int x, .int y] r ∧
        x.toInt = y.toInt * q + r ∧ r.natAbs < y.toInt.natAbs ∧
        (r = 0 ∨ r.sign = x.toInt.sign)) ∧
    (∀ b ∈ dividing, ∀ v, ¬ v.IsInt →
      (∀ w, b.Refuses [v, w] s!"{b.name}: expected int, got {v.typeName}") ∧
      ∀ x, b.Refuses [.int x, v] s!"{b.name}: expected int, got {v.typeName}") := by
  refine ⟨?_, ?_, ?_, ?_, ?_⟩
  · intro b folds words given
    have counts : b ∈ folding ++ dividing := List.mem_append_left _ folds
    have settles := settles_ints folds given
    exact ⟨fun n => settles.gives_iff counts, settles.refuses_iff counts⟩
  · intro b folds words v rest bad
    have counts : b ∈ folding ++ dividing := List.mem_append_left _ folds
    rw [refuses_iff counts, value_bad folds words bad, typeError_int]
    rfl
  · intro b divides x y
    exact ⟨refuses_zero_iff divides x y, refuses_overflow_iff divides x y⟩
  · intro x y nonzero fits
    have divisor : y.toInt ≠ 0 := fun zero => nonzero (Int64.toInt_inj.mp zero)
    have quotient : div ∈ dividing := by decide
    have remainder : mod ∈ dividing := by decide
    refine ⟨x.toInt.tdiv y.toInt, x.toInt.tmod y.toInt, ?_, ?_, tdiv_spec divisor⟩
    · exact ((settles_divide quotient nonzero).gives_iff (List.mem_append_right _ quotient)).mpr
        ⟨fits, rfl⟩
    · exact ((settles_divide remainder nonzero).gives_iff (List.mem_append_right _ remainder)).mpr
        ⟨fits, rfl⟩
  · intro b divides v bad
    have counts : b ∈ folding ++ dividing := List.mem_append_right _ divides
    rw [← typeError_int]
    constructor
    · intro w
      exact (refuses_iff counts).mpr ((value_divide_bad divides bad).1 w)
    · intro x
      exact (refuses_iff counts).mpr ((value_divide_bad divides bad).2 x)

open Builtin in
theorem arithmetic_at_the_borders :
    sub.Gives (ints [5, 7, -4]) 2 ∧
    sub.Refuses (ints [Int64.minValue]) "sub: integer overflow" ∧
    mul.Refuses (ints [Int64.maxValue, 2, 0] ++ .nil :: []) "mul: integer overflow" ∧
    add.Refuses (ints [Int64.maxValue] ++ .nil :: [.int 1]) "add: expected int, got nil" ∧
    (∃ q r : Int, div.Gives [.int (-7), .int 2] q ∧ mod.Gives [.int (-7), .int 2] r ∧
      -7 = 2 * q + r ∧ r.natAbs < 2 ∧ (r = 0 ∨ r.sign = -1)) ∧
    mod.Refuses [.int Int64.minValue, .int (-1)] "mod: integer overflow" ∧
    mod.Refuses [.nil, .int 0] "mod: expected int, got nil" := by
  obtain ⟨all, bad, divides, rest, badDivides⟩ := integer_arithmetic_exact
  refine ⟨?_, ?_, ?_, ?_, ?_, ?_, ?_⟩
  · exact ((all sub (by decide) [5, 7, -4] (by decide)).1 2).mpr ⟨by decide, by decide⟩
  · exact (all sub (by decide) [Int64.minValue] (by decide)).2.mpr (by decide)
  · exact bad mul (by decide) [Int64.maxValue, 2, 0] .nil [] id
  · exact bad add (by decide) [Int64.maxValue] .nil [.int 1] id
  · exact rest (-7) 2 (by decide) (by decide)
  · exact (divides mod (by decide) Int64.minValue (-1)).2.mpr ⟨rfl, rfl⟩
  · exact (badDivides mod (by decide) .nil id).1 (.int 0)

end ScriptSession.Script
