import Mathlib.Data.Rat.Floor
import Mathlib.Tactic.Linarith
import Mathlib.Tactic.Ring

/-!
Exact decimal columns. A column `DECIMAL(p, s)` holds whole numbers of its last digit,
within a limit; a number that is stored is rounded half away from zero, and refused
when the column cannot hold it.
-/

namespace FieldserviceIT.Lib

def roundHalf (x : ℚ) : Int :=
  if 0 ≤ x then (x + 1 / 2).floor else -(-x + 1 / 2).floor

section Rounding

variable {x y : ℚ}

theorem roundHalf_of_nonneg (h : 0 ≤ x) : roundHalf x = (x + 1 / 2).floor :=
  if_pos h

theorem roundHalf_intCast (n : Int) : roundHalf n = n := by
  have hhalf : ∀ m : Int, ((m : ℚ) + 1 / 2).floor = m := by
    intro m
    apply Int.le_antisymm
    · rw [← Int.lt_add_one_iff, Rat.floor_lt_iff]
      push_cast
      linarith
    · rw [Rat.le_floor_iff]
      linarith
  rw [roundHalf]
  split
  · exact hhalf n
  · rw [← Int.cast_neg, hhalf, Int.neg_neg]

theorem roundHalf_add_intCast (h : 0 ≤ x) {n : Int} (hn : 0 ≤ x + n) :
    roundHalf (x + n) = roundHalf x + n := by
  rw [roundHalf_of_nonneg h, roundHalf_of_nonneg hn, ← Rat.floor_add_intCast]
  congr 1
  ring

theorem roundHalf_nonneg (h : 0 ≤ x) : 0 ≤ roundHalf x := by
  rw [roundHalf_of_nonneg h, Rat.le_floor_iff]
  push_cast
  linarith

theorem roundHalf_mono (hx : 0 ≤ x) (h : x ≤ y) : roundHalf x ≤ roundHalf y := by
  rw [roundHalf_of_nonneg hx, roundHalf_of_nonneg (hx.trans h)]
  exact Rat.floor_monotone (by linarith)

theorem roundHalf_le {n : Int} (hx : 0 ≤ x) (h : x ≤ n) : roundHalf x ≤ n := by
  rw [← roundHalf_intCast n]
  exact roundHalf_mono hx h

theorem le_roundHalf {n : Int} (hn : 0 ≤ n) (h : (n : ℚ) ≤ x) : n ≤ roundHalf x := by
  have hround := roundHalf_mono (by exact_mod_cast hn) h
  rwa [roundHalf_intCast] at hround

def isHalf (x : ℚ) : Bool :=
  (roundHalf x : ℚ) = x + 1 / 2

theorem roundHalf_sub {n : Int} (hx : 0 ≤ x) (hhalf : isHalf x = false) :
    roundHalf (n - x) = n - roundHalf x := by
  have hne : (roundHalf x : ℚ) ≠ x + 1 / 2 := of_decide_eq_false hhalf
  rw [roundHalf_of_nonneg hx] at *
  by_cases hn : 0 ≤ n - x
  · rw [roundHalf_of_nonneg hn]
    have hle := Rat.floor_le (x + 1 / 2)
    have hlt := Rat.lt_floor_add_one (x + 1 / 2)
    push_cast at hlt
    apply Int.le_antisymm
    · rw [← Int.lt_add_one_iff, Rat.floor_lt_iff]
      push_cast
      have hstrict := lt_of_le_of_ne hle hne
      linarith
    · rw [Rat.le_floor_iff]
      push_cast
      linarith
  · have hshift : -(n - x) + 1 / 2 = x + 1 / 2 + ((-n : Int) : ℚ) := by
      push_cast
      ring
    rw [roundHalf, if_neg hn, hshift, Rat.floor_add_intCast]
    omega

end Rounding

def maxZero (x : ℚ) : ℚ :=
  if x ≤ 0 then 0 else x

theorem maxZero_nonneg (x : ℚ) : 0 ≤ maxZero x := by
  rw [maxZero]
  split
  · exact le_refl 0
  · linarith

theorem maxZero_of_nonneg {x : ℚ} (h : 0 ≤ x) : maxZero x = x := by
  rw [maxZero]
  split
  · linarith
  · rfl

theorem maxZero_le {x y : ℚ} (hy : 0 ≤ y) (h : x ≤ y) : maxZero x ≤ y := by
  rw [maxZero]
  split
  · exact hy
  · exact h

section Sums

variable {α : Type} (f : α → ℚ)

def sumOf : List α → ℚ
  | [] => 0
  | x :: l => f x + sumOf l

variable {f}

theorem sumOf_append (l m : List α) : sumOf f (l ++ m) = sumOf f l + sumOf f m := by
  induction l with
  | nil => rw [List.nil_append, sumOf, zero_add]
  | cons x l ih => rw [List.cons_append, sumOf, sumOf, ih, add_assoc]

theorem sumOf_eq_zero {l : List α} (h : ∀ x ∈ l, f x = 0) : sumOf f l = 0 := by
  induction l with
  | nil => rfl
  | cons x l ih =>
    rw [sumOf, h x List.mem_cons_self, zero_add]
    exact ih fun y hy => h y (List.mem_cons_of_mem x hy)

theorem sumOf_set {l : List α} {i : Nat} {x : α} (h : l[i]? = some x) (y : α) :
    sumOf f (l.set i y) = sumOf f l + (f y - f x) := by
  induction l generalizing i with
  | nil => cases h
  | cons z l ih =>
    cases i with
    | zero =>
      obtain rfl := Option.some.inj h
      rw [List.set_cons_zero, sumOf, sumOf]
      ring
    | succ i =>
      rw [List.set_cons_succ, sumOf, sumOf, ih h]
      ring

end Sums

/-- `DECIMAL(p, s)`: `scale` is the tenth power of `s` and `limit` that of `p`. -/
structure DecimalColumn where
  scale : Nat
  limit : Nat
  scale_pos : 0 < scale

namespace DecimalColumn

/-- `DECIMAL(12,2)` -/
def cents : DecimalColumn :=
  ⟨100, 1000000000000, by decide⟩

variable (c : DecimalColumn)

/-- What the column holds, in units of its last digit. -/
abbrev Value :=
  { n : Int // n.natAbs < c.limit }

def ofCents (n : Nat) : cents.Value :=
  ⟨(n % 1000000000000 : Nat), Nat.mod_lt n (by decide)⟩

variable {c}

def read (v : c.Value) : ℚ :=
  v.val / c.scale

variable (c)

/-- `none` is an error: the value is out of range. -/
def store (x : ℚ) : Option c.Value :=
  if h : (roundHalf (x * c.scale)).natAbs < c.limit then some ⟨roundHalf (x * c.scale), h⟩ else none

variable {c}

theorem read_mul_scale (v : c.Value) : read v * c.scale = v.val := by
  have hscale : (c.scale : ℚ) ≠ 0 := Nat.cast_ne_zero.mpr (Nat.pos_iff_ne_zero.mp c.scale_pos)
  rw [read, div_mul_cancel₀ _ hscale]

theorem store_eq_some {x : ℚ} {v : c.Value} :
    c.store x = some v ↔ roundHalf (x * c.scale) = v.val := by
  rw [store]
  split
  next h => rw [Option.some.injEq, Subtype.ext_iff]
  next h =>
    constructor
    · intro hnone
      cases hnone
    · intro hval
      exact absurd (hval ▸ v.property) h

@[simp]
theorem store_read (v : c.Value) : c.store (read v) = some v := by
  rw [store_eq_some, read_mul_scale, roundHalf_intCast]

theorem val_nonneg_of_store {x : ℚ} {v : c.Value} (hx : 0 ≤ x) (h : c.store x = some v) :
    0 ≤ v.val := by
  rw [← store_eq_some.mp h]
  exact roundHalf_nonneg (mul_nonneg hx (Nat.cast_nonneg _))

theorem read_nonneg {v : c.Value} (h : 0 ≤ v.val) : 0 ≤ read v :=
  div_nonneg (by exact_mod_cast h) (Nat.cast_nonneg _)

theorem read_le_read {v w : c.Value} : read v ≤ read w ↔ v.val ≤ w.val := by
  rw [read, read, div_le_div_iff_of_pos_right (Nat.cast_pos.mpr c.scale_pos), Int.cast_le]

end DecimalColumn

end FieldserviceIT.Lib
