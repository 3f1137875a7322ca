import Mathlib.Algebra.Group.Nat.Defs
import Mathlib.Data.List.Induction

/-!
Binary digits in groups of one width. Numbers are written as groups, and a text of digits is cut
into groups again, with or without what is left over at its end.
-/

namespace FieldserviceIT.Lib.BitGroups

def bits : Nat → Nat → List Bool
  | 0, _ => []
  | width + 1, n => bits width (n / 2) ++ [n % 2 == 1]

def number (digits : List Bool) : Nat :=
  digits.foldl (fun n digit => 2 * n + digit.toNat) 0

def groups (width : Nat) (digits : List Bool) : List (List Bool) :=
  if width = 0 ∨ digits = [] then []
  else
    let group := digits.take width
    (group ++ List.replicate (width - group.length) false) :: groups width (digits.drop width)
termination_by digits.length
decreasing_by
  have hlength := List.length_pos_iff.mpr (not_or.mp ‹_›).2
  rw [List.length_drop]
  omega

/-- Groups of digits. What does not fill the last one is dropped. -/
def fullGroups (width : Nat) (digits : List Bool) : List (List Bool) :=
  if width = 0 ∨ digits.length < width then []
  else digits.take width :: fullGroups width (digits.drop width)
termination_by digits.length
decreasing_by
  rw [List.length_drop]
  omega

@[simp] theorem length_bits (width n : Nat) : (bits width n).length = width := by
  induction width generalizing n with
  | zero => rfl
  | succ width ih => rw [bits, List.length_append, ih, List.length_singleton]

theorem number_concat (digits : List Bool) (digit : Bool) :
    number (digits ++ [digit]) = 2 * number digits + digit.toNat := by
  rw [number, List.foldl_append]
  rfl

theorem number_bits {width n : Nat} (h : n < 2 ^ width) : number (bits width n) = n := by
  induction width generalizing n with
  | zero =>
    rw [Nat.pow_zero] at h
    have hn : n = 0 := by omega
    rw [hn]
    rfl
  | succ width ih =>
    rw [Nat.pow_succ] at h
    rw [bits, number_concat, ih (by omega)]
    cases Nat.mod_two_eq_zero_or_one n with
    | inl hmod => rw [hmod]; simp; omega
    | inr hmod => rw [hmod]; simp; omega

theorem number_append (front digits : List Bool) :
    number (front ++ digits) = number front * 2 ^ digits.length + number digits := by
  induction digits using List.reverseRecOn with
  | nil => rw [List.append_nil, List.length_nil, Nat.pow_zero, Nat.mul_one]; rfl
  | append_singleton digits digit ih =>
    rw [← List.append_assoc, number_concat, ih, number_concat, List.length_append, List.length_singleton,
      Nat.pow_succ]
    rw [Nat.mul_add, Nat.add_assoc, Nat.mul_comm (2 ^ _) 2, Nat.mul_left_comm]

theorem number_lt (digits : List Bool) : number digits < 2 ^ digits.length := by
  induction digits using List.reverseRecOn with
  | nil => exact Nat.one_pos
  | append_singleton digits digit ih =>
    rw [number_concat, List.length_append, List.length_singleton, Nat.pow_succ]
    have hdigit := Bool.toNat_le digit
    omega

theorem bits_number (digits : List Bool) : bits digits.length (number digits) = digits := by
  induction digits using List.reverseRecOn with
  | nil => rfl
  | append_singleton digits digit ih =>
    rw [List.length_append, List.length_singleton, number_concat, bits]
    have hhalf : (2 * number digits + digit.toNat) / 2 = number digits := by
      have hdigit := Bool.toNat_le digit
      omega
    have hlast : ((2 * number digits + digit.toNat) % 2 == 1) = digit := by
      cases digit <;> simp
    rw [hhalf, hlast, ih]

theorem length_of_mem_groups {width : Nat} {digits group : List Bool} (h : group ∈ groups width digits) :
    group.length = width := by
  induction digits using groups.induct width with
  | case1 digits hnone =>
    rw [groups, if_pos hnone] at h
    cases h
  | case2 digits hsome ih =>
    rw [groups, if_neg hsome] at h
    cases List.mem_cons.mp h with
    | inl heq =>
      rw [heq, List.length_append, List.length_replicate, List.length_take]
      omega
    | inr hrest => exact ih hrest

theorem flatten_groups {width : Nat} (hwidth : 0 < width) (digits : List Bool) :
    ∃ n < width, (groups width digits).flatten = digits ++ List.replicate n false := by
  induction digits using groups.induct width with
  | case1 digits hnone =>
    have hnil : digits = [] := hnone.resolve_left (by omega)
    refine ⟨0, hwidth, ?_⟩
    rw [groups, if_pos hnone, hnil]
    rfl
  | case2 digits hsome ih =>
    obtain ⟨n, hn, hrest⟩ := ih
    rw [groups, if_neg hsome, List.flatten_cons, hrest]
    by_cases hlength : width ≤ digits.length
    · refine ⟨n, hn, ?_⟩
      rw [List.length_take, Nat.min_eq_left hlength, Nat.sub_self, List.replicate_zero, List.append_nil,
        ← List.append_assoc, List.take_append_drop]
    · have hpositive := List.length_pos_iff.mpr (not_or.mp hsome).2
      have hdrop : digits.drop width = [] := List.drop_eq_nil_of_le (by omega)
      rw [hdrop, groups, if_pos (.inr rfl)] at hrest
      have hn : n = 0 := by
        have hcount := congrArg List.length hrest
        simp only [List.flatten_nil, List.nil_append, List.length_nil, List.length_replicate] at hcount
        omega
      refine ⟨width - digits.length, by omega, ?_⟩
      rw [hdrop, hn, List.take_of_length_le (by omega), List.replicate_zero, List.append_nil, List.append_nil]

theorem fullGroups_flatten {width : Nat} (hwidth : 0 < width) {list : List (List Bool)} {rest : List Bool}
    (hlist : ∀ group ∈ list, group.length = width) (hrest : rest.length < width) :
    fullGroups width (list.flatten ++ rest) = list := by
  induction list with
  | nil => rw [fullGroups, if_pos (.inr hrest)]
  | cons group list ih =>
    obtain ⟨hgroup, hlist⟩ := List.forall_mem_cons.mp hlist
    have hlong : ¬ (width = 0 ∨ ((group :: list).flatten ++ rest).length < width) := by
      rw [List.flatten_cons, List.length_append, List.length_append]
      omega
    rw [fullGroups, if_neg hlong, List.flatten_cons, List.append_assoc, List.take_left' hgroup,
      List.drop_left' hgroup, ih hlist]

theorem fullGroups_groups {wide narrow : Nat} (hnarrow : 0 < narrow) (h : narrow ≤ wide) {values : List Nat}
    (hvalues : ∀ value ∈ values, value < 2 ^ wide) :
    (fullGroups wide (((groups narrow (values.flatMap (bits wide))).map number).flatMap (bits narrow))).map
      number = values := by
  obtain ⟨n, hn, hflatten⟩ := flatten_groups hnarrow (values.flatMap (bits wide))
  have hdigits : ((groups narrow (values.flatMap (bits wide))).map number).flatMap (bits narrow) =
      (values.map (bits wide)).flatten ++ List.replicate n false := by
    rw [← List.flatMap_def, ← hflatten, List.flatMap_map]
    rw [List.flatMap_def]
    refine congrArg List.flatten ((List.map_congr_left fun group hgroup => ?_).trans (List.map_id _))
    rw [← length_of_mem_groups hgroup, bits_number]
    rfl
  rw [hdigits, fullGroups_flatten (by omega) ?_ (by rw [List.length_replicate]; omega), List.map_map]
  · exact (List.map_congr_left fun value hvalue => number_bits (hvalues value hvalue)).trans (List.map_id _)
  · intro group hgroup
    obtain ⟨value, _, rfl⟩ := List.mem_map.mp hgroup
    exact length_bits wide value

end FieldserviceIT.Lib.BitGroups
