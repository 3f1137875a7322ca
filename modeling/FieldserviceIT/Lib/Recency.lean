import FieldserviceIT.Lib.Tables
import Mathlib.Data.Finset.Max
import Mathlib.Data.List.Perm.Basic

/-!
The most recent of some rows. A row is crowded out when so many others are more recent. What is cut
off an ordered list is what is crowded out, and rows that are crowded out can be dropped without
making room for any of the others.
-/

namespace FieldserviceIT.Lib.Recency

variable {ρ κ : Type} [LinearOrder κ] (key : ρ → κ)

def later (rows : List ρ) (k : κ) : List ρ :=
  rows.filter fun row => decide (k < key row)

def CrowdedOut (n : Nat) (rows : List ρ) (k : κ) : Prop :=
  n ≤ (later key rows k).length

variable {key} {rows rows' : List ρ} {n : Nat} {k : κ}

theorem mem_later {row : ρ} : row ∈ later key rows k ↔ row ∈ rows ∧ k < key row := by
  rw [later, List.mem_filter, decide_eq_true_eq]

theorem later_perm (h : rows.Perm rows') (k : κ) : (later key rows k).Perm (later key rows' k) :=
  h.filter _

theorem CrowdedOut.perm (h : rows.Perm rows') :
    CrowdedOut key n rows k ↔ CrowdedOut key n rows' k := by
  rw [CrowdedOut, CrowdedOut, (later_perm h k).length_eq]

theorem CrowdedOut.sublist (h : rows.Sublist rows') (hcrowded : CrowdedOut key n rows k) :
    CrowdedOut key n rows' k :=
  hcrowded.trans (h.filter _).length_le

/-- Of rows that are not equally recent, those behind the first `n` of the ordered list are crowded
out. -/
theorem mem_drop_iff (hsorted : rows.Pairwise fun row next => key next ≤ key row)
    (hdistinct : (rows.map key).Nodup) {row : ρ} (hrow : row ∈ rows) :
    row ∈ rows.drop n ↔ CrowdedOut key n rows (key row) := by
  induction rows generalizing n with
  | nil => cases hrow
  | cons first rest ih =>
    obtain ⟨hfirst, hrest⟩ := List.pairwise_cons.mp hsorted
    obtain ⟨hnew, hdistinct⟩ := List.nodup_cons.mp hdistinct
    cases n with
    | zero => exact iff_of_true hrow (Nat.zero_le _)
    | succ n =>
      rw [List.drop_succ_cons, CrowdedOut, later, List.filter_cons]
      cases hrow with
      | head =>
        have hnone : rest.filter (fun other => decide (key row < key other)) = [] := by
          rw [List.filter_eq_nil_iff]
          intro other hother hlt
          exact absurd (hfirst other hother) (not_le.mpr (of_decide_eq_true hlt))
        have hout : row ∉ rest.drop n := fun hmem =>
          hnew (List.mem_map_of_mem (List.mem_of_mem_drop hmem))
        rw [if_neg (by simp), hnone]
        exact iff_of_false hout (Nat.not_succ_le_zero n)
      | tail _ hrow =>
        have hlt : key row < key first := by
          refine lt_of_le_of_ne (hfirst row hrow) fun heq => hnew ?_
          rw [← heq]
          exact List.mem_map_of_mem hrow
        rw [if_pos (decide_eq_true hlt), List.length_cons, ih hrest hdistinct hrow]
        exact Nat.succ_le_succ_iff.symm

/-- Dropping rows that are crowded out leaves the others as crowded as they were: of what is more
recent, the latest row that is dropped had `n` rows before it that are not. -/
theorem CrowdedOut.filter {p : ρ → Bool}
    (hdropped : ∀ row ∈ rows, p row = false → CrowdedOut key n rows (key row))
    (h : CrowdedOut key n rows k) : CrowdedOut key n (rows.filter p) k := by
  classical
  let dropped := ((later key rows k).filter fun row => !p row).toFinset
  by_cases hnone : dropped = ∅
  · have hall : (later key rows k).filter p = later key rows k := by
      rw [List.filter_eq_self]
      intro row hrow
      by_contra hp
      have hmem : row ∈ dropped := by simpa [dropped, hrow] using hp
      rw [hnone] at hmem
      cases hmem
    rw [CrowdedOut, later, List.filter_comm, ← later, hall]
    exact h
  · obtain ⟨last, hlast, hmost⟩ :=
      dropped.exists_max_image key (Finset.nonempty_iff_ne_empty.mpr hnone)
    simp only [dropped, List.mem_toFinset, List.mem_filter, Bool.not_eq_true'] at hlast
    obtain ⟨hmem, hk⟩ := mem_later.mp hlast.1
    refine (hdropped last hmem hlast.2).trans ?_
    -- what is more recent than the last row dropped is not dropped
    have hkept : later key rows (key last) = later key (rows.filter p) (key last) := by
      rw [later, later, List.filter_filter]
      refine List.filter_congr fun row hrow => ?_
      cases hp : p row with
      | true => rw [Bool.and_true]
      | false =>
        rw [Bool.and_false, decide_eq_false_iff_not]
        intro hlt
        have hdrop : row ∈ dropped := by
          simp only [dropped, List.mem_toFinset, List.mem_filter, hp, Bool.not_false, and_true]
          exact mem_later.mpr ⟨hrow, hk.trans hlt⟩
        exact absurd (hmost row hdrop) (not_le.mpr hlt)
    rw [hkept]
    refine List.Sublist.length_le (List.monotone_filter_right _ fun row hlt => ?_)
    exact decide_eq_true (hk.trans (of_decide_eq_true hlt))

/-- Where no row is crowded out there are no more than `n`. -/
theorem length_le_of_not_crowdedOut (hdistinct : (rows.map key).Nodup)
    (h : ∀ row ∈ rows, ¬CrowdedOut key n rows (key row)) : rows.length ≤ n := by
  classical
  by_cases hempty : rows = []
  · rw [hempty]
    exact Nat.zero_le n
  · obtain ⟨row, hrow⟩ := List.exists_mem_of_ne_nil rows hempty
    obtain ⟨first, hfirst, hleast⟩ :=
      rows.toFinset.exists_min_image key ⟨row, List.mem_toFinset.mpr hrow⟩
    rw [List.mem_toFinset] at hfirst
    have hothers : later key rows (key first) = rows.filter fun row => decide (key row ≠ key first) := by
      refine List.filter_congr fun row hrow => ?_
      have hle := hleast row (List.mem_toFinset.mpr hrow)
      rw [decide_eq_decide]
      exact ⟨fun hlt => hlt.ne', fun hne => lt_of_le_of_ne hle hne.symm⟩
    have hone := congrArg List.length (Distinct.filter_key hdistinct hfirst)
    have hsum := List.length_eq_countP_add_countP (fun row => decide (key row = key first))
      (l := rows)
    rw [List.countP_eq_length_filter, List.countP_eq_length_filter, hone] at hsum
    have hnot := h first hfirst
    rw [CrowdedOut, hothers] at hnot
    simp only [ne_eq, decide_not, decide_eq_true_eq, List.length_singleton] at hnot hsum
    omega

end FieldserviceIT.Lib.Recency
