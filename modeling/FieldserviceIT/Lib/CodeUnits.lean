/-!
Texts that are cut: to a number of UTF-16 units, where what is left of a character that is cut
through is written as the replacement character, and at a separator.
-/

namespace FieldserviceIT.Lib.CodeUnits

def units (c : Char) : Nat :=
  if c.toNat < 0x10000 then 1 else 2

/-- `text.slice(0, n)` -/
def slice : Nat → List Char → List Char
  | _, [] => []
  | n, c :: text =>
    if units c ≤ n then c :: slice (n - units c) text
    else if n = 0 then [] else ['\uFFFD']

theorem notMem_splitOn {α : Type} [DecidableEq α] (a : α) (list : List α) :
    ∀ piece ∈ list.splitOn a, a ∉ piece := by
  induction list with
  | nil =>
    intro piece hpiece
    rw [List.splitOn_nil, List.mem_singleton] at hpiece
    rw [hpiece]
    exact List.not_mem_nil
  | cons b rest ih =>
    rw [List.splitOn_cons_eq_if_modifyHead]
    by_cases hb : b = a
    · rw [if_pos (beq_iff_eq.mpr hb)]
      exact List.forall_mem_cons.mpr ⟨List.not_mem_nil, ih⟩
    · rw [if_neg (fun h => hb (beq_iff_eq.mp h))]
      cases hsplit : rest.splitOn a with
      | nil => exact absurd hsplit (List.splitOn_ne_nil a rest)
      | cons first later =>
        rw [hsplit, List.forall_mem_cons] at ih
        rw [List.modifyHead_cons, List.forall_mem_cons]
        refine ⟨fun hmem => ?_, ih.2⟩
        rcases List.mem_cons.mp hmem with h | h
        · exact hb h.symm
        · exact ih.1 h

end FieldserviceIT.Lib.CodeUnits
