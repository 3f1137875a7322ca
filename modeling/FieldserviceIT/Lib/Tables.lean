import Mathlib.Data.List.Nodup

/-!
Tables of rows: the rows an `UPDATE ... WHERE` changes, what stays true of all rows
through one, rows inserted unless they are there, and keys that no two rows share.
-/

namespace FieldserviceIT.Lib

variable {ρ : Type}

/-- The rows with the condition are changed, the others are as they were. -/
def updateWhere (p : ρ → Bool) (change : ρ → ρ) (rows : List ρ) : List ρ :=
  rows.map fun row => if p row then change row else row

variable {p : ρ → Bool} {change : ρ → ρ} {rows : List ρ} {P : ρ → Prop}

theorem mem_updateWhere {row' : ρ} : row' ∈ updateWhere p change rows ↔
    ∃ row ∈ rows, row' = if p row then change row else row := by
  simp only [updateWhere, List.mem_map, eq_comm]

theorem updateWhere_and (q : ρ → Bool) :
    updateWhere (fun row => q row && p row) change rows =
      updateWhere p (fun row => if q row then change row else row) rows := by
  refine List.map_congr_left fun row _ => ?_
  cases hp : p row <;> simp [hp]

theorem forall_updateWhere (h : ∀ row ∈ rows, P row)
    (hchange : ∀ row ∈ rows, p row = true → P row → P (change row)) :
    ∀ row ∈ updateWhere p change rows, P row := by
  intro row' hrow'
  obtain ⟨row, hrow, rfl⟩ := mem_updateWhere.mp hrow'
  split
  next hp => exact hchange row hrow hp (h row hrow)
  next => exact h row hrow

theorem filter_updateWhere {q : ρ → Bool} (hchange : ∀ row, q (change row) = false)
    (rows : List ρ) : (updateWhere p change rows).filter q =
      (rows.filter q).filter fun row => !p row := by
  induction rows with
  | nil => rfl
  | cons row rows ih =>
    rw [updateWhere, List.map_cons, List.filter_cons, List.filter_cons, ← updateWhere, ih]
    cases hp : p row <;> cases hq : q row <;> simp [hchange, hp, hq]

section Keys

variable {κ : Type} {key : ρ → κ}

def Distinct (key : ρ → κ) (rows : List ρ) : Prop :=
  (rows.map key).Nodup

theorem Distinct.eq_of_key (h : Distinct key rows) {row other : ρ} (hrow : row ∈ rows)
    (hother : other ∈ rows) (hkey : key row = key other) : row = other :=
  List.inj_on_of_nodup_map h hrow hother hkey

theorem Distinct.find_key [DecidableEq κ] (h : Distinct key rows) {row : ρ} (hrow : row ∈ rows) :
    rows.find? (fun other => key other = key row) = some row := by
  cases hfound : rows.find? (fun other => key other = key row) with
  | none =>
    have hnone := List.find?_eq_none.mp hfound row hrow
    simp at hnone
  | some other =>
    have hkey : key other = key row := by simpa using List.find?_some hfound
    rw [h.eq_of_key (List.mem_of_find?_eq_some hfound) hrow hkey]

theorem Distinct.filter_key [DecidableEq κ] (h : Distinct key rows) {row : ρ} (hrow : row ∈ rows) :
    rows.filter (fun other => key other = key row) = [row] := by
  induction rows with
  | nil => exact absurd hrow List.not_mem_nil
  | cons first rest ih =>
    obtain ⟨hfirst, hrest⟩ := List.nodup_cons.mp h
    have hothers : ∀ other ∈ rest, key other ≠ key first := by
      intro other hother hkey
      exact hfirst (hkey ▸ List.mem_map_of_mem hother)
    obtain rfl | hrow := List.mem_cons.mp hrow
    · rw [List.filter_cons, if_pos (decide_eq_true rfl), List.cons.injEq]
      refine ⟨rfl, List.filter_eq_nil_iff.mpr fun other hother hkey => ?_⟩
      exact hothers other hother (of_decide_eq_true hkey)
    · rw [List.filter_cons_of_neg, ih hrest hrow]
      intro hkey
      exact hothers row hrow (of_decide_eq_true hkey).symm

theorem Distinct.append (h : Distinct key rows) {row : ρ}
    (hfresh : ∀ other ∈ rows, key other ≠ key row) : Distinct key (rows ++ [row]) := by
  rw [Distinct, List.map_append, List.map_singleton, List.nodup_append]
  refine ⟨h, List.nodup_singleton _, ?_⟩
  intro a ha b hb heq
  obtain ⟨other, hother, rfl⟩ := List.mem_map.mp ha
  exact hfresh other hother (heq.trans (List.mem_singleton.mp hb))

theorem map_updateWhere_congr (hkey : ∀ row ∈ rows, p row = true → key (change row) = key row) :
    (updateWhere p change rows).map key = rows.map key := by
  rw [updateWhere, List.map_map]
  refine List.map_congr_left fun row hrow => ?_
  simp only [Function.comp]
  split
  next hp => exact hkey row hrow hp
  next => rfl

theorem map_updateWhere_key (hkey : ∀ row ∈ rows, key (change row) = key row) :
    (updateWhere p change rows).map key = rows.map key :=
  map_updateWhere_congr fun row hrow _ => hkey row hrow

theorem Distinct.updateWhere (h : Distinct key rows)
    (hkey : ∀ row ∈ rows, key (change row) = key row) :
    Distinct key (updateWhere p change rows) := by
  rw [Distinct, map_updateWhere_key hkey]
  exact h

theorem find_updateWhere [DecidableEq κ] {k : κ}
    (hkey : ∀ row, key row = k → key (change row) = k) (k' : κ) (rows : List ρ) :
    (updateWhere (fun row => key row = k) change rows).find? (fun row => key row = k') =
      if k' = k then (rows.find? fun row => key row = k').map change
      else rows.find? fun row => key row = k' := by
  have hsame : (fun row => decide (key row = k')) ∘ (fun row =>
      if decide (key row = k) = true then change row else row) = fun row => decide (key row = k') := by
    funext row
    rw [Function.comp]
    split
    next hrow =>
      have hrow := of_decide_eq_true hrow
      rw [hkey row hrow, hrow]
    next => rfl
  rw [Lib.updateWhere, List.find?_map, hsame]
  cases hfound : rows.find? fun row => key row = k' with
  | none => exact (ite_self _).symm
  | some row =>
    have hrow : key row = k' := by simpa using List.find?_some hfound
    rw [Option.map_some, Option.map_some, hrow, ← apply_ite some]
    congr 1
    by_cases hk : k' = k
    · rw [if_pos hk, if_pos (decide_eq_true hk)]
    · rw [if_neg hk, if_neg fun h => hk (of_decide_eq_true h)]

theorem Distinct.filter (h : Distinct key rows) (p : ρ → Bool) : Distinct key (rows.filter p) :=
  h.sublist (List.filter_sublist.map key)

theorem foldl_updateWhere [DecidableEq κ] (hkey : ∀ row, key (change row) = key row)
    {keys : List κ} (hnodup : keys.Nodup) (rows : List ρ) :
    keys.foldl (fun rows k => Lib.updateWhere (fun row => key row = k) change rows) rows =
      Lib.updateWhere (fun row => keys.contains (key row)) change rows := by
  induction keys generalizing rows with
  | nil => simp [Lib.updateWhere]
  | cons k keys ih =>
    obtain ⟨hk, hnodup⟩ := List.nodup_cons.mp hnodup
    rw [List.foldl_cons, ih hnodup, Lib.updateWhere, Lib.updateWhere, Lib.updateWhere,
      List.map_map]
    refine List.map_congr_left fun row _ => ?_
    simp only [Function.comp, List.contains_eq_mem, List.mem_cons]
    by_cases hrow : key row = k
    · simp [hrow, hkey, hk]
    · simp [hrow]

end Keys

theorem nodup_eraseDups {κ : Type} [DecidableEq κ] (keys : List κ) : keys.eraseDups.Nodup := by
  induction hlength : keys.length using Nat.strongRecOn generalizing keys with
  | _ n ih =>
    cases keys with
    | nil => exact List.nodup_nil
    | cons key keys =>
      have hshorter := List.length_filter_le (fun other => !other == key) keys
      rw [List.length_cons] at hlength
      rw [List.eraseDups_cons, List.nodup_cons]
      refine ⟨fun hmem => ?_, ih _ (by omega) _ rfl⟩
      simp [List.mem_eraseDups] at hmem

section Insertions

variable [DecidableEq ρ]

/-- `INSERT IGNORE` of a row that is its own key. -/
def insertIgnore (row : ρ) (rows : List ρ) : List ρ :=
  if rows.contains row then rows else rows ++ [row]

theorem mem_insertIgnore {row other : ρ} :
    other ∈ insertIgnore row rows ↔ other ∈ rows ∨ other = row := by
  rw [insertIgnore]
  split
  next hrow =>
    refine ⟨.inl, fun h => h.elim id fun heq => ?_⟩
    rw [heq]
    exact List.contains_iff_mem.mp hrow
  next => rw [List.mem_append, List.mem_singleton]

theorem mem_foldl_insertIgnore {ι : Type} (row : ι → ρ) (items : List ι) {other : ρ} :
    other ∈ items.foldl (fun rows item => insertIgnore (row item) rows) rows ↔
      other ∈ rows ∨ ∃ item ∈ items, other = row item := by
  induction items generalizing rows with
  | nil => simp
  | cons item items ih =>
    rw [List.foldl_cons, ih, mem_insertIgnore, List.exists_mem_cons_iff, or_assoc]

end Insertions

section Upserts

variable {κ : Type} [DecidableEq κ] (key : ρ → κ)

/-- `INSERT ... ON DUPLICATE KEY UPDATE` -/
def insertOrUpdate (row : ρ) (change : ρ → ρ) (rows : List ρ) : List ρ :=
  if rows.any fun other => key other = key row then
    updateWhere (fun other => key other = key row) change rows
  else rows ++ [row]

theorem find_insertOrUpdate {row : ρ} {change : ρ → ρ}
    (hkey : ∀ other, key other = key row → key (change other) = key row) (k : κ) (rows : List ρ) :
    (insertOrUpdate key row change rows).find? (fun other => key other = k) =
      if key row = k then
        some (((rows.find? fun other => key other = k).map change).getD row)
      else rows.find? fun other => key other = k := by
  rw [insertOrUpdate]
  split
  next hany =>
    rw [find_updateWhere hkey]
    by_cases hk : key row = k
    · subst hk
      obtain ⟨other, hother, hkeys⟩ := List.any_eq_true.mp hany
      rw [if_pos rfl, if_pos rfl]
      cases hfound : rows.find? fun other => key other = key row with
      | none => exact absurd hkeys (List.find?_eq_none.mp hfound other hother)
      | some found => rfl
    · rw [if_neg (Ne.symm hk), if_neg hk]
  next hany =>
    have hnone : rows.find? (fun other => key other = key row) = none := by
      rw [List.find?_eq_none]
      intro other hother hkeys
      exact hany (List.any_eq_true.mpr ⟨other, hother, hkeys⟩)
    rw [List.find?_append]
    split
    next hk =>
      subst hk
      rw [hnone]
      simp
    next hk => simp [hk]

end Upserts

/-- What two versions of a row have to do with each other, for every row of a table. -/
def Carried (R : ρ → ρ → Prop) (rows rows' : List ρ) : Prop :=
  ∀ row ∈ rows, ∃ row' ∈ rows', R row row'

section Carried

variable {R : ρ → ρ → Prop} {rows' rows'' : List ρ}

theorem Carried.refl (hrefl : ∀ row, R row row) (rows : List ρ) : Carried R rows rows :=
  fun row hrow => ⟨row, hrow, hrefl row⟩

theorem Carried.trans (htrans : ∀ {a b c}, R a b → R b c → R a c) (h : Carried R rows rows')
    (h' : Carried R rows' rows'') : Carried R rows rows'' := by
  intro row hrow
  obtain ⟨row', hrow', hR⟩ := h row hrow
  obtain ⟨row'', hrow'', hR'⟩ := h' row' hrow'
  exact ⟨row'', hrow'', htrans hR hR'⟩

theorem Carried.mono {R' : ρ → ρ → Prop} (h : Carried R rows rows')
    (himp : ∀ {a b}, R a b → R' a b) : Carried R' rows rows' := by
  intro row hrow
  obtain ⟨row', hrow', hR⟩ := h row hrow
  exact ⟨row', hrow', himp hR⟩

theorem Carried.append (hrefl : ∀ row, R row row) (rows more : List ρ) :
    Carried R rows (rows ++ more) :=
  fun row hrow => ⟨row, List.mem_append_left _ hrow, hrefl row⟩

theorem Carried.updateWhere (hrefl : ∀ row, R row row)
    (hchange : ∀ row ∈ rows, p row = true → R row (change row)) :
    Carried R rows (updateWhere p change rows) := by
  intro row hrow
  refine ⟨_, mem_updateWhere.mpr ⟨row, hrow, rfl⟩, ?_⟩
  split
  next hp => exact hchange row hrow hp
  next => exact hrefl row

end Carried
end FieldserviceIT.Lib
