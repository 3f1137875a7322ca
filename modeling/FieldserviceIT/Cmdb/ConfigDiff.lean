import Mathlib.Data.List.Sort

/-!
The comparison of two configurations line by line, position by position. The lines of either text
are those of the entries that are not only the other one's; how a line ended is not in the entries.
-/

namespace FieldserviceIT.Cmdb

section Lines

def putBefore (c : Char) : List (List Char) → List (List Char)
  | [] => [[c]]
  | line :: lines => (c :: line) :: lines

/-- `text.split(/\r?\n/)` -/
def splitLines : List Char → List (List Char)
  | [] => [[]]
  | c :: rest =>
    if c = '\n' then [] :: splitLines rest
    else if c = '\r' ∧ rest.head? = some '\n' then splitLines rest
    else putBefore c (splitLines rest)

def unixLines : List Char → List Char
  | [] => []
  | c :: rest =>
    if c = '\r' ∧ rest.head? = some '\n' then unixLines rest else c :: unixLines rest

theorem splitLines_ne_nil (text : List Char) : splitLines text ≠ [] := by
  induction text with
  | nil => exact List.cons_ne_nil _ _
  | cons c rest ih =>
    rw [splitLines]
    split_ifs
    · exact List.cons_ne_nil _ _
    · exact ih
    · cases hlines : splitLines rest with
      | nil => exact absurd hlines ih
      | cons line lines => exact List.cons_ne_nil _ _

theorem intercalate_putBefore (c : Char) {lines : List (List Char)} (h : lines ≠ []) :
    List.intercalate ['\n'] (putBefore c lines) = c :: List.intercalate ['\n'] lines := by
  cases lines with
  | nil => exact absurd rfl h
  | cons line lines =>
    cases lines with
    | nil => rfl
    | cons next lines =>
      rw [putBefore, List.intercalate_cons_cons, List.intercalate_cons_cons]
      rfl

theorem intercalate_splitLines (text : List Char) :
    List.intercalate ['\n'] (splitLines text) = unixLines text := by
  induction text with
  | nil => rfl
  | cons c rest ih =>
    rw [splitLines, unixLines]
    split_ifs with hline hreturn hreturn
    · exact absurd (hline.symm.trans hreturn.1) (by decide)
    · cases hlines : splitLines rest with
      | nil => exact absurd hlines (splitLines_ne_nil rest)
      | cons line lines =>
        rw [List.intercalate_cons_cons, ← hlines, ih, hline]
        rfl
    · exact ih
    · rw [intercalate_putBefore c (splitLines_ne_nil rest), ih]

end Lines

section Diff

inductive DiffType
  | same
  | removed
  | added
  deriving DecidableEq

structure DiffEntry where
  type : DiffType
  line : List Char
  deriving DecidableEq

/-- The entries of a position at which either text may have no line any more. -/
def diffAt (old new : Option (List Char)) : List DiffEntry :=
  if old = new then [⟨.same, old.getD []⟩]
  else
    (old.toList.map fun line => ⟨.removed, line⟩) ++ new.toList.map fun line => ⟨.added, line⟩

def lineDiff (before after : List Char) : List DiffEntry :=
  let oldLines := splitLines before
  let newLines := splitLines after
  let max := if oldLines.length ≤ newLines.length then newLines.length else oldLines.length
  (List.range max).flatMap fun i => diffAt oldLines[i]? newLines[i]?

/-- The lines of the entries of one type and of the lines that are the same. -/
def rebuilt (type : DiffType) (diff : List DiffEntry) : List (List Char) :=
  (diff.filter fun entry => entry.type = .same || entry.type = type).map DiffEntry.line

theorem rebuilt_flatMap (type : DiffType) (entries : Nat → List DiffEntry) (positions : List Nat) :
    rebuilt type (positions.flatMap entries) =
      positions.flatMap fun i => rebuilt type (entries i) := by
  induction positions with
  | nil => rfl
  | cons i positions ih =>
    rw [List.flatMap_cons, List.flatMap_cons, ← ih, rebuilt, List.filter_append, List.map_append]
    rfl

theorem rebuilt_diffAt {old new : Option (List Char)} (h : old.isSome ∨ new.isSome) :
    rebuilt .removed (diffAt old new) = old.toList ∧
      rebuilt .added (diffAt old new) = new.toList := by
  rw [diffAt]
  split
  next hsame =>
    cases hsame
    cases old with
    | none => exact absurd h (by simp)
    | some line => exact ⟨rfl, rfl⟩
  next =>
    cases old <;> cases new <;> exact ⟨rfl, rfl⟩

theorem flatMap_getElem? {α : Type} (items : List α) {n : Nat} (h : items.length ≤ n) :
    (List.range n).flatMap (fun i => items[i]?.toList) = items := by
  induction items generalizing n with
  | nil =>
    rw [List.flatMap_eq_nil_iff]
    exact fun i _ => rfl
  | cons item items ih =>
    cases n with
    | zero => exact absurd h (Nat.not_succ_le_zero _)
    | succ n =>
      rw [List.range_succ_eq_map, List.flatMap_cons, List.flatMap_map]
      exact congrArg (item :: ·) (ih (Nat.le_of_succ_le_succ h))

theorem flatMap_congr_range {n : Nat} {f g : Nat → List (List Char)} (h : ∀ i < n, f i = g i) :
    (List.range n).flatMap f = (List.range n).flatMap g :=
  List.flatMap_congr fun i hi => h i (List.mem_range.mp hi)

theorem lineDiff_eq (before after : List Char) :
    ∃ n, (splitLines before).length ≤ n ∧ (splitLines after).length ≤ n ∧
      (∀ i < n, (splitLines before)[i]?.isSome ∨ (splitLines after)[i]?.isSome) ∧
      lineDiff before after = (List.range n).flatMap fun i =>
        diffAt (splitLines before)[i]? (splitLines after)[i]? := by
  refine ⟨_, ?_, ?_, ?_, rfl⟩
  · split_ifs with h
    · exact h
    · exact Nat.le_refl _
  · split_ifs with h
    · exact Nat.le_refl _
    · exact Nat.le_of_not_le h
  · intro i hi
    split_ifs at hi with h
    · exact .inr (by rw [List.getElem?_eq_getElem hi, Option.isSome_some])
    · exact .inl (by rw [List.getElem?_eq_getElem hi, Option.isSome_some])

theorem rebuilt_lineDiff (before after : List Char) :
    rebuilt .removed (lineDiff before after) = splitLines before ∧
      rebuilt .added (lineDiff before after) = splitLines after := by
  obtain ⟨n, hbefore, hafter, hsome, hdiff⟩ := lineDiff_eq before after
  rw [hdiff, rebuilt_flatMap, rebuilt_flatMap]
  constructor
  · rw [flatMap_congr_range fun i hi => (rebuilt_diffAt (hsome i hi)).1,
      flatMap_getElem? _ hbefore]
  · rw [flatMap_congr_range fun i hi => (rebuilt_diffAt (hsome i hi)).2,
      flatMap_getElem? _ hafter]

theorem type_lineDiff_self (text : List Char) :
    ∀ entry ∈ lineDiff text text, entry.type = .same := by
  obtain ⟨n, -, -, -, hdiff⟩ := lineDiff_eq text text
  rw [hdiff]
  intro entry hentry
  obtain ⟨i, -, hentry⟩ := List.mem_flatMap.mp hentry
  rw [diffAt, if_pos rfl] at hentry
  rw [List.mem_singleton.mp hentry]

/-- The entries give back the lines of both texts, and thereby the texts up to how their lines
end; a text and itself differ nowhere. -/
theorem lineDiff_rebuilds (before after : List Char) :
    (rebuilt .removed (lineDiff before after) = splitLines before ∧
        rebuilt .added (lineDiff before after) = splitLines after) ∧
      (List.intercalate ['\n'] (rebuilt .removed (lineDiff before after)) = unixLines before ∧
        List.intercalate ['\n'] (rebuilt .added (lineDiff before after)) = unixLines after) ∧
      ∀ entry ∈ lineDiff before before, entry.type = .same := by
  obtain ⟨hbefore, hafter⟩ := rebuilt_lineDiff before after
  refine ⟨⟨hbefore, hafter⟩, ⟨?_, ?_⟩, type_lineDiff_self before⟩
  · rw [hbefore, intercalate_splitLines]
  · rw [hafter, intercalate_splitLines]

/-- Two texts that differ in how their lines end have the same entries. -/
theorem lineDiff_forgets : ¬ ∃ rebuild : List DiffEntry → List Char,
    ∀ before after, rebuild (lineDiff before after) = before := by
  rintro ⟨rebuild, hall⟩
  have hreturn := hall ['a', '\r', '\n', 'b'] []
  have hplain := hall ['a', '\n', 'b'] []
  have hsame : lineDiff ['a', '\r', '\n', 'b'] [] = lineDiff ['a', '\n', 'b'] [] := by decide
  rw [hsame, hplain] at hreturn
  revert hreturn
  decide

end Diff

section Backups

structure NetworkConfigBackup where
  id : String
  assetId : String
  companyId : String
  configText : List Char
  createdAt : Nat

structure ConfigComparison where
  fromId : Option String
  toId : Option String
  diff : List DiffEntry

def newestFirst (rows : List NetworkConfigBackup) : List NetworkConfigBackup :=
  rows.insertionSort fun a b => b.createdAt ≤ a.createdAt

def selectedBackups (backups : List NetworkConfigBackup)
    (assetId companyId fromId toId : String) : List NetworkConfigBackup :=
  let own := backups.filter fun row => row.assetId = assetId && row.companyId = companyId
  if fromId ≠ "" ∧ toId ≠ "" then own.filter fun row => row.id = fromId || row.id = toId
  else (newestFirst own).take 2

def diffConfigBackups (backups : List NetworkConfigBackup)
    (assetId companyId fromId toId : String) : ConfigComparison :=
  match newestFirst (selectedBackups backups assetId companyId fromId toId) with
  | newer :: older :: _ => ⟨some older.id, some newer.id, lineDiff older.configText newer.configText⟩
  | _ => ⟨none, none, []⟩

theorem pairwise_newestFirst (rows : List NetworkConfigBackup) :
    (newestFirst rows).Pairwise fun a b => b.createdAt ≤ a.createdAt := by
  have : Std.Total fun a b : NetworkConfigBackup => b.createdAt ≤ a.createdAt :=
    ⟨fun a b => Nat.le_total b.createdAt a.createdAt⟩
  have : IsTrans NetworkConfigBackup fun a b => b.createdAt ≤ a.createdAt :=
    ⟨fun _ _ _ hab hbc => Nat.le_trans hbc hab⟩
  exact List.pairwise_insertionSort _ rows

variable {backups : List NetworkConfigBackup} {assetId companyId fromId toId : String}

theorem of_selected {row : NetworkConfigBackup}
    (h : row ∈ newestFirst (selectedBackups backups assetId companyId fromId toId)) :
    row ∈ backups ∧ row.assetId = assetId ∧ row.companyId = companyId ∧
      (fromId ≠ "" → toId ≠ "" → row.id = fromId ∨ row.id = toId) := by
  rw [newestFirst, List.mem_insertionSort, selectedBackups] at h
  split_ifs at h with hasked
  · simp only [List.mem_filter, Bool.and_eq_true, Bool.or_eq_true, decide_eq_true_eq] at h
    exact ⟨h.1.1, h.1.2.1, h.1.2.2, fun _ _ => h.2⟩
  · have h := List.mem_of_mem_take h
    simp only [newestFirst, List.mem_insertionSort, List.mem_filter, Bool.and_eq_true,
      decide_eq_true_eq] at h
    exact ⟨h.1, h.2.1, h.2.2, fun hfrom hto => absurd ⟨hfrom, hto⟩ hasked⟩

end Backups
end FieldserviceIT.Cmdb
