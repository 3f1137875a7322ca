import FieldserviceIT.Lib.Tables
import Mathlib.Data.List.Induction

/-!
Entries that are put into a table one after another. An entry writes over the first row it is
for and adds a row if there is none; it sets some of a row and leaves the rest, and never what
rows are found by. A list of entries that find their rows again can be put in twice, or in
parts from the start, and leaves the table it leaves the first time.
-/

namespace FieldserviceIT.Lib

/-- Rows numbered as they are drawn. -/
structure NumberedTable (ρ : Type) (number : ρ → Nat) where
  rows : List ρ
  drawn : Nat
  below : ∀ row ∈ rows, number row < drawn

namespace NumberedTable

variable {ρ : Type} {number : ρ → Nat}

theorem ext_rows {t t' : NumberedTable ρ number} (hrows : t.rows = t'.rows)
    (hdrawn : t.drawn = t'.drawn) : t = t' := by
  obtain ⟨rows, drawn, below⟩ := t
  subst hrows hdrawn
  rfl

theorem below_insert (t : NumberedTable ρ number) {row : ρ} (hrow : number row = t.drawn) :
    ∀ other ∈ t.rows ++ [row], number other < t.drawn + 1 := by
  intro other hother
  obtain hother | hother := List.mem_append.mp hother
  · have hbelow := t.below other hother
    omega
  · obtain rfl := List.mem_singleton.mp hother
    omega

def insert (t : NumberedTable ρ number) (row : ρ) (hrow : number row = t.drawn) :
    NumberedTable ρ number :=
  ⟨t.rows ++ [row], t.drawn + 1, t.below_insert hrow⟩

theorem below_modify (t : NumberedTable ρ number) (p : ρ → Bool) {change : ρ → ρ}
    (hnumber : ∀ row, number (change row) = number row) :
    ∀ row ∈ updateWhere p change t.rows, number row < t.drawn :=
  forall_updateWhere t.below fun row _ _ hbelow => hnumber row ▸ hbelow

def modify (t : NumberedTable ρ number) (p : ρ → Bool) (change : ρ → ρ)
    (hnumber : ∀ row, number (change row) = number row) : NumberedTable ρ number :=
  ⟨updateWhere p change t.rows, t.drawn, t.below_modify p hnumber⟩

end NumberedTable

structure Upserts (ρ ε : Type) where
  number : ρ → Nat
  /-- The entry is for the row. -/
  hits : ε → ρ → Bool
  write : ε → ρ → ρ
  new : Nat → ε → ρ
  number_write : ∀ e row, number (write e row) = number row
  number_new : ∀ n e, number (new n e) = n
  hits_write : ∀ e e' row, hits e (write e' row) = hits e row
  write_new : ∀ n e, write e (new n e) = new n e
  write_write : ∀ e row, write e (write e row) = write e row
  /-- What an entry leaves alone another one changes alike. -/
  write_congr : ∀ e e' row row', write e row = write e row' →
    write e (write e' row) = write e (write e' row')

namespace Upserts

variable {ρ ε : Type} (U : Upserts ρ ε)

abbrev Table : Type :=
  NumberedTable ρ U.number

def put (e : ε) (t : U.Table) : U.Table :=
  match t.rows.find? (U.hits e) with
  | some row =>
    t.modify (fun other => decide (U.number other = U.number row)) (U.write e) (U.number_write e)
  | none => t.insert (U.new t.drawn e) (U.number_new t.drawn e)

def putAll (entries : List ε) (t : U.Table) : U.Table :=
  entries.foldl (fun t e => U.put e t) t

def Identified (e : ε) : Prop :=
  ∀ n, U.hits e (U.new n e) = true

def target (e : ε) (t : U.Table) : Option Nat :=
  (t.rows.find? (U.hits e)).map U.number

/-- What becomes of a row when the entry is put where it has the target. -/
def written (target : Option Nat) (e : ε) (row : ρ) : ρ :=
  if target = some (U.number row) then U.write e row else row

def rewritten (t : U.Table) (entries : List ε) (row : ρ) : ρ :=
  entries.foldl (fun row e => U.written (U.target e t) e row) row

/-- Rows are found as before. -/
structure Unmoved (change : ρ → ρ) : Prop where
  number : ∀ row, U.number (change row) = U.number row
  hits : ∀ e row, U.hits e (change row) = U.hits e row

variable {U} {t t' : U.Table} {e : ε} {entries : List ε}

theorem unmoved_id : U.Unmoved id :=
  ⟨fun _ => rfl, fun _ _ => rfl⟩

theorem Unmoved.comp {f g : ρ → ρ} (hf : U.Unmoved f) (hg : U.Unmoved g) : U.Unmoved (f ∘ g) :=
  ⟨fun row => (hf.number _).trans (hg.number row), fun e row => (hf.hits e _).trans (hg.hits e row)⟩

theorem written_pos {target : Option Nat} {row : ρ} (h : target = some (U.number row)) (e : ε) :
    U.written target e row = U.write e row :=
  if_pos h

theorem written_neg {target : Option Nat} {row : ρ} (h : target ≠ some (U.number row)) (e : ε) :
    U.written target e row = row :=
  if_neg h

theorem unmoved_written (target : Option Nat) (e : ε) : U.Unmoved (U.written target e) := by
  constructor
  · intro row
    rw [written]
    split
    · exact U.number_write e row
    · rfl
  · intro other row
    rw [written]
    split
    · exact U.hits_write other e row
    · rfl

theorem Unmoved.target {change : ρ → ρ} (h : U.Unmoved change) (hrows : t'.rows = t.rows.map change)
    (e : ε) : U.target e t' = U.target e t := by
  have hhits : U.hits e ∘ change = U.hits e := by
    funext row
    exact h.hits e row
  have hnumber : U.number ∘ change = U.number := by
    funext row
    exact h.number row
  rw [Upserts.target, hrows, List.find?_map, hhits, Option.map_map, hnumber, Upserts.target]

theorem put_of_target {n : Nat} (htarget : U.target e t = some n) :
    (U.put e t).rows = t.rows.map (U.written (some n) e) ∧ (U.put e t).drawn = t.drawn := by
  obtain ⟨row, hfound, rfl⟩ := Option.map_eq_some_iff.mp htarget
  rw [put, hfound]
  refine ⟨List.map_congr_left fun other _ => ?_, rfl⟩
  by_cases hnumber : U.number other = U.number row
  · rw [if_pos (decide_eq_true hnumber), written_pos (congrArg some hnumber.symm)]
  · rw [if_neg (by simpa using hnumber), written_neg]
    exact fun hsame => hnumber (Option.some.inj hsame).symm

theorem put_of_no_target (htarget : U.target e t = none) :
    (U.put e t).rows = t.rows ++ [U.new t.drawn e] ∧ (U.put e t).drawn = t.drawn + 1 := by
  rw [put, Option.map_eq_none_iff.mp htarget]
  exact ⟨rfl, rfl⟩

theorem putAll_append (entries more : List ε) (t : U.Table) :
    U.putAll (entries ++ more) t = U.putAll more (U.putAll entries t) := by
  rw [putAll, List.foldl_append]
  rfl

section Targets

theorem target_put (htarget : (U.target e t).isSome = true) (other : ε) :
    (U.target e (U.put other t)).isSome = true := by
  cases hother : U.target other t with
  | some n =>
    rw [(unmoved_written (some n) other).target (put_of_target hother).1]
    exact htarget
  | none =>
    rw [target, Option.isSome_map] at htarget ⊢
    rw [(put_of_no_target hother).1, List.find?_append, Option.isSome_or, htarget]
    rfl

theorem target_putAll (htarget : (U.target e t).isSome = true) (entries : List ε) :
    (U.target e (U.putAll entries t)).isSome = true := by
  induction entries generalizing t with
  | nil => exact htarget
  | cons other entries ih => exact ih (target_put htarget other)

theorem Identified.target_put (h : U.Identified e) (t : U.Table) :
    (U.target e (U.put e t)).isSome = true := by
  cases htarget : U.target e t with
  | some n =>
    rw [(unmoved_written (some n) e).target (put_of_target htarget).1, htarget]
    rfl
  | none =>
    rw [target, (put_of_no_target htarget).1, Option.isSome_map, List.find?_append,
      Option.isSome_or, List.find?_singleton, if_pos (h t.drawn)]
    exact Bool.or_true _

theorem target_of_putAll (h : ∀ e ∈ entries, U.Identified e) (he : e ∈ entries) (t : U.Table) :
    (U.target e (U.putAll entries t)).isSome = true := by
  induction entries generalizing t with
  | nil => exact absurd he List.not_mem_nil
  | cons first entries ih =>
    obtain ⟨hfirst, hrest⟩ := List.forall_mem_cons.mp h
    obtain rfl | he := List.mem_cons.mp he
    · exact target_putAll (hfirst.target_put t) entries
    · exact ih hrest he (U.put first t)

end Targets

section Rewriting

theorem putAll_of_targets (htargets : ∀ e ∈ entries, (U.target e t).isSome = true)
    {change : ρ → ρ} (hchange : U.Unmoved change) (hrows : t'.rows = t.rows.map change) :
    (U.putAll entries t').rows = t'.rows.map (U.rewritten t entries) ∧
      (U.putAll entries t').drawn = t'.drawn := by
  induction entries generalizing t' change with
  | nil => exact ⟨(List.map_id _).symm, rfl⟩
  | cons e entries ih =>
    obtain ⟨hfirst, hrest⟩ := List.forall_mem_cons.mp htargets
    obtain ⟨n, htarget⟩ := Option.isSome_iff_exists.mp hfirst
    obtain ⟨hput, hdrawn⟩ := put_of_target ((hchange.target hrows e).trans htarget)
    have hnextRows : (U.put e t').rows = t.rows.map (U.written (some n) e ∘ change) := by
      rw [hput, hrows, List.map_map]
    have hnext := ih hrest ((unmoved_written (some n) e).comp hchange) hnextRows
    refine ⟨hnext.1.trans ?_, hnext.2.trans hdrawn⟩
    rw [hput, List.map_map]
    refine List.map_congr_left fun row _ => ?_
    rw [Function.comp, rewritten, rewritten, List.foldl_cons, htarget]

theorem unmoved_rewritten (t : U.Table) (entries : List ε) : U.Unmoved (U.rewritten t entries) := by
  induction entries with
  | nil => exact unmoved_id
  | cons e entries ih => exact ih.comp (unmoved_written (U.target e t) e)

theorem written_written (target : Option Nat) (e : ε) (row : ρ) :
    U.written target e (U.written target e row) = U.written target e row := by
  by_cases htarget : target = some (U.number row)
  · have hwrite : target = some (U.number (U.write e row)) := by rw [U.number_write, htarget]
    rw [written_pos htarget, written_pos hwrite, U.write_write]
  · rw [written_neg htarget, written_neg htarget]

theorem written_congr {target target' : Option Nat} {e e' : ε} {row row' : ρ}
    (hnumber : U.number row = U.number row')
    (h : U.written target e row = U.written target e row') :
    U.written target e (U.written target' e' row) =
      U.written target e (U.written target' e' row') := by
  have hnumbers := (unmoved_written (U := U) target' e').number
  by_cases htarget : target = some (U.number row')
  · rw [written_pos (htarget.trans (by rw [hnumber])), written_pos htarget] at h
    have hwrite : U.write e (U.written target' e' row) = U.write e (U.written target' e' row') := by
      rw [written, written, hnumber]
      split
      · exact U.write_congr e e' row row' h
      · exact h
    have hrow : target = some (U.number (U.written target' e' row)) := by
      rw [hnumbers, hnumber, htarget]
    have hrow' : target = some (U.number (U.written target' e' row')) := by
      rw [hnumbers, htarget]
    rw [written_pos hrow, written_pos hrow', hwrite]
  · rw [written_neg (by rw [hnumber]; exact htarget), written_neg htarget] at h
    rw [h]

theorem written_rewritten (t : U.Table) (target : Option Nat) (e : ε) (entries : List ε)
    (row : ρ) : U.written target e (U.rewritten t entries (U.written target e row)) =
      U.written target e (U.rewritten t entries row) := by
  have hagree : ∀ row row', U.number row = U.number row' →
      U.written target e row = U.written target e row' →
        U.written target e (U.rewritten t entries row) =
          U.written target e (U.rewritten t entries row') := by
    induction entries with
    | nil => exact fun _ _ _ h => h
    | cons other entries ih =>
      intro row row' hnumber h
      refine ih _ _ ?_ (written_congr hnumber h)
      rw [(unmoved_written _ other).number, (unmoved_written _ other).number, hnumber]
  exact hagree _ _ ((unmoved_written target e).number row) (written_written target e row)

theorem putAll_insert (htargets : ∀ e ∈ entries, (U.target e t).isSome = true) {row : ρ}
    (hrow : U.number row = t.drawn) (hrows : t'.rows = t.rows ++ [row])
    (hdrawn : t'.drawn = t.drawn + 1) :
    (U.putAll entries t').rows = (U.putAll entries t).rows ++ [row] ∧
      (U.putAll entries t').drawn = (U.putAll entries t).drawn + 1 := by
  induction entries generalizing t t' with
  | nil => exact ⟨hrows, hdrawn⟩
  | cons e entries ih =>
    obtain ⟨hfirst, hrest⟩ := List.forall_mem_cons.mp htargets
    obtain ⟨found, hfound⟩ := Option.isSome_iff_exists.mp (Option.isSome_map ▸ hfirst)
    have hbelow := t.below found (List.mem_of_find?_eq_some hfound)
    have htarget : U.target e t = some (U.number found) := by rw [target, hfound, Option.map_some]
    have htarget' : U.target e t' = some (U.number found) := by
      rw [target, hrows, List.find?_append, hfound, Option.some_or, Option.map_some]
    obtain ⟨hput, hputDrawn⟩ := put_of_target htarget
    obtain ⟨hput', hputDrawn'⟩ := put_of_target htarget'
    have hnextRows : (U.put e t').rows = (U.put e t).rows ++ [row] := by
      rw [hput', hrows, List.map_append, ← hput, List.map_singleton, written_neg]
      rw [ne_eq, Option.some.injEq, hrow]
      omega
    exact ih (fun other hother => target_put (hrest other hother) e) (hrow.trans hputDrawn.symm)
      hnextRows (by rw [hputDrawn', hdrawn, hputDrawn])

end Rewriting

section Repeating

/-- Every row is rewritten by itself, and `e` has the last word both times. -/
theorem put_again_of_target (htargets : ∀ e ∈ entries, (U.target e t).isSome = true)
    (hsame : U.putAll entries t = t) {n : Nat} (htarget : U.target e t = some n) :
    U.put e (U.putAll entries (U.put e t)) = U.put e t := by
  obtain ⟨hput, hdrawn⟩ := put_of_target htarget
  have hmoved := unmoved_written (U := U) (some n) e
  obtain ⟨hagain, hagainDrawn⟩ := putAll_of_targets htargets hmoved hput
  have hfixed : ∀ row ∈ t.rows, U.rewritten t entries row = row := by
    have hrows := (putAll_of_targets htargets unmoved_id (List.map_id t.rows).symm).1
    rw [hsame] at hrows
    exact List.map_eq_map_iff.mp (hrows.symm.trans (List.map_id t.rows).symm)
  have hlast : U.target e (U.putAll entries (U.put e t)) = some n := by
    have hrows : (U.putAll entries (U.put e t)).rows =
        t.rows.map (U.rewritten t entries ∘ U.written (some n) e) := by
      rw [hagain, hput, List.map_map]
    exact (((unmoved_rewritten t entries).comp hmoved).target hrows e).trans htarget
  obtain ⟨hend, hendDrawn⟩ := put_of_target hlast
  refine NumberedTable.ext_rows ?_ (hendDrawn.trans hagainDrawn)
  rw [hend, hagain, hput, List.map_map, List.map_map]
  refine List.map_congr_left fun row hrow => ?_
  rw [Function.comp, Function.comp, written_rewritten, hfixed row hrow]

/-- The row that `e` has added is written over with what it is. -/
theorem put_again_of_no_target (htargets : ∀ e ∈ entries, (U.target e t).isSome = true)
    (hsame : U.putAll entries t = t) (htarget : U.target e t = none) (he : U.Identified e) :
    U.put e (U.putAll entries (U.put e t)) = U.put e t := by
  obtain ⟨hput, hdrawn⟩ := put_of_no_target htarget
  obtain ⟨hagain, hagainDrawn⟩ := putAll_insert htargets (U.number_new t.drawn e) hput hdrawn
  rw [hsame] at hagain hagainDrawn
  have hrows : U.putAll entries (U.put e t) = U.put e t :=
    NumberedTable.ext_rows (hagain.trans hput.symm) (hagainDrawn.trans hdrawn.symm)
  have hnone : t.rows.find? (U.hits e) = none := Option.map_eq_none_iff.mp htarget
  have hown : U.target e (U.put e t) = some t.drawn := by
    rw [target, hput, List.find?_append, hnone, Option.none_or, List.find?_singleton,
      if_pos (he t.drawn), Option.map_some, U.number_new]
  obtain ⟨hend, hendDrawn⟩ := put_of_target hown
  have hothers : t.rows.map (U.written (some t.drawn) e) = t.rows := by
    refine (List.map_congr_left fun row hrow => ?_).trans (List.map_id _)
    have hbelow := t.below row hrow
    refine written_neg ?_ e
    rw [ne_eq, Option.some.injEq]
    omega
  rw [hrows]
  refine NumberedTable.ext_rows ?_ hendDrawn
  rw [hend, hput, List.map_append, List.map_singleton, hothers,
    written_pos (by rw [U.number_new]), U.write_new]

theorem putAll_putAll (h : ∀ e ∈ entries, U.Identified e) (t : U.Table) :
    U.putAll entries (U.putAll entries t) = U.putAll entries t := by
  induction entries using List.reverseRecOn with
  | nil => rfl
  | append_singleton entries e ih =>
    have hbefore : ∀ other ∈ entries, U.Identified other :=
      fun other hother => h other (List.mem_append_left _ hother)
    have hsame := ih hbefore
    have htargets : ∀ other ∈ entries, (U.target other (U.putAll entries t)).isSome = true :=
      fun other hother => target_of_putAll hbefore hother t
    rw [putAll_append, putAll_append]
    cases htarget : U.target e (U.putAll entries t) with
    | some n => exact put_again_of_target htargets hsame htarget
    | none =>
      have he := h e (List.mem_append_right _ (List.mem_singleton_self e))
      exact put_again_of_no_target htargets hsame htarget he

theorem putAll_of_prefix (h : ∀ e ∈ entries, U.Identified e) {first : List ε}
    (hfirst : first <+: entries) (t : U.Table) :
    U.putAll entries (U.putAll first t) = U.putAll entries t := by
  obtain ⟨more, rfl⟩ := hfirst
  rw [putAll_append, putAll_append,
    putAll_putAll fun e he => h e (List.mem_append_left _ he)]

theorem putAll_of_attempts (h : ∀ e ∈ entries, U.Identified e) {attempts : List (List ε)}
    (hattempts : ∀ first ∈ attempts, first <+: entries) (t : U.Table) :
    U.putAll entries (attempts.foldl (fun t first => U.putAll first t) t) = U.putAll entries t := by
  induction attempts generalizing t with
  | nil => rfl
  | cons first attempts ih =>
    obtain ⟨hfirst, hrest⟩ := List.forall_mem_cons.mp hattempts
    rw [List.foldl_cons, ih hrest, putAll_of_prefix h hfirst]

end Repeating

section Keeping

variable {Q : ρ → Prop}

theorem kept_put (hwrite : ∀ e row, Q row → Q (U.write e row)) (e : ε) {row : ρ}
    (hrow : row ∈ t.rows) (hQ : Q row) :
    ∃ row' ∈ (U.put e t).rows, U.number row' = U.number row ∧ Q row' := by
  cases htarget : U.target e t with
  | some n =>
    rw [(put_of_target htarget).1]
    refine ⟨_, List.mem_map_of_mem hrow, (unmoved_written (some n) e).number row, ?_⟩
    rw [written]
    split
    · exact hwrite e row hQ
    · exact hQ
  | none =>
    rw [(put_of_no_target htarget).1]
    exact ⟨row, List.mem_append_left _ hrow, rfl, hQ⟩

theorem kept_putAll (hwrite : ∀ e row, Q row → Q (U.write e row)) (entries : List ε) {row : ρ}
    (hrow : row ∈ t.rows) (hQ : Q row) :
    ∃ row' ∈ (U.putAll entries t).rows, U.number row' = U.number row ∧ Q row' := by
  induction entries generalizing t row with
  | nil => exact ⟨row, hrow, rfl, hQ⟩
  | cons e entries ih =>
    obtain ⟨row', hrow', hnumber, hQ'⟩ := kept_put hwrite e hrow hQ
    obtain ⟨row'', hrow'', hnumber', hQ''⟩ := ih hrow' hQ'
    exact ⟨row'', hrow'', hnumber'.trans hnumber, hQ''⟩

theorem drawn_le_put (e : ε) (t : U.Table) : t.drawn ≤ (U.put e t).drawn := by
  cases htarget : U.target e t with
  | some n => exact Nat.le_of_eq (put_of_target htarget).2.symm
  | none =>
    have hdrawn := (put_of_no_target htarget).2
    omega

theorem exists_added (hnew : ∀ n e, Q (U.new n e)) (hwrite : ∀ e row, Q row → Q (U.write e row))
    (he : e ∈ entries) (hnever : ∀ row, U.hits e row = false) (t : U.Table) :
    ∃ row ∈ (U.putAll entries t).rows, t.drawn ≤ U.number row ∧ Q row := by
  induction entries generalizing t with
  | nil => exact absurd he List.not_mem_nil
  | cons first entries ih =>
    obtain rfl | he := List.mem_cons.mp he
    · have hnone : t.rows.find? (U.hits e) = none := by
        rw [List.find?_eq_none]
        intro row _
        rw [hnever]
        exact Bool.false_ne_true
      have hput := (put_of_no_target (by rw [target, hnone, Option.map_none] :
        U.target e t = none)).1
      have hrow : U.new t.drawn e ∈ (U.put e t).rows := by
        rw [hput]
        exact List.mem_append_right _ (List.mem_singleton_self _)
      obtain ⟨row, hrow, hnumber, hQ⟩ := kept_putAll hwrite entries hrow (hnew _ _)
      refine ⟨row, hrow, Nat.le_of_eq ?_, hQ⟩
      rw [hnumber, U.number_new]
    · obtain ⟨row, hrow, hdrawn, hQ⟩ := ih he (U.put first t)
      exact ⟨row, hrow, Nat.le_trans (drawn_le_put first t) hdrawn, hQ⟩

end Keeping

section Sources

variable {ι : Type} {source : ρ → Option ι} {mark : ε → ι} {since : Nat}

/-- The rows added since then, each of which is still found by the entry it was added for. -/
structure AddedOnce (source : ρ → Option ι) (mark : ε → ι) (entries : List ε) (since : Nat)
    (t : U.Table) : Prop where
  drawn : since ≤ t.drawn
  found : ∀ row ∈ t.rows, since ≤ U.number row →
    ∃ e ∈ entries, source row = some (mark e) ∧ U.hits e row = true
  distinct : Distinct source (t.rows.filter fun row => decide (since ≤ U.number row))

theorem addedOnce_start (t : U.Table) : AddedOnce source mark entries t.drawn t := by
  have hnone : ∀ row ∈ t.rows, ¬ t.drawn ≤ U.number row := by
    intro row hrow
    have hbelow := t.below row hrow
    omega
  refine ⟨Nat.le_refl _, fun row hrow hsince => absurd hsince (hnone row hrow), ?_⟩
  rw [List.filter_eq_nil_iff.mpr fun row hrow => by simpa using hnone row hrow]
  exact List.nodup_nil

theorem AddedOnce.put (h : AddedOnce source mark entries since t)
    (hnew : ∀ n e, source (U.new n e) = some (mark e))
    (hwrite : ∀ e row, source (U.write e row) = source row)
    (hmark : ∀ e ∈ entries, ∀ e' ∈ entries, mark e = mark e' → e = e') (he : e ∈ entries)
    (hidentified : U.Identified e) : AddedOnce source mark entries since (U.put e t) := by
  refine ⟨Nat.le_trans h.drawn (drawn_le_put e t), ?_, ?_⟩
  · intro row' hrow' hsince
    cases htarget : U.target e t with
    | some n =>
      rw [(put_of_target htarget).1] at hrow'
      obtain ⟨row, hrow, rfl⟩ := List.mem_map.mp hrow'
      have hmoved := unmoved_written (U := U) (some n) e
      rw [hmoved.number] at hsince
      obtain ⟨entry, hentry, hsource, hhits⟩ := h.found row hrow hsince
      refine ⟨entry, hentry, ?_, (hmoved.hits entry row).trans hhits⟩
      rw [written]
      split
      · exact (hwrite e row).trans hsource
      · exact hsource
    | none =>
      rw [(put_of_no_target htarget).1] at hrow'
      obtain hrow | hrow := List.mem_append.mp hrow'
      · exact h.found row' hrow hsince
      · obtain rfl := List.mem_singleton.mp hrow
        exact ⟨e, he, hnew _ e, hidentified _⟩
  · cases htarget : U.target e t with
    | some n =>
      have hmoved := unmoved_written (U := U) (some n) e
      have hsource : ∀ row, source (U.written (some n) e row) = source row := by
        intro row
        rw [written]
        split
        · exact hwrite e row
        · rfl
      rw [(put_of_target htarget).1, Distinct, List.filter_map, List.map_map]
      have hfilter : (fun row => decide (since ≤ U.number row)) ∘ U.written (some n) e =
          fun row => decide (since ≤ U.number row) := by
        funext row
        rw [Function.comp, hmoved.number]
      have hmap : source ∘ U.written (some n) e = source := funext hsource
      rw [hfilter, hmap]
      exact h.distinct
    | none =>
      have hsince : since ≤ U.number (U.new t.drawn e) := by
        rw [U.number_new]
        exact h.drawn
      rw [(put_of_no_target htarget).1, List.filter_append, List.filter_singleton,
        decide_eq_true hsince]
      refine h.distinct.append fun other hother hsame => ?_
      -- a row of the same entry would have been found
      obtain ⟨hrow, hadded⟩ := List.mem_filter.mp hother
      obtain ⟨entry, hentry, hsource, hhits⟩ := h.found other hrow (of_decide_eq_true hadded)
      rw [hsource, hnew] at hsame
      obtain rfl := hmark entry hentry e he (Option.some.inj hsame)
      exact absurd hhits (List.find?_eq_none.mp (Option.map_eq_none_iff.mp htarget) other hrow)

theorem AddedOnce.putAll (h : AddedOnce source mark entries since t)
    (hnew : ∀ n e, source (U.new n e) = some (mark e))
    (hwrite : ∀ e row, source (U.write e row) = source row)
    (hmark : ∀ e ∈ entries, ∀ e' ∈ entries, mark e = mark e' → e = e')
    (hidentified : ∀ e ∈ entries, U.Identified e) {part : List ε} (hpart : part ⊆ entries) :
    AddedOnce source mark entries since (U.putAll part t) := by
  induction part generalizing t with
  | nil => exact h
  | cons e part ih =>
    obtain ⟨he, hpart⟩ := List.cons_subset.mp hpart
    exact ih (h.put hnew hwrite hmark he (hidentified e he)) hpart

end Sources
end Upserts
end FieldserviceIT.Lib
