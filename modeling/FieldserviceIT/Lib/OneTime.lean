import FieldserviceIT.Lib.Protocols
import FieldserviceIT.Lib.Tables
import Mathlib.Data.List.Perm.Subperm

/-!
Secrets that are good for one use. They are rows of a table; a program looks a row up,
uses it up by an update that says whether it has changed a row, and answers only then.
No row is answered for twice, whoever presents it and however often.
-/

namespace FieldserviceIT.Lib

/-- A secret that was presented with success, and when the call had started. -/
structure Answer where
  secretId : String
  startedAt : Int
  deriving DecidableEq

section Tables

variable {ρ : Type} {p q : ρ → Bool} {change : ρ → ρ} {rows : List ρ}

theorem countP_le_updateWhere (h : ∀ row ∈ rows, p row = true → q row = true →
    q (change row) = true) : rows.countP q ≤ (updateWhere p change rows).countP q := by
  rw [updateWhere, List.countP_map]
  refine List.countP_mono_left fun row hrow hq => ?_
  simp only [Function.comp]
  split
  next hp => exact h row hrow hp hq
  next => exact hq

theorem countP_lt_updateWhere (h : ∀ row ∈ rows, p row = true → q row = true →
    q (change row) = true) (hnew : ∃ row ∈ rows, p row = true ∧ q row = false ∧
    q (change row) = true) : rows.countP q + 1 ≤ (updateWhere p change rows).countP q := by
  induction rows with
  | nil => simp at hnew
  | cons row rows ih =>
    have hrest := countP_le_updateWhere fun other hother => h other (List.mem_cons_of_mem row hother)
    rw [updateWhere, List.map_cons, List.countP_cons, List.countP_cons]
    rw [updateWhere] at hrest
    obtain ⟨other, hother, hp, hold, hchanged⟩ := hnew
    obtain rfl | hother := List.mem_cons.mp hother
    · rw [if_pos hp, hold, hchanged]
      simp only [Bool.false_eq_true, if_false, if_true]
      omega
    · have hmore := ih (fun other hother => h other (List.mem_cons_of_mem row hother))
        ⟨other, hother, hp, hold, hchanged⟩
      rw [updateWhere] at hmore
      have hhead : (if q row = true then 1 else 0) ≤
          if q (if p row = true then change row else row) = true then 1 else 0 := by
        cases hq : q row with
        | false => exact Nat.zero_le _
        | true =>
          have hkept : q (if p row = true then change row else row) = true := by
            split
            next hp => exact h row List.mem_cons_self hp hq
            next => exact hq
          exact Nat.le_of_eq (by rw [hkept])
      omega

theorem Distinct.countP_le_one {κ : Type} [DecidableEq κ] {name : ρ → κ} (h : Distinct name rows)
    (k : κ) (q : ρ → Bool) : rows.countP (fun row => decide (name row = k) && q row) ≤ 1 := by
  have hone : (rows.map name).count k ≤ 1 := List.nodup_iff_count_le_one.mp h k
  rw [List.count, List.countP_map] at hone
  refine Nat.le_trans (List.countP_mono_left fun row _ hrow => ?_) hone
  rw [Bool.and_eq_true, decide_eq_true_eq] at hrow
  exact beq_iff_eq.mpr hrow.1

end Tables

section UsedUp

variable {ρ κ : Type} [DecidableEq κ] {name : ρ → κ} {used : ρ → Bool} {p : ρ → Bool}
variable {change : ρ → ρ} {rows : List ρ} {j k : κ}

def usedUp (name : ρ → κ) (used : ρ → Bool) (k : κ) (rows : List ρ) : Nat :=
  rows.countP fun row => decide (name row = k) && used row

theorem usedUp_le_append (more : List ρ) :
    usedUp name used k rows ≤ usedUp name used k (rows ++ more) := by
  rw [usedUp, usedUp, List.countP_append]
  omega

theorem usedUp_le_updateWhere (hname : ∀ row ∈ rows, name (change row) = name row)
    (hused : ∀ row ∈ rows, p row = true → used row = true → used (change row) = true) :
    usedUp name used k rows ≤ usedUp name used k (updateWhere p change rows) := by
  refine countP_le_updateWhere fun row hrow hp hq => ?_
  rw [Bool.and_eq_true, decide_eq_true_eq] at hq ⊢
  exact ⟨(hname row hrow).trans hq.1, hused row hrow hp hq.2⟩

theorem usedUp_redeem (hp : ∀ row ∈ rows, p row = true → name row = j ∧ used row = false)
    (hname : ∀ row ∈ rows, name (change row) = name row)
    (hused : ∀ row ∈ rows, p row = true → used (change row) = true) :
    usedUp name used k rows + (if decide (j = k) && rows.any p then 1 else 0) ≤
      usedUp name used k (updateWhere p change rows) := by
  split
  · next hredeems =>
      rw [Bool.and_eq_true, decide_eq_true_eq] at hredeems
      obtain ⟨row, hrow, hopen⟩ := List.any_eq_true.mp hredeems.2
      obtain ⟨hj, hunused⟩ := hp row hrow hopen
      refine countP_lt_updateWhere (fun other hother hp hq => ?_) ⟨row, hrow, hopen, ?_, ?_⟩
      · rw [Bool.and_eq_true, decide_eq_true_eq] at hq ⊢
        exact ⟨(hname other hother).trans hq.1, hused other hother hp⟩
      · rw [hunused, Bool.and_false]
      · rw [Bool.and_eq_true, decide_eq_true_eq]
        exact ⟨(hname row hrow).trans (hj.trans hredeems.1), hused row hrow hopen⟩
  · exact usedUp_le_updateWhere hname fun row hrow hopen _ => hused row hrow hopen

end UsedUp

section Runs

variable {σ Op Req ρ κ : Type} [DecidableEq κ] {sys : System σ Op Req} {allowed : Op → σ → Prop}

theorem System.answered_le_one {rows : σ → List ρ} {name : ρ → κ} {used : ρ → Bool} {k : κ}
    {uses : Op → σ → Nat} {gives : Op → Nat} {answered : σ → Nat}
    (huse : ∀ op s, allowed op s →
      usedUp name used k (rows s) + uses op s ≤ usedUp name used k (rows (sys.exec op s)))
    (hgive : ∀ op s, allowed op s → answered (sys.exec op s) ≤ answered s + gives op)
    (htick : ∀ s, rows (sys.tick s) = rows s ∧ answered (sys.tick s) = answered s)
    (hhandler : ∀ s req, sys.sendable s req → (sys.handler req).Affords uses gives 0)
    {c₀ c : Config σ Op} (hidle : c₀.threads = []) (hrun : sys.Run allowed c₀ c)
    (h₀ : answered c₀.shared = 0) (hdistinct : Distinct name (rows c.shared)) :
    answered c.shared ≤ 1 := by
  have hspent : answered c.shared ≤ usedUp name used k (rows c.shared) := by
    refine System.spent_le_earned huse hgive (fun s => ?_) hhandler hidle hrun (by omega)
    rw [(htick s).1, (htick s).2]
    exact ⟨Nat.le_refl _, Nat.le_refl _⟩
  exact Nat.le_trans hspent (hdistinct.countP_le_one k used)

end Runs

section Law

variable {ρ κ : Type} (key : String → κ) (id : ρ → String) (expiresAt : ρ → Int)

def answersTo [DecidableEq κ] (k : κ) (answers : List Answer) : Nat :=
  answers.countP fun answer => key answer.secretId = k

theorem answersTo_append [DecidableEq κ] (k : κ) (answers more : List Answer) :
    answersTo key k (answers ++ more) = answersTo key k answers + answersTo key k more :=
  List.countP_append

/-- The call that was answered had started before the secret expired. -/
def InTime (rows : List ρ) (answer : Answer) : Prop :=
  ∃ row ∈ rows, id row = answer.secretId ∧ answer.startedAt < expiresAt row

/-- Each secret is answered for at most once, and to a call that had started before the
secret expired. -/
structure OnceOnly [DecidableEq κ] (rows : List ρ) (answered : List Answer) : Prop where
  once : ∀ row ∈ rows, answersTo key (key (id row)) answered ≤ 1
  inTime : ∀ answer ∈ answered, InTime id expiresAt rows answer

/-- The same secret later. -/
structure SameSecret (row row' : ρ) : Prop where
  id : id row' = id row
  expiresAt : expiresAt row' = expiresAt row

/-- A table whose ids differ, with the answers that were given from it. -/
structure Guarded (rows : List ρ) (answered : List Answer) : Prop where
  distinct : Distinct (fun row => key (id row)) rows
  inTime : ∀ answer ∈ answered, InTime id expiresAt rows answer

variable {key id expiresAt} {rows rows' : List ρ} {answered : List Answer}

theorem SameSecret.refl (row : ρ) : SameSecret id expiresAt row row :=
  ⟨rfl, rfl⟩

theorem SameSecret.trans {a b c : ρ} (h : SameSecret id expiresAt a b)
    (h' : SameSecret id expiresAt b c) : SameSecret id expiresAt a c :=
  ⟨h'.id.trans h.id, h'.expiresAt.trans h.expiresAt⟩

theorem InTime.carried {answer : Answer} (h : InTime id expiresAt rows answer)
    (hcarried : Carried (SameSecret id expiresAt) rows rows') :
    InTime id expiresAt rows' answer := by
  obtain ⟨row, hrow, hid, hstarted⟩ := h
  obtain ⟨row', hrow', hsame⟩ := hcarried row hrow
  exact ⟨row', hrow', hsame.id.trans hid, hsame.expiresAt ▸ hstarted⟩

theorem Guarded.nil : Guarded key id expiresAt [] [] :=
  ⟨List.nodup_nil, fun _ hanswer => absurd hanswer List.not_mem_nil⟩

theorem Guarded.insert (h : Guarded key id expiresAt rows answered) {row : ρ}
    (hfree : ∀ other ∈ rows, key (id other) ≠ key (id row)) :
    Guarded key id expiresAt (rows ++ [row]) answered :=
  ⟨h.distinct.append hfree, fun answer hanswer =>
    (h.inTime answer hanswer).carried (Carried.append SameSecret.refl rows [row])⟩

theorem Guarded.updateWhere (h : Guarded key id expiresAt rows answered) {p : ρ → Bool}
    {change : ρ → ρ} (hsame : ∀ row ∈ rows, SameSecret id expiresAt row (change row)) :
    Guarded key id expiresAt (updateWhere p change rows) answered :=
  ⟨h.distinct.updateWhere fun row hrow => congrArg key (hsame row hrow).id,
    fun answer hanswer => (h.inTime answer hanswer).carried
      (Carried.updateWhere SameSecret.refl fun row hrow _ => hsame row hrow)⟩

theorem Guarded.answer (h : Guarded key id expiresAt rows answered) {answer : Answer}
    (hanswer : InTime id expiresAt rows answer) :
    Guarded key id expiresAt rows (answered ++ [answer]) := by
  refine ⟨h.distinct, fun other hother => ?_⟩
  obtain hother | hother := List.mem_append.mp hother
  · exact h.inTime other hother
  · exact List.mem_singleton.mp hother ▸ hanswer

end Law

section Lists

variable {α : Type} {left accepted seen : List α} {code : α}

/-- The codes that are left on a list and those that were accepted: each was accepted
once, and none of them is left. -/
structure SpentOnce (left accepted : List α) : Prop where
  once : accepted.Nodup
  gone : ∀ code ∈ accepted, code ∉ left

/-- The list as somebody has seen it. What was taken off it since was accepted. -/
structure SeenList (left accepted seen : List α) : Prop where
  nodup : seen.Nodup
  sublist : left.Sublist seen
  taken : ∀ code ∈ seen, code ∉ left → code ∈ accepted

theorem SeenList.refl (h : left.Nodup) : SeenList left accepted left :=
  ⟨h, List.Sublist.refl left, fun _ hmem hnot => absurd hmem hnot⟩

variable [DecidableEq α]

theorem SeenList.crossOff (h : SeenList left accepted seen) :
    SeenList (left.erase code) (code :: accepted) seen := by
  refine ⟨h.nodup, List.erase_sublist.trans h.sublist, fun other hother hnot => ?_⟩
  by_cases hleft : other ∈ left
  · by_cases heq : other = code
    · exact heq ▸ List.mem_cons_self
    · exact absurd ((List.mem_erase_of_ne heq).mpr hleft) hnot
  · exact List.mem_cons_of_mem _ (h.taken other hother hleft)

theorem SpentOnce.crossOff (h : SpentOnce left accepted) (hnodup : left.Nodup)
    (hcode : code ∈ left) : SpentOnce (left.erase code) (code :: accepted) := by
  have hnew : code ∉ accepted := fun hold => h.gone code hold hcode
  refine ⟨List.nodup_cons.mpr ⟨hnew, h.once⟩, fun other hother hmem => ?_⟩
  obtain ⟨hne, hleft⟩ := hnodup.mem_erase_iff.mp hmem
  obtain rfl | hold := List.mem_cons.mp hother
  · exact hne rfl
  · exact h.gone other hold hleft

theorem SpentOnce.crossOff_iff (h : SpentOnce left accepted)
    (hseen : SeenList left accepted seen) (hcode : code ∈ seen) :
    SpentOnce (seen.erase code) (code :: accepted) ↔ left = seen := by
  constructor
  · intro hafter
    have hsubset : seen ⊆ left := by
      intro other hother
      by_contra hnot
      have hold := hseen.taken other hother hnot
      by_cases heq : other = code
      · exact (List.nodup_cons.mp hafter.once).1 (heq ▸ hold)
      · exact hafter.gone other (List.mem_cons_of_mem _ hold)
          ((List.mem_erase_of_ne heq).mpr hother)
    exact hseen.sublist.eq_of_length_le (hseen.nodup.subperm hsubset).length_le
  · intro heq
    subst heq
    exact h.crossOff hseen.nodup hcode

end Lists
end FieldserviceIT.Lib
