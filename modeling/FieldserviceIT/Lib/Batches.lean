import Mathlib.Data.List.Induction

/-!
Entries that are carried out one after the other. One that throws ends the batch, and what
was done before it stays done. Where entries write values under keys, the last entry for a
key decides.
-/

namespace FieldserviceIT.Lib

section Batches

variable {ε σ τ : Type} (apply : ε → σ → Option σ)

/-- The state in which the batch ends, and whether all of it has been carried out. -/
def carryOut : List ε → σ → σ × Bool
  | [], s => (s, true)
  | entry :: entries, s =>
    match apply entry s with
    | none => (s, false)
    | some s' => carryOut entries s'

variable {apply}

/-- Which entries throw does not depend on the state, and each of the others does to what
can be seen of it what `write` does. -/
theorem carryOut_view {view : σ → τ} {write : τ → ε → τ} {admitted : ε → Bool}
    (hadmitted : ∀ entry s, (apply entry s).isSome = admitted entry)
    (hview : ∀ {entry s s'}, apply entry s = some s' → view s' = write (view s) entry)
    (entries : List ε) (s : σ) :
    view (carryOut apply entries s).1 = (entries.takeWhile admitted).foldl write (view s) ∧
      (carryOut apply entries s).2 = entries.all admitted := by
  induction entries generalizing s with
  | nil => exact ⟨rfl, rfl⟩
  | cons entry entries ih =>
    have hentry := hadmitted entry s
    rw [carryOut, List.takeWhile_cons, List.all_cons, ← hentry]
    cases happly : apply entry s with
    | none => exact ⟨rfl, rfl⟩
    | some s' =>
      obtain ⟨hstate, hall⟩ := ih s'
      refine ⟨?_, ?_⟩
      · simp only [Option.isSome_some, if_true, List.foldl_cons]
        rw [hstate, hview happly]
      · rw [hall]
        rfl

end Batches

section Last

variable {ε σ : Type} (p : ε → Bool)

def lastWhere : List ε → Option (List ε × ε)
  | [] => none
  | entry :: entries =>
    match lastWhere entries with
    | some (before, last) => some (entry :: before, last)
    | none => if p entry then some ([], entry) else none

variable (step : σ → ε → σ)

theorem foldl_eq_lastWhere (hidle : ∀ entry, p entry = false → ∀ s, step s entry = s)
    (entries : List ε) (s : σ) : entries.foldl step s =
      (lastWhere p entries).elim s fun found => step (found.1.foldl step s) found.2 := by
  induction entries generalizing s with
  | nil => rfl
  | cons entry entries ih =>
    rw [List.foldl_cons, ih, lastWhere]
    cases hlast : lastWhere p entries with
    | some found => rfl
    | none =>
      cases hentry : p entry with
      | true => rfl
      | false => exact hidle entry hentry s

variable {p}

theorem of_lastWhere {entries before : List ε} {last : ε}
    (h : lastWhere p entries = some (before, last)) : p last = true ∧ last ∈ entries := by
  induction entries generalizing before with
  | nil => cases h
  | cons entry entries ih =>
    rw [lastWhere] at h
    cases hlast : lastWhere p entries with
    | some found =>
      rw [hlast] at h
      cases h
      obtain ⟨hlast, hmem⟩ := ih hlast
      exact ⟨hlast, .tail _ hmem⟩
    | none =>
      rw [hlast] at h
      obtain ⟨hentry, hfound⟩ := Option.ite_none_right_eq_some.mp h
      cases hfound
      exact ⟨hentry, .head _⟩

end Last

/-- Entries of which each writes the value of one key or of none. Nothing is left of a value
that another entry has written. -/
structure Writes (ε κ β : Type) where
  key : ε → Option κ
  value : ε → Option β → β
  absorbs : ∀ {entry other k}, key entry = some k → key other = some k → ∀ old,
    value entry (some (value other old)) = value entry old

namespace Writes

variable {ε κ β : Type} [DecidableEq κ] (w : Writes ε κ β)

def write (values : κ → Option β) (entry : ε) (k : κ) : Option β :=
  if w.key entry = some k then some (w.value entry (values k)) else values k

def last (entries : List ε) (k : κ) : Option ε :=
  entries.reverse.find? fun entry => w.key entry = some k

def Stays (entries : List ε) (values : κ → Option β) : Prop :=
  ∀ k entry, w.last entries k = some entry → values k = some (w.value entry (values k))

variable {w} {entries : List ε} {values : κ → Option β}

theorem key_of_last {k : κ} {entry : ε} (h : w.last entries k = some entry) :
    w.key entry = some k := by
  have hkey := List.find?_some h
  exact of_decide_eq_true hkey

theorem last_append (entry : ε) (k : κ) :
    w.last (entries ++ [entry]) k = if w.key entry = some k then some entry else w.last entries k := by
  rw [last, List.reverse_append, List.reverse_singleton, List.singleton_append, List.find?_cons]
  by_cases hkey : w.key entry = some k
  · simp [hkey]
  · simp [hkey, last]

theorem last_map {α : Type} (entryOf : α → ε) (items : List α) (k : κ) :
    w.last (items.map entryOf) k =
      (items.reverse.find? fun item => w.key (entryOf item) = some k).map entryOf := by
  rw [last, ← List.map_reverse, List.find?_map]
  rfl

theorem foldl_write (entries : List ε) (values : κ → Option β) (k : κ) :
    entries.foldl w.write values k =
      (w.last entries k).elim (values k) fun entry => some (w.value entry (values k)) := by
  induction entries using List.reverseRecOn with
  | nil => rfl
  | append_singleton entries entry ih =>
    rw [List.foldl_append, List.foldl_cons, List.foldl_nil, write, last_append]
    split
    next hkey =>
      rw [ih]
      cases hlast : w.last entries k with
      | none => rfl
      | some other => exact congrArg some (w.absorbs hkey (key_of_last hlast) _)
    next => exact ih

theorem foldl_write_eq_self : entries.foldl w.write values = values ↔ w.Stays entries values := by
  constructor
  · intro h k entry hlast
    have hk := congrFun h k
    rw [foldl_write, hlast] at hk
    exact hk.symm
  · intro h
    funext k
    rw [foldl_write]
    cases hlast : w.last entries k with
    | none => rfl
    | some entry => exact (h k entry hlast).symm

theorem stays_foldl : w.Stays entries (entries.foldl w.write values) := by
  intro k entry hlast
  rw [foldl_write, hlast]
  exact congrArg some (w.absorbs (key_of_last hlast) (key_of_last hlast) _).symm

end Writes
end FieldserviceIT.Lib
