import Mathlib.Order.Basic
import Mathlib.Data.Int.Order.Basic

/-!
Counting attempts with a backoff. A counter starts over when the last failure is further
back than the width of a window; at the limit, attempts are refused until a whole window
has gone by since the last failure. What is counted one by one in this way never
happens more often than the limit says in any window, wherever the window starts.
-/

namespace FieldserviceIT.Lib

section Backoff

variable {width : Int} {limit count : Nat} {last now : Int} {times : List Int}

def inWindow (width start : Int) (times : List Int) : Nat :=
  times.countP fun t => decide (start ≤ t ∧ t < start + width)

def Bounded (width : Int) (limit : Nat) (times : List Int) : Prop :=
  ∀ start, inWindow width start times ≤ limit

/-- The times that were counted, with the count and the time it was last written. The
count covers what lies within a window before that. -/
structure Tally (width : Int) (limit : Nat) (times : List Int) (count : Nat) (last : Int) :
    Prop where
  before : ∀ t ∈ times, t ≤ last
  covers : times.countP (fun t => decide (last - width < t)) ≤ count
  bounded : Bounded width limit times

theorem bounded_nil : Bounded width limit [] :=
  fun _ => Nat.zero_le _

theorem tally_nil : Tally width limit [] count last :=
  ⟨fun _ ht => absurd ht List.not_mem_nil, Nat.zero_le _, bounded_nil⟩

theorem countP_after_mono {a b : Int} (h : a ≤ b) (times : List Int) :
    times.countP (fun t => decide (b < t)) ≤ times.countP fun t => decide (a < t) := by
  apply List.countP_mono_left
  intro t _ ht
  have hb : b < t := of_decide_eq_true ht
  exact decide_eq_true (by omega)

theorem Tally.countP_after (h : Tally width limit times count last) {a : Int} (ha : last ≤ a) :
    times.countP (fun t => decide (a < t)) = 0 := by
  rw [List.countP_eq_zero]
  intro t ht
  have hlast := h.before t ht
  simp only [decide_eq_true_eq]
  omega

theorem Tally.bounded_cons (h : Tally width limit times count last) (hlimit : 0 < limit)
    (hnow : last ≤ now) (hopen : limit ≤ count → last + width ≤ now) :
    Bounded width limit (now :: times) := by
  have hroom : times.countP (fun t => decide (now - width < t)) + 1 ≤ limit := by
    by_cases hcount : limit ≤ count
    · have hafter := hopen hcount
      have hnone := h.countP_after (a := now - width) (by omega)
      omega
    · have hless := countP_after_mono (a := last - width) (b := now - width) (by omega) times
      have hcovers := h.covers
      omega
  intro start
  rw [inWindow, List.countP_cons]
  split
  · next hin =>
      obtain ⟨hstart, hend⟩ := of_decide_eq_true hin
      have hrecent : times.countP (fun t => decide (start ≤ t ∧ t < start + width)) ≤
          times.countP fun t => decide (now - width < t) := by
        apply List.countP_mono_left
        intro t _ ht
        have hwithin : start ≤ t ∧ t < start + width := of_decide_eq_true ht
        exact decide_eq_true (by omega)
      omega
  · exact h.bounded start

theorem Tally.record {attempt : Int} (h : Tally width limit times count last)
    (hbounded : Bounded width limit (attempt :: times)) (hlast : last ≤ attempt)
    (hnow : attempt ≤ now) :
    Tally width limit (attempt :: times) (if last < now - width then 1 else count + 1) now := by
  refine ⟨fun t ht => ?_, ?_, hbounded⟩
  · obtain rfl | ht := List.mem_cons.mp ht
    · exact hnow
    · have hbefore := h.before t ht
      omega
  · have hone : (if decide (now - width < attempt) = true then 1 else 0) ≤ 1 := by
      split <;> omega
    rw [List.countP_cons]
    by_cases hold : last < now - width
    · have hnone := h.countP_after (a := now - width) (by omega)
      rw [if_pos hold]
      omega
    · rw [if_neg hold]
      have hless := countP_after_mono (a := last - width) (b := now - width) (by omega) times
      have hcovers := h.covers
      omega

end Backoff
end FieldserviceIT.Lib
