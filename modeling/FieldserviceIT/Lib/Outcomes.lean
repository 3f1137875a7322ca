import Mathlib.Data.List.Forall2

/-!
Outcomes: a value, or an error that ends what is going on. What a sequence of steps has come to is
taken apart step by step, and a list goes through when each of its elements does.
-/

namespace FieldserviceIT.Lib

variable {ε α β : Type}

theorem ok_bind (f : α → Except ε β) (a : α) : (Except.ok a >>= f) = f a :=
  rfl

theorem map_eq_ok {f : α → β} {outcome : Except ε α} {b : β} (h : outcome.map f = .ok b) :
    ∃ a, outcome = .ok a ∧ f a = b := by
  cases outcome with
  | error message => cases h
  | ok a => exact ⟨a, rfl, Except.ok.inj h⟩

theorem bind_eq_ok {f : α → Except ε β} {outcome : Except ε α} {b : β}
    (h : outcome >>= f = .ok b) : ∃ a, outcome = .ok a ∧ f a = .ok b := by
  cases outcome with
  | error message => cases h
  | ok a => exact ⟨a, rfl, h⟩

theorem mapM_forall₂ {f : α → Except ε β} {P : α → β → Prop} (list : List α) :
    (∃ results, list.mapM f = .ok results ∧ List.Forall₂ P list results) ↔
      ∀ a ∈ list, ∃ b, f a = .ok b ∧ P a b := by
  induction list with
  | nil => exact iff_of_true ⟨[], rfl, .nil⟩ (fun _ h => by cases h)
  | cons a list ih =>
    rw [List.forall_mem_cons, ← ih, List.mapM_cons]
    constructor
    · rintro ⟨results, hresults, hP⟩
      obtain ⟨b, hb, hrest⟩ := bind_eq_ok hresults
      obtain ⟨rest, hlist, heq⟩ := bind_eq_ok hrest
      cases heq
      cases hP with
      | cons hhead htail => exact ⟨⟨b, hb, hhead⟩, rest, hlist, htail⟩
    · rintro ⟨⟨b, hb, hhead⟩, rest, hlist, htail⟩
      refine ⟨b :: rest, ?_, .cons hhead htail⟩
      rw [hb, hlist]
      rfl

theorem mapM_ok {f : α → Except ε β} {g : α → β} {list : List α}
    (h : ∀ a ∈ list, f a = .ok (g a)) : list.mapM f = .ok (list.map g) := by
  induction list with
  | nil => rfl
  | cons a list ih =>
    rw [List.mapM_cons, h a List.mem_cons_self, ih fun b hb => h b (.tail _ hb)]
    rfl

end FieldserviceIT.Lib
