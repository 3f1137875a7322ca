import Mathlib.Data.List.DropRight

/-!
White space as JavaScript understands it, in `trim` and in the class `\s`.
-/

namespace FieldserviceIT.Common

def isWhiteSpace (c : Char) : Bool :=
  (9 ≤ c.toNat && c.toNat ≤ 13) || (0x2000 ≤ c.toNat && c.toNat ≤ 0x200a) ||
    [0x20, 0xa0, 0x1680, 0x2028, 0x2029, 0x202f, 0x205f, 0x3000, 0xfeff].contains c.toNat

def trim (text : List Char) : List Char :=
  (text.dropWhile isWhiteSpace).rdropWhile isWhiteSpace

/-- Neither the first nor the last character is white space. -/
structure IsTrimmed (text : List Char) : Prop where
  first : ∀ c ∈ text.head?, isWhiteSpace c = false
  last : ∀ c ∈ text.getLast?, isWhiteSpace c = false

def isTrimmed (text : List Char) : Bool :=
  text.head?.all (fun c => !isWhiteSpace c) && text.getLast?.all fun c => !isWhiteSpace c

theorem isTrimmed_iff (text : List Char) : isTrimmed text = true ↔ IsTrimmed text := by
  rw [isTrimmed, Bool.and_eq_true, Option.all_eq_true, Option.all_eq_true]
  constructor
  · intro h
    exact ⟨fun c hc => (Bool.not_eq_true' _).mp (h.1 c hc), fun c hc => (Bool.not_eq_true' _).mp (h.2 c hc)⟩
  · intro h
    exact ⟨fun c hc => (Bool.not_eq_true' _).mpr (h.first c hc),
      fun c hc => (Bool.not_eq_true' _).mpr (h.last c hc)⟩

instance decidableIsTrimmed (text : List Char) : Decidable (IsTrimmed text) :=
  decidable_of_iff _ (isTrimmed_iff text)

theorem trim_eq_self {text : List Char} (h : IsTrimmed text) : trim text = text := by
  have hfirst : text.dropWhile isWhiteSpace = text := by
    cases text with
    | nil => rfl
    | cons c text => exact List.dropWhile_cons_of_neg (by simp [h.first c rfl])
  rw [trim, hfirst, List.rdropWhile_eq_self_iff]
  intro hsome
  rw [h.last _ (List.getLast?_eq_some_getLast hsome)]
  exact Bool.false_ne_true

end FieldserviceIT.Common
