/-!
Histories: a state that takes one input after the other. A property of an input at the state
it meets is asked of every input of the history.
-/

namespace FieldserviceIT.Lib

variable {σ ι : Type} (next : ι → σ → σ)

def Throughout (right : ι → σ → Prop) : σ → List ι → Prop
  | _, [] => True
  | s, input :: inputs => right input s ∧ Throughout right (next input s) inputs

def afterwards (s : σ) (inputs : List ι) : σ :=
  inputs.foldl (fun s input => next input s) s

variable {next} {right right' given : ι → σ → Prop} {Inv : σ → Prop}

theorem throughout_of_forall (h : ∀ input s, right input s) {s : σ} (inputs : List ι) :
    Throughout next right s inputs := by
  induction inputs generalizing s with
  | nil => trivial
  | cons input inputs ih => exact ⟨h input s, ih⟩

theorem invariant_afterwards (hinv : ∀ input s, Inv s → Inv (next input s)) {s : σ}
    (inputs : List ι) (h : Inv s) : Inv (afterwards next s inputs) := by
  induction inputs generalizing s with
  | nil => exact h
  | cons input inputs ih => exact ih (hinv input s h)

/-- Two properties that agree on every state of an invariant, where something is given, agree
on every history in which it is given. -/
theorem throughout_congr (hinv : ∀ input s, Inv s → Inv (next input s))
    (hiff : ∀ input s, Inv s → given input s → (right input s ↔ right' input s)) {s : σ}
    {inputs : List ι} (h : Inv s) (hgiven : Throughout next given s inputs) :
    Throughout next right s inputs ↔ Throughout next right' s inputs := by
  induction inputs generalizing s with
  | nil => exact Iff.rfl
  | cons input inputs ih =>
    exact and_congr (hiff input s h hgiven.1) (ih (hinv input s h) hgiven.2)

/-- Two properties that agree where all has gone well, as it goes on where the first is given, agree
on every history. -/
theorem throughout_congr_of_good {Good : σ → Prop}
    (hiff : ∀ input s, Good s → (right input s ↔ right' input s))
    (hgood : ∀ input s, Good s → right input s → Good (next input s)) {s : σ} (inputs : List ι)
    (h : Good s) : Throughout next right s inputs ↔ Throughout next right' s inputs := by
  induction inputs generalizing s with
  | nil => exact Iff.rfl
  | cons input inputs ih =>
    rw [Throughout, Throughout, ← hiff input s h]
    exact and_congr_right fun hright => ih (hgood input s h hright)

end FieldserviceIT.Lib
