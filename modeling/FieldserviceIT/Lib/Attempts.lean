/-!
Calls that may end in an error, and the store they leave. Nothing is taken back by an error: what
was written before it stays. Of a call it is said by which stores it may be started so that what it
returns or throws, and the store it leaves then, are as they should be.
-/

namespace FieldserviceIT.Lib

def Attempt (ε σ α : Type) : Type :=
  σ → Except ε α × σ

namespace Attempt

variable {ε σ α β : Type}

def bind (p : Attempt ε σ α) (q : α → Attempt ε σ β) : Attempt ε σ β := fun s =>
  match p s with
  | (.ok a, s') => q a s'
  | (.error e, s') => (.error e, s')

instance monad : Monad (Attempt ε σ) where
  pure a s := (.ok a, s)
  bind := bind

def throw (e : ε) : Attempt ε σ α := fun s =>
  (.error e, s)

def gets (f : σ → α) : Attempt ε σ α := fun s =>
  (.ok (f s), s)

def modify (f : σ → σ) : Attempt ε σ Unit := fun s =>
  (.ok (), f s)

def caught (p : Attempt ε σ Unit) : Attempt ε σ Unit := fun s =>
  (.ok (), (p s).2)

def demand (refused : Bool) (e : ε) (p : Attempt ε σ α) : Attempt ε σ α :=
  if refused then throw e else p

def Ends (p : Attempt ε σ α) (returned : α → σ → Prop) (thrown : σ → Prop) (s : σ) : Prop :=
  match p s with
  | (.ok a, s') => returned a s'
  | (.error _, s') => thrown s'

section Rules

variable {p : Attempt ε σ α} {q : α → Attempt ε σ β} {returned : α → σ → Prop} {thrown : σ → Prop}
  {s : σ}

@[simp] theorem ends_pure {a : α} :
    (Pure.pure a : Attempt ε σ α).Ends returned thrown s ↔ returned a s :=
  Iff.rfl

@[simp] theorem ends_throw {e : ε} : (throw e : Attempt ε σ α).Ends returned thrown s ↔ thrown s :=
  Iff.rfl

@[simp] theorem ends_gets {f : σ → α} :
    (gets f : Attempt ε σ α).Ends returned thrown s ↔ returned (f s) s :=
  Iff.rfl

@[simp] theorem ends_modify {f : σ → σ} {returned : Unit → σ → Prop} :
    (modify f : Attempt ε σ Unit).Ends returned thrown s ↔ returned () (f s) :=
  Iff.rfl

theorem ends_bind {returned : β → σ → Prop} : (p >>= q).Ends returned thrown s ↔
    p.Ends (fun a s' => (q a).Ends returned thrown s') thrown s := by
  have hbind : (p >>= q) s = bind p q s := rfl
  rw [Ends, Ends, hbind, bind]
  obtain ⟨e | a, s'⟩ := p s
  · exact Iff.rfl
  · exact Iff.rfl

theorem ends_demand {refused : Bool} {e : ε} : (demand refused e p).Ends returned thrown s ↔
    if refused then thrown s else p.Ends returned thrown s := by
  cases refused with
  | false => exact Iff.rfl
  | true => exact Iff.rfl

theorem ends_caught {p : Attempt ε σ Unit} {returned : Unit → σ → Prop} :
    (caught p).Ends returned thrown s ↔ returned () (p s).2 :=
  Iff.rfl

theorem Ends.mono {returned' : α → σ → Prop} {thrown' : σ → Prop} (h : p.Ends returned thrown s)
    (hreturned : ∀ a s', returned a s' → returned' a s') (hthrown : ∀ s', thrown s' → thrown' s') :
    p.Ends returned' thrown' s := by
  rw [Ends] at h ⊢
  split at h
  · exact hreturned _ _ h
  · exact hthrown _ h

theorem Ends.not_both {returned' : α → σ → Prop} {thrown' : σ → Prop} (h : p.Ends returned thrown s)
    (h' : p.Ends returned' thrown' s) (hreturned : ∀ a s', returned a s' → ¬returned' a s')
    (hthrown : ∀ s', thrown s' → ¬thrown' s') : False := by
  rw [Ends] at h h'
  generalize p s = outcome at h h'
  obtain ⟨e | a, s'⟩ := outcome
  · exact hthrown s' h h'
  · exact hreturned a s' h h'

end Rules

end Attempt
end FieldserviceIT.Lib
