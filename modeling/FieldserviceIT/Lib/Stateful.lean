/-!
Programs with a state and exceptions, where what was done before an exception stays
done. A relation says what a program may do to the state, an assertion what holds
where it starts and what of its value where it returns.
-/

namespace FieldserviceIT.Lib

abbrev Stateful (ε σ : Type) := ExceptT ε (StateM σ)

namespace Stateful

variable {ε σ α β : Type}

def exec (m : Stateful ε σ α) (s : σ) : Except ε α × σ :=
  m s

/-- From a state with `P` the program moves along `R`, and what it returns has `Q`. -/
def Triple (R : σ → σ → Prop) (P : σ → Prop) (m : Stateful ε σ α) (Q : α → σ → Prop) : Prop :=
  ∀ s, P s → R s (exec m s).2 ∧ ∀ a, (exec m s).1 = .ok a → Q a (exec m s).2

/-- The program moves along `R` wherever it starts and however it ends. -/
def Moves (R : σ → σ → Prop) (m : Stateful ε σ α) : Prop :=
  ∀ s, R s (exec m s).2

/-- What may be done can be done in any number of steps. -/
structure Steps (R : σ → σ → Prop) : Prop where
  refl : ∀ s, R s s
  trans : ∀ {s t u}, R s t → R t u → R s u

variable {R S : σ → σ → Prop} {P : σ → Prop} {Q : α → σ → Prop}

theorem Moves.mono {m : Stateful ε σ α} (hm : Moves R m) (h : ∀ s t, R s t → S s t) : Moves S m :=
  fun s => h s _ (hm s)

theorem Moves.triple {m : Stateful ε σ α} (hm : Moves R m) : Triple R P m fun _ _ => True :=
  fun s _ => ⟨hm s, fun _ _ => trivial⟩

theorem Triple.moves {m : Stateful ε σ α} (hm : Triple R (fun _ => True) m Q) : Moves R m :=
  fun s => (hm s trivial).1

theorem triple_bind (hR : Steps R) {m : Stateful ε σ α} {f : α → Stateful ε σ β}
    {T : β → σ → Prop} (hm : Triple R P m Q) (hf : ∀ a, Triple R (Q a) (f a) T) :
    Triple R P (m >>= f) T := by
  intro s hs
  obtain ⟨hmove, hvalue⟩ := hm s hs
  cases hexec : exec m s with
  | mk result t =>
    rw [hexec] at hmove hvalue
    cases result with
    | ok a =>
      have hbind : exec (m >>= f) s = exec (f a) t := by
        simp only [exec, bind, ExceptT.bind, ExceptT.mk, StateT.bind] at hexec ⊢
        rw [hexec]
        rfl
      obtain ⟨hmove', hvalue'⟩ := hf a t (hvalue a rfl)
      rw [hbind]
      exact ⟨hR.trans hmove hmove', hvalue'⟩
    | error e =>
      have hbind : exec (m >>= f) s = (.error e, t) := by
        simp only [exec, bind, ExceptT.bind, ExceptT.mk, StateT.bind] at hexec ⊢
        rw [hexec]
        rfl
      rw [hbind]
      exact ⟨hmove, fun a h => nomatch h⟩

theorem moves_bind (hR : Steps R) {m : Stateful ε σ α} {f : α → Stateful ε σ β}
    (hm : Moves R m) (hf : ∀ a, Moves R (f a)) : Moves R (m >>= f) :=
  (triple_bind (P := fun _ => True) hR hm.triple fun a => (hf a).triple).moves

theorem moves_pure (hR : Steps R) (a : α) : Moves R (pure a : Stateful ε σ α) :=
  fun s => hR.refl s

theorem triple_pure (hR : Steps R) (a : α) (h : ∀ s, P s → Q a s) :
    Triple R P (pure a : Stateful ε σ α) Q := by
  intro s hs
  refine ⟨hR.refl s, fun b hb => ?_⟩
  obtain rfl : a = b := Except.ok.inj hb
  exact h s hs

theorem moves_throw (hR : Steps R) (e : ε) : Moves R (throw e : Stateful ε σ α) :=
  fun s => hR.refl s

theorem triple_throw (hR : Steps R) (e : ε) : Triple R P (throw e : Stateful ε σ α) Q :=
  fun s _ => ⟨hR.refl s, fun _ h => nomatch h⟩

theorem triple_get (hR : Steps R) :
    Triple R P (get : Stateful ε σ σ) fun a s => a = s ∧ P s := by
  intro s hs
  refine ⟨hR.refl s, fun a ha => ?_⟩
  obtain rfl : s = a := Except.ok.inj ha
  exact ⟨rfl, hs⟩

theorem moves_get (hR : Steps R) : Moves R (get : Stateful ε σ σ) :=
  fun s => hR.refl s

theorem triple_modify {f : σ → σ} {Q : σ → Prop} (hR : ∀ s, P s → R s (f s))
    (hQ : ∀ s, P s → Q (f s)) :
    Triple R P (modify f : Stateful ε σ Unit) fun _ s => Q s :=
  fun s hs => ⟨hR s hs, fun _ _ => hQ s hs⟩

theorem moves_modify {f : σ → σ} (h : ∀ s, R s (f s)) :
    Moves R (modify f : Stateful ε σ Unit) :=
  fun s => h s

theorem triple_tryCatch (hR : Steps R) {m : Stateful ε σ α} {handler : ε → Stateful ε σ α}
    (hm : Triple R P m Q) (hh : ∀ e, Moves R (handler e)) :
    Triple R P (tryCatch m handler) fun _ _ => True := by
  intro s hs
  refine ⟨?_, fun _ _ => trivial⟩
  have hmove := (hm s hs).1
  cases hexec : exec m s with
  | mk result t =>
    rw [hexec] at hmove
    cases result with
    | ok a =>
      have hcatch : exec (tryCatch m handler) s = (.ok a, t) := by
        simp only [exec, tryCatch, tryCatchThe, MonadExceptOf.tryCatch, ExceptT.tryCatch, ExceptT.mk,
          bind, StateT.bind] at hexec ⊢
        rw [hexec]
        rfl
      rw [hcatch]
      exact hmove
    | error e =>
      have hcatch : exec (tryCatch m handler) s = exec (handler e) t := by
        simp only [exec, tryCatch, tryCatchThe, MonadExceptOf.tryCatch, ExceptT.tryCatch, ExceptT.mk,
          bind, StateT.bind] at hexec ⊢
        rw [hexec]
      rw [hcatch]
      exact hR.trans hmove (hh e t)

theorem moves_tryCatch (hR : Steps R) {m : Stateful ε σ α} {handler : ε → Stateful ε σ α}
    (hm : Moves R m) (hh : ∀ e, Moves R (handler e)) : Moves R (tryCatch m handler) :=
  (triple_tryCatch (P := fun _ => True) hR hm.triple hh).moves

theorem moves_ite {c : Prop} [Decidable c] {m n : Stateful ε σ α} (hm : c → Moves R m)
    (hn : ¬c → Moves R n) : Moves R (if c then m else n) := by
  split
  · exact hm ‹_›
  · exact hn ‹_›

end Stateful
end FieldserviceIT.Lib
