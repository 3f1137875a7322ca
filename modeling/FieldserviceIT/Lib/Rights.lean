/-!
Rights that come with roles. A subject is assigned roles, a role carries
permissions, and some permissions a subject has by itself. What is withheld stays
confined when every step that assigns, carries or gives keeps to what is not
withheld, or to what has been there from the start.
-/

namespace FieldserviceIT.Lib

structure Rights (Subject Role Permission : Type) where
  assigned : Subject → Role → Prop
  carries : Role → Permission → Prop
  direct : Subject → Permission → Prop

variable {Subject Role Permission : Type}

namespace Rights

def InEffect (r : Rights Subject Role Permission) (subject : Subject) (permission : Permission) :
    Prop :=
  r.direct subject permission ∨
    ∃ role, r.assigned subject role ∧ r.carries role permission

variable (withheld : Permission → Prop) (base now next : Rights Subject Role Permission)

/-- Nothing withheld is where it was not at the start. A role that is newly assigned
carries nothing withheld. -/
structure Confined : Prop where
  direct : ∀ subject permission, now.direct subject permission → withheld permission →
    base.direct subject permission
  carries : ∀ role permission, now.carries role permission → withheld permission →
    base.carries role permission
  assigned : ∀ subject role, now.assigned subject role → base.assigned subject role ∨
    ∀ permission, now.carries role permission → ¬ withheld permission

/-- What a step may add. A role may get back what it carried at the start while nobody
else has been assigned it. -/
structure Adds : Prop where
  direct : ∀ subject permission, next.direct subject permission →
    now.direct subject permission ∨ ¬ withheld permission
  carries : ∀ role permission, next.carries role permission → now.carries role permission ∨
    ¬ withheld permission ∨
      (base.carries role permission ∧ ∀ subject, now.assigned subject role →
        base.assigned subject role)
  assigned : ∀ subject role, next.assigned subject role → now.assigned subject role ∨
    base.assigned subject role ∨ ∀ permission, next.carries role permission → ¬ withheld permission

variable {withheld base now next}

theorem confined_self : Confined withheld base base :=
  ⟨fun _ _ h _ => h, fun _ _ h _ => h, fun _ _ h => .inl h⟩

theorem Confined.step (h : Confined withheld base now) (hadds : Adds withheld base now next) :
    Confined withheld base next := by
  constructor
  · intro subject permission hnext hwithheld
    obtain hnow | hfree := hadds.direct subject permission hnext
    · exact h.direct subject permission hnow hwithheld
    · exact absurd hwithheld hfree
  · intro role permission hnext hwithheld
    obtain hnow | hfree | ⟨hbase, -⟩ := hadds.carries role permission hnext
    · exact h.carries role permission hnow hwithheld
    · exact absurd hwithheld hfree
    · exact hbase
  · intro subject role hnext
    obtain hnow | hbase | hfree := hadds.assigned subject role hnext
    · by_cases hbase : base.assigned subject role
      · exact .inl hbase
      · right
        intro permission hcarried
        obtain hold | hfree | ⟨-, honly⟩ := hadds.carries role permission hcarried
        · exact (h.assigned subject role hnow).resolve_left hbase permission hold
        · exact hfree
        · exact absurd (honly subject hnow) hbase
    · exact .inl hbase
    · exact .inr hfree

theorem Confined.inEffect (h : Confined withheld base now) {subject : Subject}
    {permission : Permission} (hwithheld : withheld permission)
    (heffect : now.InEffect subject permission) : base.InEffect subject permission := by
  obtain hdirect | ⟨role, hassigned, hcarries⟩ := heffect
  · exact .inl (h.direct subject permission hdirect hwithheld)
  · obtain hbase | hfree := h.assigned subject role hassigned
    · exact .inr ⟨role, hbase, h.carries role permission hcarries hwithheld⟩
    · exact absurd hwithheld (hfree permission hcarries)

end Rights
end FieldserviceIT.Lib
