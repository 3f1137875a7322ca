import FieldserviceIT.Admin.Invitations

/-!
Runs of invitations. What a call knows of the row it has locked holds until its
transaction ends, because the others wait; so the user an acceptance inserts is the one
that was invited, and the invitation is used up with it.
-/

namespace FieldserviceIT.Admin.Invitations

open Common Lib

section Phases

/-- How far a call is: what invitation it has found, and what its transaction holds. -/
inductive Phase where
  | outside
  | knows (invitation : Invitation)
  | accepting (invitation : Invitation) (tx : Nat)
  | holding (invitation : Invitation) (tx : Nat) (lockedAt : Int)
  | creating (tx : Nat)
  | replacing (tx : Nat)

def Phase.tx : Phase → Option Nat
  | .accepting _ tx | .holding _ tx _ | .creating tx | .replacing tx => some tx
  | _ => none

variable (H : Hashing) (key : String → String)

def advance (phase : Phase) (op : InvitationOp) (s : Tenancy) : Option Phase :=
  match phase, op with
  | .outside, .read | .outside, .revoke _ _ => some .outside
  | .outside, .findActive token =>
    match findActive H key s token with
    | some invitation => some (.knows invitation)
    | none => some .outside
  | .outside, .begin => some (.creating s.nextTx)
  | .knows invitation, .begin => some (.accepting invitation s.nextTx)
  | .accepting invitation tx, .lockInvitation tx' id tokenHash =>
    if tx' = tx ∧ id = invitation.id then
      if (lockable H key s id tokenHash).isSome then some (.holding invitation tx s.now)
      else some (.accepting invitation tx)
    else none
  | .accepting _ tx, .rollback tx' | .holding _ tx _, .rollback tx'
  | .replacing tx, .rollback tx' => if tx' = tx then some .outside else none
  | .holding invitation tx lockedAt, .read => some (.holding invitation tx lockedAt)
  | .holding invitation tx lockedAt, .commitAccept tx' acceptance =>
    if tx' = tx ∧ acceptance.invitation = invitation ∧ acceptance.lockedAt = lockedAt then
      some .outside
    else none
  | .creating tx, .lockPending tx' _ _ => if tx' = tx then some (.replacing tx) else none
  | .replacing tx, .commitCreate tx' _ _ _ _ _ _ _ => if tx' = tx then some .outside else none
  | _, _ => none

/-- The same invitation later: what was revoked stays so, and what was accepted is not
revoked any more. -/
structure Later (row row' : Invitation) : Prop where
  id : row'.id = row.id
  companyId : row'.companyId = row.companyId
  email : row'.email = row.email
  role : row'.role = row.role
  expiresAt : row'.expiresAt = row.expiresAt
  revoked : row.revokedAt.isSome = true → row'.revokedAt.isSome = true
  accepted : row.acceptedAt.isSome = true →
    row'.acceptedAt.isSome = true ∧ row'.revokedAt = row.revokedAt

theorem Later.refl (row : Invitation) : Later row row :=
  ⟨rfl, rfl, rfl, rfl, rfl, fun h => h, fun h => ⟨h, rfl⟩⟩

theorem Later.trans {a b c : Invitation} (h : Later a b) (h' : Later b c) : Later a c where
  id := h'.id.trans h.id
  companyId := h'.companyId.trans h.companyId
  email := h'.email.trans h.email
  role := h'.role.trans h.role
  expiresAt := h'.expiresAt.trans h.expiresAt
  revoked hrevoked := h'.revoked (h.revoked hrevoked)
  accepted haccepted := by
    obtain ⟨hb, hrevokedAt⟩ := h.accepted haccepted
    obtain ⟨hc, hrevokedAt'⟩ := h'.accepted hb
    exact ⟨hc, hrevokedAt'.trans hrevokedAt⟩

def Stored (s : Tenancy) (invitation : Invitation) : Prop :=
  ∃ row ∈ s.invitations, Later invitation row

def Locked (s : Tenancy) (invitation : Invitation) (tx : Nat) (lockedAt : Int) : Prop :=
  ∃ row ∈ s.invitations, Later invitation row ∧ lockedAt < row.expiresAt ∧ (row.id, tx) ∈ s.locks

def Phase.Ok (s : Tenancy) : Phase → Prop
  | .outside => True
  | .knows invitation => Stored s invitation
  | .accepting invitation tx => tx < s.nextTx ∧ Stored s invitation
  | .holding invitation tx lockedAt => tx < s.nextTx ∧ Locked s invitation tx lockedAt
  | .creating tx | .replacing tx => tx < s.nextTx

def Phase.Apart (phase other : Phase) : Prop :=
  ∀ tx, phase.tx = some tx → other.tx ≠ some tx

end Phases

section Invariant

variable (key : String → String)

/-- The user is the one that was invited, by an invitation that was never revoked and
had not expired. -/
def AsInvited (s : Tenancy) (user : User) (origin : Origin) : Prop :=
  ∃ row ∈ s.invitations, row.id = origin.invitationId ∧ user.email = row.email ∧
    user.role = row.role ∧ user.companyId = row.companyId ∧ row.acceptedAt.isSome = true ∧
      row.revokedAt = none ∧ origin.lockedAt < row.expiresAt

def invitedBy (users : List User) : List String :=
  users.filterMap fun user => user.origin.map (·.invitationId)

structure Consistent (s : Tenancy) : Prop where
  distinct : Distinct (fun row : Invitation => key row.id) s.invitations
  pending : ∀ lock ∈ s.locks, ∃ row ∈ s.invitations, row.id = lock.1 ∧ isPending row = true
  oneOwner : ∀ lock ∈ s.locks, ∀ other ∈ s.locks, lock.1 = other.1 → lock.2 = other.2
  asInvited : ∀ user ∈ s.users, ∀ origin, user.origin = some origin → AsInvited s user origin
  once : (invitedBy s.users).Nodup
  replaced : ∀ row ∈ s.invitations, ∀ id ∈ row.replaces,
    ∃ old ∈ s.invitations, old.id = id ∧ old.revokedAt.isSome = true

end Invariant

section Rows

variable {H : Hashing} {key : String → String} {s : Tenancy}

theorem Consistent.eq_of_id (h : Consistent key s) {row other : Invitation}
    (hrow : row ∈ s.invitations) (hother : other ∈ s.invitations) (hid : row.id = other.id) :
    row = other :=
  h.distinct.eq_of_key hrow hother (congrArg key hid)

theorem Consistent.pending_of_lock (h : Consistent key s) {row : Invitation} {tx : Nat}
    (hrow : row ∈ s.invitations) (hlock : (row.id, tx) ∈ s.locks) : isPending row = true := by
  obtain ⟨row', hrow', hid, hpending⟩ := h.pending _ hlock
  rwa [h.eq_of_id hrow hrow' hid.symm]

theorem isPending_iff {row : Invitation} :
    isPending row = true ↔ row.acceptedAt = none ∧ row.revokedAt = none := by
  rw [isPending, Bool.and_eq_true, Option.isNone_iff_eq_none, Option.isNone_iff_eq_none]

theorem not_accepted_of_pending {row : Invitation} (h : isPending row = true) :
    row.acceptedAt.isSome = false := by
  rw [(isPending_iff.mp h).1]
  rfl

theorem lockedBy_iff {tx : Nat} {row : Invitation} :
    lockedBy s tx row = true ↔ (row.id, tx) ∈ s.locks :=
  List.contains_iff_mem

theorem later_acceptedAt {row : Invitation} {now : Int} :
    Later row { row with acceptedAt := some now } :=
  ⟨rfl, rfl, rfl, rfl, rfl, fun h => h, fun _ => ⟨rfl, rfl⟩⟩

theorem later_revokedAt {row : Invitation} {now : Int} (h : isPending row = true) :
    Later row { row with revokedAt := some now } := by
  refine ⟨rfl, rfl, rfl, rfl, rfl, fun _ => rfl, fun haccepted => ?_⟩
  exact absurd haccepted (Bool.eq_false_iff.mp (not_accepted_of_pending h))

theorem pending_of_revocable {id companyId : String} {row : Invitation}
    (h : revocable key id companyId row = true) : isPending row = true := by
  simp only [revocable, Bool.and_eq_true] at h
  exact h.2

theorem carried_exec (hbase : Consistent key s) (op : InvitationOp) :
    Carried Later s.invitations (execInvitation H key op s).invitations := by
  cases op with
  | commitAccept tx acceptance =>
    simp only [execInvitation]
    split
    · exact .refl Later.refl _
    · exact .updateWhere Later.refl fun row _ _ => later_acceptedAt
  | commitCreate tx revokedAt id companyId email role tokenHash invitedById =>
    simp only [execInvitation]
    split
    · exact .refl Later.refl _
    · have hupdate : Carried Later s.invitations (updateWhere (lockedBy s tx)
          (fun row => { row with revokedAt := some revokedAt }) s.invitations) :=
        .updateWhere Later.refl fun row hrow hlocked =>
          later_revokedAt (hbase.pending_of_lock hrow (lockedBy_iff.mp hlocked))
      exact hupdate.trans Later.trans (.append Later.refl _ _)
  | revoke id companyId =>
    exact .updateWhere Later.refl fun row _ hrevocable =>
      later_revokedAt (pending_of_revocable hrevocable)
  | lockInvitation tx id tokenHash =>
    simp only [execInvitation]
    split
    · exact .refl Later.refl _
    · exact .refl Later.refl _
  | _ => exact .refl Later.refl _

theorem Stored.carried {s' : Tenancy} {invitation : Invitation} (h : Stored s invitation)
    (hcarried : Carried Later s.invitations s'.invitations) : Stored s' invitation := by
  obtain ⟨row, hrow, hlater⟩ := h
  obtain ⟨row', hrow', hlater'⟩ := hcarried row hrow
  exact ⟨row', hrow', hlater.trans hlater'⟩

theorem AsInvited.carried {s' : Tenancy} {user : User} {origin : Origin}
    (h : AsInvited s user origin) (hcarried : Carried Later s.invitations s'.invitations) :
    AsInvited s' user origin := by
  obtain ⟨row, hrow, hid, hemail, hrole, hcompany, haccepted, hrevoked, hexpires⟩ := h
  obtain ⟨row', hrow', hlater⟩ := hcarried row hrow
  obtain ⟨haccepted', hrevoked'⟩ := hlater.accepted haccepted
  exact ⟨row', hrow', hlater.id.trans hid, hemail.trans hlater.email.symm,
    hrole.trans hlater.role.symm, hcompany.trans hlater.companyId.symm, haccepted',
    hrevoked'.trans hrevoked, hlater.expiresAt ▸ hexpires⟩

end Rows

section Frame

variable {H : Hashing} {key : String → String} {s : Tenancy}

theorem nextTx_exec (op : InvitationOp) (s : Tenancy) :
    s.nextTx ≤ (execInvitation H key op s).nextTx := by
  cases op with
  | commitAccept | commitCreate | lockInvitation =>
    simp only [execInvitation]
    split <;> exact Nat.le_refl _
  | begin => exact Nat.le_succ _
  | _ => exact Nat.le_refl _

def endsTx : InvitationOp → Option Nat
  | .commitAccept tx _ | .rollback tx | .commitCreate tx _ _ _ _ _ _ _ => some tx
  | _ => none

theorem mem_release {tx : Nat} {locks : List (String × Nat)} {lock : String × Nat} :
    lock ∈ release tx locks ↔ lock ∈ locks ∧ lock.2 ≠ tx := by
  rw [release, List.mem_filter, decide_eq_true_eq]

theorem locks_exec {op : InvitationOp} {lock : String × Nat} (hlock : lock ∈ s.locks)
    (hends : endsTx op ≠ some lock.2) : lock ∈ (execInvitation H key op s).locks := by
  cases op with
  | commitAccept tx acceptance =>
    have hkept := mem_release.mpr ⟨hlock, fun heq => hends (congrArg some heq.symm)⟩
    simp only [execInvitation]
    split <;> exact hkept
  | commitCreate tx revokedAt id companyId email role tokenHash invitedById =>
    have hkept := mem_release.mpr ⟨hlock, fun heq => hends (congrArg some heq.symm)⟩
    simp only [execInvitation]
    split <;> exact hkept
  | rollback tx => exact mem_release.mpr ⟨hlock, fun heq => hends (congrArg some heq.symm)⟩
  | lockInvitation tx id tokenHash =>
    simp only [execInvitation]
    split
    · exact List.mem_cons_of_mem _ hlock
    · exact hlock
  | lockPending tx companyId email => exact List.mem_append_right _ hlock
  | _ => exact hlock

theorem endsTx_of_advance {phase phase' : Phase} {op : InvitationOp}
    (h : advance H key phase op s = some phase') : endsTx op = none ∨ endsTx op = phase.tx := by
  cases phase <;> cases op <;> simp_all [advance, endsTx, Phase.tx]

theorem tx_of_advance {phase phase' : Phase} {op : InvitationOp}
    (h : advance H key phase op s = some phase') :
    phase'.tx = none ∨ phase'.tx = phase.tx ∨ phase'.tx = some s.nextTx := by
  cases phase <;> cases op <;> grind [advance, Phase.tx]

theorem tx_lt_of_ok {phase : Phase} (hok : phase.Ok s) {tx : Nat} (htx : phase.tx = some tx) :
    tx < s.nextTx := by
  cases phase with
  | outside | knows => cases htx
  | accepting | holding =>
    obtain rfl := Option.some.inj htx
    exact hok.1
  | creating | replacing =>
    obtain rfl := Option.some.inj htx
    exact hok

theorem ok_other (hbase : Consistent key s) {op : InvitationOp} {other : Phase}
    (hok : other.Ok s) (hends : ∀ tx, other.tx = some tx → endsTx op ≠ some tx) :
    other.Ok (execInvitation H key op s) := by
  have hcarried := carried_exec (H := H) hbase op
  have hnext := @nextTx_exec H key op s
  cases other with
  | outside => trivial
  | knows invitation => exact Stored.carried hok hcarried
  | accepting invitation tx =>
    exact ⟨Nat.lt_of_lt_of_le hok.1 hnext, hok.2.carried hcarried⟩
  | holding invitation tx lockedAt =>
    obtain ⟨hlt, row, hrow, hlater, hexpires, hlock⟩ := hok
    obtain ⟨row', hrow', hlater'⟩ := hcarried row hrow
    refine ⟨Nat.lt_of_lt_of_le hlt hnext, row', hrow', hlater.trans hlater', ?_, ?_⟩
    · rw [hlater'.expiresAt]
      exact hexpires
    · rw [hlater'.id]
      exact locks_exec hlock (hends tx rfl)
  | creating tx => exact Nat.lt_of_lt_of_le hok hnext
  | replacing tx => exact Nat.lt_of_lt_of_le hok hnext

end Frame

section Statements

variable {H : Hashing} {key : String → String} {s : Tenancy}

theorem lockable_spec {id tokenHash : String} {row : Invitation}
    (h : lockable H key s id tokenHash = some row) :
    row ∈ s.invitations ∧ key row.id = key id ∧ isPending row = true ∧ s.now < row.expiresAt := by
  have hmem := List.mem_of_find?_eq_some h
  have hprop := List.find?_some h
  simp only [Bool.and_eq_true, decide_eq_true_eq] at hprop
  exact ⟨hmem, hprop.1.1.1, hprop.1.2, hprop.2⟩

/-- The locks of a transaction that has ended are gone, those of the others are as they
were, and so are the rows they are on. -/
theorem Consistent.released (h : Consistent key s) (tx : Nat) (invitations : List Invitation)
    (hkept : ∀ row ∈ s.invitations, isPending row = true → (row.id, tx) ∉ s.locks →
      (∃ lock ∈ s.locks, lock.1 = row.id) → row ∈ invitations) :
    (∀ lock ∈ release tx s.locks, ∃ row ∈ invitations, row.id = lock.1 ∧ isPending row = true) ∧
      ∀ lock ∈ release tx s.locks, ∀ other ∈ release tx s.locks, lock.1 = other.1 →
        lock.2 = other.2 := by
  refine ⟨fun lock hlock => ?_, fun lock hlock other hother => ?_⟩
  · obtain ⟨hlock, htx⟩ := mem_release.mp hlock
    obtain ⟨row, hrow, hid, hpending⟩ := h.pending lock hlock
    refine ⟨row, hkept row hrow hpending (fun hmine => ?_) ⟨lock, hlock, hid.symm⟩, hid, hpending⟩
    exact htx (h.oneOwner lock hlock _ hmine hid.symm)
  · exact h.oneOwner lock (mem_release.mp hlock).1 other (mem_release.mp hother).1

theorem Consistent.asInvited_exec (h : Consistent key s) (H : Hashing) (op : InvitationOp) :
    ∀ user ∈ s.users, ∀ origin, user.origin = some origin →
      AsInvited (execInvitation H key op s) user origin :=
  fun user huser origin horigin =>
    (h.asInvited user huser origin horigin).carried (carried_exec h op)

theorem Consistent.replaced_updateWhere (h : Consistent key s) {p : Invitation → Bool}
    (change : Invitation → Invitation)
    (hchange : ∀ row, (change row).replaces = row.replaces ∧ (change row).id = row.id ∧
      (row.revokedAt.isSome = true → (change row).revokedAt.isSome = true)) :
    ∀ row ∈ updateWhere p change s.invitations, ∀ id ∈ row.replaces,
      ∃ old ∈ updateWhere p change s.invitations, old.id = id ∧ old.revokedAt.isSome = true := by
  refine forall_updateWhere ?_ fun row _ _ hrow => ?_
  · intro row hrow id hid
    obtain ⟨old, hold, rfl, hrevoked⟩ := h.replaced row hrow id hid
    refine ⟨_, mem_updateWhere.mpr ⟨old, hold, rfl⟩, ?_⟩
    split
    · exact ⟨(hchange old).2.1, (hchange old).2.2 hrevoked⟩
    · exact ⟨rfl, hrevoked⟩
  · rw [(hchange row).1]
    exact hrow

theorem mem_updateWhere_of_not {p : Invitation → Bool} {change : Invitation → Invitation}
    {rows : List Invitation} {row : Invitation} (hrow : row ∈ rows) (hp : p row = false) :
    row ∈ updateWhere p change rows :=
  mem_updateWhere.mpr ⟨row, hrow, by rw [hp, if_neg Bool.false_ne_true]⟩

theorem consistent_rollback (h : Consistent key s) (tx : Nat) :
    Consistent key { s with locks := release tx s.locks } := by
  obtain ⟨hpending, hone⟩ := h.released tx s.invitations fun row hrow _ _ _ => hrow
  exact ⟨h.distinct, hpending, hone, h.asInvited, h.once, h.replaced⟩

theorem consistent_lockInvitation (h : Consistent key s) {tx : Nat} {id tokenHash : String}
    (hproceeds : proceeds key (.lockInvitation tx id tokenHash) s = true) :
    Consistent key (execInvitation H key (.lockInvitation tx id tokenHash) s) := by
  simp only [proceeds, List.all_eq_true, Bool.or_eq_true, decide_eq_true_eq] at hproceeds
  simp only [execInvitation]
  split
  next row hlockable =>
    obtain ⟨hrow, hkey, hpending, -⟩ := lockable_spec hlockable
    have hown : ∀ lock ∈ s.locks, lock.1 = row.id → lock.2 = tx := by
      intro lock hlock hid
      exact (hproceeds lock hlock).resolve_left fun hne => hne (hid ▸ hkey)
    refine ⟨h.distinct, fun lock hlock => ?_, fun lock hlock other hother hid => ?_, h.asInvited,
      h.once, h.replaced⟩
    · obtain rfl | hlock := List.mem_cons.mp hlock
      · exact ⟨row, hrow, rfl, hpending⟩
      · exact h.pending lock hlock
    · obtain rfl | hlock := List.mem_cons.mp hlock
      · obtain rfl | hother := List.mem_cons.mp hother
        · rfl
        · exact (hown other hother hid.symm).symm
      · obtain rfl | hother := List.mem_cons.mp hother
        · exact hown lock hlock hid
        · exact h.oneOwner lock hlock other hother hid
  next => exact h

theorem consistent_lockPending (h : Consistent key s) {tx : Nat} {companyId email : String}
    (hproceeds : proceeds key (.lockPending tx companyId email) s = true) :
    Consistent key (execInvitation H key (.lockPending tx companyId email) s) := by
  simp only [proceeds, List.all_eq_true, Bool.or_eq_true, Bool.not_eq_true', decide_eq_true_eq]
    at hproceeds
  simp only [execInvitation]
  have hnew : ∀ {lock : String × Nat}, lock ∈ (s.invitations.filter
      (pendingFor key companyId email)).map (fun row => (row.id, tx)) →
        ∃ row ∈ s.invitations, pendingFor key companyId email row = true ∧ lock = (row.id, tx) := by
    intro lock hlock
    obtain ⟨row, hrow, rfl⟩ := List.mem_map.mp hlock
    exact ⟨row, (List.mem_filter.mp hrow).1, (List.mem_filter.mp hrow).2, rfl⟩
  have hown : ∀ row ∈ s.invitations, pendingFor key companyId email row = true →
      ∀ lock ∈ s.locks, lock.1 = row.id → lock.2 = tx := by
    intro row hrow hpending lock hlock hid
    obtain hnot | hall := hproceeds row hrow
    · exact absurd hpending (Bool.eq_false_iff.mp hnot)
    · exact (hall lock hlock).resolve_left fun hne => hne hid
  refine ⟨h.distinct, fun lock hlock => ?_, fun lock hlock other hother hid => ?_, h.asInvited,
    h.once, h.replaced⟩
  · obtain hlock | hlock := List.mem_append.mp hlock
    · obtain ⟨row, hrow, hpending, rfl⟩ := hnew hlock
      simp only [pendingFor, Bool.and_eq_true] at hpending
      exact ⟨row, hrow, rfl, hpending.2⟩
    · exact h.pending lock hlock
  · obtain hlock | hlock := List.mem_append.mp hlock
    · obtain ⟨row, hrow, hpending, rfl⟩ := hnew hlock
      obtain hother | hother := List.mem_append.mp hother
      · obtain ⟨-, -, -, rfl⟩ := hnew hother
        rfl
      · exact (hown row hrow hpending other hother hid.symm).symm
    · obtain hother | hother := List.mem_append.mp hother
      · obtain ⟨row, hrow, hpending, rfl⟩ := hnew hother
        exact hown row hrow hpending lock hlock hid
      · exact h.oneOwner lock hlock other hother hid

theorem consistent_revoke (h : Consistent key s) {id companyId : String}
    (hproceeds : proceeds key (.revoke id companyId) s = true) :
    Consistent key (execInvitation H key (.revoke id companyId) s) := by
  simp only [proceeds, List.all_eq_true, decide_eq_true_eq] at hproceeds
  refine ⟨h.distinct.updateWhere fun _ _ => rfl, fun lock hlock => ?_, h.oneOwner,
    h.asInvited_exec H _, h.once, h.replaced_updateWhere _ fun row => ⟨rfl, rfl, fun _ => rfl⟩⟩
  obtain ⟨row, hrow, hid, hpending⟩ := h.pending lock hlock
  refine ⟨row, mem_updateWhere_of_not hrow ?_, hid, hpending⟩
  rw [revocable, hid, decide_eq_false (hproceeds lock hlock)]
  rfl

theorem consistent_commitCreate (h : Consistent key s) (tx : Nat) (revokedAt : Int)
    (id companyId email : String) (role : InvitationRole) (tokenHash invitedById : String) :
    Consistent key (execInvitation H key
      (.commitCreate tx revokedAt id companyId email role tokenHash invitedById) s) := by
  have hasInvited := h.asInvited_exec H
    (.commitCreate tx revokedAt id companyId email role tokenHash invitedById)
  revert hasInvited
  simp only [execInvitation]
  split
  next => exact fun _ => consistent_rollback h tx
  next hrefused =>
    intro hasInvited
    have hfresh : ∀ row ∈ s.invitations, key row.id ≠ key id := by
      intro row hrow hkey
      refine hrefused (List.any_eq_true.mpr ⟨row, hrow, ?_⟩)
      rw [decide_eq_true hkey, Bool.true_or]
    have hkept : ∀ row ∈ s.invitations, (row.id, tx) ∉ s.locks → row ∈ updateWhere (lockedBy s tx)
        (fun row => { row with revokedAt := some revokedAt }) s.invitations := fun row hrow hfree =>
      mem_updateWhere_of_not hrow (Bool.eq_false_iff.mpr fun hlocked =>
        hfree (lockedBy_iff.mp hlocked))
    have hdistinct : Distinct (fun row : Invitation => key row.id) (updateWhere (lockedBy s tx)
        (fun row => { row with revokedAt := some revokedAt }) s.invitations) :=
      h.distinct.updateWhere fun _ _ => rfl
    obtain ⟨hpending, hone⟩ := h.released tx _ fun row hrow _ hfree _ =>
      List.mem_append_left [_] (hkept row hrow hfree)
    refine ⟨hdistinct.append ?_, hpending, hone, hasInvited, h.once,
      fun row hrow old hold => ?_⟩
    · exact forall_updateWhere hfresh fun row _ _ hne => hne
    · obtain hrow | hrow := List.mem_append.mp hrow
      · obtain ⟨row', hrow', hsame⟩ := h.replaced_updateWhere
          (fun row => { row with revokedAt := some revokedAt })
          (fun row => ⟨rfl, rfl, fun _ => rfl⟩) row hrow old hold
        exact ⟨row', List.mem_append_left _ hrow', hsame⟩
      · obtain rfl := List.mem_singleton.mp hrow
        obtain ⟨row', hrow', rfl⟩ := List.mem_map.mp hold
        obtain ⟨hrow', hlocked⟩ := List.mem_filter.mp hrow'
        refine ⟨_, List.mem_append_left _ (mem_updateWhere.mpr ⟨row', hrow', rfl⟩), ?_⟩
        rw [if_pos hlocked]
        exact ⟨rfl, rfl⟩

theorem mem_invitedBy {users : List User} {id : String} :
    id ∈ invitedBy users ↔ ∃ user ∈ users, ∃ origin, user.origin = some origin ∧
      origin.invitationId = id := by
  simp only [invitedBy, List.mem_filterMap, Option.map_eq_some_iff]

theorem consistent_commitAccept (h : Consistent key s) {tx : Nat} {acceptance : Acceptance}
    (hlocked : Locked s acceptance.invitation tx acceptance.lockedAt) :
    Consistent key (execInvitation H key (.commitAccept tx acceptance) s) := by
  have hasInvited := h.asInvited_exec H (.commitAccept tx acceptance)
  revert hasInvited
  simp only [execInvitation]
  split
  next => exact fun _ => consistent_rollback h tx
  next hrefused =>
    intro hasInvited
    obtain ⟨row, hrow, hlater, hexpires, hlock⟩ := hlocked
    have hrowPending := h.pending_of_lock hrow hlock
    have hkept : ∀ other ∈ s.invitations, (other.id, tx) ∉ s.locks → other ∈
        updateWhere (fun row => key row.id = key acceptance.invitation.id)
          (fun row => { row with acceptedAt := some s.now }) s.invitations := by
      refine fun other hother hfree => mem_updateWhere_of_not hother (decide_eq_false fun hkey => ?_)
      have heq := h.distinct.eq_of_key hother hrow (hkey.trans (congrArg key hlater.id.symm))
      exact hfree (heq ▸ hlock)
    obtain ⟨hpending, hone⟩ := h.released tx _ fun other hother _ hfree _ =>
      hkept other hother hfree
    refine ⟨h.distinct.updateWhere fun _ _ => rfl, hpending, hone, fun user huser origin horigin => ?_,
      ?_, h.replaced_updateWhere _ fun row => ⟨rfl, rfl, fun hrevoked => hrevoked⟩⟩
    · obtain huser | huser := List.mem_append.mp huser
      · exact hasInvited user huser origin horigin
      · obtain rfl := List.mem_singleton.mp huser
        obtain rfl := Option.some.inj horigin
        refine ⟨_, mem_updateWhere.mpr ⟨row, hrow, rfl⟩, ?_⟩
        rw [if_pos (decide_eq_true (congrArg key hlater.id))]
        exact ⟨hlater.id, hlater.email.symm, hlater.role.symm, hlater.companyId.symm, rfl,
          (isPending_iff.mp hrowPending).2, hexpires⟩
    · have hnot : acceptance.invitation.id ∉ invitedBy s.users := by
        intro hmem
        obtain ⟨user, huser, origin, horigin, hid⟩ := mem_invitedBy.mp hmem
        obtain ⟨row', hrow', hid', -, -, -, haccepted, -⟩ := h.asInvited user huser origin horigin
        have heq := h.eq_of_id hrow' hrow (hid'.trans (hid.trans hlater.id.symm))
        exact absurd (heq ▸ haccepted) (Bool.eq_false_iff.mp (not_accepted_of_pending hrowPending))
      rw [invitedBy, List.filterMap_append]
      refine List.nodup_append.mpr ⟨h.once, List.nodup_singleton _, fun a ha b hb heq => ?_⟩
      have hid : a = acceptance.invitation.id := heq.trans (List.mem_singleton.mp hb)
      exact hnot (hid ▸ ha)

end Statements

section Moves

variable {H : Hashing} {key : String → String} {s : Tenancy}

theorem locked_of_advance {phase phase' : Phase} {tx : Nat} {acceptance : Acceptance}
    (hok : phase.Ok s) (h : advance H key phase (.commitAccept tx acceptance) s = some phase') :
    Locked s acceptance.invitation tx acceptance.lockedAt := by
  cases phase with
  | holding invitation tx' lockedAt =>
    obtain ⟨⟨rfl, rfl, rfl⟩, -⟩ := Option.ite_none_right_eq_some.mp h
    exact hok.2
  | _ => cases h

theorem consistent_exec (hbase : Consistent key s) {op : InvitationOp}
    (hproceeds : proceeds key op s = true) {phase phase' : Phase} (hok : phase.Ok s)
    (h : advance H key phase op s = some phase') : Consistent key (execInvitation H key op s) := by
  cases op with
  | read | findActive => exact hbase
  | begin =>
    exact ⟨hbase.distinct, hbase.pending, hbase.oneOwner, hbase.asInvited, hbase.once,
      hbase.replaced⟩
  | lockInvitation => exact consistent_lockInvitation hbase hproceeds
  | commitAccept => exact consistent_commitAccept hbase (locked_of_advance hok h)
  | rollback tx => exact consistent_rollback hbase tx
  | lockPending => exact consistent_lockPending hbase hproceeds
  | commitCreate => exact consistent_commitCreate hbase _ _ _ _ _ _ _ _
  | revoke => exact consistent_revoke hbase hproceeds

theorem findActive_spec {token : String} {row : Invitation}
    (h : findActive H key s token = some row) : Stored s row :=
  ⟨row, List.mem_of_find?_eq_some h, Later.refl row⟩

theorem locked_of_lockable (hbase : Consistent key s) {invitation : Invitation} {tx : Nat}
    {tokenHash : String} (hstored : Stored s invitation)
    (h : (lockable H key s invitation.id tokenHash).isSome = true) :
    Locked (execInvitation H key (.lockInvitation tx invitation.id tokenHash) s) invitation tx
      s.now := by
  obtain ⟨row, hlockable⟩ := Option.isSome_iff_exists.mp h
  obtain ⟨hrow, hkey, -, hexpires⟩ := lockable_spec hlockable
  obtain ⟨row', hrow', hlater⟩ := hstored
  obtain rfl := hbase.distinct.eq_of_key hrow hrow' (hkey.trans (congrArg key hlater.id.symm))
  simp only [execInvitation, hlockable]
  exact ⟨row, hrow, hlater, hexpires, List.mem_cons_self⟩

theorem ok_advance (hbase : Consistent key s) {op : InvitationOp} {phase phase' : Phase}
    (hok : phase.Ok s) (h : advance H key phase op s = some phase') :
    phase'.Ok (execInvitation H key op s) := by
  have hnext := @nextTx_exec H key op s
  cases op with
  | read =>
    cases phase with
    | outside | holding =>
      obtain rfl := Option.some.inj h
      exact hok
    | _ => cases h
  | findActive token =>
    cases phase with
    | outside =>
      simp only [advance] at h
      split at h
      next hfound =>
        obtain rfl := Option.some.inj h
        exact findActive_spec hfound
      next =>
        obtain rfl := Option.some.inj h
        trivial
    | _ => cases h
  | begin =>
    cases phase with
    | outside =>
      obtain rfl := Option.some.inj h
      exact Nat.lt_succ_self _
    | knows invitation =>
      obtain rfl := Option.some.inj h
      exact ⟨Nat.lt_succ_self _, hok⟩
    | _ => cases h
  | lockInvitation tx id tokenHash =>
    cases phase with
    | accepting invitation tx' =>
      obtain ⟨⟨rfl, rfl⟩, h⟩ := Option.ite_none_right_eq_some.mp h
      split at h
      next hlockable =>
        obtain rfl := Option.some.inj h
        exact ⟨Nat.lt_of_lt_of_le hok.1 hnext, locked_of_lockable hbase hok.2 hlockable⟩
      next =>
        obtain rfl := Option.some.inj h
        exact ⟨Nat.lt_of_lt_of_le hok.1 hnext, hok.2.carried (carried_exec hbase _)⟩
    | _ => cases h
  | lockPending tx companyId email =>
    cases phase with
    | creating tx' =>
      obtain ⟨rfl, h⟩ := Option.ite_none_right_eq_some.mp h
      obtain rfl := Option.some.inj h
      exact hok
    | _ => cases h
  | commitAccept | rollback | commitCreate =>
    -- the transaction is over
    cases phase <;> first
      | cases h
      | (obtain ⟨-, h⟩ := Option.ite_none_right_eq_some.mp h
         obtain rfl := Option.some.inj h
         trivial)
  | revoke id companyId =>
    cases phase with
    | outside =>
      obtain rfl := Option.some.inj h
      trivial
    | _ => cases h

theorem frame_advance (hbase : Consistent key s) {op : InvitationOp} {phase phase' other : Phase}
    (h : advance H key phase op s = some phase') (hother : other.Ok s) (hapart : phase.Apart other) :
    other.Ok (execInvitation H key op s) ∧ phase'.Apart other := by
  refine ⟨ok_other hbase hother fun tx htx hends => ?_, fun tx htx htx' => ?_⟩
  · obtain hnone | hmine := endsTx_of_advance h
    · cases hnone.symm.trans hends
    · exact hapart tx (hmine.symm.trans hends) htx
  · obtain hnone | hsame | hnew := tx_of_advance h
    · cases hnone.symm.trans htx
    · exact hapart tx (hsame.symm.trans htx) htx'
    · obtain rfl := Option.some.inj (hnew.symm.trans htx)
      exact Nat.lt_irrefl _ (tx_lt_of_ok hother htx')

end Moves

section Handlers

variable {H : Hashing} {T : Letters} {key : String → String}

def Follows (H : Hashing) (key : String → String) (p : InvitationProgram) (phase : Phase) : Prop :=
  p.Conforms (fun op s => proceeds key op s = true) (advance H key) (fun _ => True) phase

theorem follows_done {phase : Phase} : Follows H key .done phase :=
  trivial

theorem follows_fail {phase : Phase} : Follows H key .fail phase :=
  trivial

theorem follows_step {op : InvitationOp} {next : Tenancy → InvitationProgram} {phase : Phase}
    (phase' : Tenancy → Phase) (hadvance : ∀ s, advance H key phase op s = some (phase' s))
    (hnext : ∀ s, Follows H key (next s) (phase' s)) : Follows H key (.step op next) phase :=
  Prog.conforms_step phase' (fun s _ => hadvance s) fun s _ => hnext s

theorem afterwards_follows {fault : Fault} : Follows H key (afterwards fault) .outside := by
  refine follows_step (fun _ => .outside) (fun _ => rfl) fun s => ?_
  split
  · exact follows_fail
  · exact follows_done

theorem rollback_follows {tx : Nat} {phase : Phase}
    (h : ∀ s, advance H key phase (.rollback tx) s = some .outside) :
    Follows H key (.step (.rollback tx) fun _ => .fail) phase :=
  follows_step (fun _ => .outside) h fun _ => follows_fail

theorem create_follows (id token companyId actorId email : String) (role : Option InvitationRole)
    (fault : Fault) :
    Follows H key (create H T key id token companyId actorId email role fault) .outside := by
  refine follows_step (fun _ => .outside) (fun _ => rfl) fun s => ?_
  split
  · exact follows_fail
  · refine follows_step (fun _ => .outside) (fun _ => rfl) fun s' => ?_
    split
    · exact follows_fail
    · refine follows_step (fun s₁ => .creating s₁.nextTx) (fun _ => rfl) fun s₁ => ?_
      refine follows_step (fun _ => .replacing s₁.nextTx) (fun _ => if_pos rfl) fun s₂ => ?_
      split
      · exact rollback_follows fun _ => if_pos rfl
      · refine follows_step (fun _ => .outside) (fun _ => if_pos rfl) fun s₃ => ?_
        split
        · exact follows_fail
        · exact afterwards_follows

theorem revoke_follows (id companyId : String) (fault : Fault) :
    Follows H key (revoke key id companyId fault) .outside := by
  refine follows_step (fun _ => .outside) (fun _ => rfl) fun s => ?_
  split
  · exact afterwards_follows
  · exact follows_fail

theorem accept_follows (token : String) (dto : AcceptTenantInvitationDto) (context : RequestContext) (drawn : Drawn) (fault : Fault) :
    Follows H key (accept H T key token dto context drawn fault) .outside := by
  refine follows_step
    (fun s => ((findActive H key s token).map Phase.knows).getD .outside) (fun s => ?_) fun s => ?_
  · simp only [advance]
    split
    next hfound => rw [hfound]; rfl
    next hnone => rw [hnone]; rfl
  · split
    next => exact follows_fail
    next invitation hfound =>
      rw [hfound]
      split
      · exact follows_fail
      split
      · exact follows_fail
      refine follows_step (fun s₁ => .accepting invitation s₁.nextTx) (fun _ => rfl) fun s₁ => ?_
      refine follows_step
        (fun s₂ => if (lockable H key s₂ invitation.id (hashCredential H token)).isSome then
          .holding invitation s₁.nextTx s₂.now else .accepting invitation s₁.nextTx)
        (fun s₂ => ?_) fun s₂ => ?_
      · simp only [advance, and_self, if_true]
        split <;> rfl
      · split
        next hnone =>
          rw [if_neg (by rw [Option.isNone_iff_eq_none.mp hnone]; exact Bool.false_ne_true)]
          exact rollback_follows fun _ => if_pos rfl
        next hsome =>
          rw [if_pos (Option.isSome_iff_ne_none.mpr fun hnone => hsome (by rw [hnone]; rfl))]
          refine follows_step (fun _ => .holding invitation s₁.nextTx s₂.now) (fun _ => rfl)
            fun s₃ => ?_
          split
          · exact rollback_follows fun _ => if_pos rfl
          · refine follows_step (fun _ => .outside) (fun _ => if_pos ⟨rfl, rfl, rfl⟩) fun s₄ => ?_
            split
            · exact follows_fail
            · exact afterwards_follows

theorem handler_follows (call : InvitationCall) : Follows H key (call.handler H T key) .outside := by
  cases call with
  | create id token companyId actorId email role fault =>
    exact create_follows id token companyId actorId email role fault
  | revoke id companyId fault => exact revoke_follows id companyId fault
  | accept token dto context drawn fault =>
    exact accept_follows token dto context drawn fault

theorem invitations_separate :
    Separate (invitationSystem H T key) (fun op s => proceeds key op s = true) (advance H key)
      (fun _ => True) .outside (Consistent key) (fun s phase => phase.Ok s) Phase.Apart where
  handler _ call _ := handler_follows call
  symm h tx htx htx' := h tx htx' htx
  apart other tx _ htx := nomatch htx
  start _ _ := trivial
  exec _ _ _ _ hbase hproceeds hok hadvance :=
    ⟨consistent_exec hbase hproceeds hok hadvance, ok_advance hbase hok hadvance⟩
  frame _ _ _ _ _ hbase _ _ hadvance hother hapart := frame_advance hbase hadvance hother hapart
  tick s hbase :=
    ⟨⟨hbase.distinct, hbase.pending, hbase.oneOwner, hbase.asInvited, hbase.once, hbase.replaced⟩,
      fun phase hok => by cases phase <;> exact hok⟩

end Handlers

section Throwing

variable {H : Hashing} {T : Letters} {key : String → String}

/-- Users, consents and invitations are as they were. -/
structure SameRecords (s s' : Tenancy) : Prop where
  users : s'.users = s.users
  consents : s'.consents = s.consents
  invitations : s'.invitations = s.invitations

theorem SameRecords.refl (s : Tenancy) : SameRecords s s :=
  ⟨rfl, rfl, rfl⟩

theorem sameRecords_lockInvitation (tx : Nat) (id tokenHash : String) (s : Tenancy) :
    SameRecords s (execInvitation H key (.lockInvitation tx id tokenHash) s) := by
  simp only [execInvitation]
  split
  · exact ⟨rfl, rfl, rfl⟩
  · exact .refl s

theorem sameRecords_refused {tx : Nat} {acceptance : Acceptance} {s : Tenancy}
    (h : acceptance.refused key s = true) :
    SameRecords s (execInvitation H key (.commitAccept tx acceptance) s) := by
  simp only [execInvitation, if_pos h]
  exact ⟨rfl, rfl, rfl⟩

theorem rollback_clean {tx : Nat} :
    (Prog.step (.rollback tx) fun _ => .fail : InvitationProgram).Clean (execInvitation H key)
      SameRecords :=
  Prog.clean_step (fun _ => ⟨rfl, rfl, rfl⟩) fun _ => trivial

theorem accept_clean (token : String) (dto : AcceptTenantInvitationDto) (context : RequestContext) (drawn : Drawn) {fault : Fault}
    (hfault : fault ≠ .after) :
    (accept H T key token dto context drawn fault).Clean (execInvitation H key)
      SameRecords := by
  refine Prog.clean_step (fun s => .refl s) fun s => ?_
  split
  · trivial
  split
  · trivial
  split
  · trivial
  refine Prog.clean_step (fun s₁ => ⟨rfl, rfl, rfl⟩) fun s₁ => ?_
  refine Prog.clean_step (sameRecords_lockInvitation _ _ _) fun s₂ => ?_
  split
  · exact rollback_clean
  refine Prog.clean_step (fun s => .refl s) fun s₃ => ?_
  split
  · exact rollback_clean
  intro s₄
  beta_reduce
  split
  next hrefused => exact .inr ⟨sameRecords_refused hrefused, trivial⟩
  next =>
    refine .inl fun s₅ => ?_
    rw [if_neg hfault]
    trivial

end Throwing

section Laws

variable (H : Hashing) (T : Letters) (key : String → String)

/-- What holds of the invitations and of the users they brought. -/
structure InvitationLaw (s : Tenancy) : Prop where
  once : ∀ id, (invitedBy s.users).count id ≤ 1
  asInvited : ∀ user ∈ s.users, ∀ origin, user.origin = some origin → AsInvited s user origin
  notReplaced : ∀ row ∈ s.invitations, ∀ id ∈ row.replaces, id ∉ invitedBy s.users

/-- Any invitations, with keys of their own, before the first call. -/
structure Opening (s : Tenancy) : Prop where
  distinct : Distinct (fun row : Invitation => key row.id) s.invitations
  unlocked : s.locks = []
  noOrigin : ∀ user ∈ s.users, user.origin = none
  noReplaced : ∀ row ∈ s.invitations, row.replaces = []

/-- Every write of an acceptance that has thrown was without effect, unless only the
entry in the audit log was missing. -/
def AcceptThrowsClean (c : Config Tenancy InvitationOp) : Prop :=
  ∀ (token : String) (dto : AcceptTenantInvitationDto) (context : RequestContext) (drawn : Drawn) (fault : Fault)
    (a b : Config Tenancy InvitationOp) (i : Nat) (op : InvitationOp)
    (next : Tenancy → InvitationProgram),
    fault ≠ .after →
    a.threads[i]? = some (accept H T key token dto context drawn fault) →
    (invitationSystem H T key).Run (fun op s => proceeds key op s = true) a b →
    b.threads[i]? = some (.step op next) →
    (invitationSystem H T key).Run (fun op s => proceeds key op s = true)
      ⟨execInvitation H key op b.shared, b.threads.set i (next b.shared)⟩ c →
    c.threads[i]? = some .fail → SameRecords b.shared (execInvitation H key op b.shared)

variable {H T key}

theorem Opening.consistent {s : Tenancy} (h : Opening key s) : Consistent key s where
  distinct := h.distinct
  pending lock hlock := by
    rw [h.unlocked] at hlock
    exact absurd hlock List.not_mem_nil
  oneOwner lock hlock := by
    rw [h.unlocked] at hlock
    exact absurd hlock List.not_mem_nil
  asInvited user huser origin horigin := by
    rw [h.noOrigin user huser] at horigin
    cases horigin
  once := by
    have hnone : invitedBy s.users = [] := by
      refine List.filterMap_eq_nil_iff.mpr fun user huser => ?_
      rw [h.noOrigin user huser]
      rfl
    rw [hnone]
    exact List.nodup_nil
  replaced row hrow id hid := by
    rw [h.noReplaced row hrow] at hid
    exact absurd hid List.not_mem_nil

theorem Consistent.law {s : Tenancy} (h : Consistent key s) : InvitationLaw s where
  once := List.nodup_iff_count_le_one.mp h.once
  asInvited := h.asInvited
  notReplaced row hrow id hid hmem := by
    obtain ⟨old, hold, rfl, hrevoked⟩ := h.replaced row hrow id hid
    obtain ⟨user, huser, origin, horigin, hinvitation⟩ := mem_invitedBy.mp hmem
    obtain ⟨row', hrow', hid', -, -, -, -, hnone, -⟩ := h.asInvited user huser origin horigin
    obtain rfl := h.eq_of_id hrow' hold (hid'.trans hinvitation)
    rw [hnone] at hrevoked
    cases hrevoked

/-- In every run an invitation brings at most one user, the one that was invited, and
none once it is revoked, replaced or expired; and an acceptance that throws has changed
nothing, unless it was the audit log that failed it in the end. -/
theorem invitations_bring_whom_they_invite {c₀ c : Config Tenancy InvitationOp}
    (hidle : c₀.threads = []) (hstart : Opening key c₀.shared)
    (hrun : (invitationSystem H T key).Run (fun op s => proceeds key op s = true) c₀ c) :
    InvitationLaw c.shared ∧ AcceptThrowsClean H T key c :=
  ⟨(invitations_separate.run hidle hrun hstart.consistent).law,
    fun token dto context drawn _ _ _ _ _ _ hfault hstarted hbefore hthread hrest
      hfail => hbefore.same_of_fail
        (accept_clean token dto context drawn hfault) hstarted hthread hrest hfail⟩

end Laws

section Samples

open CredentialLookup

def sampleLetters : Letters where
  nfkc text := text
  toLowerCase := lowerCased

def sampleTenancy : Tenancy where
  invitations := []
  users := []
  consents := []
  companies := [⟨"acme", true⟩]
  locks := []
  nextTx := 1
  now := 1700000000000

def sampleInvite (id token : String) : InvitationCall :=
  .create id token "acme" "user-1" " Ana@acme.example" (some .technician) .none

def sampleDto : AcceptTenantInvitationDto where
  firstName := "Ana"
  lastName := "Ruiz"
  password := "rain over seven hills"
  termsAccepted := true
  termsVersion := termsVersion
  privacyVersion := privacyVersion

def sampleAccept (token userId : String) (fault : Fault) : InvitationCall :=
  .accept token sampleDto ⟨none, none⟩ ⟨userId, userId ++ "-consent", "$2a$12$"⟩ fault

def brought (s : Tenancy) : List (String × Option String) :=
  s.users.map fun user => (user.email, user.origin.map (·.invitationId))

/-- The second invitation replaces the first, and of two acceptances that find it one
waits until the other has committed. -/
theorem invitations_bring_whom_they_invite_once :
    ∃ c : Config Tenancy InvitationOp,
      brought c.shared = [("ana@acme.example", some "invitation-2")] ∧
      InvitationLaw c.shared ∧ AcceptThrowsClean sampleHashing sampleLetters id c := by
  have hplay : ((invitationSystem sampleHashing sampleLetters id).play (fun _ _ => true)
      (proceeds id) ⟨sampleTenancy, []⟩
      [.start (sampleInvite "invitation-1" "token-1"), .run 0, .run 0, .run 0, .run 0, .run 0,
        .start (sampleAccept "token-1" "user-2" .none), .run 1,
        .start (sampleInvite "invitation-2" "token-2"), .run 2, .run 2, .run 2, .run 2, .run 2,
        .run 1, .run 1, .run 1,
        .start (sampleAccept "token-2" "user-3" .none),
        .start (sampleAccept "token-2" "user-4" .none), .run 3, .run 4, .run 3, .run 4, .run 4,
        .run 4, .run 4, .run 3, .run 3]).any (fun c =>
          decide (brought c.shared = [("ana@acme.example", some "invitation-2")])) = true := by
    decide
  obtain ⟨c, hrun, hcheck⟩ := System.exists_run_of_play (fun _ _ _ => trivial) (fun _ _ h => h) hplay
  have hstart : Opening id sampleTenancy := by
    refine ⟨List.nodup_nil, rfl, ?_, ?_⟩ <;> simp [sampleTenancy]
  exact ⟨c, of_decide_eq_true hcheck, invitations_bring_whom_they_invite rfl hstart hrun⟩

def sampleInvitation : Invitation where
  id := "invitation-1"
  companyId := "acme"
  email := "ana@acme.example"
  role := .technician
  tokenHash := hashCredential sampleHashing "token-1"
  invitedById := "user-1"
  expiresAt := 1700604800000
  acceptedAt := none
  revokedAt := none
  createdAt := 1700000000000
  replaces := []

def sampleInvited : Tenancy :=
  { sampleTenancy with invitations := [sampleInvitation] }

/-- The audit log does not take the entry, and the call throws; the user stays. -/
theorem accept_throws_after_commit : ∃ c : Config Tenancy InvitationOp,
    (invitationSystem sampleHashing sampleLetters id).Run (fun op s => proceeds id op s = true)
      ⟨sampleInvited,
        [(sampleAccept "token-1" "user-2" .after).handler sampleHashing sampleLetters id]⟩ c ∧
    c.threads.length = 1 ∧
    (∀ p ∈ c.threads, p.finished = true ∧
      System.throws (invitationSystem sampleHashing sampleLetters id) p c.shared = true) ∧
    ¬ SameRecords sampleInvited c.shared := by
  have hplay : ((invitationSystem sampleHashing sampleLetters id).play (fun _ _ => true)
      (proceeds id)
      ⟨sampleInvited,
        [(sampleAccept "token-1" "user-2" .after).handler sampleHashing sampleLetters id]⟩
      [.run 0, .run 0, .run 0, .run 0, .run 0, .run 0]).any (fun c =>
        decide (c.threads.length = 1) && (c.threads.all fun p => p.finished &&
          System.throws (invitationSystem sampleHashing sampleLetters id) p c.shared) &&
            decide (c.shared.users ≠ [])) = true := by
    decide
  obtain ⟨c, hrun, hcheck⟩ := System.exists_run_of_play (fun _ _ _ => trivial) (fun _ _ h => h) hplay
  simp only [Bool.and_eq_true, List.all_eq_true, decide_eq_true_eq] at hcheck
  exact ⟨c, hrun, hcheck.1.1, hcheck.1.2, fun hsame => hcheck.2 hsame.users⟩

end Samples
end FieldserviceIT.Admin.Invitations
