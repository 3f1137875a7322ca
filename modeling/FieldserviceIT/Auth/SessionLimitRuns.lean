import Mathlib.Data.List.Sort
import FieldserviceIT.Lib.Interleaving
import FieldserviceIT.Lib.Protocols
import FieldserviceIT.Lib.Recency
import FieldserviceIT.Lib.Tables

/-!
The sessions that logins create, and how each login ends those beyond the limit: it reads which
sessions are active, and ends what is stale of them with another statement. The times of a session
are those of the process, taken before the row is inserted. Tokens are left out, and the policy is
not changed meanwhile. A statement that fails ends its program, which is then one that is not
advanced any further.
-/

namespace FieldserviceIT.Auth.SessionLimit

open Lib Recency

/-- The ids count the rows. -/
structure Session where
  id : Nat
  userId : String
  createdAt : Int
  lastSeenAt : Option Int
  expiresAt : Int
  revokedAt : Option Int

structure SecurityPolicy where
  sessionLifetimeDays : Option Nat
  maxActiveSessions : Option Nat

/-- The policy, and the order in which sessions are listed, the last seen first. -/
structure SessionPlatform where
  policy : Option SecurityPolicy
  lastSeenFirst : List Session → List Session
  lastSeenFirst_perm : ∀ rows, (lastSeenFirst rows).Perm rows
  lastSeenFirst_sorted : ∀ rows, (lastSeenFirst rows).Pairwise fun row next =>
    next.lastSeenAt.getD next.createdAt ≤ row.lastSeenAt.getD row.createdAt

structure SessionStore where
  sessions : List Session
  now : Int

/-- `Math.min(Math.max(Number(value || fallback), 1), most)` -/
def clamped (value : Option Nat) (fallback most : Nat) : Nat :=
  let number := match value with
    | none | some 0 => fallback
    | some number => number
  if most < number then most else number

section Policy

variable (P : SessionPlatform)

def SessionPlatform.sessionLifetimeDays : Nat :=
  clamped (P.policy.bind SecurityPolicy.sessionLifetimeDays) 7 30

def SessionPlatform.maxActiveSessions : Nat :=
  clamped (P.policy.bind SecurityPolicy.maxActiveSessions) 10 50

def SessionPlatform.lifetime : Int :=
  P.sessionLifetimeDays * 24 * 60 * 60 * 1000

end Policy

inductive SessionOp where
  | read
  | createSession (userId : String) (startedAt expiresAt : Int)
  | revokeSessions (keepSessionId : Nat) (stale : List Nat)

abbrev SessionProgram := Prog SessionStore SessionOp

section Statements

/-- `COALESCE(lastSeenAt, createdAt)` -/
def Session.seenAt (session : Session) : Int :=
  session.lastSeenAt.getD session.createdAt

def isActive (userId : String) (s : SessionStore) (session : Session) : Bool :=
  session.userId = userId && session.revokedAt.isNone && s.now < session.expiresAt

def activeSessions (userId : String) (s : SessionStore) : List Session :=
  s.sessions.filter (isActive userId s)

def newSession (id : Nat) (userId : String) (startedAt expiresAt : Int) : Session where
  id := id
  userId := userId
  createdAt := startedAt
  lastSeenAt := some startedAt
  expiresAt := expiresAt
  revokedAt := none

def execSession (op : SessionOp) (s : SessionStore) : SessionStore :=
  match op with
  | .read => s
  | .createSession userId startedAt expiresAt =>
    { s with
      sessions := s.sessions ++ [newSession s.sessions.length userId startedAt expiresAt] }
  | .revokeSessions _ stale =>
    { s with
      sessions := updateWhere (fun row => stale.contains row.id)
        (fun row => { row with revokedAt := some s.now }) s.sessions }

end Statements

section Programs

variable (P : SessionPlatform)

/-- `rows.slice(maxActiveSessions).filter((row) => row.id !== keepSessionId)` -/
def staleSessions (userId : String) (keepSessionId : Nat) (s : SessionStore) : List Nat :=
  (((P.lastSeenFirst (activeSessions userId s)).drop P.maxActiveSessions).map Session.id).filter
    fun id => id ≠ keepSessionId

def trimSessions (userId : String) (keepSessionId : Nat) : SessionProgram :=
  .step .read fun s =>
    if (staleSessions P userId keepSessionId s).isEmpty then .done
    else
      .step (.revokeSessions keepSessionId (staleSessions P userId keepSessionId s)) fun _ => .done

/-- The policy is read; both times are taken; the session is created and read back. -/
def generateTokens (userId : String) : SessionProgram :=
  .step .read fun s =>
    .step (.createSession userId s.now (s.now + P.lifetime)) fun s =>
      .step .read fun _ => trimSessions P userId s.sessions.length

def sessionSystem : System SessionStore SessionOp String where
  exec := execSession
  tick s :=
    { s with
      now := s.now + 1 }
  handler := generateTokens P
  sendable _ _ := True

end Programs

/-!
When all logins have finished. A session that is crowded out is left to a login that has still to
read the sessions, unless it is this login's own, or that has read it as stale. Nobody is left to a
session that was crowded out when it was created.
-/

section Law

variable (P : SessionPlatform)

/-- There are no more active sessions than may be, and they are later than all that were ended
before their time. -/
structure SessionLaw (userId : String) (s : SessionStore) : Prop where
  bounded : (activeSessions userId s).length ≤ P.maxActiveSessions
  recent : ∀ ended ∈ s.sessions, ended.userId = userId → ended.revokedAt.isSome = true →
    s.now < ended.expiresAt → ∀ active ∈ activeSessions userId s, ended.seenAt < active.seenAt

def IsCrowdedOut (userId : String) (startedAt : Int) (s : SessionStore) : Prop :=
  CrowdedOut Session.seenAt P.maxActiveSessions (activeSessions userId s) startedAt

/-- A session that is created is one of the latest, and no active one is of the same time. -/
def InTurn (op : SessionOp) (s : SessionStore) : Prop :=
  match op with
  | .createSession userId startedAt _ =>
    (∀ session ∈ activeSessions userId s, session.seenAt ≠ startedAt) ∧
      ¬IsCrowdedOut P userId startedAt s
  | .read | .revokeSessions _ _ => True

def SparesOwn : SessionOp → Prop
  | .revokeSessions keepSessionId stale => keepSessionId ∉ stale
  | .read | .createSession _ _ _ => True

end Law

section Actives

variable {s : SessionStore} {userId : String} {session : Session} {startedAt expiresAt : Int}
  {stale : List Nat} {keep : Nat}

theorem mem_activeSessions : session ∈ activeSessions userId s ↔ session ∈ s.sessions ∧
    session.userId = userId ∧ session.revokedAt.isNone = true ∧ s.now < session.expiresAt := by
  rw [activeSessions, List.mem_filter, isActive]
  simp only [Bool.and_eq_true, decide_eq_true_eq, and_assoc]

theorem activeSessions_revoke : activeSessions userId (execSession (.revokeSessions keep stale) s) =
    (activeSessions userId s).filter fun session => !stale.contains session.id := by
  rw [activeSessions, execSession]
  refine filter_updateWhere (fun row => ?_) s.sessions
  simp [isActive]

theorem activeSessions_create (other userId : String) (startedAt expiresAt : Int)
    (s : SessionStore) : activeSessions other
      (execSession (.createSession userId startedAt expiresAt) s) = activeSessions other s ++
        if other = userId ∧ s.now < expiresAt then
          [newSession s.sessions.length userId startedAt expiresAt]
        else [] := by
  change (s.sessions ++ [newSession s.sessions.length userId startedAt expiresAt]).filter
    (isActive other s) = _
  rw [List.filter_append, activeSessions]
  congr 1
  rw [List.filter_cons, List.filter_nil]
  have hactive : isActive other s (newSession s.sessions.length userId startedAt expiresAt) =
      decide (other = userId ∧ s.now < expiresAt) := by
    rw [Bool.eq_iff_iff, decide_eq_true_eq, isActive, newSession]
    simp only [Option.isNone_none, Bool.and_true, Bool.and_eq_true, decide_eq_true_eq]
    rw [eq_comm]
  rw [hactive]
  simp only [decide_eq_true_eq]

theorem activeSessions_sublist_create (other userId : String) (startedAt expiresAt : Int)
    (s : SessionStore) : (activeSessions other s).Sublist
      (activeSessions other (execSession (.createSession userId startedAt expiresAt) s)) := by
  rw [activeSessions_create]
  exact List.sublist_append_left _ _

theorem activeSessions_tick_sublist (userId : String) (s : SessionStore) :
    (activeSessions userId { s with now := s.now + 1 }).Sublist (activeSessions userId s) := by
  refine List.monotone_filter_right _ fun session hactive => ?_
  simp only [isActive, Bool.and_eq_true, decide_eq_true_eq] at hactive ⊢
  exact ⟨hactive.1, (Int.lt_succ _).trans hactive.2⟩

end Actives

section Invariant

variable (P : SessionPlatform)

/-- Of the sessions there are, those that were ended before their time are crowded out. -/
structure Kept (s : SessionStore) : Prop where
  distinct : Distinct Session.id s.sessions
  below : ∀ session ∈ s.sessions, session.id < s.sessions.length
  apart : ∀ userId, Distinct Session.seenAt (activeSessions userId s)
  expiry : ∀ session ∈ s.sessions, session.expiresAt = session.seenAt + P.lifetime
  ended : ∀ session ∈ s.sessions, session.revokedAt.isSome = true → s.now < session.expiresAt →
    IsCrowdedOut P session.userId session.seenAt s

inductive Phase where
  | starting
  | created (userId : String) (sessionId : Nat)
  | reading (userId : String) (sessionId : Nat)
  | trimming (stale : List Nat)
  | ended

/-- What is stale is crowded out. -/
structure Stale (s : SessionStore) (stale : List Nat) : Prop where
  below : ∀ id ∈ stale, id < s.sessions.length
  crowded : ∀ session ∈ s.sessions, session.id ∈ stale → s.now < session.expiresAt →
    IsCrowdedOut P session.userId session.seenAt s

def Fits (s : SessionStore) : Phase → Prop
  | .trimming stale => Stale P s stale
  | .starting | .created _ _ | .reading _ _ | .ended => True

def Phase.owns : Phase → String × Nat → Prop
  | .created userId sessionId, x | .reading userId sessionId, x => x.1 = userId ∧ x.2 ≠ sessionId
  | .trimming stale, x => x.2 ∈ stale
  | .starting, _ | .ended, _ => False

def Unfinished (s : SessionStore) (x : String × Nat) : Prop :=
  ∃ session ∈ activeSessions x.1 s, session.id = x.2 ∧ IsCrowdedOut P x.1 session.seenAt s

def trimming (phase : Phase) (op : SessionOp) (s : SessionStore) : Option Phase :=
  match phase, op with
  | .starting, .read => some .starting
  | .starting, .createSession userId startedAt expiresAt =>
    if expiresAt = startedAt + P.lifetime then some (.created userId s.sessions.length) else none
  | .created userId sessionId, .read => some (.reading userId sessionId)
  | .reading userId sessionId, .read => some (.trimming (staleSessions P userId sessionId s))
  | .trimming stale, .revokeSessions _ stale' => if stale' = stale then some .ended else none
  | _, _ => none

variable {P} {s : SessionStore} {userId : String}

theorem kept_fresh {s : SessionStore} (h : s.sessions = []) : Kept P s := by
  have hnone : ∀ userId, activeSessions userId s = [] := by
    intro userId
    rw [activeSessions, h]
    rfl
  refine ⟨?_, ?_, fun userId => ?_, ?_, ?_⟩
  · rw [Distinct, h]
    exact List.nodup_nil
  · simp [h]
  · rw [Distinct, hnone]
    exact List.nodup_nil
  · simp [h]
  · simp [h]

theorem IsCrowdedOut.tick (hexpiry : ∀ session ∈ s.sessions,
    session.expiresAt = session.seenAt + P.lifetime) {startedAt : Int}
    (hlast : s.now + 1 < startedAt + P.lifetime) (h : IsCrowdedOut P userId startedAt s) :
    IsCrowdedOut P userId startedAt { s with now := s.now + 1 } := by
  refine h.trans (Nat.le_of_eq (congrArg List.length ?_))
  rw [later, later, activeSessions, activeSessions, List.filter_filter, List.filter_filter]
  refine List.filter_congr fun session hsession => ?_
  have hexpires := hexpiry session hsession
  rw [Bool.eq_iff_iff]
  simp only [isActive, Bool.and_eq_true, decide_eq_true_eq]
  constructor
  · rintro ⟨hlater, hown, -⟩
    exact ⟨hlater, hown, by omega⟩
  · rintro ⟨hlater, hown, -⟩
    exact ⟨hlater, hown, by omega⟩

end Invariant

section Steps

variable {P : SessionPlatform} {s : SessionStore} {userId other : String}
  {startedAt time expiresAt : Int} {stale : List Nat} {keep : Nat}

theorem IsCrowdedOut.create (h : IsCrowdedOut P other time s) :
    IsCrowdedOut P other time (execSession (.createSession userId startedAt expiresAt) s) :=
  h.sublist (activeSessions_sublist_create other userId startedAt expiresAt s)

theorem isCrowdedOut_create_self :
    IsCrowdedOut P userId startedAt (execSession (.createSession userId startedAt expiresAt) s) ↔
      IsCrowdedOut P userId startedAt s := by
  have hsame : later Session.seenAt (activeSessions userId
      (execSession (.createSession userId startedAt expiresAt) s)) startedAt =
        later Session.seenAt (activeSessions userId s) startedAt := by
    rw [activeSessions_create, later, later, List.filter_append]
    have hnone : (if userId = userId ∧ s.now < expiresAt then
        [newSession s.sessions.length userId startedAt expiresAt] else []).filter
          (fun row => decide (startedAt < row.seenAt)) = [] := by
      rw [List.filter_eq_nil_iff]
      intro row hrow hlt
      split at hrow
      · obtain rfl := List.mem_singleton.mp hrow
        exact absurd (of_decide_eq_true hlt) (lt_irrefl startedAt)
      · cases hrow
    rw [hnone, List.append_nil]
  rw [IsCrowdedOut, IsCrowdedOut, CrowdedOut, CrowdedOut, hsame]

theorem IsCrowdedOut.revoke (hstale : Stale P s stale) (h : IsCrowdedOut P userId time s) :
    IsCrowdedOut P userId time (execSession (.revokeSessions keep stale) s) := by
  rw [IsCrowdedOut, activeSessions_revoke]
  refine CrowdedOut.filter (fun session hsession hout => ?_) h
  obtain ⟨hmem, rfl, -, hvalid⟩ := mem_activeSessions.mp hsession
  rw [Bool.not_eq_false', List.contains_iff_mem] at hout
  exact hstale.crowded session hmem hout hvalid

theorem Kept.create (h : Kept P s) (hturn : InTurn P (.createSession userId startedAt expiresAt) s)
    (hexpiry : expiresAt = startedAt + P.lifetime) :
    Kept P (execSession (.createSession userId startedAt expiresAt) s) := by
  have hmem : ∀ session, session ∈
      (execSession (.createSession userId startedAt expiresAt) s).sessions →
        session ∈ s.sessions ∨ session = newSession s.sessions.length userId startedAt expiresAt :=
    fun session hsession => (List.mem_append.mp hsession).imp_right List.mem_singleton.mp
  have hlength : (execSession (.createSession userId startedAt expiresAt) s).sessions.length =
      s.sessions.length + 1 := List.length_append
  refine ⟨?_, fun session hsession => ?_, fun other => ?_, fun session hsession => ?_,
    fun session hsession hended hvalid => ?_⟩
  · exact h.distinct.append fun session hsession => (h.below session hsession).ne
  · rw [hlength]
    obtain hold | rfl := hmem session hsession
    · exact (h.below session hold).trans (Nat.lt_succ_self _)
    · exact Nat.lt_succ_self _
  · rw [activeSessions_create]
    split
    next hnew =>
      obtain ⟨rfl, -⟩ := hnew
      exact (h.apart other).append fun session hsession => hturn.1 session hsession
    next => exact (List.append_nil (activeSessions other s)).symm ▸ h.apart other
  · obtain hold | rfl := hmem session hsession
    · exact h.expiry session hold
    · exact hexpiry
  · obtain hold | rfl := hmem session hsession
    · exact (h.ended session hold hended hvalid).create
    · cases hended

theorem Kept.revoke (h : Kept P s) (hstale : Stale P s stale) :
    Kept P (execSession (.revokeSessions keep stale) s) := by
  have hlength : (execSession (.revokeSessions keep stale) s).sessions.length =
      s.sessions.length := List.length_map _
  refine ⟨h.distinct.updateWhere fun _ _ => rfl, ?_, fun other => ?_, ?_, ?_⟩
  · rw [hlength]
    exact forall_updateWhere h.below fun _ _ _ hbelow => hbelow
  · rw [activeSessions_revoke]
    exact (h.apart other).filter _
  · exact forall_updateWhere h.expiry fun _ _ _ hexpiry => hexpiry
  · refine forall_updateWhere (fun session hsession hended hvalid => ?_)
      fun session hsession hout _ _ hvalid => ?_
    · exact (h.ended session hsession hended hvalid).revoke hstale
    · have hcrowded :=
        hstale.crowded session hsession (List.contains_iff_mem.mp hout) hvalid
      exact hcrowded.revoke hstale

theorem Stale.create (h : Stale P s stale) :
    Stale P (execSession (.createSession userId startedAt expiresAt) s) stale := by
  refine ⟨fun id hid => ?_, fun session hsession hid hvalid => ?_⟩
  · exact (h.below id hid).trans_le (List.sublist_append_left _ _).length_le
  · obtain hold | hnew := List.mem_append.mp hsession
    · exact (h.crowded session hold hid hvalid).create
    · obtain rfl := List.mem_singleton.mp hnew
      exact absurd (h.below _ hid) (lt_irrefl s.sessions.length)

theorem Stale.revoke {stale' : List Nat} (h : Stale P s stale) (h' : Stale P s stale') :
    Stale P (execSession (.revokeSessions keep stale') s) stale := by
  refine ⟨fun id hid => (h.below id hid).trans_eq (List.length_map _).symm, ?_⟩
  refine forall_updateWhere (fun session hsession hid hvalid => ?_)
    fun session hsession _ _ hid hvalid => ?_
  · exact (h.crowded session hsession hid hvalid).revoke h'
  · have hcrowded := h.crowded session hsession hid hvalid
    exact hcrowded.revoke h'

theorem mem_staleSessions_iff (h : Kept P s) {session : Session}
    (hsession : session ∈ activeSessions userId s) :
    session.id ∈ staleSessions P userId keep s ↔
      IsCrowdedOut P userId session.seenAt s ∧ session.id ≠ keep := by
  have hperm := P.lastSeenFirst_perm (activeSessions userId s)
  have hcut := mem_drop_iff (n := P.maxActiveSessions)
    (P.lastSeenFirst_sorted (activeSessions userId s))
    ((hperm.map Session.seenAt).nodup_iff.mpr (h.apart userId)) (hperm.mem_iff.mpr hsession)
  rw [IsCrowdedOut, ← CrowdedOut.perm hperm]
  refine Iff.trans ?_ (and_congr_left fun _ => hcut)
  rw [staleSessions, List.mem_filter, decide_eq_true_eq]
  refine and_congr_left fun _ => ⟨fun hid => ?_, List.mem_map_of_mem⟩
  obtain ⟨other, hother, hid⟩ := List.mem_map.mp hid
  have hactive := hperm.mem_iff.mp (List.mem_of_mem_drop hother)
  rw [h.distinct.eq_of_key (mem_activeSessions.mp hsession).1 (mem_activeSessions.mp hactive).1
    hid.symm]
  exact hother

theorem stale_staleSessions (h : Kept P s) : Stale P s (staleSessions P userId keep s) := by
  have hactive : ∀ id ∈ staleSessions P userId keep s,
      ∃ session ∈ activeSessions userId s, session.id = id := by
    intro id hid
    obtain ⟨session, hsession, rfl⟩ := List.mem_map.mp (List.mem_filter.mp hid).1
    exact ⟨session, (P.lastSeenFirst_perm _).mem_iff.mp (List.mem_of_mem_drop hsession), rfl⟩
  refine ⟨fun id hid => ?_, fun session hsession hid _ => ?_⟩
  · obtain ⟨session, hsession, rfl⟩ := hactive id hid
    exact h.below session (mem_activeSessions.mp hsession).1
  · obtain ⟨other, hother, hsame⟩ := hactive _ hid
    obtain ⟨hmem, hown, -⟩ := mem_activeSessions.mp hother
    obtain rfl := h.distinct.eq_of_key hmem hsession hsame
    rw [hown]
    exact ((mem_staleSessions_iff h hother).mp hid).1

end Steps

section Runs

variable (P : SessionPlatform)

def Ends (phase : Phase) : Prop :=
  ∀ x, ¬phase.owns x

theorem generateTokens_conforms (userId : String) :
    (generateTokens P userId).Conforms (InTurn P) (trimming P) Ends .starting := by
  refine Prog.conforms_step (fun _ => .starting) (fun _ _ => rfl) fun s _ => ?_
  refine Prog.conforms_step (fun s => .created userId s.sessions.length)
    (fun _ _ => if_pos rfl) fun s _ => ?_
  refine Prog.conforms_step (fun _ => .reading userId s.sessions.length) (fun _ _ => rfl)
    fun _ _ => ?_
  refine Prog.conforms_step (fun s' => .trimming (staleSessions P userId s.sessions.length s'))
    (fun _ _ => rfl) fun s' _ => ?_
  split
  next hempty =>
    intro x hx
    rw [Phase.owns, List.isEmpty_iff.mp hempty] at hx
    cases hx
  next =>
    refine Prog.conforms_step (fun _ => .ended) (fun _ _ => if_pos rfl) fun _ _ => ?_
    exact fun _ => id

variable {P} {s : SessionStore}

theorem Fits.create {phase : Phase} (h : Fits P s phase) (userId : String)
    (startedAt expiresAt : Int) :
    Fits P (execSession (.createSession userId startedAt expiresAt) s) phase := by
  cases phase with
  | trimming stale => exact Stale.create h
  | starting | created | reading | ended => trivial

theorem Fits.revoke {phase : Phase} {stale : List Nat} (h : Fits P s phase) (hstale : Stale P s stale)
    (keep : Nat) : Fits P (execSession (.revokeSessions keep stale) s) phase := by
  cases phase with
  | trimming stale' => exact Stale.revoke h hstale
  | starting | created | reading | ended => trivial

theorem Fits.tick {phase : Phase} (hkept : Kept P s) (h : Fits P s phase) :
    Fits P { s with now := s.now + 1 } phase := by
  cases phase with
  | trimming stale =>
    refine ⟨h.below, fun session hsession hid hvalid => ?_⟩
    have hlast : s.now < session.expiresAt := (Int.lt_succ _).trans hvalid
    exact (h.crowded session hsession hid hlast).tick hkept.expiry
      (hkept.expiry session hsession ▸ hvalid)
  | starting | created | reading | ended => trivial

theorem Kept.tick (h : Kept P s) : Kept P { s with now := s.now + 1 } := by
  refine ⟨h.distinct, h.below, fun userId => ?_, h.expiry, fun session hsession hended hvalid => ?_⟩
  · exact (h.apart userId).sublist ((activeSessions_tick_sublist userId s).map _)
  · have hlast : s.now < session.expiresAt := (Int.lt_succ _).trans hvalid
    exact (h.ended session hsession hended hlast).tick h.expiry
      (h.expiry session hsession ▸ hvalid)

theorem trimming_cases {op : SessionOp} {phase phase' : Phase}
    (h : trimming P phase op s = some phase') :
    (op = .read ∧ (phase' = phase ∨
      (∃ userId id, phase = .created userId id ∧ phase' = .reading userId id) ∨
      ∃ userId id, phase = .reading userId id ∧
        phase' = .trimming (staleSessions P userId id s))) ∨
    (∃ userId startedAt, phase = .starting ∧ phase' = .created userId s.sessions.length ∧
      op = .createSession userId startedAt (startedAt + P.lifetime)) ∨
    ∃ keep stale, phase = .trimming stale ∧ phase' = .ended ∧ op = .revokeSessions keep stale := by
  cases op with
  | read =>
    refine .inl ⟨rfl, ?_⟩
    cases phase with
    | starting => exact .inl (Option.some.inj h).symm
    | created userId id => exact .inr (.inl ⟨userId, id, rfl, (Option.some.inj h).symm⟩)
    | reading userId id => exact .inr (.inr ⟨userId, id, rfl, (Option.some.inj h).symm⟩)
    | trimming | ended => cases h
  | createSession userId startedAt expiresAt =>
    cases phase with
    | starting =>
      obtain ⟨rfl, hphase⟩ := Option.ite_none_right_eq_some.mp h
      exact .inr (.inl ⟨userId, startedAt, rfl, (Option.some.inj hphase).symm, rfl⟩)
    | created | reading | trimming | ended => cases h
  | revokeSessions keep stale =>
    cases phase with
    | trimming stale' =>
      obtain ⟨rfl, hphase⟩ := Option.ite_none_right_eq_some.mp h
      exact .inr (.inr ⟨keep, _, rfl, (Option.some.inj hphase).symm, rfl⟩)
    | starting | created | reading | ended => cases h

theorem separate_sessions : Separate (sessionSystem P) (InTurn P) (trimming P) Ends .starting
    (Kept P) (Fits P) (fun _ _ => True) where
  handler _ userId _ := generateTokens_conforms P userId
  symm _ := trivial
  apart _ := trivial
  start _ _ := trivial
  exec op s phase phase' hkept hturn hfits hadvance := by
    obtain ⟨rfl, rfl | ⟨_, _, rfl, rfl⟩ | ⟨_, _, rfl, rfl⟩⟩ | ⟨_, _, rfl, rfl, rfl⟩ |
      ⟨keep, stale, rfl, rfl, rfl⟩ := trimming_cases hadvance
    · exact ⟨hkept, hfits⟩
    · exact ⟨hkept, trivial⟩
    · exact ⟨hkept, stale_staleSessions hkept⟩
    · exact ⟨hkept.create hturn rfl, trivial⟩
    · exact ⟨@Kept.revoke P s stale keep hkept hfits, trivial⟩
  frame op s phase phase' other hkept hturn hfits hadvance hother _ := by
    obtain ⟨rfl, -⟩ | ⟨_, _, rfl, rfl, rfl⟩ | ⟨keep, _, rfl, rfl, rfl⟩ := trimming_cases hadvance
    · exact ⟨hother, trivial⟩
    · exact ⟨hother.create _ _ _, trivial⟩
    · exact ⟨hother.revoke hfits keep, trivial⟩
  tick s hkept := ⟨hkept.tick, fun _ hfits => hfits.tick hkept⟩

theorem unfinished_of_tick {x : String × Nat} (h : Unfinished P { s with now := s.now + 1 } x) :
    Unfinished P s x := by
  obtain ⟨session, hsession, hid, hcrowded⟩ := h
  have hfewer := activeSessions_tick_sublist x.1 s
  exact ⟨session, hfewer.subset hsession, hid, hcrowded.sublist hfewer⟩

theorem unfinished_create {userId : String} {startedAt expiresAt : Int}
    (hkept : Kept P s) (hturn : InTurn P (.createSession userId startedAt expiresAt) s)
    {x : String × Nat}
    (h : Unfinished P (execSession (.createSession userId startedAt expiresAt) s) x) :
    (Phase.created userId s.sessions.length).owns x ∨ Unfinished P s x := by
  obtain ⟨session, hsession, hid, hcrowded⟩ := h
  by_cases hown : x.1 = userId
  · left
    refine ⟨hown, fun hnew => ?_⟩
    rw [hown] at hsession hcrowded
    rw [activeSessions_create] at hsession
    obtain hold | hsession := List.mem_append.mp hsession
    · have hbelow := hkept.below session (mem_activeSessions.mp hold).1
      omega
    · split at hsession
      · obtain rfl := List.mem_singleton.mp hsession
        exact hturn.2 (isCrowdedOut_create_self.mp hcrowded)
      · cases hsession
  · right
    have hsame : activeSessions x.1 (execSession (.createSession userId startedAt expiresAt) s) =
        activeSessions x.1 s := by
      rw [activeSessions_create, if_neg fun hnew => hown hnew.1, List.append_nil]
    rw [hsame] at hsession
    rw [IsCrowdedOut, hsame] at hcrowded
    exact ⟨session, hsession, hid, hcrowded⟩

theorem unfinished_revoke {stale : List Nat} {keep : Nat} {x : String × Nat}
    (h : Unfinished P (execSession (.revokeSessions keep stale) s) x) :
    Unfinished P s x ∧ x.2 ∉ stale := by
  obtain ⟨session, hsession, hid, hcrowded⟩ := h
  rw [activeSessions_revoke] at hsession
  obtain ⟨hactive, hspared⟩ := List.mem_filter.mp hsession
  rw [IsCrowdedOut, activeSessions_revoke] at hcrowded
  refine ⟨⟨session, hactive, hid, hcrowded.sublist List.filter_sublist⟩, fun hstale => ?_⟩
  rw [hid, List.contains_iff_mem.mpr hstale] at hspared
  cases hspared

theorem attended_sessions : Attended (sessionSystem P) (InTurn P) (trimming P) (Kept P) (Fits P)
    (Unfinished P) Phase.owns where
  exec op s phase phase' hkept hturn hfits hadvance x hx := by
    obtain ⟨rfl, rfl | ⟨userId, id, rfl, rfl⟩ | ⟨userId, id, rfl, rfl⟩⟩ |
      ⟨_, _, rfl, rfl, rfl⟩ | ⟨keep, stale, rfl, rfl, rfl⟩ := trimming_cases hadvance
    · by_cases hown : phase'.owns x
      · exact .inl hown
      · exact .inr ⟨hx, hown⟩
    · by_cases hown : (Phase.created userId id).owns x
      · exact .inl hown
      · exact .inr ⟨hx, hown⟩
    · by_cases hown : (Phase.reading userId id).owns x
      · -- what is crowded out is read as stale
        left
        obtain ⟨session, hsession, hid, hcrowded⟩ := hx
        obtain ⟨hsame, hother⟩ := hown
        rw [hsame] at hsession hcrowded
        rw [← hid] at hother
        have hstale := (mem_staleSessions_iff hkept hsession).mpr ⟨hcrowded, hother⟩
        rw [hid] at hstale
        exact hstale
      · exact .inr ⟨hx, hown⟩
    · exact (unfinished_create hkept hturn hx).imp_right fun hbefore => ⟨hbefore, id⟩
    · exact .inr (@unfinished_revoke P s stale keep x hx)
  tick _ _ := unfinished_of_tick

theorem sessionLaw_of_finished (hkept : Kept P s) (hfinished : ∀ x, ¬Unfinished P s x)
    (userId : String) : SessionLaw P userId s := by
  have hnone : ∀ session ∈ activeSessions userId s, ¬IsCrowdedOut P userId session.seenAt s :=
    fun session hsession hcrowded =>
      hfinished (userId, session.id) ⟨session, hsession, rfl, hcrowded⟩
  refine ⟨length_le_of_not_crowdedOut (hkept.apart userId) hnone, ?_⟩
  intro ended hended hown hrevoked hvalid active hactive
  by_contra hearlier
  have hcrowded := hkept.ended ended hended hrevoked hvalid
  rw [hown] at hcrowded
  refine hnone active hactive (hcrowded.trans (List.Sublist.length_le ?_))
  refine List.monotone_filter_right _ fun session hlater => ?_
  exact decide_eq_true ((not_lt.mp hearlier).trans_lt (of_decide_eq_true hlater))

theorem generateTokens_spares (userId : String) : (generateTokens P userId).All SparesOwn := by
  rw [generateTokens]
  refine Prog.all_step trivial fun _ => Prog.all_step trivial fun s => Prog.all_step trivial
    fun _ => ?_
  rw [trimSessions]
  refine Prog.all_step trivial fun s' => ?_
  split
  next => trivial
  next =>
    refine Prog.all_step (fun hstale => ?_) fun _ => trivial
    exact of_decide_eq_true (List.mem_filter.mp hstale).2 rfl

/-- When all logins have finished that created their sessions in turn, no user has more active
sessions than may be, and those are the latest. No login ends its own session, in turn or not. -/
theorem sessions_bounded_when_in_turn (P : SessionPlatform)
    {c₀ : Config SessionStore SessionOp} (hidle : c₀.threads = []) (hfresh : c₀.shared.sessions = []) :
    (∀ c, (sessionSystem P).Run (InTurn P) c₀ c → (∀ p ∈ c.threads, p.finished = true) →
      ∀ userId, SessionLaw P userId c.shared) ∧
    ∀ c, (sessionSystem P).Run (fun _ _ => True) c₀ c → ∀ p ∈ c.threads, p.All SparesOwn := by
  refine ⟨fun c hrun hfinished => ?_, fun c hrun => ?_⟩
  · have hkept := separate_sessions.run hidle hrun (kept_fresh hfresh)
    refine sessionLaw_of_finished hkept ?_
    refine separate_sessions.finished attended_sessions (fun _ hends => hends) hidle hrun
      (kept_fresh hfresh) ?_ hfinished
    rintro x ⟨session, hsession, -⟩
    rw [mem_activeSessions, hfresh] at hsession
    cases hsession.1
  · exact System.all_threads (fun _ userId _ => generateTokens_spares userId) hidle hrun

end Runs

section Samples

def lastSeenFirst (rows : List Session) : List Session :=
  rows.insertionSort fun row next => next.seenAt ≤ row.seenAt

theorem lastSeenFirst_sorted (rows : List Session) :
    (lastSeenFirst rows).Pairwise fun row next => next.seenAt ≤ row.seenAt := by
  have : Std.Total fun row next : Session => next.seenAt ≤ row.seenAt :=
    ⟨fun row next => le_total next.seenAt row.seenAt⟩
  have : IsTrans Session fun row next => next.seenAt ≤ row.seenAt :=
    ⟨fun _ _ _ hfirst hlast => hlast.trans hfirst⟩
  exact List.pairwise_insertionSort _ rows

def oneSession : SessionPlatform where
  policy := some ⟨none, some 1⟩
  lastSeenFirst := lastSeenFirst
  lastSeenFirst_perm := fun rows => List.perm_insertionSort _ rows
  lastSeenFirst_sorted := lastSeenFirst_sorted

def noSession : Config SessionStore SessionOp :=
  ⟨⟨[], 0⟩, []⟩

def isInTurn (P : SessionPlatform) (op : SessionOp) (s : SessionStore) : Bool :=
  match op with
  | .createSession userId startedAt _ =>
    (activeSessions userId s).all (fun session => session.seenAt ≠ startedAt) &&
      decide ((later Session.seenAt (activeSessions userId s) startedAt).length <
        P.maxActiveSessions)
  | .read | .revokeSessions _ _ => true

theorem inTurn_of_test {P : SessionPlatform} {op : SessionOp} {s : SessionStore}
    (h : isInTurn P op s = true) : InTurn P op s := by
  cases op with
  | createSession userId startedAt expiresAt =>
    simp only [isInTurn, Bool.and_eq_true, List.all_eq_true, decide_eq_true_eq] at h
    exact ⟨h.1, Nat.not_le.mpr h.2⟩
  | read | revokeSessions => trivial

/-- A second login ends the session of the first one. -/
theorem session_replaced : ∃ c : Config SessionStore SessionOp,
    SessionLaw oneSession "ana" c.shared ∧ (activeSessions "ana" c.shared).map Session.id = [1] := by
  have hplay : ((sessionSystem oneSession).play (fun _ _ => true) (isInTurn oneSession) noSession
      [.start "ana", .run 0, .run 0, .run 0, .run 0, .tick, .start "ana", .run 1, .run 1, .run 1,
        .run 1, .run 1]).any (fun c => c.threads.all Prog.finished &&
          decide ((activeSessions "ana" c.shared).map Session.id = [1])) = true := by
    decide
  obtain ⟨c, hrun, hcheck⟩ :=
    System.exists_run_of_play (fun _ _ _ => trivial) (fun _ _ => inTurn_of_test) hplay
  rw [Bool.and_eq_true, List.all_eq_true] at hcheck
  exact ⟨c, (sessions_bounded_when_in_turn oneSession rfl rfl).1 c hrun hcheck.1 "ana",
    of_decide_eq_true hcheck.2⟩

/-- A login that creates its session late spares it, and so did the one it came after. -/
theorem session_spared : ¬ ∀ (P : SessionPlatform) (c₀ c : Config SessionStore SessionOp),
    c₀.threads = [] → c₀.shared.sessions = [] →
      (sessionSystem P).Run (fun _ _ => True) c₀ c → (∀ p ∈ c.threads, p.finished = true) →
        ∀ userId, (activeSessions userId c.shared).length ≤ P.maxActiveSessions := by
  intro hall
  have hplay : ((sessionSystem oneSession).play (fun _ _ => true) (fun _ _ => true) noSession
      [.start "ana", .run 0, .tick, .start "ana", .run 1, .run 1, .run 1, .run 1, .run 0, .run 0,
        .run 0]).any (fun c => c.threads.all Prog.finished &&
          decide ((activeSessions "ana" c.shared).length = 2)) = true := by
    decide
  obtain ⟨c, hrun, hcheck⟩ :=
    System.exists_run_of_play (fun _ _ _ => trivial) (fun _ _ _ => trivial) hplay
  rw [Bool.and_eq_true, List.all_eq_true] at hcheck
  have hbounded := hall oneSession noSession c rfl rfl hrun hcheck.1 "ana"
  rw [of_decide_eq_true hcheck.2] at hbounded
  exact absurd hbounded (by decide)

end Samples
end FieldserviceIT.Auth.SessionLimit
