import Mathlib.Logic.Function.Basic
import Mathlib.Data.List.Nodup

/-!
Secrets kept as digests. A presented secret is looked up by its digest and, for
rows from before digests were stored, by its own text; elsewhere it is compared
with the stored digest directly. The digest function and the comparison of a
text column are the platform's: digests of different secrets differ, and the
column tells different digests apart.
-/

namespace FieldserviceIT.Common

structure Hashing where
  sha256hex : String → String
  /-- Does a stored text equal a given one, under the collation of the column? -/
  collates : String → String → Bool
  sha256hex_injective : Function.Injective sha256hex
  collates_refl : ∀ s, collates s s = true
  collates_digest : ∀ v w, collates ("sha256:" ++ sha256hex v) ("sha256:" ++ sha256hex w) = true →
    sha256hex v = sha256hex w

def hashPrefix : String := "sha256:"

def isHashedCredential (value : String) : Bool :=
  hashPrefix.toList.isPrefixOf value.toList

section Values

variable (H : Hashing)

def hashCredential (value : String) : String :=
  hashPrefix ++ H.sha256hex value

def credentialLookupValues (value : String) : List String :=
  if hashCredential H value = value then [value] else [hashCredential H value, value]

def credentialMatches (candidate : String) (stored : Option String) : Bool :=
  match stored with
  | none => false
  | some stored =>
    stored ≠ "" &&
      stored = if isHashedCredential stored then hashCredential H candidate else candidate

end Values

variable {H : Hashing}

theorem hashCredential_inj {v w : String} :
    hashCredential H v = hashCredential H w ↔ v = w := by
  constructor
  · intro h
    have hlists := congrArg String.toList h
    simp only [hashCredential, String.toList_append, List.append_cancel_left_eq] at hlists
    exact H.sha256hex_injective (String.toList_inj.mp hlists)
  · exact congrArg (hashCredential H)

theorem collates_hashCredential {v w : String} :
    H.collates (hashCredential H v) (hashCredential H w) = true ↔ v = w := by
  constructor
  · intro h
    exact H.sha256hex_injective (H.collates_digest v w h)
  · rintro rfl
    exact H.collates_refl _

theorem isHashedCredential_hashCredential (v : String) :
    isHashedCredential (hashCredential H v) = true := by
  simp [isHashedCredential, hashCredential, List.isPrefixOf_iff_prefix]

theorem hashCredential_ne_empty (v : String) : hashCredential H v ≠ "" := by
  intro h
  have hlists := congrArg String.toList h
  simp [hashCredential, hashPrefix] at hlists

theorem credentialMatches_hashCredential (candidate secret : String) :
    credentialMatches H candidate (some (hashCredential H secret)) = decide (candidate = secret) := by
  have hne : hashCredential H secret ≠ "" := hashCredential_ne_empty secret
  simp only [credentialMatches, hne, isHashedCredential_hashCredential, hashCredential_inj,
    ne_eq, not_false_eq_true, decide_true, Bool.true_and, if_true, eq_comm]

/-- A column equals one of the lookup values when it holds the digest of the
presented secret, or the presented text itself. -/
theorem any_credentialLookupValues (presented stored : String) :
    (credentialLookupValues H presented).any (H.collates stored) = true ↔
      H.collates stored (hashCredential H presented) = true ∨
        H.collates stored presented = true := by
  unfold credentialLookupValues
  split
  · next h => simp [h]
  · simp

/-- A digest given by a table, and a text of its own for everything else. -/
def tableDigest (table : List (String × String)) (v : String) : String :=
  match table.find? fun p => p.1 = v with
  | some p => p.2
  | none => "x" ++ v

theorem tableDigest_injective {table : List (String × String)}
    (hdistinct : (table.map (·.2)).Nodup) (hhex : ∀ p ∈ table, p.2.toList.head? ≠ some 'x') :
    Function.Injective (tableDigest table) := by
  have hfound : ∀ {v : String} {p : String × String},
      table.find? (fun p => p.1 = v) = some p → p ∈ table ∧ p.1 = v := fun h =>
    ⟨List.mem_of_find?_eq_some h, by simpa using List.find?_some h⟩
  have hother : ∀ {v : String} {p : String × String}, p ∈ table → p.2 ≠ "x" ++ v := by
    intro v p hp heq
    exact hhex p hp (by simp [heq])
  intro v w h
  unfold tableDigest at h
  split at h <;> split at h
  · next p hp _ q hq =>
      obtain ⟨hpmem, hpv⟩ := hfound hp
      obtain ⟨hqmem, hqw⟩ := hfound hq
      rw [← hpv, ← hqw, List.inj_on_of_nodup_map hdistinct hpmem hqmem h]
  · next p hp _ _ => exact absurd h (hother (hfound hp).1)
  · next q hq => exact absurd h.symm (hother (hfound hq).1)
  · have hlists := congrArg String.toList h
    simp only [String.toList_append, List.append_cancel_left_eq] at hlists
    exact String.toList_inj.mp hlists

def tableHashing (table : List (String × String)) (hdistinct : (table.map (·.2)).Nodup)
    (hhex : ∀ p ∈ table, p.2.toList.head? ≠ some 'x') : Hashing where
  sha256hex := tableDigest table
  collates a b := decide (a = b)
  sha256hex_injective := tableDigest_injective hdistinct hhex
  collates_refl := by simp
  collates_digest v w h := by
    have hlists := congrArg String.toList (of_decide_eq_true h)
    simp only [String.toList_append, List.append_cancel_left_eq] at hlists
    exact String.toList_inj.mp hlists

/-- The statements that find a row by a presented secret. -/
inductive CredentialLookup where
  | findByRefreshToken
  | revokeByRefreshToken
  | rotate
  | findUserByResetToken
  | findUserByEmailVerificationToken
  | enrollWithToken
  | findActiveInvitation
  | findByDeviceCredential
  deriving DecidableEq

namespace CredentialLookup

/-- What the credential column of a row is compared with. An asset's device
digest is compared with the digest only: the text is for rows without one. -/
def values (H : Hashing) : CredentialLookup → String → List String
  | findByRefreshToken, token | revokeByRefreshToken, token | rotate, token
  | enrollWithToken, token => credentialLookupValues H token
  | findUserByResetToken, token | findUserByEmailVerificationToken, token =>
    [hashCredential H token, token]
  | findActiveInvitation, token | findByDeviceCredential, token => [hashCredential H token]

def selects (H : Hashing) (lookup : CredentialLookup) (presented stored : String) : Bool :=
  (lookup.values H presented).any (H.collates stored)

/-- The statement also compares the column with the presented text. -/
def comparesText : CredentialLookup → Bool
  | findActiveInvitation | findByDeviceCredential => false
  | _ => true

theorem selects_iff (lookup : CredentialLookup) (presented stored : String) :
    lookup.selects H presented stored = true ↔
      H.collates stored (hashCredential H presented) = true ∨
        (lookup.comparesText = true ∧ H.collates stored presented = true) := by
  cases lookup with
  | findByRefreshToken | revokeByRefreshToken | rotate | enrollWithToken =>
    simp only [selects, values, comparesText, any_credentialLookupValues, true_and]
  | findUserByResetToken | findUserByEmailVerificationToken =>
    simp [selects, values, comparesText]
  | findActiveInvitation | findByDeviceCredential => simp [selects, values, comparesText]

theorem selects_hashCredential_iff (lookup : CredentialLookup) (presented secret : String) :
    lookup.selects H presented (hashCredential H secret) = true ↔
      presented = secret ∨
        (lookup.comparesText = true ∧ H.collates (hashCredential H secret) presented = true) := by
  rw [selects_iff, collates_hashCredential, eq_comm]

/-- The lookup of a hashed row finds the secret and nothing else, and so agrees
with the direct comparison, exactly when the presented text is not taken for
the stored digest. -/
theorem lookup_agrees_iff (H : Hashing) (lookup : CredentialLookup) (presented secret : String) :
    ((lookup.selects H presented (hashCredential H secret) = true → presented = secret) ∧
        lookup.selects H presented (hashCredential H secret) =
          credentialMatches H presented (some (hashCredential H secret))) ↔
      (lookup.comparesText = true → H.collates (hashCredential H secret) presented = true →
        presented = secret) := by
  have hselects := selects_hashCredential_iff (H := H) lookup presented secret
  constructor
  · rintro ⟨honly, -⟩ htext hcollates
    exact honly (hselects.mpr (.inr ⟨htext, hcollates⟩))
  · intro hsafe
    have honly : lookup.selects H presented (hashCredential H secret) = true →
        presented = secret := by
      intro hselected
      obtain hsecret | ⟨htext, hcollates⟩ := hselects.mp hselected
      · exact hsecret
      · exact hsafe htext hcollates
    refine ⟨honly, ?_⟩
    rw [credentialMatches_hashCredential, Bool.eq_iff_iff, decide_eq_true_eq]
    exact ⟨honly, fun hsecret => hselects.mpr (.inl hsecret)⟩

def sampleHashing : Hashing :=
  tableHashing
    [("abc", "ba7816bf8f01cfea414140de5dae2223b00361a396177a9cb410ff61f20015ad"),
      ("sha256:ba7816bf8f01cfea414140de5dae2223b00361a396177a9cb410ff61f20015ad",
        "908b76e257aae5605fc60365a8f8e13841a21639d0b5019ad059142c85b0d0ca")]
    (by decide) (by decide)

/-- Whoever reads a session row can present what it says. -/
theorem lookup_disagrees_on_stored_digest :
    ¬ ∀ (H : Hashing) (lookup : CredentialLookup) (presented secret : String),
      (lookup.selects H presented (hashCredential H secret) = true → presented = secret) ∧
        lookup.selects H presented (hashCredential H secret) =
          credentialMatches H presented (some (hashCredential H secret)) := by
  intro hall
  obtain ⟨hselects, -⟩ := hall sampleHashing .findByRefreshToken
    "sha256:ba7816bf8f01cfea414140de5dae2223b00361a396177a9cb410ff61f20015ad" "abc"
  have hselected := hselects (by decide)
  revert hselected
  decide

end CredentialLookup
end FieldserviceIT.Common
