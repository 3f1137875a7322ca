import FieldserviceIT.Lib.Base64
import FieldserviceIT.Lib.Unicode
import FieldserviceIT.PlatformSecurity.BackupArtifacts

/-!
Secrets are kept as texts, buffers behind a header, both encrypted under a key that the environment
configures. What is kept says nothing about its key: when it is read the keys are tried in turn,
the current one and the one before it. A text is read only if each of its parts says something,
which the secret without any character does not.
-/

namespace FieldserviceIT.Security

open Lib
open PlatformSecurity (Bytes Cipher Iv subarray subarray_append)

/-- A text is made of units of 16 bits. -/
abbrev Text := List UInt16

section Texts

def literal (text : String) : Text :=
  Unicode.ofChars text.toList

def utf8 (text : Text) : Bytes :=
  Unicode.encodeUtf8 (Unicode.toChars text)

def ofUtf8 (bytes : Bytes) : Text :=
  Unicode.ofChars (Unicode.decodeUtf8 bytes)

def toBase64 (bytes : Bytes) : Text :=
  Unicode.ofChars (Base64.encode .standard bytes)

def ofBase64 (text : Text) : Bytes :=
  Base64.decode (Unicode.toChars text)

/-- The unit of `.` -/
def dot : UInt16 := 0x2E

theorem ofUtf8_utf8_iff (text : Text) :
    ofUtf8 (utf8 text) = text ↔ Unicode.isWellFormed text = true := by
  rw [ofUtf8, utf8, Unicode.decodeUtf8_encodeUtf8]
  exact Unicode.ofChars_toChars_iff text

theorem utf8_eq_nil_iff {text : Text} : utf8 text = [] ↔ text = [] := by
  constructor
  · exact fun h => Unicode.toChars_eq_nil (Unicode.encodeUtf8_eq_nil h)
  · rintro rfl
    rfl

theorem ofBase64_toBase64 (bytes : Bytes) : ofBase64 (toBase64 bytes) = bytes := by
  rw [ofBase64, toBase64, Unicode.toChars_ofChars, Base64.decode_encode]

theorem toBase64_eq_nil_iff {bytes : Bytes} : toBase64 bytes = [] ↔ bytes = [] := by
  constructor
  · intro h
    rw [← ofBase64_toBase64 bytes, h]
    rfl
  · rintro rfl
    rfl

theorem dot_notMem_toBase64 (bytes : Bytes) : dot ∉ toBase64 bytes := by
  intro h
  obtain ⟨c, hc, hvalue⟩ := Unicode.mem_ofChars h (by decide)
  have hall : (Base64.Alphabet.standard.digits.all fun c => c.toNat ≠ dot.toNat) = true := by decide
  rcases Base64.mem_encode .standard hc with hdigit | rfl
  · exact of_decide_eq_true (List.all_eq_true.mp hall c hdigit) hvalue
  · exact absurd hvalue (by decide)

end Texts

section Keys

/-- What encryption takes from `process.env`. -/
structure Environment where
  credentialEncryptionKey : Option Text
  credentialEncryptionKeyPrevious : Option Text
  jwtSecret : Option Text
  nodeEnv : Option Text

/-- The runtime's `aes-256-gcm` and `sha256`. The cipher works on a stream: what it gives is as long
as what it is given. -/
structure Runtime where
  cipher : Cipher
  sha256 : Bytes → Bytes
  length_encrypt : ∀ key iv value, (cipher.encrypt key iv value).1.length = value.length

/-- A variable that is not set, or set to nothing, counts as none. -/
def given (value : Option Text) : Option Text :=
  value.filter fun text => text ≠ []

def currentKey (E : Environment) : Text :=
  ((given E.credentialEncryptionKey).or (given E.jwtSecret)).getD (literal "fieldserviceit-dev-key")

def keyMissing (E : Environment) : Bool :=
  E.nodeEnv = some (literal "production") && (given E.credentialEncryptionKey).isNone

variable (R : Runtime)

def credentialEncryptionKeys (E : Environment) : Except String (List Bytes) :=
  if keyMissing E then .error "CREDENTIAL_ENCRYPTION_KEY is required in production"
  else
    let previous := (given E.credentialEncryptionKeyPrevious).filter fun key => key ≠ currentKey E
    .ok ((currentKey E :: previous.toList).map fun key => R.sha256 (utf8 key))

def encryptionKey (E : Environment) : Except String Bytes :=
  (credentialEncryptionKeys R E).map fun keys => keys.headD []

theorem encryptionKey_eq {E : Environment} (h : keyMissing E = false) :
    encryptionKey R E = .ok (R.sha256 (utf8 (currentKey E))) := by
  rw [encryptionKey, credentialEncryptionKeys, h]
  rfl

theorem currentKey_ne_nil (E : Environment) : currentKey E ≠ [] := by
  rw [currentKey]
  cases hfound : (given E.credentialEncryptionKey).or (given E.jwtSecret) with
  | none => exact List.cons_ne_nil _ _
  | some key =>
    rcases Option.or_eq_some_iff.mp hfound with hgiven | ⟨-, hgiven⟩ <;>
      exact of_decide_eq_true (Option.filter_eq_some_iff.mp hgiven).2

end Keys

section Ciphers

variable (R : Runtime) (E : Environment)

def decipher (failure : String) (iv tag encrypted : Bytes) : Except String Bytes := do
  let keys ← credentialEncryptionKeys R E
  match keys.findSome? fun key => R.cipher.decrypt key iv tag encrypted with
  | some decrypted => .ok decrypted
  | none => .error failure

end Ciphers

section Secrets

variable (R : Runtime) (E : Environment)

def encryptSecret (iv : Iv) (value : Text) : Except String Text := do
  let key ← encryptionKey R E
  let encrypted := R.cipher.encrypt key iv.val (utf8 value)
  return [dot].intercalate ([iv.val, encrypted.2, encrypted.1].map toBase64)

def decryptSecret (value : Text) : Except String Text :=
  match value.splitOn dot with
  | iv :: tag :: encrypted :: _ =>
    if iv = [] || tag = [] || encrypted = [] then .error "Encrypted value is invalid"
    else
      (decipher R E "Encrypted value cannot be decrypted with the configured keys" (ofBase64 iv)
        (ofBase64 tag) (ofBase64 encrypted)).map ofUtf8
  | _ => .error "Encrypted value is invalid"

end Secrets

section Buffers

variable (R : Runtime) (E : Environment)

def backupHeader : Text :=
  literal "FSITBACKUP1"

def encryptBuffer (iv : Iv) (value : Bytes) : Except String Bytes := do
  let key ← encryptionKey R E
  let encrypted := R.cipher.encrypt key iv.val value
  return utf8 backupHeader ++ iv.val ++ encrypted.2 ++ encrypted.1

def decryptBuffer (value : Bytes) : Except String Bytes :=
  if ofUtf8 (value.take 11) ≠ backupHeader then .error "Backup header is invalid"
  else
    decipher R E "Backup cannot be decrypted with the configured keys" (subarray value 11 23)
      (subarray value 23 39) (value.drop 39)

end Buffers

section Rotation

/-- Where what was encrypted in an environment is to be read: in the same one, or in one that has
its key as the previous key. -/
inductive Follows (E : Environment) : Environment → Prop
  | same : Follows E E
  | rotated {E' : Environment} (h : E'.credentialEncryptionKeyPrevious = some (currentKey E)) :
      Follows E E'

/-- No other key of the environment is taken for the one that encrypted. -/
def KeptApart (R : Runtime) (E E' : Environment) : Prop :=
  ∀ key keys, encryptionKey R E = .ok key → credentialEncryptionKeys R E' = .ok keys →
    ∀ other ∈ keys, other ≠ key → ∀ iv value,
      R.cipher.decrypt other iv (R.cipher.encrypt key iv value).2 (R.cipher.encrypt key iv value).1 = none

variable {R : Runtime} {E E' : Environment}

theorem findSome?_of_mem {α β : Type} {f : α → Option β} {list : List α} {a : α} {b : β} (ha : a ∈ list)
    (hf : f a = some b) (hother : ∀ other ∈ list, other ≠ a → f other = none) :
    list.findSome? f = some b := by
  induction list with
  | nil => cases ha
  | cons first rest ih =>
    obtain ⟨hfirst, hrest⟩ := List.forall_mem_cons.mp hother
    rw [List.findSome?_cons]
    by_cases heq : first = a
    · rw [heq, hf]
    · rw [hfirst heq]
      exact ih (List.mem_of_ne_of_mem (fun h => heq h.symm) ha) hrest

theorem mem_credentialEncryptionKeys (hkey : keyMissing E' = false) (hfollows : Follows E E') :
    ∃ keys, credentialEncryptionKeys R E' = .ok keys ∧ R.sha256 (utf8 (currentKey E)) ∈ keys := by
  rw [credentialEncryptionKeys, hkey, if_neg Bool.false_ne_true]
  refine ⟨_, rfl, List.mem_map_of_mem ?_⟩
  cases hfollows with
  | same => exact List.mem_cons_self
  | rotated hprevious =>
    have hgiven : given E'.credentialEncryptionKeyPrevious = some (currentKey E) := by
      rw [hprevious, given, Option.filter_some, if_pos (decide_eq_true (currentKey_ne_nil E))]
    rw [hgiven, Option.filter_some]
    by_cases heq : currentKey E = currentKey E'
    · rw [heq]
      exact List.mem_cons_self
    · rw [if_pos (decide_eq_true heq)]
      exact List.mem_cons_of_mem _ List.mem_cons_self

theorem decipher_encrypt (hkey : keyMissing E = false) (hkey' : keyMissing E' = false)
    (hfollows : Follows E E') (hapart : KeptApart R E E') (failure : String) (iv value : Bytes) :
    ∃ key, encryptionKey R E = .ok key ∧
      decipher R E' failure iv (R.cipher.encrypt key iv value).2 (R.cipher.encrypt key iv value).1 =
        .ok value := by
  obtain ⟨keys, hkeys, hmem⟩ := mem_credentialEncryptionKeys (R := R) hkey' hfollows
  refine ⟨_, encryptionKey_eq R hkey, ?_⟩
  have hfound : keys.findSome? (fun key => R.cipher.decrypt key iv
      (R.cipher.encrypt (R.sha256 (utf8 (currentKey E))) iv value).2
      (R.cipher.encrypt (R.sha256 (utf8 (currentKey E))) iv value).1) = some value := by
    apply findSome?_of_mem hmem
    · exact R.cipher.decrypt_encrypt _ iv value
    · intro other hother hne
      exact hapart _ keys (encryptionKey_eq R hkey) hkeys other hother hne iv value
  rw [decipher, hkeys]
  dsimp only [bind, Except.bind]
  rw [hfound]

theorem splitOn_intercalate (parts : List Bytes) (h : parts ≠ []) :
    ([dot].intercalate (parts.map toBase64)).splitOn dot = parts.map toBase64 := by
  apply List.splitOn_intercalate
  · intro part hpart
    obtain ⟨bytes, -, rfl⟩ := List.mem_map.mp hpart
    exact dot_notMem_toBase64 bytes
  · rwa [Ne, List.map_eq_nil_iff]

theorem decryptSecret_parts {iv tag encrypted : Bytes} (hiv : iv ≠ []) (htag : tag ≠ []) :
    decryptSecret R E' ([dot].intercalate ([iv, tag, encrypted].map toBase64)) =
      if encrypted = [] then .error "Encrypted value is invalid"
      else
        (decipher R E' "Encrypted value cannot be decrypted with the configured keys" iv tag
          encrypted).map ofUtf8 := by
  rw [decryptSecret, splitOn_intercalate _ (List.cons_ne_nil _ _), List.map_cons, List.map_cons,
    List.map_cons]
  simp only [toBase64_eq_nil_iff, hiv, htag, ofBase64_toBase64, decide_false, Bool.false_or,
    decide_eq_true_eq]

theorem keptApart_self (h : E.credentialEncryptionKeyPrevious = none) : KeptApart R E E := by
  intro key keys hkey hkeys other hother hne
  have hsingle : keys = [key] := by
    rw [encryptionKey, hkeys] at hkey
    rw [credentialEncryptionKeys, h] at hkeys
    split at hkeys
    · cases hkeys
    · cases hkeys
      cases hkey
      rfl
  rw [hsingle, List.mem_singleton] at hother
  exact absurd hother hne

variable (hkey : keyMissing E = false) (hkey' : keyMissing E' = false) (hfollows : Follows E E')
  (hapart : KeptApart R E E') (iv : Iv)

include hkey hkey' hfollows hapart in
theorem decryptSecret_encryptSecret (value : Text) :
    (encryptSecret R E iv value).bind (decryptSecret R E') =
      if value = [] then .error "Encrypted value is invalid" else .ok (ofUtf8 (utf8 value)) := by
  obtain ⟨key, hcurrent, hdecipher⟩ := decipher_encrypt hkey hkey' hfollows hapart
    "Encrypted value cannot be decrypted with the configured keys" iv.val (utf8 value)
  have hiv : iv.val ≠ [] := List.ne_nil_of_length_eq_add_one iv.property
  have htag : (R.cipher.encrypt key iv.val (utf8 value)).2 ≠ [] :=
    List.ne_nil_of_length_eq_add_one (R.cipher.tag_length key iv.val (utf8 value))
  have hnone : (R.cipher.encrypt key iv.val (utf8 value)).1 = [] ↔ value = [] := by
    rw [← List.length_eq_zero_iff, R.length_encrypt, List.length_eq_zero_iff, utf8_eq_nil_iff]
  rw [encryptSecret, hcurrent]
  change decryptSecret R E' _ = _
  rw [decryptSecret_parts hiv htag, hdecipher]
  simp only [hnone]
  rfl

include hkey hkey' hfollows hapart in
theorem decryptBuffer_encryptBuffer (value : Bytes) :
    (encryptBuffer R E iv value).bind (decryptBuffer R E') = .ok value := by
  obtain ⟨key, hcurrent, hdecipher⟩ := decipher_encrypt hkey hkey' hfollows hapart
    "Backup cannot be decrypted with the configured keys" iv.val value
  have htag := R.cipher.tag_length key iv.val value
  rw [encryptBuffer, hcurrent]
  change decryptBuffer R E' (utf8 backupHeader ++ iv.val ++ (R.cipher.encrypt key iv.val value).2 ++
    (R.cipher.encrypt key iv.val value).1) = .ok value
  generalize R.cipher.encrypt key iv.val value = encrypted at htag hdecipher ⊢
  have hheader : (utf8 backupHeader).length = 11 := by decide
  have htake : (utf8 backupHeader ++ iv.val ++ encrypted.2 ++ encrypted.1).take 11 =
      utf8 backupHeader := by
    rw [List.append_assoc, List.append_assoc, ← hheader, List.take_left]
  have hfront : (utf8 backupHeader ++ iv.val).length = 23 := by
    rw [List.length_append, hheader, iv.property]
  have hiv : subarray (utf8 backupHeader ++ iv.val ++ encrypted.2 ++ encrypted.1) 11 23 = iv.val := by
    rw [List.append_assoc]
    exact subarray_append hheader (by rw [iv.property])
  have htagged : subarray (utf8 backupHeader ++ iv.val ++ encrypted.2 ++ encrypted.1) 23 39 =
      encrypted.2 :=
    subarray_append hfront (by rw [htag])
  have hdrop : (utf8 backupHeader ++ iv.val ++ encrypted.2 ++ encrypted.1).drop 39 = encrypted.1 := by
    apply List.drop_left'
    rw [List.length_append, hfront, htag]
  have hread : ofUtf8 (utf8 backupHeader) = backupHeader :=
    (ofUtf8_utf8_iff backupHeader).mpr (by decide)
  rw [decryptBuffer, htake, hread, if_neg (fun h => h rfl), hiv, htagged, hdrop, hdecipher]

end Rotation

section RoundTrip

/-- A secret comes back if it has a character and no half of one, a buffer always, also after the
key has become the previous one. -/
theorem decryptSecret_encryptSecret_iff (R : Runtime) (E E' : Environment)
    (hkey : keyMissing E = false) (hkey' : keyMissing E' = false) (hfollows : Follows E E')
    (hapart : KeptApart R E E') :
    (∀ iv value, (encryptSecret R E iv value).bind (decryptSecret R E') = .ok value ↔
      value ≠ [] ∧ Unicode.isWellFormed value = true) ∧
    ∀ iv value, (encryptBuffer R E iv value).bind (decryptBuffer R E') = .ok value := by
  refine ⟨?_, fun iv value => decryptBuffer_encryptBuffer hkey hkey' hfollows hapart iv value⟩
  intro iv value
  rw [decryptSecret_encryptSecret hkey hkey' hfollows hapart]
  by_cases hnone : value = []
  · rw [if_pos hnone]
    exact ⟨fun h => (by cases h), fun h => absurd hnone h.1⟩
  · rw [if_neg hnone, Except.ok.injEq, ofUtf8_utf8_iff]
    exact ⟨fun h => ⟨hnone, h⟩, fun h => h.2⟩

section Sample

/-! Two keys, and what `aes-256-gcm` makes of a text and of a buffer under the first one. -/

def sampleEnvironment : Environment where
  credentialEncryptionKey := none
  credentialEncryptionKeyPrevious := none
  jwtSecret := none
  nodeEnv := none

def rotatedEnvironment : Environment where
  credentialEncryptionKey := some (literal "next")
  credentialEncryptionKeyPrevious := some (literal "fieldserviceit-dev-key")
  jwtSecret := none
  nodeEnv := some (literal "production")

def sampleKey : Bytes :=
  [152, 170, 113, 163, 143, 234, 143, 203, 6, 86, 27, 49, 185, 175, 231, 39, 41, 101, 172, 215, 153,
    183, 77, 182, 37, 214, 30, 225, 100, 18, 175, 64]

def rotatedKey : Bytes :=
  [198, 193, 201, 169, 200, 84, 63, 30, 76, 217, 128, 6, 76, 241, 98, 94, 235, 97, 169, 7, 3, 178, 70,
    79, 255, 3, 159, 33, 104, 37, 8, 179]

def sampleIv : Iv :=
  ⟨[0, 1, 2, 3, 4, 5, 6, 7, 8, 9, 10, 11], rfl⟩

def sampleStream : Bytes :=
  [83, 36, 225, 165, 180, 30, 165, 189, 238, 124, 224, 70, 96, 166, 109, 5]

def masked : Bytes → Bytes → Bytes
  | [], _ => []
  | byte :: rest, [] => byte :: rest
  | byte :: rest, mask :: masks => (byte ^^^ mask) :: masked rest masks

def sampleTag (key value : Bytes) : Bytes :=
  if key = sampleKey then
    if value = utf8 (literal "a.b") then
      [37, 34, 6, 11, 60, 93, 223, 153, 177, 137, 187, 184, 200, 213, 30, 106]
    else [152, 171, 179, 139, 156, 62, 90, 71, 192, 186, 233, 97, 83, 9, 231, 204]
  else List.replicate 16 0

theorem length_masked (value masks : Bytes) : (masked value masks).length = value.length := by
  induction value, masks using masked.induct with
  | case1 masks => rfl
  | case2 byte rest => rfl
  | case3 byte rest mask masks ih => rw [masked, List.length_cons, List.length_cons, ih]

theorem masked_masked (value masks : Bytes) : masked (masked value masks) masks = value := by
  induction value, masks using masked.induct with
  | case1 masks => rfl
  | case2 byte rest => rfl
  | case3 byte rest mask masks ih =>
    rw [masked, masked, ih, UInt8.xor_assoc, UInt8.xor_self, UInt8.xor_zero]

theorem length_sampleTag (key value : Bytes) : (sampleTag key value).length = 16 := by
  rw [sampleTag]
  split
  · split <;> rfl
  · rfl

def sampleCipher : Cipher where
  encrypt key _ value := (masked value sampleStream, sampleTag key value)
  decrypt key _ tag encrypted :=
    let value := masked encrypted sampleStream
    if tag = sampleTag key value then some value else none
  tag_length key _ value := length_sampleTag key value
  decrypt_encrypt key _ value := by
    rw [masked_masked, if_pos rfl]

def sampleRuntime : Runtime where
  cipher := sampleCipher
  sha256 bytes := if bytes = utf8 (literal "next") then rotatedKey else sampleKey
  length_encrypt _ _ value := length_masked value sampleStream

theorem sampleEnvironment_keptApart : KeptApart sampleRuntime sampleEnvironment rotatedEnvironment := by
  intro key keys hkey hkeys other hother hne iv value
  have hcurrent : encryptionKey sampleRuntime sampleEnvironment = .ok sampleKey := by decide
  have hall : credentialEncryptionKeys sampleRuntime rotatedEnvironment =
      .ok [rotatedKey, sampleKey] := by
    decide
  cases hkey.symm.trans hcurrent
  cases hkeys.symm.trans hall
  have hrotated : other = rotatedKey := by
    rcases List.mem_pair.mp hother with h | h
    · exact h
    · exact absurd h hne
  have htag : ∀ value others, sampleTag sampleKey value ≠ sampleTag rotatedKey others := by
    intro value others
    have hother : sampleTag rotatedKey others = List.replicate 16 0 := if_neg (by decide)
    rw [hother, sampleTag, if_pos rfl]
    split <;> decide
  rw [hrotated]
  exact if_neg (htag value _)

end Sample

theorem decryptSecret_encryptSecret_sample :
    (encryptSecret sampleRuntime sampleEnvironment sampleIv (literal "a.b")).bind
        (decryptSecret sampleRuntime rotatedEnvironment) = .ok (literal "a.b") ∧
      (encryptBuffer sampleRuntime sampleEnvironment sampleIv [1, 2, 3]).bind
        (decryptBuffer sampleRuntime rotatedEnvironment) = .ok [1, 2, 3] := by
  have hread := decryptSecret_encryptSecret_iff sampleRuntime sampleEnvironment rotatedEnvironment
    (by decide) (by decide) (.rotated rfl) sampleEnvironment_keptApart
  exact ⟨(hread.1 sampleIv (literal "a.b")).mpr (by decide), hread.2 sampleIv [1, 2, 3]⟩

/-- The empty secret is written, and what is written is not read. -/
theorem empty_secret_unreadable :
    ∃ text, encryptSecret sampleRuntime sampleEnvironment sampleIv [] = .ok text ∧
      decryptSecret sampleRuntime sampleEnvironment text = .error "Encrypted value is invalid" := by
  have hread := decryptSecret_encryptSecret (R := sampleRuntime) (E := sampleEnvironment) rfl rfl .same
    (keptApart_self rfl) sampleIv []
  exact ⟨_, rfl, hread⟩

end RoundTrip
end FieldserviceIT.Security
