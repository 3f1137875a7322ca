import FieldserviceIT.Lib.JsonText

/-!
The artifact of a backup: the payload as JSON text, compressed and encrypted behind a header. The
compression, the cipher and the hash are those of the runtime; what is compressed is
decompressed, and what is encrypted under a key decrypted with it.
-/

namespace FieldserviceIT.PlatformSecurity

open Lib

abbrev Bytes := List UInt8

/-- `aes-256-gcm`: what is encrypted comes with a tag. -/
structure Cipher where
  encrypt : Bytes → Bytes → Bytes → Bytes × Bytes
  decrypt : Bytes → Bytes → Bytes → Bytes → Option Bytes
  tag_length : ∀ key iv value, (encrypt key iv value).2.length = 16
  decrypt_encrypt : ∀ key iv value,
    decrypt key iv (encrypt key iv value).2 (encrypt key iv value).1 = some value

structure Compression where
  gzip : Bytes → Bytes
  gunzip : Bytes → Except String Bytes
  gunzip_gzip : ∀ value, gunzip (gzip value) = .ok value

def byteItems (bytes : Bytes) : List Json :=
  bytes.map fun byte => .number byte.toNat

/-- `Buffer.from(value)`, or with `base64` as the second argument. It throws for what is no source
of bytes. -/
structure Buffers where
  bufferFrom : Json → Bool → Except String Bytes
  toBase64 : Bytes → String
  bufferFrom_bytes : ∀ bytes, bufferFrom (.array (byteItems bytes)) false = .ok bytes

/-- The runtime, and the keys it is configured with. -/
structure Runtime where
  numerals : JsonText.Numerals
  cipher : Cipher
  compression : Compression
  buffers : Buffers
  sha256 : Bytes → Bytes
  hex : Bytes → String
  syntaxError : String → String
  currentKey : String
  previousKey : Option String

section Texts

def utf8 (text : String) : Bytes :=
  text.toUTF8.data.toList

def ofUtf8 (bytes : Bytes) : Option String :=
  String.fromUTF8? ⟨bytes.toArray⟩

theorem ofUtf8_utf8 (text : String) : ofUtf8 (utf8 text) = some text := by
  rw [ofUtf8, utf8, Array.toArray_toList]
  change String.fromUTF8? text.toByteArray = some text
  rw [String.fromUTF8?, dif_pos text.isValidUTF8]
  rfl

end Texts

section Encryption

variable (R : Runtime)

/-- The key that is configured, and the previous one if it is another. -/
def credentialEncryptionKeys : List Bytes :=
  let previous := R.previousKey.filter fun key => key ≠ "" && key ≠ R.currentKey
  (R.currentKey :: previous.toList).map fun key => R.sha256 (utf8 key)

def encryptionKey : Bytes :=
  R.sha256 (utf8 R.currentKey)

def backupHeader : Bytes :=
  utf8 "FSITBACKUP1"

/-- `randomBytes(12)` -/
abbrev Iv := { iv : Bytes // iv.length = 12 }

def encryptBuffer (iv : Iv) (value : Bytes) : Bytes :=
  let encrypted := R.cipher.encrypt (encryptionKey R) iv.val value
  backupHeader ++ iv.val ++ encrypted.2 ++ encrypted.1

/-- `value.subarray(start, stop)` -/
def subarray (value : Bytes) (start stop : Nat) : Bytes :=
  (value.take stop).drop start

def decryptBuffer (value : Bytes) : Except String Bytes :=
  if ofUtf8 (value.take 11) ≠ some "FSITBACKUP1" then .error "Backup header is invalid"
  else
    let iv := subarray value 11 23
    let tag := subarray value 23 39
    let encrypted := value.drop 39
    match (credentialEncryptionKeys R).findSome? fun key => R.cipher.decrypt key iv tag encrypted with
    | some decrypted => .ok decrypted
    | none => .error "Backup cannot be decrypted with the configured keys"

theorem subarray_append {a b c : Bytes} {start stop : Nat} (hstart : a.length = start)
    (hstop : start + b.length = stop) : subarray (a ++ b ++ c) start stop = b := by
  subst hstart
  subst hstop
  rw [subarray, ← List.length_append, List.take_left, List.drop_left]

theorem decryptBuffer_encryptBuffer (iv : Iv) (value : Bytes) :
    decryptBuffer R (encryptBuffer R iv value) = .ok value := by
  have htag := R.cipher.tag_length (encryptionKey R) iv.val value
  have hdecrypt := R.cipher.decrypt_encrypt (encryptionKey R) iv.val value
  rw [encryptBuffer]
  generalize R.cipher.encrypt (encryptionKey R) iv.val value = encrypted at htag hdecrypt ⊢
  have hheader : backupHeader.length = 11 := by decide
  have htake : (backupHeader ++ iv.val ++ encrypted.2 ++ encrypted.1).take 11 = backupHeader := by
    rw [List.append_assoc, List.append_assoc, ← hheader, List.take_left]
  have hiv : subarray (backupHeader ++ iv.val ++ encrypted.2 ++ encrypted.1) 11 23 = iv.val := by
    rw [List.append_assoc]
    apply subarray_append hheader
    rw [iv.property]
  have hfront : (backupHeader ++ iv.val).length = 23 := by
    rw [List.length_append, hheader, iv.property]
  have htagged : subarray (backupHeader ++ iv.val ++ encrypted.2 ++ encrypted.1) 23 39 =
      encrypted.2 := by
    apply subarray_append hfront
    rw [htag]
  have hdrop : (backupHeader ++ iv.val ++ encrypted.2 ++ encrypted.1).drop 39 = encrypted.1 := by
    apply List.drop_left'
    rw [List.length_append, hfront, htag]
  rw [decryptBuffer, htake, backupHeader, ofUtf8_utf8, if_neg (fun h => h rfl), ← backupHeader, hiv,
    htagged, hdrop, credentialEncryptionKeys, List.map_cons, ← encryptionKey]
  dsimp only
  rw [List.findSome?_cons, hdecrypt]

end Encryption
end FieldserviceIT.PlatformSecurity
