import FieldserviceIT.Common.WhiteSpace
import FieldserviceIT.Lib.BitGroups
import Mathlib.Data.List.GetD

/-!
The secret of an authenticator app is shown and stored in base 32. However the code is typed in, it
is read as the bytes that were drawn, so that both sides count the same one-time passwords.
-/

namespace FieldserviceIT.Auth.TotpSecrets

open Common Lib.BitGroups

section Codec

def base32Alphabet : List Char :=
  "ABCDEFGHIJKLMNOPQRSTUVWXYZ234567".toList

def expandedLetters : List (Char × List Char) :=
  [('ß', ['S', 'S']), ('ı', ['I']), ('ŉ', ['ʼ', 'N']), ('ſ', ['S']), ('ǰ', ['J', '\u030c']),
    ('ẖ', ['H', '\u0331']), ('ẗ', ['T', '\u0308']), ('ẘ', ['W', '\u030a']), ('ẙ', ['Y', '\u030a']),
    ('ẚ', ['A', 'ʾ']), ('ﬀ', ['F', 'F']), ('ﬁ', ['F', 'I']), ('ﬂ', ['F', 'L']), ('ﬃ', ['F', 'F', 'I']),
    ('ﬄ', ['F', 'F', 'L']), ('ﬅ', ['S', 'T']), ('ﬆ', ['S', 'T'])]

/-- `toUpperCase`, which here leaves the letters alone whose capitals are outside ASCII. -/
def toUpperCase (c : Char) : List Char :=
  (expandedLetters.lookup c).getD [c.toUpper]

def encodeBase32 (bytes : List UInt8) : List Char :=
  (groups 5 (bytes.flatMap fun byte => bits 8 byte.toNat)).map fun group =>
    base32Alphabet.getD (number group) 'A'

def base32Index (c : Char) : Option Nat :=
  base32Alphabet.findIdx? fun letter => letter = c

def decodeBase32 (text : List Char) : List UInt8 :=
  let indices := ((text.rdropWhile (· = '=')).flatMap toUpperCase).filterMap base32Index
  (fullGroups 8 (indices.flatMap (bits 5))).map fun group => UInt8.ofNat (number group)

/-- A text is the code in small letters here and there, with blanks in between and padding behind. -/
inductive Spells : List Char → List Char → Prop
  | nil : Spells [] []
  | padding {text} : Spells [] text → Spells [] ('=' :: text)
  | blank {code text} {c : Char} : isWhiteSpace c = true → Spells code text → Spells code (c :: text)
  | same {code text} (c : Char) : Spells code text → Spells (c :: code) (c :: text)
  | lower {code text} (c : Char) : Spells code text → Spells (c :: code) (c.toLower :: text)

end Codec

section Passwords

/-- SHA-1 as the platform and the apps have it. -/
structure Digests where
  hmacSha1 : List UInt8 → List UInt8 → List UInt8
  length_hmacSha1 : ∀ key message, (hmacSha1 key message).length = 20

variable (D : Digests)

/-- `writeBigUInt64BE`, which throws where there are no eight bytes for the number. -/
def counterBytes (counter : Int) : Option (List UInt8) :=
  if 0 ≤ counter ∧ counter < 18446744073709551616 then
    some ((fullGroups 8 (bits 64 counter.toNat)).map fun group => UInt8.ofNat (number group))
  else none

def padStart (width : Nat) (text : List Char) : List Char :=
  List.replicate (width - text.length) '0' ++ text

def hotp (secret : List Char) (counter : Int) : Option (List Char) := do
  let message ← counterBytes counter
  let digest := (D.hmacSha1 (decodeBase32 secret) message).map (·.toNat)
  let offset := digest.getD (digest.length - 1) 0 &&& 0x0f
  let binary := (digest.getD offset 0 &&& 0x7f) <<< 24 ||| (digest.getD (offset + 1) 0 &&& 0xff) <<< 16 |||
    (digest.getD (offset + 2) 0 &&& 0xff) <<< 8 ||| (digest.getD (offset + 3) 0 &&& 0xff)
  return padStart 6 (toString (binary % 1000000)).toList

/-- The one-time password of a key: four bytes of the digest at the place that its last four bits
say, without the first bit, in six digits. -/
def oneTimePassword (key : List UInt8) (counter : Int) : Option (List Char) := do
  let message ← counterBytes counter
  let digest := D.hmacSha1 key message
  let offset := (digest.getD 19 0).toNat % 16
  let value := number (((digest.drop offset).take 4).flatMap fun byte => bits 8 byte.toNat)
  return padStart 6 (toString (value % 2147483648 % 1000000)).toList

/-- What an app makes of the code that a user gives it. -/
structure Authenticator where
  keyOf : List Char → List UInt8
  keyOf_spelled : ∀ {key text}, Spells (encodeBase32 key) text → keyOf text = key

end Passwords

section Spelling

def valuesOf (text : List Char) : List Nat :=
  (text.flatMap toUpperCase).filterMap base32Index

theorem valuesOf_cons (c : Char) (text : List Char) :
    valuesOf (c :: text) = (toUpperCase c).filterMap base32Index ++ valuesOf text := by
  rw [valuesOf, List.flatMap_cons, List.filterMap_append]
  rfl

theorem valuesOf_append (text rest : List Char) : valuesOf (text ++ rest) = valuesOf text ++ valuesOf rest := by
  rw [valuesOf, List.flatMap_append, List.filterMap_append]
  rfl

theorem digits_padding : (toUpperCase '=').filterMap base32Index = [] := by
  decide

theorem valuesOf_rdropWhile (text : List Char) : valuesOf (text.rdropWhile (· = '=')) = valuesOf text := by
  induction text using List.reverseRecOn with
  | nil => rfl
  | append_singleton text c ih =>
    by_cases hc : c = '='
    · have hdrop := List.rdropWhile_concat_pos (fun c : Char => decide (c = '=')) text c (decide_eq_true hc)
      rw [hdrop, ih, valuesOf_append, hc, valuesOf_cons, digits_padding]
      exact (List.append_nil _).symm
    · have hkeep := List.rdropWhile_concat_neg (fun c : Char => decide (c = '=')) text c (by rwa [decide_eq_true_eq])
      rw [hkeep]

theorem decodeBase32_eq (text : List Char) :
    decodeBase32 text =
      (fullGroups 8 ((valuesOf text).flatMap (bits 5))).map fun group => UInt8.ofNat (number group) := by
  rw [← valuesOf_rdropWhile]
  rfl

theorem base32Index_blank {c : Char} (h : isWhiteSpace c = true) : base32Index c = none := by
  have hall : (base32Alphabet.all fun letter => !isWhiteSpace letter) = true := by decide
  rw [base32Index, List.findIdx?_eq_none_iff]
  intro letter hletter
  refine decide_eq_false fun heq => ?_
  have hplain := List.all_eq_true.mp hall letter hletter
  rw [heq, h] at hplain
  cases hplain

theorem toUpperCase_blank {c : Char} (h : isWhiteSpace c = true) : toUpperCase c = [c] := by
  have hall : (expandedLetters.all fun entry => !isWhiteSpace entry.1) = true := by decide
  have hnone : expandedLetters.lookup c = none := by
    rw [List.lookup_eq_none_iff]
    intro entry hentry
    refine bne_iff_ne.mpr fun heq => ?_
    have hplain := List.all_eq_true.mp hall entry hentry
    rw [← heq, h] at hplain
    cases hplain
  have hupper : c.toUpper = c := by
    refine dif_neg fun hlower => ?_
    have hletters : ∀ n < 123, 97 ≤ n → isWhiteSpace (Char.ofNat n) = false := by decide
    have hplain := hletters c.toNat (Nat.lt_succ_of_le hlower.2) hlower.1
    rw [Char.ofNat_toNat, h] at hplain
    cases hplain
  rw [toUpperCase, hnone, hupper]
  rfl

theorem toUpperCase_toLower (c : Char) : toUpperCase c.toLower = toUpperCase c := by
  by_cases hcapital : c.val ≥ 'A'.val ∧ c.val ≤ 'Z'.val
  · have hcapitals : ∀ n < 91, toUpperCase (Char.ofNat n).toLower = toUpperCase (Char.ofNat n) := by
      decide +kernel
    have h := hcapitals c.toNat (Nat.lt_succ_of_le hcapital.2)
    rwa [Char.ofNat_toNat] at h
  · have hsame : c.toLower = c := dif_neg hcapital
    rw [hsame]

theorem valuesOf_spells {code text : List Char} (h : Spells code text) : valuesOf text = valuesOf code := by
  induction h with
  | nil => rfl
  | padding _ ih => rw [valuesOf_cons, digits_padding, ih]; rfl
  | blank hblank _ ih =>
    rw [valuesOf_cons, toUpperCase_blank hblank, List.filterMap_cons, base32Index_blank hblank, ih]
    rfl
  | same c _ ih => rw [valuesOf_cons, valuesOf_cons, ih]
  | lower c _ ih => rw [valuesOf_cons, valuesOf_cons, toUpperCase_toLower, ih]

theorem decodeBase32_spells {code text : List Char} (h : Spells code text) :
    decodeBase32 text = decodeBase32 code := by
  rw [decodeBase32_eq, decodeBase32_eq, valuesOf_spells h]

end Spelling

section RoundTrip

theorem digits_letter {value : Nat} (h : value < 32) :
    (toUpperCase (base32Alphabet.getD value 'A')).filterMap base32Index = [value] := by
  have hall : ∀ value < 32, (toUpperCase (base32Alphabet.getD value 'A')).filterMap base32Index = [value] := by
    decide +kernel
  exact hall value h

theorem valuesOf_letters {values : List Nat} (h : ∀ value ∈ values, value < 32) :
    valuesOf (values.map fun value => base32Alphabet.getD value 'A') = values := by
  induction values with
  | nil => rfl
  | cons value values ih =>
    obtain ⟨hvalue, hvalues⟩ := List.forall_mem_cons.mp h
    rw [List.map_cons, valuesOf_cons, digits_letter hvalue, ih hvalues]
    rfl

theorem valuesOf_encodeBase32 (bytes : List UInt8) :
    valuesOf (encodeBase32 bytes) =
      (groups 5 ((bytes.map (·.toNat)).flatMap (bits 8))).map number := by
  have hbound : ∀ value ∈ (groups 5 (bytes.flatMap fun byte => bits 8 byte.toNat)).map number, value < 32 := by
    intro value hvalue
    obtain ⟨group, hgroup, rfl⟩ := List.mem_map.mp hvalue
    have hlt := number_lt group
    rw [length_of_mem_groups hgroup] at hlt
    exact hlt
  have hvalues := valuesOf_letters hbound
  rw [List.map_map] at hvalues
  rw [List.flatMap_map]
  exact hvalues

theorem decodeBase32_encodeBase32 (bytes : List UInt8) : decodeBase32 (encodeBase32 bytes) = bytes := by
  have hbound : ∀ value ∈ bytes.map (·.toNat), value < 2 ^ 8 := by
    intro value hvalue
    obtain ⟨byte, _, rfl⟩ := List.mem_map.mp hvalue
    exact byte.toNat_lt
  have hgroups := congrArg (List.map UInt8.ofNat) (fullGroups_groups (by decide) (by decide : 5 ≤ 8) hbound)
  rw [List.map_map, List.map_map] at hgroups
  rw [decodeBase32_eq, valuesOf_encodeBase32]
  refine hgroups.trans ((List.map_congr_left fun byte _ => ?_).trans (List.map_id _))
  exact UInt8.ofNat_toNat

end RoundTrip

section Codes

theorem number_bytes (a b c d : UInt8) :
    number ([a, b, c, d].flatMap fun byte => bits 8 byte.toNat) =
      ((a.toNat * 256 + b.toNat) * 256 + c.toNat) * 256 + d.toNat := by
  have hbyte (byte : UInt8) : number (bits 8 byte.toNat) = byte.toNat := number_bits byte.toNat_lt
  simp only [List.flatMap_cons, List.flatMap_nil, List.append_nil, number_append, List.length_append,
    length_bits, hbyte]
  omega

theorem joined_eq (a b c d : UInt8) :
    (a.toNat &&& 0x7f) <<< 24 ||| (b.toNat &&& 0xff) <<< 16 ||| (c.toNat &&& 0xff) <<< 8 ||| (d.toNat &&& 0xff) =
      number ([a, b, c, d].flatMap fun byte => bits 8 byte.toNat) % 2147483648 := by
  have ha := a.toNat_lt
  have hb := b.toNat_lt
  have hc := c.toNat_lt
  have hd := d.toNat_lt
  have hmask (n : Nat) (h : n < 256) : n &&& 0xff = n := by
    rw [show 0xff = 2 ^ 8 - 1 from rfl, Nat.and_two_pow_sub_one_eq_mod]
    omega
  have hfirst : a.toNat &&& 0x7f = a.toNat % 128 := Nat.and_two_pow_sub_one_eq_mod _ 7
  have hsecond : (a.toNat % 128) <<< 24 ||| b.toNat <<< 16 = (a.toNat % 128 * 256 + b.toNat) <<< 16 := by
    have hlt : b.toNat <<< 16 < 2 ^ 24 := by rw [Nat.shiftLeft_eq]; omega
    rw [← Nat.shiftLeft_add_eq_or_of_lt hlt, Nat.shiftLeft_eq, Nat.shiftLeft_eq, Nat.shiftLeft_eq]
    omega
  have hthird (n : Nat) : n <<< 16 ||| c.toNat <<< 8 = (n * 256 + c.toNat) <<< 8 := by
    have hlt : c.toNat <<< 8 < 2 ^ 16 := by rw [Nat.shiftLeft_eq]; omega
    rw [← Nat.shiftLeft_add_eq_or_of_lt hlt, Nat.shiftLeft_eq, Nat.shiftLeft_eq, Nat.shiftLeft_eq]
    omega
  have hlast (n : Nat) : n <<< 8 ||| d.toNat = n * 256 + d.toNat := by
    rw [← Nat.shiftLeft_add_eq_or_of_lt hd, Nat.shiftLeft_eq]
  rw [hmask _ hb, hmask _ hc, hmask _ hd, hfirst, number_bytes, hsecond, hthird, hlast]
  omega

theorem take_four (digest : List UInt8) {offset : Nat} (h : offset + 4 ≤ digest.length) :
    (digest.drop offset).take 4 =
      [digest.getD offset 0, digest.getD (offset + 1) 0, digest.getD (offset + 2) 0, digest.getD (offset + 3) 0] := by
  refine List.ext_getElem ?_ fun i hi hi' => ?_
  · rw [List.length_take, List.length_drop]
    exact Nat.min_eq_left (by omega)
  · rw [List.getElem_take, List.getElem_drop]
    have hfour : i < 4 := hi'
    obtain rfl | rfl | rfl | rfl : i = 0 ∨ i = 1 ∨ i = 2 ∨ i = 3 := by omega
    all_goals exact (List.getD_eq_getElem digest 0 (by omega)).symm

theorem hotp_eq (D : Digests) (secret : List Char) (counter : Int) :
    hotp D secret counter = oneTimePassword D (decodeBase32 secret) counter := by
  cases hcounter : counterBytes counter with
  | none => simp only [hotp, oneTimePassword, hcounter, Option.bind_eq_bind, Option.bind_none]
  | some message =>
    have hlength := D.length_hmacSha1 (decodeBase32 secret) message
    simp only [hotp, oneTimePassword, hcounter, Option.bind_eq_bind, Option.bind_some]
    generalize D.hmacSha1 (decodeBase32 secret) message = digest at hlength ⊢
    have hget (i : Nat) : (digest.map (·.toNat)).getD i 0 = (digest.getD i 0).toNat := by
      rw [List.getD_eq_getElem?_getD, List.getD_eq_getElem?_getD, List.getElem?_map]
      cases digest[i]? with
      | none | some _ => rfl
    have hoffset : (digest.getD 19 0).toNat &&& 0x0f = (digest.getD 19 0).toNat % 16 :=
      Nat.and_two_pow_sub_one_eq_mod _ 4
    have hrange : (digest.getD 19 0).toNat % 16 + 4 ≤ digest.length := by omega
    simp only [hget, List.length_map, hlength, Nat.add_one_sub_one, hoffset]
    rw [joined_eq, take_four digest hrange]

end Codes

/-- What is stored and shown for a key is read as the key again, in every spelling, and the service
and the app agree on its one-time passwords. -/
theorem secret_survives (D : Digests) (A : Authenticator) (key : List UInt8) :
    decodeBase32 (encodeBase32 key) = key ∧
      (∀ code text, Spells code text → decodeBase32 text = decodeBase32 code) ∧
      ∀ shown, Spells (encodeBase32 key) shown → ∀ counter,
        hotp D (encodeBase32 key) counter = oneTimePassword D (A.keyOf shown) counter := by
  refine ⟨decodeBase32_encodeBase32 key, fun code text h => decodeBase32_spells h, fun shown hshown counter => ?_⟩
  rw [hotp_eq, decodeBase32_encodeBase32, A.keyOf_spelled hshown]

def sampleAuthenticator : Authenticator where
  keyOf := decodeBase32
  keyOf_spelled h := (decodeBase32_spells h).trans (decodeBase32_encodeBase32 _)

def sampleDigests : Digests where
  hmacSha1 key message := (key ++ message ++ List.replicate 20 0).take 20
  length_hmacSha1 key message := by
    rw [List.length_take, List.length_append, List.length_replicate]
    omega

theorem secret_survives_spelled :
    decodeBase32 (encodeBase32 [0xf0]) = [0xf0] ∧ decodeBase32 "6 a==".toList = decodeBase32 "6A".toList ∧
      hotp sampleDigests (encodeBase32 [0xf0]) 1 =
        oneTimePassword sampleDigests (sampleAuthenticator.keyOf "6 a==".toList) 1 := by
  have hspells : Spells "6A".toList "6 a==".toList :=
    .same '6' (.blank rfl (.lower 'A' (.padding (.padding .nil))))
  have hencode : encodeBase32 [0xf0] = "6A".toList := by decide +kernel
  have h := secret_survives sampleDigests sampleAuthenticator [0xf0]
  exact ⟨h.1, h.2.1 _ _ hspells, h.2.2 _ (hencode ▸ hspells) 1⟩

end FieldserviceIT.Auth.TotpSecrets
