import FieldserviceIT.Lib.Addresses
import Mathlib.Algebra.Group.Nat.Defs

/-!
The hosts of a subnet. The arithmetic is on numbers that the operators on bits take as signed
numbers of 32 bits; only the last step takes them as unsigned ones. What comes out are the
addresses of the block without its first and its last one, in order.
-/

namespace FieldserviceIT.Cmdb

open Lib.Addresses

section Operators

/-- `a << k` -/
def shiftedLeft (a : Int) (k : Nat) : Int :=
  (BitVec.ofInt 32 a <<< k).toInt

/-- `a & b` -/
def bitwiseAnd (a b : Int) : Int :=
  (BitVec.ofInt 32 a &&& BitVec.ofInt 32 b).toInt

/-- `a >>> k` -/
def shiftedRight (a : Int) (k : Nat) : Int :=
  (BitVec.ofInt 32 a >>> k).toNat

end Operators

section Expansion

/-- `\d{1,n}` -/
def readNumber (n : Nat) (text : String) : Option Nat :=
  if text.length ≤ n then readDigits text else none

def matchCidr (cidr : String) : Option (List Nat × Nat) :=
  match fields '/' cidr with
  | [address, prefixText] =>
    match (fields '.' address).mapM (readNumber 3), readNumber 2 prefixText with
    | some [a, b, c, d], some length => some ([a, b, c, d], length)
    | _, _ => none
  | _ => none

def dottedQuad (value : Int) : String :=
  ".".intercalate ([24, 16, 8, 0].map fun shift =>
    toString (bitwiseAnd (shiftedRight value shift) 255))

/-- `(acc << 8) + part` -/
def withOctet (acc : Int) (part : Nat) : Int :=
  shiftedLeft acc 8 + part

def expandIpv4Cidr (cidr : String) : List String :=
  match matchCidr cidr with
  | none => []
  | some (parts, length) =>
    if parts.any (fun part => 255 < part) || length < 24 || 30 < length then []
    else
      let base := shiftedRight (parts.foldl withOctet 0) 0
      let mask := shiftedRight (shiftedLeft 0xffffffff (32 - length)) 0
      let network := bitwiseAnd base mask
      let total := Nat.pow 2 (32 - length)
      (List.range' 1 (total - 2)).map fun offset : Nat =>
        dottedQuad (shiftedRight (network + offset) 0)

end Expansion

section Bits

theorem ofInt_shiftedLeft (a : Int) (k : Nat) :
    BitVec.ofInt 32 (shiftedLeft a k) = BitVec.ofInt 32 a <<< k :=
  BitVec.ofInt_toInt

theorem ofInt_bitwiseAnd (a b : Int) :
    BitVec.ofInt 32 (bitwiseAnd a b) = BitVec.ofInt 32 a &&& BitVec.ofInt 32 b :=
  BitVec.ofInt_toInt

theorem ofInt_shiftedRight (a : Int) (k : Nat) :
    BitVec.ofInt 32 (shiftedRight a k) = BitVec.ofInt 32 a >>> k := by
  rw [shiftedRight, BitVec.ofInt_natCast, BitVec.ofNat_toNat, BitVec.setWidth_eq]

theorem ofInt_withOctet {acc : Int} {number : Nat} (part : Nat)
    (h : BitVec.ofInt 32 acc = BitVec.ofNat 32 number) :
    BitVec.ofInt 32 (withOctet acc part) = BitVec.ofNat 32 (number * 256 + part) := by
  rw [withOctet, BitVec.ofInt_add, ofInt_shiftedLeft, BitVec.ofInt_natCast, h]
  apply BitVec.eq_of_toNat_eq
  simp only [BitVec.toNat_add, BitVec.toNat_shiftLeft, BitVec.toNat_ofNat, Nat.shiftLeft_eq]
  omega

theorem ofInt_base (a b c d : Nat) :
    BitVec.ofInt 32 ([a, b, c, d].foldl withOctet 0) = ofOctets a b c d := by
  have ha := ofInt_withOctet a (show BitVec.ofInt 32 0 = BitVec.ofNat 32 0 from rfl)
  have hd := ofInt_withOctet d (ofInt_withOctet c (ofInt_withOctet b ha))
  rw [Nat.zero_mul, Nat.zero_add] at hd
  exact hd

theorem and_allOnes_shiftLeft {w : Nat} (base : BitVec w) (k : Nat) :
    base &&& (BitVec.allOnes w <<< k) = (base >>> k) <<< k := by
  ext i hi
  simp only [BitVec.getElem_and, BitVec.getElem_shiftLeft, BitVec.getElem_ushiftRight]
  by_cases hlt : i < k
  · simp [hlt]
  · have hi' : k + (i - k) = i := Nat.add_sub_cancel' (Nat.le_of_not_lt hlt)
    simp [hlt, hi', BitVec.getLsbD_eq_getElem hi]

theorem toNat_masked (base : BitVec 32) (k : Nat) :
    (base &&& (BitVec.allOnes 32 <<< k)).toNat = base.toNat / 2 ^ k * 2 ^ k := by
  have hle : base.toNat / 2 ^ k * 2 ^ k ≤ base.toNat := Nat.div_mul_le_self _ _
  rw [and_allOnes_shiftLeft, BitVec.toNat_shiftLeft, BitVec.toNat_ushiftRight,
    Nat.shiftRight_eq_div_pow, Nat.shiftLeft_eq,
    Nat.mod_eq_of_lt (Nat.lt_of_le_of_lt hle base.isLt)]

theorem bitwiseAnd_octet (value : BitVec 32) (shift : Nat) :
    bitwiseAnd (shiftedRight value.toNat shift) 255 = (value.toNat / 2 ^ shift % 256 : Nat) := by
  have hlow : ∀ bits : BitVec 32, (bits &&& 255#32).toNat = bits.toNat % 256 := fun bits => by
    rw [BitVec.toNat_and]
    exact Nat.and_two_pow_sub_one_eq_mod bits.toNat 8
  have hbits : BitVec.ofInt 32 (value.toNat : Int) = value := by
    rw [BitVec.ofInt_natCast, BitVec.ofNat_toNat, BitVec.setWidth_eq]
  rw [bitwiseAnd, ofInt_shiftedRight, hbits]
  have hand := hlow (value >>> shift)
  rw [BitVec.toNat_ushiftRight, Nat.shiftRight_eq_div_pow] at hand
  rw [BitVec.toInt_eq_toNat_of_lt, ← hand]
  · rfl
  · change 2 * ((value >>> shift) &&& 255#32).toNat < 2 ^ 32
    rw [hand]
    omega

theorem dottedQuad_toNat (value : BitVec 32) : dottedQuad value.toNat = writeIpv4 value := by
  have hfirst : value.toNat / 16777216 % 256 = value.toNat / 16777216 :=
    Nat.mod_eq_of_lt (Nat.div_lt_of_lt_mul value.isLt)
  have htext : ∀ octet : Nat, toString (octet : Int) = toString octet := fun _ => rfl
  apply String.toList_inj.mp
  rw [dottedQuad, String.toList_intercalate, writeIpv4, String.toList_ofList]
  simp only [List.map_cons, List.map_nil, bitwiseAnd_octet, octets, htext, Nat.reducePow, hfirst,
    Nat.div_one]
  exact String.toList_ofList.symm

end Bits

section Hosts

/-- The numbers from the second to the last but one of the block that the address is in. -/
def hostsOf (base : BitVec 32) (length : Nat) : List (BitVec 32) :=
  (List.range' 1 (2 ^ (32 - length) - 2)).map fun offset =>
    BitVec.ofNat 32 (base.toNat / 2 ^ (32 - length) * 2 ^ (32 - length) + offset)

theorem expandIpv4Cidr_of_match {cidr : String} {a b c d length : Nat}
    (hmatch : matchCidr cidr = some ([a, b, c, d], length))
    (hparts : a ≤ 255 ∧ b ≤ 255 ∧ c ≤ 255 ∧ d ≤ 255) (hlength : 24 ≤ length ∧ length ≤ 30) :
    expandIpv4Cidr cidr = (hostsOf (ofOctets a b c d) length).map writeIpv4 := by
  have haccepted : ([a, b, c, d].any (fun part => 255 < part) || length < 24 || 30 < length) =
      false := by
    simp
    omega
  rw [expandIpv4Cidr, hmatch]
  dsimp only
  rw [haccepted, hostsOf, List.map_map]
  simp only [Bool.false_eq_true, if_false]
  refine List.map_congr_left fun offset _ => ?_
  have hnetwork : BitVec.ofInt 32 (bitwiseAnd
      (shiftedRight ([a, b, c, d].foldl withOctet 0) 0)
      (shiftedRight (shiftedLeft 0xffffffff (32 - length)) 0)) =
        ofOctets a b c d &&& (BitVec.allOnes 32 <<< (32 - length)) := by
    rw [ofInt_bitwiseAnd, ofInt_shiftedRight, ofInt_shiftedRight, ofInt_base, ofInt_shiftedLeft]
    rfl
  rw [Function.comp_apply, ← dottedQuad_toNat]
  refine congrArg dottedQuad ?_
  rw [shiftedRight, BitVec.ofInt_add, hnetwork, BitVec.ofInt_natCast, BitVec.ushiftRight_zero]
  refine congrArg Nat.cast (congrArg BitVec.toNat (BitVec.eq_of_toNat_eq ?_))
  rw [BitVec.toNat_add, toNat_masked, BitVec.toNat_ofNat, BitVec.toNat_ofNat, Nat.add_mod_mod]

/-- An address of the block, neither its first nor its last one. -/
structure IsHost (base : BitVec 32) (length : Nat) (address : BitVec 32) : Prop where
  contained : Block.contains ⟨.v4 base, length⟩ (.v4 address) = true
  not_network : address.toNat % 2 ^ (32 - length) ≠ 0
  not_broadcast : address.toNat % 2 ^ (32 - length) ≠ 2 ^ (32 - length) - 1

theorem toNat_host (base : BitVec 32) {length offset : Nat} (hlength : length ≤ 32)
    (hoffset : offset < 2 ^ (32 - length)) :
    (BitVec.ofNat 32 (base.toNat / 2 ^ (32 - length) * 2 ^ (32 - length) + offset)).toNat =
      base.toNat / 2 ^ (32 - length) * 2 ^ (32 - length) + offset := by
  have hpow : 2 ^ 32 = 2 ^ length * 2 ^ (32 - length) := by
    rw [← Nat.pow_add, Nat.add_sub_cancel' hlength]
  have hblock : base.toNat / 2 ^ (32 - length) < 2 ^ length :=
    Nat.div_lt_of_lt_mul (by rw [Nat.mul_comm, ← hpow]; exact base.isLt)
  rw [BitVec.toNat_ofNat, Nat.mod_eq_of_lt]
  calc base.toNat / 2 ^ (32 - length) * 2 ^ (32 - length) + offset
      < base.toNat / 2 ^ (32 - length) * 2 ^ (32 - length) + 2 ^ (32 - length) :=
        Nat.add_lt_add_left hoffset _
    _ = (base.toNat / 2 ^ (32 - length) + 1) * 2 ^ (32 - length) := by rw [Nat.add_mul, Nat.one_mul]
    _ ≤ 2 ^ length * 2 ^ (32 - length) := Nat.mul_le_mul_right _ hblock
    _ = 2 ^ 32 := hpow.symm

theorem mem_hostsOf {base address : BitVec 32} {length : Nat} :
    address ∈ hostsOf base length ↔ ∃ offset, (0 < offset ∧ offset < 2 ^ (32 - length) - 1) ∧
      BitVec.ofNat 32 (base.toNat / 2 ^ (32 - length) * 2 ^ (32 - length) + offset) = address := by
  rw [hostsOf, List.mem_map]
  refine exists_congr fun offset => and_congr_left fun _ => ?_
  rw [List.mem_range'_1]
  omega

theorem mem_hostsOf_iff {base address : BitVec 32} {length : Nat} (hlength : length ≤ 32) :
    address ∈ hostsOf base length ↔ IsHost base length address := by
  have hpos : 0 < 2 ^ (32 - length) := Nat.two_pow_pos _
  rw [mem_hostsOf]
  constructor
  · rintro ⟨offset, ⟨hfirst, hlast⟩, rfl⟩
    have hlt : offset < 2 ^ (32 - length) := by omega
    have hvalue := toNat_host base hlength hlt
    have hmod : (base.toNat / 2 ^ (32 - length) * 2 ^ (32 - length) + offset) % 2 ^ (32 - length) =
        offset := by
      rw [Nat.mul_add_mod_self_right, Nat.mod_eq_of_lt hlt]
    refine ⟨?_, ?_, ?_⟩
    · rw [contains_v4, decide_eq_true_eq, hvalue, Nat.shiftRight_eq_div_pow,
        Nat.shiftRight_eq_div_pow, Nat.mul_comm, Nat.mul_add_div hpos, Nat.div_eq_of_lt hlt,
        Nat.add_zero]
    · rw [hvalue, hmod]
      omega
    · rw [hvalue, hmod]
      omega
  · rintro ⟨hcontained, hfirst, hlast⟩
    have hmod := Nat.mod_lt address.toNat hpos
    rw [contains_v4, decide_eq_true_eq, Nat.shiftRight_eq_div_pow, Nat.shiftRight_eq_div_pow]
      at hcontained
    refine ⟨address.toNat % 2 ^ (32 - length), ⟨by omega, by omega⟩, ?_⟩
    rw [hcontained, Nat.div_add_mod', BitVec.ofNat_toNat, BitVec.setWidth_eq]

theorem pairwise_hostsOf (base : BitVec 32) {length : Nat} (hlength : length ≤ 32) :
    (hostsOf base length).Pairwise fun x y => x.toNat < y.toNat := by
  rw [hostsOf, List.pairwise_map]
  refine List.Pairwise.imp_of_mem ?_ List.pairwise_lt_range'
  intro offset offset' hoffset hoffset' hlt
  rw [List.mem_range'_1] at hoffset hoffset'
  rw [toNat_host base hlength (by omega), toNat_host base hlength (by omega)]
  exact Nat.add_lt_add_left hlt _

end Hosts

section Texts

def IsNumber (n : Nat) (text : String) (number : Nat) : Prop :=
  text.length ≤ n ∧ readDigits text = some number

/-- The text is `a.b.c.d/p` with octets up to 255 and `p` from 24 to 30. -/
structure IsSubnet (cidr : String) (a b c d length : Nat) : Prop where
  written : ∃ aText bText cText dText lengthText : String,
    cidr = aText ++ "." ++ bText ++ "." ++ cText ++ "." ++ dText ++ "/" ++ lengthText ∧
      (IsNumber 3 aText a ∧ IsNumber 3 bText b ∧ IsNumber 3 cText c ∧ IsNumber 3 dText d) ∧
        IsNumber 2 lengthText length
  octets : a ≤ 255 ∧ b ≤ 255 ∧ c ≤ 255 ∧ d ≤ 255
  length_range : 24 ≤ length ∧ length ≤ 30

theorem readNumber_iff {n : Nat} {text : String} {number : Nat} :
    readNumber n text = some number ↔ IsNumber n text number := by
  rw [readNumber, Option.ite_none_right_eq_some, IsNumber]

theorem digits_of_readDigits {text : String} {number : Nat} (h : readDigits text = some number) :
    ∀ c ∈ text.toList, c.isDigit = true := by
  obtain ⟨hdigits, -⟩ := Option.ite_none_right_eq_some.mp h
  rw [Bool.and_eq_true] at hdigits
  exact List.all_eq_true.mp hdigits.2

theorem fields_append {separator : Char} {first : String} (h : separator ∉ first.toList)
    {mark : String} (hmark : mark.toList = [separator]) (rest : String) :
    fields separator (first ++ mark ++ rest) = first :: fields separator rest := by
  have hplain : ∀ c ∈ first.toList, (c == separator) = false := by
    intro c hc
    rw [beq_eq_false_iff_ne]
    rintro rfl
    exact h hc
  rw [fields, String.toList_append, String.toList_append, hmark, List.append_assoc,
    List.singleton_append, List.splitOnP_append_cons_of_forall_mem hplain _ (beq_self_eq_true separator),
    List.map_cons, String.ofList_toList]
  rfl

theorem intercalate_fields {separator : Char} {mark : String} (hmark : mark.toList = [separator])
    (text : String) : mark.intercalate (fields separator text) = text := by
  have hlists : (fields separator text).map String.toList = text.toList.splitOn separator := by
    rw [fields, List.map_map, List.splitOn_eq_splitOnP]
    exact (List.map_congr_left fun _ _ => String.toList_ofList).trans (List.map_id _)
  apply String.toList_inj.mp
  rw [String.toList_intercalate, hmark, hlists, List.intercalate_splitOn]

theorem not_mem_of_isNumber {n number : Nat} {text : String} (h : IsNumber n text number) {c : Char}
    (hc : c.isDigit = false) : c ∉ text.toList := by
  intro hmem
  rw [digits_of_readDigits h.2 c hmem] at hc
  cases hc

theorem fields_address {n a b c d : Nat} {aText bText cText dText : String}
    (ha : IsNumber n aText a) (hb : IsNumber n bText b) (hc : IsNumber n cText c)
    (hd : IsNumber n dText d) :
    fields '.' (aText ++ "." ++ bText ++ "." ++ cText ++ "." ++ dText) =
      [aText, bText, cText, dText] := by
  have hassoc : aText ++ "." ++ bText ++ "." ++ cText ++ "." ++ dText =
      aText ++ "." ++ (bText ++ "." ++ (cText ++ "." ++ dText)) := by
    simp only [String.append_assoc]
  rw [hassoc, fields_append (not_mem_of_isNumber ha rfl) rfl,
    fields_append (not_mem_of_isNumber hb rfl) rfl, fields_append (not_mem_of_isNumber hc rfl) rfl,
    fields_of_not_mem (not_mem_of_isNumber hd rfl)]

theorem matchCidr_iff {cidr : String} {a b c d length : Nat} :
    matchCidr cidr = some ([a, b, c, d], length) ↔
      ∃ aText bText cText dText lengthText : String,
        cidr = aText ++ "." ++ bText ++ "." ++ cText ++ "." ++ dText ++ "/" ++ lengthText ∧
          (IsNumber 3 aText a ∧ IsNumber 3 bText b ∧ IsNumber 3 cText c ∧ IsNumber 3 dText d) ∧
            IsNumber 2 lengthText length := by
  constructor
  · intro h
    rw [matchCidr] at h
    split at h
    next address lengthText hcidr =>
      split at h
      next a' b' c' d' length' haddress hlength =>
        cases h
        have hread := forall₂_of_mapM haddress
        have hjoined := intercalate_fields (show (".").toList = ['.'] from rfl) address
        generalize fields '.' address = texts at hread hjoined
        obtain _ | ⟨ha, _ | ⟨hb, _ | ⟨hc, _ | ⟨hd, _ | _⟩⟩⟩⟩ := hread
        have hwhole := intercalate_fields (show ("/").toList = ['/'] from rfl) cidr
        rw [hcidr] at hwhole
        refine ⟨_, _, _, _, lengthText, ?_, ⟨readNumber_iff.mp ha, readNumber_iff.mp hb,
          readNumber_iff.mp hc, readNumber_iff.mp hd⟩, readNumber_iff.mp hlength⟩
        rw [← hwhole, ← hjoined]
        simp [String.intercalate_cons_cons, String.intercalate_singleton, String.append_assoc]
      next => cases h
    next => cases h
  · rintro ⟨aText, bText, cText, dText, lengthText, rfl, ⟨ha, hb, hc, hd⟩, hlength⟩
    have haddress : '/' ∉ (aText ++ "." ++ bText ++ "." ++ cText ++ "." ++ dText).toList := by
      have hdot : '/' ∉ (".").toList := by decide
      simp only [String.toList_append, List.mem_append, not_or]
      exact ⟨⟨⟨⟨⟨⟨not_mem_of_isNumber ha rfl, hdot⟩, not_mem_of_isNumber hb rfl⟩, hdot⟩,
        not_mem_of_isNumber hc rfl⟩, hdot⟩, not_mem_of_isNumber hd rfl⟩
    rw [matchCidr, fields_append haddress rfl, fields_of_not_mem (not_mem_of_isNumber hlength rfl)]
    dsimp only
    rw [fields_address ha hb hc hd, readNumber_iff.mpr hlength]
    simp [readNumber_iff.mpr ha, readNumber_iff.mpr hb, readNumber_iff.mpr hc,
      readNumber_iff.mpr hd]

theorem parts_of_match {cidr : String} {parts : List Nat} {length : Nat}
    (h : matchCidr cidr = some (parts, length)) : ∃ a b c d, parts = [a, b, c, d] := by
  rw [matchCidr] at h
  split at h
  · split at h
    · cases h
      exact ⟨_, _, _, _, rfl⟩
    · cases h
  · cases h

/-- A text that is no such subnet has no hosts; of one that is, the hosts are written in order,
each as it is read again. -/
theorem expandIpv4Cidr_exact (cidr : String) :
    ((¬∃ a b c d length, IsSubnet cidr a b c d length) → expandIpv4Cidr cidr = []) ∧
      ∀ a b c d length, IsSubnet cidr a b c d length →
        ∃ hosts : List (BitVec 32), expandIpv4Cidr cidr = hosts.map writeIpv4 ∧
          (hosts.Pairwise fun x y => x.toNat < y.toNat) ∧
            (∀ address, address ∈ hosts ↔ IsHost (ofOctets a b c d) length address) ∧
              ∀ address ∈ hosts, readIpv4 (writeIpv4 address) = some address := by
  constructor
  · intro hnone
    rw [expandIpv4Cidr]
    split
    next => rfl
    next parts length hmatch =>
      obtain ⟨a, b, c, d, rfl⟩ := parts_of_match hmatch
      refine if_pos ?_
      by_contra hrange
      simp only [List.any_cons, List.any_nil, Bool.or_false, Bool.or_eq_true, decide_eq_true_eq,
        not_or, Nat.not_lt] at hrange
      obtain ⟨⟨⟨ha, hb, hc, hd⟩, hlow⟩, hhigh⟩ := hrange
      exact hnone ⟨a, b, c, d, length, matchCidr_iff.mp hmatch, ⟨ha, hb, hc, hd⟩, hlow, hhigh⟩
  · rintro a b c d length ⟨hwritten, hoctets, hlength⟩
    refine ⟨hostsOf (ofOctets a b c d) length,
      expandIpv4Cidr_of_match (matchCidr_iff.mpr hwritten) hoctets hlength, ?_, ?_, ?_⟩
    · exact pairwise_hostsOf _ (by omega)
    · exact fun address => mem_hostsOf_iff (by omega)
    · exact fun address _ => readIpv4_writeIpv4 address

end Texts
end FieldserviceIT.Cmdb
