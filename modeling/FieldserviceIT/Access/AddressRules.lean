import FieldserviceIT.Access.ContextualPolicies
import FieldserviceIT.Lib.Addresses

/-!
What the addresses of a contextual policy match. The comparison is of numbers of 32 bits, which are
the addresses where both texts are addresses of the older family; of other texts it compares what
they happen to be read as.
-/

namespace FieldserviceIT.Access

open Admin Lib Addresses

section Numbers

variable {T : TextReading}

/-- `Number(text)` reads decimal digits. -/
def ReadsDigits (T : TextReading) : Prop :=
  ∀ text number, readDigits text = some number → number ≤ 255 → T.number text = .finite number

theorem bits_finite (number : Int) : bits (.finite number) = BitVec.ofInt 32 number := by
  rw [bits, Rat.num_intCast, Rat.den_intCast]
  exact congrArg _ (Int.tdiv_one number)

theorem bits_withOctet {octet : String} {number : Nat} (h : T.number octet = .finite number)
    (result : JsNumber) :
    bits (withOctet T result octet) = bits result <<< 8 + BitVec.ofNat 32 number := by
  rw [withOctet, h]
  dsimp only
  have hcast : ((bits result <<< 8).toInt : ℚ) + (number : ℚ) =
      (((bits result <<< 8).toInt + (number : Int) : Int) : ℚ) := by
    push_cast
    rfl
  rw [hcast, bits_finite, BitVec.ofInt_add, BitVec.ofInt_toInt, BitVec.ofInt_natCast]

theorem shift_add (number octet : Nat) :
    BitVec.ofNat 32 number <<< 8 + BitVec.ofNat 32 octet = BitVec.ofNat 32 (number * 256 + octet) := by
  apply BitVec.eq_of_toNat_eq
  simp only [BitVec.toNat_add, BitVec.toNat_shiftLeft, BitVec.toNat_ofNat, Nat.shiftLeft_eq]
  omega

theorem addressBits_of_readIpv4 (hreads : ReadsDigits T) {address : String} {address' : BitVec 32}
    (h : readIpv4 address = some address') : addressBits T address = address' := by
  obtain ⟨a, b, c, d, rfl, ⟨ha, hb, hc, hd⟩, hfields, hdigits⟩ := exists_octets h
  have hsegments : segments '.' address = [toString a, toString b, toString c, toString d] := hfields
  simp only [List.forall_mem_cons] at hdigits
  obtain ⟨hda, hdb, hdc, hdd, -⟩ := hdigits
  rw [addressBits, hsegments, List.foldl_cons, List.foldl_cons, List.foldl_cons, List.foldl_cons,
    List.foldl_nil, bits_withOctet (hreads _ d hdd hd), bits_withOctet (hreads _ c hdc hc),
    bits_withOctet (hreads _ b hdb hb), bits_withOctet (hreads _ a hda ha)]
  have hzero : bits (.finite 0) = BitVec.ofNat 32 0 := by
    exact bits_finite 0
  rw [hzero, shift_add, shift_add, shift_add, shift_add, ofOctets, Nat.zero_mul, Nat.zero_add]

theorem maskOf_length {length : Nat} (h : length ≤ 32) :
    maskOf (.finite length) = if length = 0 then 0 else BitVec.allOnes 32 <<< (32 - length) := by
  rw [maskOf]
  by_cases hzero : length = 0
  · rw [if_pos hzero, if_pos (by rw [hzero]; rfl)]
  · have hcast : (32 : ℚ) - (length : ℚ) = ((32 - (length : Int) : Int) : ℚ) := by
      push_cast
      rfl
    have hshift : (BitVec.ofInt 32 (32 - (length : Int))).toNat % 32 = 32 - length := by
      rw [BitVec.toNat_ofInt]
      omega
    rw [if_neg hzero, if_neg (by exact_mod_cast hzero), hcast, bits_finite, hshift]

theorem masked_iff {length : Nat} (h : length ≤ 32) (a b : BitVec 32) :
    a &&& maskOf (.finite length) = b &&& maskOf (.finite length) ↔
      a >>> (32 - length) = b >>> (32 - length) := by
  rw [maskOf_length h]
  by_cases hzero : length = 0
  · subst hzero
    rw [BitVec.ushiftRight_eq_zero (Nat.le_refl 32), BitVec.ushiftRight_eq_zero (Nat.le_refl 32)]
    simp
  · rw [if_neg hzero]
    exact and_mask_eq_iff a b (32 - length)

end Numbers

section Rules

variable (T : TextReading)

/-- The length is no number that is out of range, and the texts are read as numbers that are masked
alike. -/
def seemsContained (ip network lengthText : String) : Bool :=
  inRange (T.number lengthText) &&
    (addressBits T ip &&& maskOf (T.number lengthText)) =
      (addressBits T network &&& maskOf (T.number lengthText))

def isIpv4 (text : String) : Bool :=
  (readIpv4 text).isSome

def isOfNumbers (ip network lengthText : String) (rest : List String) : Bool :=
  isIpv4 ip && isIpv4 network && rest.isEmpty && (readDigits lengthText).any fun length => length ≤ 32

/-- Rules and addresses of the older family are matched rightly. Any other address is when it is
written as in the rule or is not the rule's, any other block that contains the address when it seems
to, and anything else with a slash when it does not. -/
def matchesRightly (ip rule : String) (address : Address) : Bool :=
  match segments '/' rule with
  | network :: lengthText :: rest =>
    isOfNumbers ip network lengthText rest ||
      if (readBlock rule).any fun block => block.contains address then
        seemsContained T ip network lengthText
      else !seemsContained T ip network lengthText
  | _ => isIpv4 ip || ip = rule || readAddress rule ≠ some address

variable {T}

theorem readIpv4_of_readAddress {text : String} {bits : BitVec 32}
    (h : readAddress text = some (.v4 bits)) : readIpv4 text = some bits := by
  rw [readAddress] at h
  split at h
  next bits' hbits =>
    cases h
    exact hbits
  next =>
    obtain ⟨bits', -, hbits⟩ := Option.map_eq_some_iff.mp h
    cases hbits

theorem readAddress_of_readIpv4 {text : String} {bits : BitVec 32} (h : readIpv4 text = some bits) :
    readAddress text = some (.v4 bits) := by
  rw [readAddress, h]

theorem seemsContained_of_numbers (hreads : ReadsDigits T) {ip network lengthText : String}
    {rest : List String} (h : isOfNumbers ip network lengthText rest = true) {address : Address}
    (hip : readAddress ip = some address) {rule : String}
    (hrule : fields '/' rule = network :: lengthText :: rest) :
    seemsContained T ip network lengthText =
      (readBlock rule).any fun block => block.contains address := by
  rw [isOfNumbers, Bool.and_eq_true, Bool.and_eq_true, Bool.and_eq_true] at h
  obtain ⟨⟨⟨hip4, hnetwork4⟩, hrest⟩, hlength⟩ := h
  obtain ⟨ipBits, hip4⟩ := Option.isSome_iff_exists.mp hip4
  obtain ⟨networkBits, hnetwork4⟩ := Option.isSome_iff_exists.mp hnetwork4
  obtain ⟨length, hdigits, hlength⟩ := (Option.any_eq_true _ _).mp hlength
  rw [decide_eq_true_eq] at hlength
  obtain rfl := List.isEmpty_iff.mp hrest
  obtain rfl := Option.some.inj ((readAddress_of_readIpv4 hip4).symm.trans hip)
  have hblock : readBlock rule = some ⟨.v4 networkBits, length⟩ := by
    rw [readBlock, hrule]
    dsimp only
    have hwidth : length ≤ (Address.v4 networkBits).width := hlength
    rw [readAddress_of_readIpv4 hnetwork4, hdigits, Option.bind_some, Option.filter_some,
      if_pos (decide_eq_true hwidth)]
    rfl
  have hnumber := hreads lengthText length hdigits (Nat.le_trans hlength (by decide))
  have hrange : inRange (.finite (length : ℚ)) = true := by
    rw [inRange, Bool.and_eq_true, decide_eq_true_eq, decide_eq_true_eq]
    exact ⟨by exact_mod_cast Nat.zero_le length, by exact_mod_cast hlength⟩
  rw [hblock, seemsContained, hnumber, hrange, addressBits_of_readIpv4 hreads hip4,
    addressBits_of_readIpv4 hreads hnetwork4, Bool.true_and, Option.any_some, Block.contains]
  dsimp only
  rw [decide_eq_decide, masked_iff hlength]
  exact eq_comm

/-- `Number(text)` of digits, of nothing, and of a text that is no number. -/
def sampleNumber (text : String) : JsNumber :=
  if text = "" then .finite 0
  else match readDigits text with
    | some number => .finite number
    | none => .notANumber

def sampleNumbers : TextReading where
  number := sampleNumber
  toLowerCase := lowerCased
  toUpperCase := fun text => String.ofList (text.toList.map Char.toUpper)

theorem sampleNumbers_readsDigits : ReadsDigits sampleNumbers := by
  intro text number hdigits _
  have htext : text ≠ "" := by
    rintro rfl
    cases hdigits
  change sampleNumber text = _
  rw [sampleNumber, if_neg htext, hdigits]

end Rules
end FieldserviceIT.Access
