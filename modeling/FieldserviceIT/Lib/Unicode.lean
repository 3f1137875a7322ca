import Mathlib.Data.List.Basic

/-!
Texts as code units of 16 bits, and as bytes. A surrogate without its partner is no character, and
neither are bytes that no character is written with; both are read as the replacement character.
-/

namespace FieldserviceIT.Lib.Unicode

def replacement : Char := '\uFFFD'

section Units

def isHigh (unit : UInt16) : Bool :=
  decide (0xD800 ≤ unit.toNat) && decide (unit.toNat < 0xDC00)

def isLow (unit : UInt16) : Bool :=
  decide (0xDC00 ≤ unit.toNat) && decide (unit.toNat < 0xE000)

def joined (high low : UInt16) : Char :=
  Char.ofNat (0x10000 + (high.toNat - 0xD800) * 0x400 + (low.toNat - 0xDC00))

def single (unit : UInt16) : Char :=
  if isHigh unit || isLow unit then replacement else Char.ofNat unit.toNat

def toChars : List UInt16 → List Char
  | [] => []
  | [unit] => [single unit]
  | unit :: next :: rest =>
    if isHigh unit && isLow next then joined unit next :: toChars rest
    else single unit :: toChars (next :: rest)

def isWellFormed : List UInt16 → Bool
  | [] => true
  | [unit] => !(isHigh unit || isLow unit)
  | unit :: next :: rest =>
    if isHigh unit && isLow next then isWellFormed rest
    else !(isHigh unit || isLow unit) && isWellFormed (next :: rest)

def ofChar (c : Char) : List UInt16 :=
  if c.toNat < 0x10000 then [UInt16.ofNat c.toNat]
  else
    [UInt16.ofNat (0xD800 + (c.toNat - 0x10000) / 0x400),
      UInt16.ofNat (0xDC00 + (c.toNat - 0x10000) % 0x400)]

def ofChars (chars : List Char) : List UInt16 :=
  chars.flatMap ofChar

theorem char_cases (c : Char) : c.toNat < 0xD800 ∨ 0xE000 ≤ c.toNat ∧ c.toNat < 0x110000 := by
  have hvalid := c.valid
  simp only [UInt32.isValidChar, Nat.isValidChar] at hvalid
  change c.toNat < 0xD800 ∨ 0xDFFF < c.toNat ∧ c.toNat < 0x110000 at hvalid
  omega

theorem toNat_ofNat {n : Nat} (h : n < 0xD800 ∨ 0xE000 ≤ n ∧ n < 0x110000) : (Char.ofNat n).toNat = n := by
  have hvalid : n.isValidChar := by
    rw [Nat.isValidChar]
    omega
  rw [Char.ofNat, dif_pos hvalid]
  rfl

theorem not_surrogate {unit : UInt16} (h : (isHigh unit || isLow unit) = false) :
    unit.toNat < 0xD800 ∨ 0xE000 ≤ unit.toNat := by
  simp only [isHigh, isLow, Bool.or_eq_false_iff, Bool.and_eq_false_iff, decide_eq_false_iff_not] at h
  omega

theorem ofChar_joined {high low : UInt16} (hhigh : isHigh high = true) (hlow : isLow low = true) :
    ofChar (joined high low) = [high, low] := by
  simp only [isHigh, isLow, Bool.and_eq_true, decide_eq_true_eq] at hhigh hlow
  have hvalue : (joined high low).toNat =
      0x10000 + (high.toNat - 0xD800) * 0x400 + (low.toNat - 0xDC00) := by
    apply toNat_ofNat
    omega
  have hfirst : 0xD800 + ((joined high low).toNat - 0x10000) / 0x400 = high.toNat := by omega
  have hsecond : 0xDC00 + ((joined high low).toNat - 0x10000) % 0x400 = low.toNat := by omega
  rw [ofChar, if_neg (by omega), hfirst, hsecond, UInt16.ofNat_toNat, UInt16.ofNat_toNat]

theorem ofChar_single {unit : UInt16} (h : (isHigh unit || isLow unit) = false) :
    ofChar (single unit) = [unit] := by
  have hbound := unit.toNat_lt
  have hrange := not_surrogate h
  rw [single, h, if_neg Bool.false_ne_true, ofChar, toNat_ofNat (by omega), if_pos (by omega),
    UInt16.ofNat_toNat]

theorem ofChar_replacement : ofChar replacement = [0xFFFD] := rfl

theorem ofChars_cons (c : Char) (rest : List Char) : ofChars (c :: rest) = ofChar c ++ ofChars rest :=
  List.flatMap_cons

theorem ofChar_single_iff (unit : UInt16) :
    ofChar (single unit) = [unit] ↔ (isHigh unit || isLow unit) = false := by
  constructor
  · intro h
    by_contra hlone
    rw [Bool.not_eq_false] at hlone
    rw [single, if_pos hlone, ofChar_replacement, List.cons.injEq] at h
    rw [← h.1] at hlone
    exact absurd hlone (by decide)
  · exact ofChar_single

theorem length_ofChar_single (unit : UInt16) : (ofChar (single unit)).length = 1 := by
  cases h : isHigh unit || isLow unit with
  | false => rw [ofChar_single h, List.length_singleton]
  | true => rw [single, if_pos h, ofChar_replacement, List.length_singleton]

theorem ofChars_toChars_iff (units : List UInt16) :
    ofChars (toChars units) = units ↔ isWellFormed units = true := by
  induction units using toChars.induct with
  | case1 => exact ⟨fun _ => rfl, fun _ => rfl⟩
  | case2 unit =>
    rw [toChars, ofChars_cons, isWellFormed, Bool.not_eq_true', ← ofChar_single_iff]
    exact ⟨fun h => by simpa [ofChars] using h, fun h => by simpa [ofChars] using h⟩
  | case3 unit next rest hpair ih =>
    have hboth := hpair
    rw [Bool.and_eq_true] at hboth
    rw [toChars, if_pos hpair, isWellFormed, if_pos hpair, ofChars_cons,
      ofChar_joined hboth.1 hboth.2, ← ih]
    simp
  | case4 unit next rest hpair ih =>
    rw [toChars, if_neg hpair, isWellFormed, if_neg hpair, ofChars_cons, Bool.and_eq_true,
      Bool.not_eq_true', ← ofChar_single_iff, ← ih]
    constructor
    · intro h
      have happend : ofChar (single unit) ++ ofChars (toChars (next :: rest)) =
          [unit] ++ (next :: rest) := h
      exact List.append_inj happend (length_ofChar_single unit)
    · rintro ⟨hunit, hrest⟩
      rw [hunit, hrest]
      rfl

theorem toChars_eq_nil {units : List UInt16} (h : toChars units = []) : units = [] := by
  induction units using toChars.induct with
  | case1 => rfl
  | case2 unit => cases h
  | case3 unit next rest hpair ih =>
    rw [toChars, if_pos hpair] at h
    cases h
  | case4 unit next rest hpair ih =>
    rw [toChars, if_neg hpair] at h
    cases h

theorem toNat_unit {n : Nat} (h : n < 0x10000) : (UInt16.ofNat n).toNat = n :=
  UInt16.toNat_ofNat_of_lt' h

theorem toChars_ofChar (c : Char) (rest : List UInt16) : toChars (ofChar c ++ rest) = c :: toChars rest := by
  have hrange := char_cases c
  have hback : Char.ofNat c.toNat = c := Char.ofNat_toNat c
  generalize c.toNat = v at hrange hback
  subst hback
  rw [ofChar, toNat_ofNat hrange]
  split
  · have hunit : (UInt16.ofNat v).toNat = v := toNat_unit (by omega)
    have hlone : isHigh (UInt16.ofNat v) = false ∧ isLow (UInt16.ofNat v) = false := by
      simp only [isHigh, isLow, hunit, Bool.and_eq_false_iff, decide_eq_false_iff_not]
      omega
    have hsingle : single (UInt16.ofNat v) = Char.ofNat v := by
      rw [single, hlone.1, hlone.2, hunit]
      rfl
    cases rest with
    | nil => exact congrArg (fun c => [c]) hsingle
    | cons next rest =>
      rw [List.singleton_append, toChars, hlone.1, Bool.false_and, if_neg Bool.false_ne_true, hsingle]
  · have hhigh : (UInt16.ofNat (0xD800 + (v - 0x10000) / 0x400)).toNat =
        0xD800 + (v - 0x10000) / 0x400 :=
      toNat_unit (by omega)
    have hlow : (UInt16.ofNat (0xDC00 + (v - 0x10000) % 0x400)).toNat =
        0xDC00 + (v - 0x10000) % 0x400 :=
      toNat_unit (by omega)
    have hpair : (isHigh (UInt16.ofNat (0xD800 + (v - 0x10000) / 0x400)) &&
        isLow (UInt16.ofNat (0xDC00 + (v - 0x10000) % 0x400))) = true := by
      simp only [isHigh, isLow, hhigh, hlow, Bool.and_eq_true, decide_eq_true_eq]
      omega
    have hvalue : 0x10000 + (0xD800 + (v - 0x10000) / 0x400 - 0xD800) * 0x400 +
        (0xDC00 + (v - 0x10000) % 0x400 - 0xDC00) = v := by
      omega
    rw [List.cons_append, List.cons_append, List.nil_append, toChars, if_pos hpair, joined, hhigh,
      hlow, hvalue]

theorem toChars_ofChars (chars : List Char) : toChars (ofChars chars) = chars := by
  induction chars with
  | nil => rfl
  | cons c rest ih => rw [ofChars_cons, toChars_ofChar, ih]

theorem mem_ofChars {unit : UInt16} {chars : List Char} (hunit : unit ∈ ofChars chars)
    (hsmall : unit.toNat < 0xD800) : ∃ c ∈ chars, c.toNat = unit.toNat := by
  obtain ⟨c, hc, hof⟩ := List.mem_flatMap.mp hunit
  have hrange := char_cases c
  refine ⟨c, hc, ?_⟩
  rw [ofChar] at hof
  split at hof
  · rw [List.mem_singleton.mp hof]
    exact (toNat_unit (by omega)).symm
  · rw [List.mem_pair] at hof
    rcases hof with rfl | rfl <;>
    · rw [toNat_unit (by omega)] at hsmall
      omega

end Units

section Bytes

/-- A character of which bytes are still to come: its bits so far, how many bytes follow the next
one, and what that may be. -/
structure Pending where
  value : Nat
  later : Nat
  lower : Nat
  upper : Nat

/-- What a byte that begins something gives at once, and what it leaves to come. -/
def started (byte : UInt8) : List Char × Option Pending :=
  let n := byte.toNat
  if n < 0x80 then ([Char.ofNat n], none)
  else if n < 0xC2 then ([replacement], none)
  else if n < 0xE0 then ([], some ⟨n % 32, 0, 0x80, 0xBF⟩)
  else if n < 0xF0 then
    ([], some ⟨n % 16, 1, if n = 0xE0 then 0xA0 else 0x80, if n = 0xED then 0x9F else 0xBF⟩)
  else if n < 0xF5 then
    ([], some ⟨n % 8, 2, if n = 0xF0 then 0x90 else 0x80, if n = 0xF4 then 0x8F else 0xBF⟩)
  else ([replacement], none)

def decodeFrom : Option Pending → List UInt8 → List Char
  | none, [] => []
  | some _, [] => [replacement]
  | none, byte :: rest => (started byte).1 ++ decodeFrom (started byte).2 rest
  | some pending, byte :: rest =>
    if pending.lower ≤ byte.toNat && byte.toNat ≤ pending.upper then
      let value := pending.value * 64 + byte.toNat % 64
      match pending.later with
      | 0 => Char.ofNat value :: decodeFrom none rest
      | later + 1 => decodeFrom (some ⟨value, later, 0x80, 0xBF⟩) rest
    else replacement :: ((started byte).1 ++ decodeFrom (started byte).2 rest)

def decodeUtf8 (bytes : List UInt8) : List Char :=
  decodeFrom none bytes

def encodeUtf8 (chars : List Char) : List UInt8 :=
  chars.flatMap String.utf8EncodeChar

theorem toNat_byte {n : Nat} (h : n < 256) : (UInt8.ofNat n).toNat = n :=
  UInt8.toNat_ofNat_of_lt' h

theorem started_one {n : Nat} (h : n < 0x80) : started (UInt8.ofNat n) = ([Char.ofNat n], none) := by
  rw [started, toNat_byte (by omega)]
  exact if_pos h

theorem started_two {n : Nat} (h : 0xC2 ≤ n) (h' : n < 0xE0) :
    started (UInt8.ofNat n) = ([], some ⟨n % 32, 0, 0x80, 0xBF⟩) := by
  rw [started, toNat_byte (by omega), if_neg (by omega), if_neg (by omega), if_pos h']

theorem started_three {n : Nat} (h : 0xE0 ≤ n) (h' : n < 0xF0) :
    started (UInt8.ofNat n) = ([], some ⟨n % 16, 1, if n = 0xE0 then 0xA0 else 0x80,
      if n = 0xED then 0x9F else 0xBF⟩) := by
  rw [started, toNat_byte (by omega), if_neg (by omega), if_neg (by omega), if_neg (by omega), if_pos h']

theorem started_four {n : Nat} (h : 0xF0 ≤ n) (h' : n < 0xF5) :
    started (UInt8.ofNat n) = ([], some ⟨n % 8, 2, if n = 0xF0 then 0x90 else 0x80,
      if n = 0xF4 then 0x8F else 0xBF⟩) := by
  rw [started, toNat_byte (by omega), if_neg (by omega), if_neg (by omega), if_neg (by omega), if_neg (by omega), if_pos h']

theorem decodeFrom_begin {n : Nat} {chars : List Char} {pending : Option Pending} (rest : List UInt8)
    (h : started (UInt8.ofNat n) = (chars, pending)) :
    decodeFrom none (UInt8.ofNat n :: rest) = chars ++ decodeFrom pending rest := by
  rw [decodeFrom, h]

theorem decodeFrom_next {value later lower upper n : Nat} (rest : List UInt8) (hlower : lower ≤ n)
    (hupper : n ≤ upper) (hbyte : n < 256) :
    decodeFrom (some ⟨value, later + 1, lower, upper⟩) (UInt8.ofNat n :: rest) =
      decodeFrom (some ⟨value * 64 + n % 64, later, 0x80, 0xBF⟩) rest := by
  rw [decodeFrom, toNat_byte hbyte, decide_eq_true hlower, decide_eq_true hupper]
  rfl

theorem decodeFrom_last {value lower upper n : Nat} (rest : List UInt8) (hlower : lower ≤ n)
    (hupper : n ≤ upper) (hbyte : n < 256) :
    decodeFrom (some ⟨value, 0, lower, upper⟩) (UInt8.ofNat n :: rest) =
      Char.ofNat (value * 64 + n % 64) :: decodeFrom none rest := by
  rw [decodeFrom, toNat_byte hbyte, decide_eq_true hlower, decide_eq_true hupper]
  rfl

theorem decodeFrom_char (c : Char) (rest : List UInt8) :
    decodeFrom none (String.utf8EncodeChar c ++ rest) = c :: decodeFrom none rest := by
  have hrange : c.val.toNat < 0xD800 ∨ 0xE000 ≤ c.val.toNat ∧ c.val.toNat < 0x110000 :=
    char_cases c
  have hback : Char.ofNat c.val.toNat = c := Char.ofNat_toNat c
  rw [String.utf8EncodeChar]
  generalize c.val.toNat = v at hrange hback
  subst hback
  split
  · rw [List.singleton_append, decodeFrom_begin rest (started_one (by omega))]
    rfl
  split
  · have hvalue : (v / 64 % 32 + 0xc0) % 32 * 64 + (v % 64 + 0x80) % 64 = v := by omega
    rw [List.cons_append, List.cons_append, decodeFrom_begin _ (started_two (by omega) (by omega)),
      List.nil_append, decodeFrom_last _ (by omega) (by omega) (by omega), hvalue]
    rfl
  split
  · have hvalue : ((v / 4096 % 16 + 0xe0) % 16 * 64 + (v / 64 % 64 + 0x80) % 64) * 64 +
        (v % 64 + 0x80) % 64 = v := by
      omega
    rw [List.cons_append, List.cons_append, List.cons_append,
      decodeFrom_begin _ (started_three (by omega) (by omega)), List.nil_append,
      decodeFrom_next _ (by split <;> omega) (by split <;> omega) (by omega),
      decodeFrom_last _ (by omega) (by omega) (by omega), hvalue]
    rfl
  · have hvalue : (((v / 262144 % 8 + 0xf0) % 8 * 64 + (v / 4096 % 64 + 0x80) % 64) * 64 +
        (v / 64 % 64 + 0x80) % 64) * 64 + (v % 64 + 0x80) % 64 = v := by
      omega
    rw [List.cons_append, List.cons_append, List.cons_append, List.cons_append,
      decodeFrom_begin _ (started_four (by omega) (by omega)), List.nil_append,
      decodeFrom_next _ (by split <;> omega) (by split <;> omega) (by omega),
      decodeFrom_next _ (by omega) (by omega) (by omega),
      decodeFrom_last _ (by omega) (by omega) (by omega), hvalue]
    rfl

theorem decodeUtf8_encodeUtf8 (chars : List Char) : decodeUtf8 (encodeUtf8 chars) = chars := by
  induction chars with
  | nil => rfl
  | cons c rest ih =>
    rw [encodeUtf8, List.flatMap_cons, decodeUtf8, decodeFrom_char, ← encodeUtf8, ← decodeUtf8, ih]

theorem encodeUtf8_eq_nil {chars : List Char} (h : encodeUtf8 chars = []) : chars = [] := by
  rw [← decodeUtf8_encodeUtf8 chars, h]
  rfl

end Bytes
end FieldserviceIT.Lib.Unicode
