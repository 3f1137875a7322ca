import Mathlib.Data.List.GetD

/-!
Bytes in an alphabet of 64 characters: three bytes in four characters, what is left over in two or
three. Reading is laxer than writing: it knows both alphabets, skips what is of none, and ends at
the padding.
-/

namespace FieldserviceIT.Lib.Base64

inductive Alphabet
  | standard
  | url

section Alphabets

def letters : List Char :=
  "ABCDEFGHIJKLMNOPQRSTUVWXYZabcdefghijklmnopqrstuvwxyz0123456789".toList

def Alphabet.digits : Alphabet → List Char
  | .standard => letters ++ ['+', '/']
  | .url => letters ++ ['-', '_']

def Alphabet.padding : Alphabet → Nat → List Char
  | .standard, n => List.replicate n '='
  | .url, _ => []

def digit (alphabet : Alphabet) (value : Nat) : Char :=
  alphabet.digits.getD value 'A'

def valueOf (c : Char) : Option Nat :=
  if c = '+' || c = '-' then some 62
  else if c = '/' || c = '_' then some 63
  else letters.findIdx? fun letter => letter = c

theorem valueOf_digit (alphabet : Alphabet) {value : Nat} (h : value < 64) :
    valueOf (digit alphabet value) = some value := by
  have hall : ∀ value < 64, valueOf (digit alphabet value) = some value := by
    cases alphabet <;> decide +kernel
  exact hall value h

theorem digit_mem (alphabet : Alphabet) {value : Nat} (h : value < 64) :
    digit alphabet value ∈ alphabet.digits := by
  have hlength : value < alphabet.digits.length := by
    cases alphabet <;> exact h
  rw [digit, List.getD_eq_getElem _ _ hlength]
  exact List.getElem_mem hlength

theorem ne_padding {alphabet : Alphabet} {c : Char} (h : c ∈ alphabet.digits) : c ≠ '=' := by
  have hall : (alphabet.digits.all fun c => c ≠ '=') = true := by
    cases alphabet <;> decide
  exact of_decide_eq_true (List.all_eq_true.mp hall c h)

theorem mem_padding {alphabet : Alphabet} {n : Nat} {c : Char} (h : c ∈ alphabet.padding n) :
    c = '=' := by
  cases alphabet with
  | standard => exact List.eq_of_mem_replicate h
  | url => cases h

end Alphabets

section Coding

def encode (alphabet : Alphabet) : List UInt8 → List Char
  | [] => []
  | [a] =>
    [digit alphabet (a.toNat / 4), digit alphabet (a.toNat % 4 * 16)] ++ alphabet.padding 2
  | [a, b] =>
    [digit alphabet (a.toNat / 4), digit alphabet (a.toNat % 4 * 16 + b.toNat / 16),
      digit alphabet (b.toNat % 16 * 4)] ++ alphabet.padding 1
  | a :: b :: c :: rest =>
    [digit alphabet (a.toNat / 4), digit alphabet (a.toNat % 4 * 16 + b.toNat / 16),
      digit alphabet (b.toNat % 16 * 4 + c.toNat / 64), digit alphabet (c.toNat % 64)] ++
      encode alphabet rest

def joinValues : List Nat → List UInt8
  | v :: w :: x :: y :: rest =>
    UInt8.ofNat (v * 4 + w / 16) :: UInt8.ofNat (w % 16 * 16 + x / 4) ::
      UInt8.ofNat (x % 4 * 64 + y) :: joinValues rest
  | [v, w, x] => [UInt8.ofNat (v * 4 + w / 16), UInt8.ofNat (w % 16 * 16 + x / 4)]
  | [v, w] => [UInt8.ofNat (v * 4 + w / 16)]
  | _ => []

def decode (text : List Char) : List UInt8 :=
  joinValues ((text.takeWhile (· ≠ '=')).filterMap valueOf)

def values : List UInt8 → List Nat
  | [] => []
  | [a] => [a.toNat / 4, a.toNat % 4 * 16]
  | [a, b] => [a.toNat / 4, a.toNat % 4 * 16 + b.toNat / 16, b.toNat % 16 * 4]
  | a :: b :: c :: rest =>
    a.toNat / 4 :: (a.toNat % 4 * 16 + b.toNat / 16) :: (b.toNat % 16 * 4 + c.toNat / 64) ::
      c.toNat % 64 :: values rest

variable (alphabet : Alphabet)

theorem encode_eq_append (bytes : List UInt8) :
    ∃ n, encode alphabet bytes = (values bytes).map (digit alphabet) ++ alphabet.padding n := by
  induction bytes using values.induct with
  | case1 =>
    refine ⟨0, ?_⟩
    cases alphabet <;> rfl
  | case2 a => exact ⟨2, rfl⟩
  | case3 a b => exact ⟨1, rfl⟩
  | case4 a b c rest ih =>
    obtain ⟨n, hrest⟩ := ih
    refine ⟨n, ?_⟩
    rw [encode, values, hrest]
    rfl

theorem values_lt (bytes : List UInt8) : ∀ value ∈ values bytes, value < 64 := by
  induction bytes using values.induct with
  | case1 =>
    intro value hvalue
    cases hvalue
  | case2 a =>
    have ha := a.toNat_lt
    simp only [values, List.forall_mem_cons]
    exact ⟨by omega, by omega, fun _ hnone => by cases hnone⟩
  | case3 a b =>
    have ha := a.toNat_lt
    have hb := b.toNat_lt
    simp only [values, List.forall_mem_cons]
    exact ⟨by omega, by omega, by omega, fun _ hnone => by cases hnone⟩
  | case4 a b c rest ih =>
    have ha := a.toNat_lt
    have hb := b.toNat_lt
    have hc := c.toNat_lt
    simp only [values, List.forall_mem_cons]
    exact ⟨by omega, by omega, by omega, by omega, ih⟩

theorem joinValues_values (bytes : List UInt8) : joinValues (values bytes) = bytes := by
  induction bytes using values.induct with
  | case1 => rfl
  | case2 a =>
    have ha := a.toNat_lt
    have hfirst : a.toNat / 4 * 4 + a.toNat % 4 * 16 / 16 = a.toNat := by omega
    rw [values, joinValues, hfirst, UInt8.ofNat_toNat]
  | case3 a b =>
    have ha := a.toNat_lt
    have hb := b.toNat_lt
    have hfirst : a.toNat / 4 * 4 + (a.toNat % 4 * 16 + b.toNat / 16) / 16 = a.toNat := by omega
    have hsecond : (a.toNat % 4 * 16 + b.toNat / 16) % 16 * 16 + b.toNat % 16 * 4 / 4 = b.toNat := by
      omega
    rw [values, joinValues, hfirst, hsecond, UInt8.ofNat_toNat, UInt8.ofNat_toNat]
  | case4 a b c rest ih =>
    have ha := a.toNat_lt
    have hb := b.toNat_lt
    have hc := c.toNat_lt
    have hfirst : a.toNat / 4 * 4 + (a.toNat % 4 * 16 + b.toNat / 16) / 16 = a.toNat := by omega
    have hsecond : (a.toNat % 4 * 16 + b.toNat / 16) % 16 * 16 +
        (b.toNat % 16 * 4 + c.toNat / 64) / 4 = b.toNat := by
      omega
    have hthird : (b.toNat % 16 * 4 + c.toNat / 64) % 4 * 64 + c.toNat % 64 = c.toNat := by omega
    rw [values, joinValues, hfirst, hsecond, hthird, UInt8.ofNat_toNat, UInt8.ofNat_toNat,
      UInt8.ofNat_toNat, ih]

theorem takeWhile_digits {list : List Nat} (h : ∀ value ∈ list, value < 64) (n : Nat) :
    (list.map (digit alphabet) ++ alphabet.padding n).takeWhile (· ≠ '=') = list.map (digit alphabet) := by
  induction list with
  | nil =>
    rw [List.map_nil, List.nil_append]
    cases alphabet with
    | standard => cases n <;> rfl
    | url => rfl
  | cons value rest ih =>
    obtain ⟨hvalue, hrest⟩ := List.forall_mem_cons.mp h
    have hne := ne_padding (digit_mem alphabet hvalue)
    rw [List.map_cons, List.cons_append, List.takeWhile_cons, if_pos (decide_eq_true hne), ih hrest]

theorem filterMap_digits {list : List Nat} (h : ∀ value ∈ list, value < 64) :
    (list.map (digit alphabet)).filterMap valueOf = list := by
  induction list with
  | nil => rfl
  | cons value rest ih =>
    obtain ⟨hvalue, hrest⟩ := List.forall_mem_cons.mp h
    rw [List.map_cons, List.filterMap_cons, valueOf_digit alphabet hvalue, ih hrest]

theorem decode_encode (bytes : List UInt8) : decode (encode alphabet bytes) = bytes := by
  obtain ⟨n, hencode⟩ := encode_eq_append alphabet bytes
  rw [decode, hencode, takeWhile_digits alphabet (values_lt bytes),
    filterMap_digits alphabet (values_lt bytes), joinValues_values]

theorem mem_encode {bytes : List UInt8} {c : Char} (h : c ∈ encode alphabet bytes) :
    c ∈ alphabet.digits ∨ c = '=' := by
  obtain ⟨n, hencode⟩ := encode_eq_append alphabet bytes
  rw [hencode, List.mem_append] at h
  rcases h with hdigit | hpadding
  · obtain ⟨value, hvalue, rfl⟩ := List.mem_map.mp hdigit
    exact .inl (digit_mem alphabet (values_lt bytes value hvalue))
  · exact .inr (mem_padding hpadding)

end Coding
end FieldserviceIT.Lib.Base64
