import Mathlib.Data.List.Basic
import Mathlib.Data.List.Induction

/-!
Addresses of both families as texts write them, and blocks of addresses. An address of the older
family is written in one way only. A block is a network and the number of leading bits that its
addresses have in common with it.
-/

namespace FieldserviceIT.Lib.Addresses

section Texts

def fields (separator : Char) (text : String) : List String :=
  (text.toList.splitOnP (· == separator)).map String.ofList

theorem fields_inj {separator : Char} {text other : String}
    (h : fields separator text = fields separator other) : text = other := by
  have hlists := List.map_injective_iff.mpr (fun _ _ => String.ofList_inj.mp) h
  rw [← List.splitOn_eq_splitOnP, ← List.splitOn_eq_splitOnP] at hlists
  have hjoined := congrArg (List.intercalate [separator]) hlists
  rw [List.intercalate_splitOn, List.intercalate_splitOn] at hjoined
  exact String.toList_inj.mp hjoined

theorem fields_of_not_mem {c : Char} {text : String} (h : c ∉ text.toList) : fields c text = [text] := by
  have hplain : ∀ chars ∈ [text.toList], c ∉ chars := fun chars hmem =>
    List.mem_singleton.mp hmem ▸ h
  have hsplit := List.splitOn_intercalate c hplain (List.cons_ne_nil _ _)
  rw [List.intercalate_singleton] at hsplit
  rw [fields, ← List.splitOn_eq_splitOnP, hsplit, List.map_singleton, String.ofList_toList]

def readDigits (text : String) : Option Nat :=
  if text ≠ "" && text.toList.all Char.isDigit then
    some (text.toList.foldl (fun number digit => number * 10 + (digit.toNat - '0'.toNat)) 0)
  else none

def readOctet (text : String) : Option Nat :=
  (readDigits text).filter fun number => number ≤ 255 && toString number = text

def ofOctets (a b c d : Nat) : BitVec 32 :=
  BitVec.ofNat 32 (((a * 256 + b) * 256 + c) * 256 + d)

def readIpv4 (text : String) : Option (BitVec 32) :=
  match (fields '.' text).mapM readOctet with
  | some [a, b, c, d] => some (ofOctets a b c d)
  | _ => none

def hexDigit (c : Char) : Option Nat :=
  if c.isDigit then some (c.toNat - '0'.toNat)
  else if 'a' ≤ c.toLower && c.toLower ≤ 'f' then some (c.toLower.toNat - 'a'.toNat + 10)
  else none

def readPiece (text : String) : Option Nat :=
  if text = "" || 4 < text.toList.length then none
  else text.toList.foldlM (fun number digit => (hexDigit digit).map (number * 16 + ·)) 0

/-- Pieces of 16 bits; at the end of an address two of them may be written as octets. -/
def readPieces (atEnd : Bool) : List String → Option (List Nat)
  | [] => some []
  | [text] =>
    match readPiece text with
    | some piece => some [piece]
    | none =>
      if atEnd then (readIpv4 text).map fun bits => [bits.toNat / 65536, bits.toNat % 65536]
      else none
  | text :: texts =>
    (readPiece text).bind fun piece => (readPieces atEnd texts).map fun pieces => piece :: pieces

def splitDouble : List Char → Option (List Char × List Char)
  | ':' :: ':' :: rest => some ([], rest)
  | c :: rest => (splitDouble rest).map fun parts => (c :: parts.1, parts.2)
  | [] => none

def readGroup (atEnd : Bool) (text : List Char) : Option (List Nat) :=
  if text.isEmpty then some [] else readPieces atEnd (fields ':' (String.ofList text))

def ofPieces (pieces : List Nat) : BitVec 128 :=
  BitVec.ofNat 128 (pieces.foldl (fun number piece => number * 65536 + piece) 0)

/-- Eight pieces; a double colon stands for the zeros that are missing. -/
def readIpv6 (text : String) : Option (BitVec 128) :=
  match splitDouble text.toList with
  | none => ((readGroup true text.toList).filter fun pieces => pieces.length = 8).map ofPieces
  | some (first, last) =>
    (readGroup false first).bind fun head => (readGroup true last).bind fun tail =>
      if head.length + tail.length ≤ 7 then
        some (ofPieces (head ++ List.replicate (8 - head.length - tail.length) 0 ++ tail))
      else none

theorem toString_of_readOctet {text : String} {number : Nat} (h : readOctet text = some number) :
    readDigits text = some number ∧ number ≤ 255 ∧ toString number = text := by
  obtain ⟨hdigits, hcanonical⟩ := Option.filter_eq_some_iff.mp h
  rw [Bool.and_eq_true, decide_eq_true_eq, decide_eq_true_eq] at hcanonical
  exact ⟨hdigits, hcanonical⟩

end Texts

section Blocks

inductive Address where
  | v4 (bits : BitVec 32)
  | v6 (bits : BitVec 128)
  deriving DecidableEq

def Address.width : Address → Nat
  | v4 _ => 32
  | v6 _ => 128

def readAddress (text : String) : Option Address :=
  match readIpv4 text with
  | some bits => some (.v4 bits)
  | none => (readIpv6 text).map .v6

structure Block where
  network : Address
  length : Nat

/-- The address is of the family of the block and has its leading bits. -/
def Block.contains (block : Block) : Address → Bool
  | .v4 bits =>
    match block.network with
    | .v4 network => network >>> (32 - block.length) = bits >>> (32 - block.length)
    | .v6 _ => false
  | .v6 bits =>
    match block.network with
    | .v4 _ => false
    | .v6 network => network >>> (128 - block.length) = bits >>> (128 - block.length)

/-- A network, one slash and a length of at most the width of the family. -/
def readBlock (text : String) : Option Block :=
  match fields '/' text with
  | [network, length] =>
    (readAddress network).bind fun network =>
      ((readDigits length).filter fun length => length ≤ network.width).map fun length =>
        ⟨network, length⟩
  | _ => none

/-- A rule without a slash is an address, and covers itself; others are blocks. -/
def covers (rule : String) (address : Address) : Bool :=
  match fields '/' rule with
  | [_] => readAddress rule = some address
  | _ => (readBlock rule).any fun block => block.contains address

theorem ofOctets_inj {a b c d a' b' c' d' : Nat} (h : ofOctets a b c d = ofOctets a' b' c' d')
    (ha : a ≤ 255) (hb : b ≤ 255) (hc : c ≤ 255) (hd : d ≤ 255) (ha' : a' ≤ 255) (hb' : b' ≤ 255)
    (hc' : c' ≤ 255) (hd' : d' ≤ 255) : a = a' ∧ b = b' ∧ c = c' ∧ d = d' := by
  have hnumber := congrArg BitVec.toNat h
  simp only [ofOctets, BitVec.toNat_ofNat] at hnumber
  omega

theorem forall₂_of_mapM {α β : Type} {f : α → Option β} {xs : List α} {ys : List β}
    (h : xs.mapM f = some ys) : List.Forall₂ (fun x y => f x = some y) xs ys := by
  induction xs generalizing ys with
  | nil =>
    obtain rfl := Option.some.inj h
    exact .nil
  | cons x xs ih =>
    rw [List.mapM_cons] at h
    obtain ⟨y, hy, h⟩ := Option.bind_eq_some_iff.mp h
    obtain ⟨ys, hys, h⟩ := Option.bind_eq_some_iff.mp h
    obtain rfl := Option.some.inj h
    exact .cons hy (ih hys)

theorem length_mapM {α β : Type} {f : α → Option β} {xs : List α} {ys : List β}
    (h : xs.mapM f = some ys) : ys.length = xs.length := by
  have hpairs := forall₂_of_mapM h
  clear h
  induction hpairs with
  | nil => rfl
  | cons _ _ ih => rw [List.length_cons, List.length_cons, ih]

theorem exists_octets {text : String} {bits : BitVec 32} (h : readIpv4 text = some bits) :
    ∃ a b c d, bits = ofOctets a b c d ∧ (a ≤ 255 ∧ b ≤ 255 ∧ c ≤ 255 ∧ d ≤ 255) ∧
      fields '.' text = [toString a, toString b, toString c, toString d] ∧
        ∀ number ∈ [a, b, c, d], readDigits (toString number) = some number := by
  rw [readIpv4] at h
  split at h
  next a b c d hoctets =>
    obtain rfl := Option.some.inj h
    have hread := forall₂_of_mapM hoctets
    generalize fields '.' text = texts at hread ⊢
    obtain _ | ⟨hread₁, _ | ⟨hread₂, _ | ⟨hread₃, _ | ⟨hread₄, _ | _⟩⟩⟩⟩ := hread
    obtain ⟨hdigits₁, ha, rfl⟩ := toString_of_readOctet hread₁
    obtain ⟨hdigits₂, hb, rfl⟩ := toString_of_readOctet hread₂
    obtain ⟨hdigits₃, hc, rfl⟩ := toString_of_readOctet hread₃
    obtain ⟨hdigits₄, hd, rfl⟩ := toString_of_readOctet hread₄
    refine ⟨a, b, c, d, rfl, ⟨ha, hb, hc, hd⟩, rfl, ?_⟩
    simp only [List.forall_mem_cons]
    exact ⟨hdigits₁, hdigits₂, hdigits₃, hdigits₄, fun _ hnone => by cases hnone⟩
  next => cases h

theorem readIpv4_inj {text other : String} {bits : BitVec 32} (h : readIpv4 text = some bits)
    (h' : readIpv4 other = some bits) : text = other := by
  obtain ⟨a, b, c, d, rfl, ⟨ha, hb, hc, hd⟩, hfields, -⟩ := exists_octets h
  obtain ⟨a', b', c', d', hsame, ⟨ha', hb', hc', hd'⟩, hfields', -⟩ := exists_octets h'
  obtain ⟨rfl, rfl, rfl, rfl⟩ := ofOctets_inj hsame ha hb hc hd ha' hb' hc' hd'
  exact fields_inj (hfields.trans hfields'.symm)

theorem contains_v4 (network bits : BitVec 32) (n : Nat) :
    Block.contains ⟨.v4 network, n⟩ (.v4 bits) =
      decide (network.toNat >>> (32 - n) = bits.toNat >>> (32 - n)) := by
  refine decide_eq_decide.mpr ?_
  rw [← BitVec.toNat_inj, BitVec.toNat_ushiftRight, BitVec.toNat_ushiftRight]

theorem contains_v6 (network bits : BitVec 128) (n : Nat) :
    Block.contains ⟨.v6 network, n⟩ (.v6 bits) =
      decide (network.toNat >>> (128 - n) = bits.toNat >>> (128 - n)) := by
  refine decide_eq_decide.mpr ?_
  rw [← BitVec.toNat_inj, BitVec.toNat_ushiftRight, BitVec.toNat_ushiftRight]

theorem and_mask_eq_iff {w : Nat} (a b : BitVec w) (n : Nat) :
    a &&& (BitVec.allOnes w <<< n) = b &&& (BitVec.allOnes w <<< n) ↔ a >>> n = b >>> n := by
  constructor
  · intro h
    ext i hi
    have hbit := congrArg (BitVec.getLsbD · (n + i)) h
    simp only [BitVec.getLsbD_and, BitVec.getLsbD_shiftLeft, BitVec.getLsbD_allOnes] at hbit
    simp only [BitVec.getElem_ushiftRight]
    by_cases hlt : n + i < w
    · simpa [hlt, hi, show ¬n + i < n by omega] using hbit
    · rw [BitVec.getLsbD_of_ge a _ (by omega), BitVec.getLsbD_of_ge b _ (by omega)]
  · intro h
    ext i hi
    simp only [BitVec.getElem_and, BitVec.getElem_shiftLeft]
    by_cases hlt : i < n
    · simp [hlt]
    · have hbit := congrArg (BitVec.getLsbD · (i - n)) h
      simp only [BitVec.getLsbD_ushiftRight, show n + (i - n) = i by omega] at hbit
      rw [BitVec.getLsbD_eq_getElem hi, BitVec.getLsbD_eq_getElem hi] at hbit
      rw [hbit]

end Blocks

section Writing

def octets (bits : BitVec 32) : List Nat :=
  [bits.toNat / 16777216, bits.toNat / 65536 % 256, bits.toNat / 256 % 256, bits.toNat % 256]

def writeIpv4 (bits : BitVec 32) : String :=
  String.ofList (List.intercalate ['.'] ((octets bits).map fun octet => (toString octet).toList))

def hexChar (digit : Nat) : Char :=
  "0123456789abcdef".toList.getD digit '0'

def hexText (piece : Nat) : List Char :=
  if piece < 16 then [hexChar piece]
  else if piece < 256 then [hexChar (piece / 16), hexChar (piece % 16)]
  else if piece < 4096 then [hexChar (piece / 256), hexChar (piece / 16 % 16), hexChar (piece % 16)]
  else
    [hexChar (piece / 4096), hexChar (piece / 256 % 16), hexChar (piece / 16 % 16),
      hexChar (piece % 16)]

def pieces (bits : BitVec 128) : List Nat :=
  [112, 96, 80, 64, 48, 32, 16, 0].map fun shift => (bits >>> shift).toNat % 65536

def zeroRun (pieces : List Nat) (i : Nat) : Nat :=
  ((pieces.drop i).takeWhile fun piece => piece = 0).length

def longestRun (pieces : List Nat) : Nat × Nat :=
  (List.range pieces.length).foldl
    (fun best i => if best.2 < zeroRun pieces i then (i, zeroRun pieces i) else best) (0, 0)

def joinPieces (pieces : List Nat) : List Char :=
  List.intercalate [':'] (pieces.map hexText)

/-- The longest run of zeros, if it is one of several, is written as a double colon. -/
def writePieces (pieces : List Nat) : List Char :=
  if (longestRun pieces).2 < 2 then joinPieces pieces
  else
    joinPieces (pieces.take (longestRun pieces).1) ++ ':' :: ':' ::
      joinPieces (pieces.drop ((longestRun pieces).1 + (longestRun pieces).2))

def writeIpv6 (bits : BitVec 128) : String :=
  String.ofList (writePieces (pieces bits))

theorem toList_toString (number : Nat) : (toString number).toList = Nat.toDigits 10 number := by
  rw [Nat.toString_eq_repr, Nat.repr_eq_ofList_toDigits, String.toList_ofList]

theorem isDigit_of_mem_toString {number : Nat} {c : Char} (hc : c ∈ (toString number).toList) :
    c.isDigit = true := by
  rw [toList_toString] at hc
  exact Nat.isDigit_of_mem_toDigits (by decide) (by decide) hc

theorem readDigits_toString (number : Nat) : readDigits (toString number) = some number := by
  have hsome : toString number ≠ "" := by
    intro hempty
    have hlist := congrArg String.toList hempty
    rw [toList_toString] at hlist
    exact Nat.toDigits_ne_nil hlist
  have hdigits : (toString number).toList.all Char.isDigit = true :=
    List.all_eq_true.mpr fun _ hc => isDigit_of_mem_toString hc
  have hfold := @Nat.ofDigitChars_ten_toDigits number
  simp only [Nat.ofDigitChars_eq_foldl, Nat.mul_comm 10] at hfold
  rw [readDigits, hdigits, toList_toString, hfold, decide_eq_true hsome]
  rfl

theorem octet_text {octet : Nat} (h : octet < 256) :
    readOctet (toString octet) = some octet ∧ '.' ∉ (toString octet).toList := by
  constructor
  · rw [readOctet, readDigits_toString, Option.filter_some, if_pos]
    simp
    omega
  · intro hdot
    exact absurd (isDigit_of_mem_toString hdot) (by decide)

theorem octetText_eq_iff {octet other : Nat} (h : octet < 256) (hother : other < 256) :
    (toString octet).toList = (toString other).toList ↔ octet = other := by
  constructor
  · intro heq
    have hread := (octet_text h).1
    rw [String.toList_inj.mp heq, (octet_text hother).1] at hread
    exact (Option.some.inj hread).symm
  · rintro rfl
    rfl

theorem octets_lt {bits : BitVec 32} {octet : Nat} (h : octet ∈ octets bits) : octet < 256 := by
  have hbits := bits.isLt
  simp only [octets, List.mem_cons, List.not_mem_nil, or_false] at h
  omega

theorem writeIpv4_octets {bits : BitVec 32} {a b c d : Nat} (h : octets bits = [a, b, c, d]) :
    (writeIpv4 bits).toList = (toString a).toList ++ '.' ::
      ((toString b).toList ++ '.' :: ((toString c).toList ++ '.' :: (toString d).toList)) := by
  rw [writeIpv4, String.toList_ofList, h]
  simp only [List.map_cons, List.map_nil, List.intercalate_cons_cons, List.intercalate_singleton,
    List.append_assoc, List.singleton_append]

theorem mem_writeIpv4 {bits : BitVec 32} {c : Char} (hc : c ∈ (writeIpv4 bits).toList) :
    c = '.' ∨ c.isDigit = true := by
  obtain ⟨o₁, o₂, o₃, o₄, hoctets⟩ : ∃ o₁ o₂ o₃ o₄, octets bits = [o₁, o₂, o₃, o₄] := ⟨_, _, _, _, rfl⟩
  have hlt : ∀ octet ∈ [o₁, o₂, o₃, o₄], octet < 256 := fun octet hmem =>
    @octets_lt bits octet (hoctets ▸ hmem)
  simp only [List.forall_mem_cons] at hlt
  obtain ⟨h₁, h₂, h₃, h₄, -⟩ := hlt
  rw [writeIpv4_octets hoctets] at hc
  simp only [List.mem_append, List.mem_cons] at hc
  obtain hc | hc | hc | hc | hc | hc | hc := hc
  · exact .inr (isDigit_of_mem_toString hc)
  · exact .inl hc
  · exact .inr (isDigit_of_mem_toString hc)
  · exact .inl hc
  · exact .inr (isDigit_of_mem_toString hc)
  · exact .inl hc
  · exact .inr (isDigit_of_mem_toString hc)

theorem writeIpv4_first (bits : BitVec 32) :
    ∃ c rest, (writeIpv4 bits).toList = c :: rest ∧ c.isDigit = true := by
  cases htext : (writeIpv4 bits).toList with
  | nil =>
    rw [writeIpv4_octets rfl] at htext
    exact absurd htext (List.append_ne_nil_of_right_ne_nil _ (List.cons_ne_nil _ _))
  | cons c rest =>
    refine ⟨c, rest, rfl, ?_⟩
    rw [writeIpv4_octets rfl] at htext
    cases hfirst : (toString (bits.toNat / 16777216)).toList with
    | nil =>
      have hoctet := (octet_text (@octets_lt bits (bits.toNat / 16777216) (.head _))).1
      rw [String.toList_eq_nil_iff.mp hfirst] at hoctet
      cases hoctet
    | cons d digits =>
      rw [hfirst, List.cons_append] at htext
      obtain ⟨rfl, -⟩ := List.cons.inj htext
      exact isDigit_of_mem_toString (hfirst ▸ List.mem_cons_self)

theorem fields_writeIpv4 (bits : BitVec 32) :
    fields '.' (writeIpv4 bits) = (octets bits).map toString := by
  have hplain : ∀ text ∈ (octets bits).map fun octet => (toString octet).toList, '.' ∉ text := by
    intro text htext
    obtain ⟨octet, hoctet, rfl⟩ := List.mem_map.mp htext
    exact (octet_text (octets_lt hoctet)).2
  rw [fields, writeIpv4, String.toList_ofList, ← List.splitOn_eq_splitOnP,
    List.splitOn_intercalate _ hplain (by simp [octets]), List.map_map]
  refine List.map_congr_left fun octet _ => ?_
  exact String.ofList_toList

theorem mapM_octets (bits : BitVec 32) :
    (fields '.' (writeIpv4 bits)).mapM readOctet = some (octets bits) := by
  rw [fields_writeIpv4]
  have hoctets : ∀ octet ∈ octets bits, readOctet (toString octet) = some octet :=
    fun octet hoctet => (octet_text (octets_lt hoctet)).1
  generalize octets bits = list at hoctets ⊢
  induction list with
  | nil => rfl
  | cons octet rest ih =>
    rw [List.map_cons, List.mapM_cons, hoctets octet (.head _),
      ih fun other hother => hoctets other (.tail _ hother)]
    rfl

theorem readIpv4_writeIpv4 (bits : BitVec 32) : readIpv4 (writeIpv4 bits) = some bits := by
  rw [readIpv4, mapM_octets, octets]
  refine congrArg some (BitVec.eq_of_toNat_eq ?_)
  have hbits := bits.isLt
  rw [ofOctets, BitVec.toNat_ofNat]
  omega

theorem hexChar_inj {digit other : Nat} (h : digit < 16) (hother : other < 16)
    (heq : hexChar digit = hexChar other) : digit = other := by
  have hall : ∀ digit < 16, ∀ other < 16, hexChar digit = hexChar other → digit = other := by
    decide
  exact hall digit h other hother heq

def IsHexChar (c : Char) : Prop :=
  ∃ digit < 16, c = hexChar digit

theorem IsHexChar.plain {c : Char} (h : IsHexChar c) : c ≠ ':' ∧ c ≠ '.' ∧ c.toLower = c := by
  have hall : ∀ digit < 16, hexChar digit ≠ ':' ∧ hexChar digit ≠ '.' ∧
      (hexChar digit).toLower = hexChar digit := by
    decide
  obtain ⟨digit, hdigit, rfl⟩ := h
  exact hall digit hdigit

theorem isHexChar_of_mem {piece : Nat} (h : piece < 65536) {c : Char} (hc : c ∈ hexText piece) :
    IsHexChar c := by
  rw [hexText] at hc
  split at hc
  next hone =>
    obtain rfl := List.mem_singleton.mp hc
    exact ⟨piece, hone, rfl⟩
  split at hc
  next =>
    simp only [List.mem_cons, List.not_mem_nil, or_false] at hc
    obtain rfl | rfl := hc
    · exact ⟨_, by omega, rfl⟩
    · exact ⟨_, by omega, rfl⟩
  split at hc
  next =>
    simp only [List.mem_cons, List.not_mem_nil, or_false] at hc
    obtain rfl | rfl | rfl := hc
    · exact ⟨_, by omega, rfl⟩
    · exact ⟨_, by omega, rfl⟩
    · exact ⟨_, by omega, rfl⟩
  next =>
    simp only [List.mem_cons, List.not_mem_nil, or_false] at hc
    obtain rfl | rfl | rfl | rfl := hc
    · exact ⟨_, by omega, rfl⟩
    · exact ⟨_, by omega, rfl⟩
    · exact ⟨_, by omega, rfl⟩
    · exact ⟨_, by omega, rfl⟩

theorem hexText_ne_nil (piece : Nat) : hexText piece ≠ [] := by
  rw [hexText]
  split
  · exact List.cons_ne_nil _ _
  split
  · exact List.cons_ne_nil _ _
  split
  · exact List.cons_ne_nil _ _
  · exact List.cons_ne_nil _ _

theorem colon_not_mem {piece : Nat} (h : piece < 65536) : ':' ∉ hexText piece := fun hmem =>
  (isHexChar_of_mem h hmem).plain.1 rfl

theorem mem_joinPieces {list : List Nat} (h : ∀ piece ∈ list, piece < 65536) {c : Char}
    (hc : c ∈ joinPieces list) : c = ':' ∨ IsHexChar c := by
  rw [joinPieces] at hc
  induction list with
  | nil => cases hc
  | cons piece rest ih =>
    cases rest with
    | nil =>
      rw [List.map_singleton, List.intercalate_singleton] at hc
      exact .inr (isHexChar_of_mem (h piece (.head _)) hc)
    | cons next rest =>
      rw [List.map_cons, List.map_cons, List.intercalate_cons_cons, List.mem_append,
        List.mem_append, List.mem_singleton] at hc
      obtain (hc | hc) | hc := hc
      · exact .inr (isHexChar_of_mem (h piece (.head _)) hc)
      · exact .inl hc
      · exact ih (fun other hother => h other (.tail _ hother)) hc

theorem mem_writePieces {list : List Nat} (h : ∀ piece ∈ list, piece < 65536) {c : Char}
    (hc : c ∈ writePieces list) : c = ':' ∨ IsHexChar c := by
  rw [writePieces] at hc
  split at hc
  · exact mem_joinPieces h hc
  · rw [List.mem_append, List.mem_cons, List.mem_cons] at hc
    obtain hc | hc | hc | hc := hc
    · exact mem_joinPieces (fun piece hpiece => h piece (List.mem_of_mem_take hpiece)) hc
    · exact .inl hc
    · exact .inl hc
    · exact mem_joinPieces (fun piece hpiece => h piece (List.mem_of_mem_drop hpiece)) hc

theorem joinPieces_singleton (piece : Nat) : joinPieces [piece] = hexText piece := by
  rw [joinPieces, List.map_singleton, List.intercalate_singleton]

theorem joinPieces_cons (piece : Nat) (rest : List Nat) (h : rest ≠ []) :
    joinPieces (piece :: rest) = hexText piece ++ ':' :: joinPieces rest := by
  cases rest with
  | nil => exact absurd rfl h
  | cons next rest =>
    rw [joinPieces, joinPieces, List.map_cons, List.map_cons, List.intercalate_cons_cons,
      List.append_assoc, List.singleton_append]

theorem longestRun_spec (list : List Nat) :
    longestRun list = (0, 0) ∨ (longestRun list).2 = zeroRun list (longestRun list).1 := by
  rw [longestRun]
  induction List.range list.length using List.reverseRecOn with
  | nil => exact .inl rfl
  | append_singleton indices i ih =>
    rw [List.foldl_append, List.foldl_cons, List.foldl_nil]
    split
    · exact .inr rfl
    · exact ih

theorem drop_zeroRun (list : List Nat) (i : Nat) :
    list.drop i = List.replicate (zeroRun list i) 0 ++ list.drop (i + zeroRun list i) := by
  rw [zeroRun, ← List.drop_drop]
  induction list.drop i with
  | nil => rfl
  | cons piece rest ih =>
    rw [List.takeWhile_cons]
    split
    next hzero =>
      rw [of_decide_eq_true hzero, List.length_cons, List.replicate_succ, List.drop_succ_cons,
        List.cons_append, ← ih]
    next => rfl

theorem writePieces_cases {list : List Nat} (h : 2 ≤ list.length) :
    (∃ piece list' rest, list = piece :: list' ∧ writePieces list = hexText piece ++ ':' :: rest) ∨
      ∃ n list', list = List.replicate n 0 ++ list' ∧ 2 ≤ n ∧
        writePieces list = ':' :: ':' :: joinPieces list' := by
  rw [writePieces]
  cases list with
  | nil => cases h
  | cons piece rest =>
    have hrest : rest ≠ [] := by
      rintro rfl
      exact absurd h (Nat.not_succ_le_self 1)
    split
    next =>
      exact .inl ⟨piece, rest, _, rfl, joinPieces_cons piece rest hrest⟩
    next hlong =>
      have hrun := longestRun_spec (piece :: rest)
      generalize longestRun (piece :: rest) = run at hlong hrun
      obtain ⟨start, n⟩ := run
      obtain hnone | hrun := hrun
      · cases hnone
        exact absurd Nat.zero_lt_two hlong
      dsimp only at hlong hrun ⊢
      cases start with
      | zero =>
        right
        have hzeros := drop_zeroRun (piece :: rest) 0
        rw [← hrun] at hzeros
        exact ⟨n, (piece :: rest).drop (0 + n), hzeros, by omega, rfl⟩
      | succ start =>
        left
        rw [List.take_succ_cons]
        by_cases hfirst : rest.take start = []
        · rw [hfirst, joinPieces_singleton]
          exact ⟨piece, rest, _, rfl, rfl⟩
        · rw [joinPieces_cons piece _ hfirst, List.append_assoc, List.cons_append]
          exact ⟨piece, rest, _, rfl, rfl⟩

theorem pieces_lt {bits : BitVec 128} {piece : Nat} (h : piece ∈ pieces bits) : piece < 65536 := by
  obtain ⟨shift, -, rfl⟩ := List.mem_map.mp h
  exact Nat.mod_lt _ (by decide)

theorem ofPieces_pieces (bits : BitVec 128) : ofPieces (pieces bits) = bits := by
  refine BitVec.eq_of_toNat_eq ?_
  have hbits := bits.isLt
  simp only [ofPieces, pieces, BitVec.toNat_ofNat, BitVec.toNat_ushiftRight,
    Nat.shiftRight_eq_div_pow, List.map_cons, List.map_nil, List.foldl_cons, List.foldl_nil]
  omega

theorem joinPieces_eq_nil {list : List Nat} (h : joinPieces list = []) : list = [] := by
  cases list with
  | nil => rfl
  | cons piece rest =>
    by_cases hrest : rest = []
    · rw [hrest, joinPieces_singleton] at h
      exact absurd h (hexText_ne_nil piece)
    · rw [joinPieces_cons piece rest hrest] at h
      exact absurd h (List.append_ne_nil_of_right_ne_nil _ (List.cons_ne_nil _ _))

theorem joinPieces_eq_digit {list : List Nat} {digit : Nat} (hdigit : digit < 16)
    (h : joinPieces list = [hexChar digit]) : list = [digit] := by
  cases list with
  | nil => cases h
  | cons piece rest =>
    by_cases hrest : rest = []
    · subst hrest
      rw [joinPieces_singleton, hexText] at h
      split at h
      next hone =>
        obtain ⟨hchar, -⟩ := List.cons.inj h
        rw [hexChar_inj hone hdigit hchar]
      split at h
      · exact absurd (congrArg List.length h) (by simp)
      split at h
      · exact absurd (congrArg List.length h) (by simp)
      · exact absurd (congrArg List.length h) (by simp)
    · rw [joinPieces_cons piece rest hrest] at h
      have hlength := congrArg List.length h
      have hne := List.length_pos_of_ne_nil (hexText_ne_nil piece)
      rw [List.length_append, List.length_cons, List.length_singleton] at hlength
      omega

theorem writeIpv6_double {bits : BitVec 128} {rest : List Char}
    (h : (writeIpv6 bits).toList = ':' :: rest) : ∃ n list, pieces bits = List.replicate n 0 ++ list ∧
      rest = ':' :: joinPieces list := by
  rw [writeIpv6, String.toList_ofList] at h
  obtain ⟨piece, list, rest', hlist, htext⟩ | ⟨n, list, hlist, -, htext⟩ :=
    @writePieces_cases (pieces bits) (by decide : 2 ≤ 8)
  · rw [htext] at h
    have hpiece := colon_not_mem (@pieces_lt bits _ (hlist ▸ List.mem_cons_self))
    cases hdigits : hexText piece with
    | nil => exact absurd hdigits (hexText_ne_nil piece)
    | cons c digits =>
      rw [hdigits] at h hpiece
      exact absurd (List.cons.inj h).1.symm (fun heq => hpiece (heq ▸ List.mem_cons_self))
  · rw [htext] at h
    exact ⟨n, list, hlist, (List.cons.inj h).2.symm⟩

theorem writeIpv6_eq_zero {bits : BitVec 128} : writeIpv6 bits = "::" ↔ bits = 0 := by
  constructor
  · intro h
    obtain ⟨n, list, hlist, hrest⟩ := @writeIpv6_double bits [':'] (congrArg String.toList h)
    rw [joinPieces_eq_nil (List.cons.inj hrest).2.symm, List.append_nil] at hlist
    have hlength : 8 = n := by
      have := congrArg List.length hlist
      rwa [List.length_replicate] at this
    rw [← ofPieces_pieces bits, hlist, ← hlength]
    decide
  · rintro rfl
    decide

theorem writeIpv6_eq_one {bits : BitVec 128} : writeIpv6 bits = "::1" ↔ bits = 1 := by
  constructor
  · intro h
    obtain ⟨n, list, hlist, hrest⟩ := @writeIpv6_double bits [':', '1'] (congrArg String.toList h)
    rw [@joinPieces_eq_digit list 1 (by decide) (List.cons.inj hrest).2.symm] at hlist
    have hlength : 8 = n + 1 := by
      have := congrArg List.length hlist
      rwa [List.length_append, List.length_replicate, List.length_singleton] at this
    obtain rfl : n = 7 := by omega
    rw [← ofPieces_pieces bits, hlist]
    decide
  · rintro rfl
    decide

theorem field_prefix_iff {c : Char} {head first : List Char} (hhead : c ∉ head) (hfirst : c ∉ first)
    (tail rest : List Char) : head ++ c :: tail <+: first ++ c :: rest ↔ head = first ∧ tail <+: rest := by
  induction head generalizing first with
  | nil =>
    cases first with
    | nil => simp
    | cons d first =>
      have hne : c ≠ d := fun heq => hfirst (heq ▸ List.mem_cons_self)
      simp [hne]
  | cons d head ih =>
    cases first with
    | nil =>
      have hne : d ≠ c := fun heq => hhead (heq ▸ List.mem_cons_self)
      simp [hne]
    | cons e first =>
      have ih := @ih first (fun hmem => hhead (.tail _ hmem)) fun hmem => hfirst (.tail _ hmem)
      rw [List.cons_append, List.cons_append, List.cons_prefix_cons, ih, List.cons.injEq, and_assoc]

theorem prefix_field_iff {c : Char} {head first : List Char} (hhead : c ∉ head) (rest : List Char) :
    head <+: first ++ c :: rest ↔ head <+: first := by
  induction head generalizing first with
  | nil => exact iff_of_true List.nil_prefix List.nil_prefix
  | cons d head ih =>
    cases first with
    | nil =>
      have hne : d ≠ c := fun heq => hhead (heq ▸ List.mem_cons_self)
      simp [hne]
    | cons e first =>
      rw [List.cons_append, List.cons_prefix_cons, List.cons_prefix_cons,
        ih fun hmem => hhead (.tail _ hmem)]

def firstPiece (bits : BitVec 128) : Nat :=
  (bits >>> 112).toNat

theorem firstPiece_lt (bits : BitVec 128) : firstPiece bits < 65536 := by
  have hbits := bits.isLt
  rw [firstPiece, BitVec.toNat_ushiftRight, Nat.shiftRight_eq_div_pow]
  omega

theorem writeIpv6_first (bits : BitVec 128) : ∃ rest, (writeIpv6 bits).toList =
    hexText (firstPiece bits) ++ ':' :: rest ∨
      firstPiece bits = 0 ∧ (writeIpv6 bits).toList = ':' :: rest := by
  have hfirst : firstPiece bits = (pieces bits).headD 0 := by
    have hbits := bits.isLt
    have hhead : (pieces bits).headD 0 = (bits >>> 112).toNat % 65536 := rfl
    rw [hhead, firstPiece, BitVec.toNat_ushiftRight, Nat.shiftRight_eq_div_pow]
    omega
  rw [writeIpv6, String.toList_ofList]
  obtain ⟨piece, list, rest, hlist, htext⟩ | ⟨n, list, hlist, hn, htext⟩ :=
    @writePieces_cases (pieces bits) (by decide : 2 ≤ 8)
  · rw [hlist, List.headD_cons] at hfirst
    exact ⟨rest, .inl (hfirst ▸ htext)⟩
  · refine ⟨_, .inr ⟨?_, htext⟩⟩
    rw [hfirst, hlist]
    cases n with
    | zero => cases hn
    | succ n => rfl

theorem digits_prefix_iff {piece a b : Nat} (hpiece : piece < 65536) (ha : 0 < a ∧ a < 16)
    (hb : b < 16) : [hexChar a, hexChar b] <+: hexText piece ↔
      piece = a * 16 + b ∨ piece / 16 = a * 16 + b ∨ piece / 256 = a * 16 + b := by
  have hchars : ∀ {d e : Nat} {rest : List Char}, d < 16 → e < 16 →
      ([hexChar a, hexChar b] <+: hexChar d :: hexChar e :: rest ↔ a = d ∧ b = e) := by
    intro d e rest hd he
    rw [List.cons_prefix_cons, List.cons_prefix_cons]
    constructor
    · rintro ⟨hfirst, hsecond, -⟩
      exact ⟨hexChar_inj ha.2 hd hfirst, hexChar_inj hb he hsecond⟩
    · rintro ⟨rfl, rfl⟩
      exact ⟨rfl, rfl, List.nil_prefix⟩
  rw [hexText]
  split
  next hone =>
    refine iff_of_false (fun hbegins => ?_) (by omega)
    exact absurd hbegins.length_le (by simp)
  split
  next htwo =>
    rw [hchars (by omega) (by omega)]
    omega
  split
  next hthree =>
    rw [hchars (by omega) (by omega)]
    omega
  next =>
    rw [hchars (by omega) (by omega)]
    omega

theorem hexText_eq_iff {piece a b c d : Nat} (hpiece : piece < 65536) (ha : 0 < a ∧ a < 16)
    (hb : b < 16) (hc : c < 16) (hd : d < 16) :
    [hexChar a, hexChar b, hexChar c, hexChar d] = hexText piece ↔
      piece = ((a * 16 + b) * 16 + c) * 16 + d := by
  rw [hexText]
  split
  next => exact iff_of_false (fun h => absurd (congrArg List.length h) (by simp)) (by omega)
  split
  next => exact iff_of_false (fun h => absurd (congrArg List.length h) (by simp)) (by omega)
  split
  next => exact iff_of_false (fun h => absurd (congrArg List.length h) (by simp)) (by omega)
  next =>
    rw [List.cons.injEq, List.cons.injEq, List.cons.injEq, List.cons.injEq]
    constructor
    · rintro ⟨h₁, h₂, h₃, h₄, -⟩
      have h₁ := hexChar_inj ha.2 (by omega) h₁
      have h₂ := hexChar_inj hb (by omega) h₂
      have h₃ := hexChar_inj hc (by omega) h₃
      have h₄ := hexChar_inj hd (by omega) h₄
      omega
    · intro h
      refine ⟨congrArg _ ?_, congrArg _ ?_, congrArg _ ?_, congrArg _ ?_, rfl⟩
      all_goals omega

end Writing
end FieldserviceIT.Lib.Addresses
