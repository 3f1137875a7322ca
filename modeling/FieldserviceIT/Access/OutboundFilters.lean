import FieldserviceIT.Admin.ScimGroups
import FieldserviceIT.Lib.Addresses

/-!
The tests that keep requests of the platform from going to its own network: of webhooks by the name
of the host, and of identity providers by the address. A host that is an address is known to the
tests as the parser of URLs writes it, however it was written.
-/

namespace FieldserviceIT.Access

open Admin Lib Addresses

section Urls

/-- What the parser makes of a host; an address of the newer family stands in brackets. -/
inductive UrlHost where
  | address (address : Address)
  | name (text : String)

def addressText : Address → String
  | .v4 bits => writeIpv4 bits
  | .v6 bits => writeIpv6 bits

def UrlHost.hostname : UrlHost → String
  | address (.v4 bits) => writeIpv4 bits
  | address (.v6 bits) => "[" ++ writeIpv6 bits ++ "]"
  | name text => text

structure Url where
  protocol : String
  host : UrlHost

/-- `new URL(value)`, and the environment. -/
structure UrlPlatform where
  parse : String → Option Url
  production : Bool

end Urls

section Filters

/-- The hosts that `assertWebhookUrl` refuses. -/
def isPrivateHost (host : String) : Bool :=
  host = "localhost" || host = "::1" || startsWith "127." host || startsWith "10." host ||
    startsWith "192.168." host || startsWith "169.254." host

def assertWebhookUrl (P : UrlPlatform) (value : String) : Bool :=
  match P.parse value with
  | none => false
  | some url =>
    !(url.protocol ≠ "https:" && P.production) && !isPrivateHost (lowerCased url.host.hostname)

/-- `/^::ffff:(\d+\.\d+\.\d+\.\d+)$/` -/
def mappedIpv4 (text : String) : Option String :=
  let octets := String.ofList (text.toList.drop 7)
  if startsWith "::ffff:" text && (fields '.' octets).length = 4 &&
      (fields '.' octets).all fun octet => (readDigits octet).isSome then
    some octets
  else none

def isReserved (a b : Nat) : Bool :=
  a = 0 || a = 10 || a = 127 || 224 ≤ a || (a = 169 && b = 254) ||
    (a = 172 && 16 ≤ b && b ≤ 31) || (a = 192 && b = 168) || (a = 100 && 64 ≤ b && b ≤ 127)

/-- What is no address of the older family, mapped or not, is let through. -/
def isPrivateAddress (address : String) : Bool :=
  let normalized := lowerCased address
  if normalized = "::1" || normalized = "::" || startsWith "fc" normalized ||
      startsWith "fd" normalized || startsWith "fe80:" normalized then true
  else
    match (fields '.' ((mappedIpv4 normalized).getD normalized)).mapM readOctet with
    | some [a, b, _, _] => isReserved a b
    | _ => false

namespace PlatformSecurityService

def isPrivateAddress (address : String) : Bool :=
  Access.isPrivateAddress address

end PlatformSecurityService

namespace OidcAuthService

def isPrivateAddress (address : String) : Bool :=
  Access.isPrivateAddress address

end OidcAuthService

end Filters

section Ranges

def nonPublicBlocks : List Block :=
  [⟨.v4 (ofOctets 127 0 0 0), 8⟩, ⟨.v4 (ofOctets 169 254 0 0), 16⟩, ⟨.v4 (ofOctets 10 0 0 0), 8⟩,
    ⟨.v4 (ofOctets 172 16 0 0), 12⟩, ⟨.v4 (ofOctets 192 168 0 0), 16⟩,
    ⟨.v4 (ofOctets 100 64 0 0), 10⟩, ⟨.v4 (ofOctets 0 0 0 0), 32⟩,
    ⟨.v6 1, 128⟩, ⟨.v6 0, 128⟩, ⟨.v6 (ofPieces [0xfe80, 0, 0, 0, 0, 0, 0, 0]), 10⟩,
    ⟨.v6 (ofPieces [0xfc00, 0, 0, 0, 0, 0, 0, 0]), 7⟩]

def isInBlocks (address : Address) : Bool :=
  nonPublicBlocks.any fun block => block.contains address

/-- The address of the older family that is mapped into the newer one. -/
def unmapped : Address → Option Address
  | .v4 _ => none
  | .v6 bits => if bits >>> 32 = 0xffff then some (.v4 (bits.setWidth 32)) else none

/-- Loopback, link-local, private, carrier-grade and unspecified addresses, mapped or not. -/
def isNonPublic (address : Address) : Bool :=
  isInBlocks address || (unmapped address).any isInBlocks

/-- An address that is not public passes none of the tests, and all of them agree about it. -/
structure IsFiltered (P : UrlPlatform) (value : String) (url : Url) (address : Address) : Prop where
  rejected : isNonPublic address = true → assertWebhookUrl P value = false ∧
    PlatformSecurityService.isPrivateAddress (addressText address) = true ∧
      OidcAuthService.isPrivateAddress (addressText address) = true
  agreed : isPrivateHost (lowerCased url.host.hostname) =
      PlatformSecurityService.isPrivateAddress (addressText address) ∧
    PlatformSecurityService.isPrivateAddress (addressText address) =
      OidcAuthService.isPrivateAddress (addressText address)

/-- Addresses of the older family outside the ranges that only some of the tests know, and public
ones of the newer family whose text does not begin as that of a private one. -/
def isTreatedAlike : Address → Bool
  | .v4 bits =>
    let a := bits.toNat / 16777216
    let b := bits.toNat / 65536 % 256
    !(a = 0 || 224 ≤ a || (a = 172 && 16 ≤ b && b ≤ 31) || (a = 100 && 64 ≤ b && b ≤ 127))
  | .v6 bits =>
    let first := firstPiece bits
    !isNonPublic (.v6 bits) && !(first = 0xfc || first = 0xfd || (0xfc0 ≤ first && first ≤ 0xfdf))

end Ranges

section Older

theorem startsWith_iff {head text : String} : startsWith head text = true ↔ head.toList <+: text.toList := by
  exact List.isPrefixOf_iff_prefix

theorem startsWith_of_ne {head text : String} {c d : Char} {heads rest : List Char}
    (hhead : head.toList = d :: heads) (htext : text.toList = c :: rest) (h : d ≠ c) :
    startsWith head text = false := by
  rw [Bool.eq_false_iff, ne_eq, startsWith_iff, hhead, htext, List.cons_prefix_cons]
  exact fun hbegins => h hbegins.1

theorem ne_of_first {text other : String} {c d : Char} {rest others : List Char}
    (htext : text.toList = c :: rest) (hother : other.toList = d :: others) (h : d ≠ c) :
    text ≠ other := by
  rintro rfl
  rw [htext] at hother
  exact h (List.cons.inj hother).1.symm

theorem lowerCased_eq {text : String} (h : ∀ c ∈ text.toList, c.toLower = c) :
    lowerCased text = text := by
  rw [lowerCased, List.map_congr_left h, List.map_id', String.ofList_toList]

theorem toLower_of_isDigit {c : Char} (h : c.isDigit = true) : c.toLower = c := by
  rw [Char.isDigit, Bool.and_eq_true, decide_eq_true_eq, decide_eq_true_eq] at h
  exact dif_neg fun hupper => absurd (UInt32.le_trans hupper.1 h.2) (by decide)

theorem lowerCased_writeIpv4 (bits : BitVec 32) : lowerCased (writeIpv4 bits) = writeIpv4 bits := by
  apply lowerCased_eq
  intro c hc
  obtain rfl | hdigit := mem_writeIpv4 hc
  · rfl
  · exact toLower_of_isDigit hdigit

theorem startsWith_octet_iff {bits : BitVec 32} {head : String} {octet : Nat} (hoctet : octet < 256)
    (hhead : head.toList = (toString octet).toList ++ ['.']) :
    startsWith head (writeIpv4 bits) = true ↔ octet = bits.toNat / 16777216 := by
  have hfirst : bits.toNat / 16777216 < 256 := @octets_lt bits _ (.head _)
  rw [startsWith_iff, hhead, writeIpv4_octets rfl,
    field_prefix_iff (octet_text hoctet).2 (octet_text hfirst).2, octetText_eq_iff hoctet hfirst]
  exact and_iff_left List.nil_prefix

theorem startsWith_octets_iff {bits : BitVec 32} {head : String} {octet octet' : Nat}
    (hoctet : octet < 256) (hoctet' : octet' < 256)
    (hhead : head.toList = (toString octet).toList ++ '.' :: ((toString octet').toList ++ ['.'])) :
    startsWith head (writeIpv4 bits) = true ↔
      octet = bits.toNat / 16777216 ∧ octet' = bits.toNat / 65536 % 256 := by
  have hfirst : bits.toNat / 16777216 < 256 := @octets_lt bits _ (.head _)
  have hsecond : bits.toNat / 65536 % 256 < 256 := @octets_lt bits _ (.tail _ (.head _))
  rw [startsWith_iff, hhead, writeIpv4_octets rfl,
    field_prefix_iff (octet_text hoctet).2 (octet_text hfirst).2, octetText_eq_iff hoctet hfirst,
    field_prefix_iff (octet_text hoctet').2 (octet_text hsecond).2,
    octetText_eq_iff hoctet' hsecond]
  exact and_congr_right fun _ => and_iff_left List.nil_prefix

theorem isPrivateHost_writeIpv4 (bits : BitVec 32) :
    isPrivateHost (lowerCased (writeIpv4 bits)) = true ↔ 127 = bits.toNat / 16777216 ∨
      10 = bits.toNat / 16777216 ∨
        192 = bits.toNat / 16777216 ∧ 168 = bits.toNat / 65536 % 256 ∨
          169 = bits.toNat / 16777216 ∧ 254 = bits.toNat / 65536 % 256 := by
  obtain ⟨c, rest, htext, hdigit⟩ := writeIpv4_first bits
  have hlocal : writeIpv4 bits ≠ "localhost" := ne_of_first htext rfl (by rintro rfl; cases hdigit)
  have hloop : writeIpv4 bits ≠ "::1" := ne_of_first htext rfl (by rintro rfl; cases hdigit)
  rw [lowerCased_writeIpv4, isPrivateHost]
  simp only [Bool.or_eq_true, decide_eq_true_eq, hlocal, hloop, false_or]
  rw [startsWith_octet_iff (by decide : 127 < 256) rfl, startsWith_octet_iff (by decide : 10 < 256) rfl,
    startsWith_octets_iff (by decide : 192 < 256) (by decide : 168 < 256) rfl,
    startsWith_octets_iff (by decide : 169 < 256) (by decide : 254 < 256) rfl, or_assoc, or_assoc]

theorem isPrivateAddress_writeIpv4 (bits : BitVec 32) : isPrivateAddress (writeIpv4 bits) =
    isReserved (bits.toNat / 16777216) (bits.toNat / 65536 % 256) := by
  obtain ⟨c, rest, htext, hdigit⟩ := writeIpv4_first bits
  have hloop : writeIpv4 bits ≠ "::1" := ne_of_first htext rfl (by rintro rfl; cases hdigit)
  have hnone : writeIpv4 bits ≠ "::" := ne_of_first htext rfl (by rintro rfl; cases hdigit)
  have hfc : startsWith "fc" (writeIpv4 bits) = false :=
    startsWith_of_ne rfl htext (by rintro rfl; cases hdigit)
  have hfd : startsWith "fd" (writeIpv4 bits) = false :=
    startsWith_of_ne rfl htext (by rintro rfl; cases hdigit)
  have hfe : startsWith "fe80:" (writeIpv4 bits) = false :=
    startsWith_of_ne rfl htext (by rintro rfl; cases hdigit)
  have hmapped : mappedIpv4 (writeIpv4 bits) = none := by
    have hbegins : startsWith "::ffff:" (writeIpv4 bits) = false :=
      startsWith_of_ne rfl htext (by rintro rfl; cases hdigit)
    rw [mappedIpv4, hbegins]
    rfl
  rw [isPrivateAddress, lowerCased_writeIpv4, hfc, hfd, hfe, hmapped, Option.getD_none, mapM_octets]
  simp only [hloop, hnone, decide_false, Bool.or_false, Bool.false_eq_true, if_false]
  rfl

theorem reserved_of_isInBlocks {bits : BitVec 32} (h : isInBlocks (.v4 bits) = true) :
    isReserved (bits.toNat / 16777216) (bits.toNat / 65536 % 256) = true := by
  have hother : ∀ network n, Block.contains ⟨.v6 network, n⟩ (.v4 bits) = false := fun _ _ => rfl
  simp only [isInBlocks, nonPublicBlocks, List.any_cons, List.any_nil, contains_v4, hother,
    Bool.or_false, Bool.or_eq_true, decide_eq_true_eq, ofOctets, BitVec.toNat_ofNat,
    Nat.shiftRight_eq_div_pow, Nat.reduceSub, Nat.reduceMul, Nat.reduceAdd, Nat.reducePow,
    Nat.reduceMod, Nat.reduceDiv] at h
  have hfirst : bits.toNat / 16777216 = bits.toNat / 65536 / 256 := by
    rw [Nat.div_div_eq_div_mul]
  rcases h with h | h | h | h | h | h | h
  · rw [← h]
    rfl
  · rw [hfirst, ← h]
    rfl
  · rw [← h]
    rfl
  · have ha : bits.toNat / 16777216 = 172 := by omega
    have hb : 16 ≤ bits.toNat / 65536 % 256 ∧ bits.toNat / 65536 % 256 ≤ 31 := by omega
    rw [ha, isReserved, decide_eq_true hb.1, decide_eq_true hb.2]
    rfl
  · rw [hfirst, ← h]
    rfl
  · have ha : bits.toNat / 16777216 = 100 := by omega
    have hb : 64 ≤ bits.toNat / 65536 % 256 ∧ bits.toNat / 65536 % 256 ≤ 127 := by omega
    rw [ha, isReserved, decide_eq_true hb.1, decide_eq_true hb.2]
    exact Bool.or_true _
  · rw [Nat.div_one] at h
    rw [← h]
    rfl

end Older

section Newer

theorem isInBlocks_v6 (bits : BitVec 128) : isInBlocks (.v6 bits) = true ↔
    bits = 1 ∨ bits = 0 ∨ firstPiece bits / 64 = 1018 ∨ firstPiece bits / 512 = 126 := by
  have hother : ∀ network n, Block.contains ⟨.v4 network, n⟩ (.v6 bits) = false := fun _ _ => rfl
  have hbits := bits.isLt
  rw [← BitVec.toNat_inj, ← BitVec.toNat_inj, firstPiece, BitVec.toNat_ushiftRight]
  simp only [isInBlocks, nonPublicBlocks, List.any_cons, List.any_nil, contains_v6, hother,
    Bool.or_false, Bool.false_or, Bool.or_eq_true, decide_eq_true_eq, ofPieces, BitVec.toNat_ofNat,
    Nat.shiftRight_eq_div_pow, List.foldl_cons, List.foldl_nil]
  omega

theorem isPrivateHost_bracketed {text : String} {rest : List Char} (h : text.toList = '[' :: rest) :
    isPrivateHost text = false := by
  have hlocal : text ≠ "localhost" := ne_of_first h rfl (by decide)
  have hloop : text ≠ "::1" := ne_of_first h rfl (by decide)
  rw [isPrivateHost, decide_eq_false hlocal, decide_eq_false hloop,
    startsWith_of_ne rfl h (by decide), startsWith_of_ne rfl h (by decide),
    startsWith_of_ne rfl h (by decide), startsWith_of_ne rfl h (by decide)]
  rfl

theorem mem_writeIpv6 {bits : BitVec 128} {c : Char} (hc : c ∈ (writeIpv6 bits).toList) :
    c ≠ '.' ∧ c.toLower = c := by
  rw [writeIpv6, String.toList_ofList] at hc
  obtain rfl | hhex := mem_writePieces (fun _ => pieces_lt) hc
  · decide
  · exact hhex.plain.2

theorem not_older {text : String} (h : '.' ∉ text.toList) :
    mappedIpv4 text = none ∧ (fields '.' text).length = 1 := by
  have hoctets : (fields '.' (String.ofList (text.toList.drop 7))).length = 1 := by
    rw [fields_of_not_mem]
    · rfl
    · rw [String.toList_ofList]
      exact fun hmem => h (List.mem_of_mem_drop hmem)
  refine ⟨?_, by rw [fields_of_not_mem h]; rfl⟩
  rw [mappedIpv4, hoctets]
  simp

theorem lowerCased_writeIpv6 (bits : BitVec 128) : lowerCased (writeIpv6 bits) = writeIpv6 bits :=
  lowerCased_eq fun _ hc => (mem_writeIpv6 hc).2

theorem startsWith_digits_iff {bits : BitVec 128} {head : String} {a b : Nat} (ha : 0 < a ∧ a < 16)
    (hb : b < 16) (hhead : head.toList = [hexChar a, hexChar b]) :
    startsWith head (writeIpv6 bits) = true ↔ firstPiece bits = a * 16 + b ∨
      firstPiece bits / 16 = a * 16 + b ∨ firstPiece bits / 256 = a * 16 + b := by
  have hpiece := firstPiece_lt bits
  have hplain : ':' ∉ [hexChar a, hexChar b] := by
    rw [List.mem_pair]
    rintro (heq | heq)
    · exact (IsHexChar.plain ⟨a, ha.2, heq⟩).1 rfl
    · exact (IsHexChar.plain ⟨b, hb, heq⟩).1 rfl
  rw [startsWith_iff, hhead]
  obtain ⟨rest, htext | ⟨hzero, htext⟩⟩ := writeIpv6_first bits
  · rw [htext, prefix_field_iff hplain, digits_prefix_iff hpiece ha hb]
  · rw [htext, List.cons_prefix_cons]
    refine iff_of_false (fun hbegins => ?_) (by omega)
    exact hplain (hbegins.1 ▸ List.mem_cons_self)

theorem startsWith_piece_iff {bits : BitVec 128} {head : String} {a b c d : Nat}
    (ha : 0 < a ∧ a < 16) (hb : b < 16) (hc : c < 16) (hd : d < 16)
    (hhead : head.toList = [hexChar a, hexChar b, hexChar c, hexChar d] ++ [':']) :
    startsWith head (writeIpv6 bits) = true ↔
      firstPiece bits = ((a * 16 + b) * 16 + c) * 16 + d := by
  have hpiece := firstPiece_lt bits
  have hplain : ∀ digit ∈ [a, b, c, d], ':' ≠ hexChar digit := by
    simp only [List.forall_mem_cons]
    exact ⟨fun heq => (IsHexChar.plain ⟨a, ha.2, heq⟩).1 rfl,
      fun heq => (IsHexChar.plain ⟨b, hb, heq⟩).1 rfl, fun heq => (IsHexChar.plain ⟨c, hc, heq⟩).1 rfl,
      fun heq => (IsHexChar.plain ⟨d, hd, heq⟩).1 rfl, fun _ hmem => by cases hmem⟩
  have hnone : ':' ∉ [hexChar a, hexChar b, hexChar c, hexChar d] := fun hmem => by
    obtain ⟨digit, hdigit, heq⟩ := List.mem_map.mp
      (show ':' ∈ [a, b, c, d].map hexChar from hmem)
    exact hplain digit hdigit heq.symm
  rw [startsWith_iff, hhead]
  obtain ⟨rest, htext | ⟨hzero, htext⟩⟩ := writeIpv6_first bits
  · rw [htext, field_prefix_iff hnone (colon_not_mem hpiece), hexText_eq_iff hpiece ha hb hc hd]
    exact and_iff_left List.nil_prefix
  · rw [htext, List.cons_append, List.cons_prefix_cons]
    refine iff_of_false (fun hbegins => ?_) (by omega)
    exact hplain a (.head _) hbegins.1.symm

theorem isPrivateAddress_writeIpv6 (bits : BitVec 128) :
    isPrivateAddress (writeIpv6 bits) = true ↔ bits = 1 ∨ bits = 0 ∨
      (firstPiece bits = 0xfc ∨ firstPiece bits / 16 = 0xfc ∨ firstPiece bits / 256 = 0xfc) ∨
        (firstPiece bits = 0xfd ∨ firstPiece bits / 16 = 0xfd ∨ firstPiece bits / 256 = 0xfd) ∨
          firstPiece bits = 0xfe80 := by
  have hdots : '.' ∉ (writeIpv6 bits).toList := fun hmem => (mem_writeIpv6 hmem).1 rfl
  obtain ⟨hmapped, hlength⟩ := not_older hdots
  have hfc := @startsWith_digits_iff bits "fc" 15 12 (by decide) (by decide) rfl
  have hfd := @startsWith_digits_iff bits "fd" 15 13 (by decide) (by decide) rfl
  have hfe := @startsWith_piece_iff bits "fe80:" 15 14 8 0 (by decide) (by decide) (by decide)
    (by decide) rfl
  have hrest : ∀ list, (fields '.' (writeIpv6 bits)).mapM readOctet = some list → list.length = 1 :=
    fun list hlist => (length_mapM hlist).trans hlength
  rw [isPrivateAddress, lowerCased_writeIpv6, hmapped, Option.getD_none]
  simp only [Bool.or_eq_true, decide_eq_true_eq, writeIpv6_eq_one, writeIpv6_eq_zero, hfc, hfd,
    hfe, or_assoc, Nat.reduceMul, Nat.reduceAdd]
  split
  next hprivate => exact iff_of_true rfl hprivate
  next hpublic =>
    refine iff_of_false ?_ hpublic
    split
    next a b c d hoctets => exact absurd (hrest _ hoctets) (by simp)
    next => exact Bool.false_ne_true

end Newer

section Agreement

variable {P : UrlPlatform} {value : String} {url : Url}

theorem assertWebhookUrl_parsed (hparse : P.parse value = some url)
    (h : isPrivateHost (lowerCased url.host.hostname) = true) : assertWebhookUrl P value = false := by
  rw [assertWebhookUrl, hparse]
  dsimp only
  rw [h, Bool.not_true, Bool.and_false]

theorem isFiltered_iff_agreed (hparse : P.parse value = some url) (address : Address) :
    IsFiltered P value url address ↔
      (isNonPublic address = true → isPrivateAddress (addressText address) = true) ∧
        isPrivateHost (lowerCased url.host.hostname) = isPrivateAddress (addressText address) := by
  have hplatform : PlatformSecurityService.isPrivateAddress = isPrivateAddress := rfl
  have hoidc : OidcAuthService.isPrivateAddress = isPrivateAddress := rfl
  constructor
  · rintro ⟨hrejected, hagreed⟩
    rw [hplatform] at hrejected hagreed
    exact ⟨fun hnonPublic => (hrejected hnonPublic).2.1, hagreed.1⟩
  · rintro ⟨hrejected, hagreed⟩
    refine ⟨fun hnonPublic => ?_, ?_⟩
    · have hprivate := hrejected hnonPublic
      rw [hplatform, hoidc]
      exact ⟨assertWebhookUrl_parsed hparse (hagreed.trans hprivate), hprivate, hprivate⟩
    · rw [hplatform, hoidc]
      exact ⟨hagreed, rfl⟩

theorem agreed_v4_iff (bits : BitVec 32) :
    isPrivateHost (lowerCased (writeIpv4 bits)) = isPrivateAddress (writeIpv4 bits) ↔
      isTreatedAlike (.v4 bits) = true := by
  rw [isPrivateAddress_writeIpv4, isTreatedAlike, Bool.eq_iff_iff, isPrivateHost_writeIpv4,
    isReserved]
  simp only [Bool.or_eq_true, Bool.and_eq_true, decide_eq_true_eq, Bool.not_eq_true',
    ← Bool.not_eq_true]
  grind

theorem not_private_v6_iff (bits : BitVec 128) :
    isNonPublic (.v6 bits) = false ∧ isPrivateAddress (writeIpv6 bits) = false ↔
      isTreatedAlike (.v6 bits) = true := by
  rw [isTreatedAlike, Bool.and_eq_true, Bool.not_eq_true']
  refine and_congr_right fun hpublic => ?_
  have hblocks : ¬isInBlocks (.v6 bits) = true := by
    intro hblocks
    rw [isNonPublic, hblocks, Bool.true_or] at hpublic
    cases hpublic
  rw [isInBlocks_v6, not_or, not_or] at hblocks
  obtain ⟨hone, hzero, hranges⟩ := hblocks
  rw [Bool.eq_false_iff, ne_eq, isPrivateAddress_writeIpv6, or_iff_right hone, or_iff_right hzero]
  simp only [Bool.or_eq_true, Bool.and_eq_true, decide_eq_true_eq, Bool.not_eq_true',
    ← Bool.not_eq_true]
  omega

/-- The tests refuse what is not public and agree about an address exactly if it is of the older
family and outside the ranges that the test by name does not know, or is public and of the newer
family and not written as a private one is. -/
theorem isFiltered_iff (P : UrlPlatform) (value : String) (url : Url) (address : Address)
    (hparse : P.parse value = some url) (hhost : url.host = .address address) :
    IsFiltered P value url address ↔ isTreatedAlike address = true := by
  rw [isFiltered_iff_agreed hparse, hhost]
  cases address with
  | v4 bits =>
    rw [← agreed_v4_iff, UrlHost.hostname, addressText]
    refine and_iff_right fun hnonPublic => ?_
    rw [isNonPublic, unmapped, Option.any_none, Bool.or_false] at hnonPublic
    rw [isPrivateAddress_writeIpv4]
    exact reserved_of_isInBlocks hnonPublic
  | v6 bits =>
    have hopen : isPrivateHost (lowerCased (UrlHost.address (.v6 bits)).hostname) = false := by
      refine @isPrivateHost_bracketed _ ((writeIpv6 bits ++ "]").toList.map Char.toLower) ?_
      rw [lowerCased, String.toList_ofList, UrlHost.hostname, String.append_assoc,
        String.toList_append, List.map_append]
      rfl
    rw [← not_private_v6_iff, hopen, addressText]
    constructor
    · rintro ⟨hrejected, hpublic⟩
      refine ⟨Bool.eq_false_iff.mpr fun hnonPublic => ?_, hpublic.symm⟩
      exact absurd (hrejected hnonPublic) (Bool.eq_false_iff.mp hpublic.symm)
    · rintro ⟨hpublic, hprivate⟩
      refine ⟨fun hnonPublic => ?_, hprivate.symm⟩
      rw [hpublic] at hnonPublic
      cases hnonPublic

def twoUrls : UrlPlatform where
  parse value :=
    if value = "https://8.8.8.8/" then some ⟨"https:", .address (.v4 (ofOctets 8 8 8 8))⟩
    else if value = "https://172.16.0.1/" then
      some ⟨"https:", .address (.v4 (ofOctets 172 16 0 1))⟩
    else none
  production := true

theorem isFiltered_public :
    IsFiltered twoUrls "https://8.8.8.8/" ⟨"https:", .address (.v4 (ofOctets 8 8 8 8))⟩
      (.v4 (ofOctets 8 8 8 8)) :=
  (isFiltered_iff twoUrls "https://8.8.8.8/" _ (.v4 (ofOctets 8 8 8 8)) rfl rfl).mpr
    (by decide)

/-- A webhook goes to a private network that the tests of issuers refuse. -/
theorem isFiltered_not_private :
    ¬IsFiltered twoUrls "https://172.16.0.1/" ⟨"https:", .address (.v4 (ofOctets 172 16 0 1))⟩
      (.v4 (ofOctets 172 16 0 1)) := by
  intro hfiltered
  have hpasses : assertWebhookUrl twoUrls "https://172.16.0.1/" = true := by
    decide
  rw [(hfiltered.rejected (by decide)).1] at hpasses
  cases hpasses

end Agreement
end FieldserviceIT.Access
