import FieldserviceIT.Tokens.SignedTokens
import Mathlib.Data.List.TakeWhile
import Mathlib.Logic.Equiv.List
import Mathlib.Tactic.DeriveEncodable

/-!
Which signatures are taken for another purpose than the one they were issued for. An
accepted signature fixes the message, so what is left is to compare the shapes of the
messages: a dot in the middle of the signed part of an access token or challenge, two
bars in what tracking links sign, neither in what the two links sign.
-/

namespace FieldserviceIT.Tokens

open Common Sql
open Admin (countsAsTrue)

section Shapes

theorem takeWhile_joined {c : Char} {a : Text} (h : c ∉ a) (b : Text) :
    (a ++ c :: b).takeWhile (· ≠ c) = a := by
  rw [List.takeWhile_append_of_pos, List.takeWhile_cons_of_neg (by simp), List.append_nil]
  intro d hd
  exact decide_eq_true fun heq => h (heq ▸ hd)

theorem dropWhile_joined {c : Char} {a : Text} (h : c ∉ a) (b : Text) :
    (a ++ c :: b).dropWhile (· ≠ c) = c :: b := by
  rw [List.dropWhile_append_of_pos, List.dropWhile_cons_of_neg (by simp)]
  intro d hd
  exact decide_eq_true fun heq => h (heq ▸ hd)

theorem joined_inj {c : Char} {a b x y : Text} (ha : c ∉ a) (hb : c ∉ b)
    (h : a ++ c :: x = b ++ c :: y) : a = b ∧ x = y := by
  have hparts := congrArg (List.takeWhile (· ≠ c)) h
  rw [takeWhile_joined ha, takeWhile_joined hb] at hparts
  have hrests := congrArg (List.dropWhile (· ≠ c)) h
  rw [dropWhile_joined ha, dropWhile_joined hb] at hrests
  exact ⟨hparts, List.tail_eq_of_cons_eq hrests⟩

theorem signed_inj {a b x y : Text} (hx : '.' ∉ x) (hy : '.' ∉ y)
    (h : a ++ '.' :: x = b ++ '.' :: y) : a = b ∧ x = y := by
  have hreversed : x.reverse ++ '.' :: a.reverse = y.reverse ++ '.' :: b.reverse := by
    simpa using congrArg List.reverse h
  have hparts := joined_inj (by simpa using hx) (by simpa using hy) hreversed
  exact ⟨List.reverse_inj.mp hparts.2, List.reverse_inj.mp hparts.1⟩

@[simp] theorem firstPart_joined {m : Text} (h : '.' ∉ m) (signature : Text) :
    firstPart (m ++ '.' :: signature) = m :=
  takeWhile_joined h signature

theorem secondPart_joined {m signature : Text} (h : '.' ∉ m) (hs : '.' ∉ signature) :
    secondPart (m ++ '.' :: signature) = signature := by
  rw [secondPart, dropWhile_joined h, List.tail_cons, List.takeWhile_eq_self_iff]
  intro d hd
  exact decide_eq_true fun heq => hs (heq ▸ hd)

theorem dot_notMem_firstPart (token : Text) : '.' ∉ firstPart token := by
  intro h
  have hd := List.mem_takeWhile_imp h
  simp at hd

theorem Event.text_plain (event : Event) : Plain event.text := by
  cases event <;> constructor <;> decide

theorem Event.text_injective {e f : Event} (h : e.text = f.text) : e = f := by
  cases e <;> cases f <;> first | rfl | exact absurd h (by decide)

theorem MfaPurpose.text_injective {p q : MfaPurpose} (h : p.text = q.text) : p = q := by
  cases p <;> cases q <;> first | rfl | exact absurd h (by decide)

theorem bar_mem_trackingMessage (deliveryId : Text) (event : Event) (payload : Text) :
    '|' ∈ trackingMessage deliveryId event payload := by
  simp [trackingMessage]

theorem dot_notMem_trackingMessage {deliveryId payload : Text} (event : Event)
    (hid : '.' ∉ deliveryId) (hpayload : '.' ∉ payload) :
    '.' ∉ trackingMessage deliveryId event payload := by
  have htext := event.text_plain.1
  simp_all [trackingMessage]

/-- The id in the message that was signed has no bar, so the id it is compared with has
none either: both messages have two bars. -/
theorem event_of_trackingMessage {a b x y : Text} {e f : Event} (ha : '|' ∉ a) (hx : '|' ∉ x)
    (h : trackingMessage a e x = trackingMessage b f y) : e = f := by
  have hcount := congrArg (List.count '|') h
  have he := List.count_eq_zero_of_not_mem e.text_plain.2
  have hf := List.count_eq_zero_of_not_mem f.text_plain.2
  simp only [trackingMessage, List.count_append, List.count_cons_self, he, hf,
    List.count_eq_zero_of_not_mem ha, List.count_eq_zero_of_not_mem hx] at hcount
  have hb : '|' ∉ b := List.count_eq_zero.mp (by omega)
  obtain ⟨-, hrest⟩ := joined_inj ha hb h
  exact Event.text_injective (joined_inj e.text_plain.2 f.text_plain.2 hrest).1

end Shapes

section Accepted

variable {rt : Runtime} {jwt : Jwt rt} {env : Env}

theorem dot_mem_message (jwt : Jwt rt) (claims : JwtClaims) : '.' ∈ jwt.message claims := by
  simp [Jwt.message]

theorem bar_notMem_message (jwt : Jwt rt) (claims : JwtClaims) : '|' ∉ jwt.message claims := by
  have hheader := (jwt.header_plain claims).2
  have hpayload := (jwt.payload_plain claims).2
  simp_all [Jwt.message]

theorem verify_reads {token message signature : Text} {claims : JwtClaims}
    (h : verify rt jwt env token = some claims) (htoken : token = message ++ '.' :: signature)
    (hdot : '.' ∉ signature) :
    '.' ∈ message ∧ '|' ∉ message ∧ ∃ algorithm, signature = rt.mac algorithm message := by
  obtain ⟨algorithm, first, second, hfirst, hsecond, hjoined⟩ := jwt.verify_sound h
  rw [htoken] at hjoined
  obtain ⟨rfl, rfl⟩ := signed_inj hdot (rt.mac_plain algorithm _).1 hjoined
  refine ⟨by simp, ?_, algorithm, rfl⟩
  have hbars := And.intro hfirst.2 hsecond.2
  simp_all

theorem signs_of_accepted {p : Presentation} {message signature : Text}
    (haccepted : p.accepted rt jwt env = true) (hreads : p.Reads message signature) :
    ∃ algorithm, signature = rt.mac algorithm message := by
  cases p with
  | unsubscribe token =>
    obtain ⟨rfl, rfl⟩ := hreads
    simp only [Presentation.accepted, verifyUnsubscribeToken] at haccepted
    split at haccepted
    · cases haccepted
    split at haccepted
    · cases haccepted
    next h => exact ⟨.hs256, Decidable.not_not.mp h⟩
  | protectedFile token =>
    obtain ⟨rfl, rfl⟩ := hreads
    simp only [Presentation.accepted, verifyProtectedToken] at haccepted
    split at haccepted
    · cases haccepted
    next h =>
      rw [not_or, Decidable.not_not] at h
      exact ⟨.hs256, h.2⟩
  | opened deliveryId given =>
    obtain ⟨rfl, rfl⟩ := hreads
    exact ⟨.hs256, decide_eq_true_eq.mp haccepted⟩
  | clicked deliveryId url given =>
    obtain ⟨rfl, rfl⟩ := hreads
    exact ⟨.hs256, decide_eq_true_eq.mp haccepted⟩
  | bearer token | socket token | challenge purpose token =>
    obtain ⟨claims, hclaims, -⟩ := (Option.any_eq_true _ _).mp haccepted
    exact (verify_reads hclaims hreads.1 hreads.2).2.2

theorem message_of_accepted {p : Presentation} {message issued : Text}
    (haccepted : p.accepted rt jwt env = true) (hreads : p.Reads message (rt.mac .hs256 issued)) :
    message = issued := by
  obtain ⟨algorithm, hsigns⟩ := signs_of_accepted haccepted hreads
  exact (rt.mac_injective hsigns).2.symm

variable (rt jwt env) in
def Separated (issue : Issue) : Prop :=
  ∀ (p : Presentation) (message : Text),
    p.Reads message (rt.mac .hs256 (issue.message rt jwt)) → p.accepted rt jwt env = true →
      p.purpose = issue.purpose

variable (rt env) in
/-- Neither link verifier finds anything in a message without a dot. -/
def nothingIn (message : Text) : Bool :=
  (normalizeEmail rt (rt.decode message)).isEmpty &&
    !(rt.parse (rt.decode message)).any (liveFile rt env)

variable (rt env) in
/-- When the messages of an issuer are of no use elsewhere. An address must not be the
text of a live file link, the text of a file link must not be an address, what a
tracking link signs must be neither, and a challenge must be over or its user not
active. -/
def staysApart : Issue → Bool
  | .unsubscribe email => !(rt.parse (normalizeEmail rt email)).any (liveFile rt env)
  | .protectedFile link => (normalizeEmail rt (rt.stringify link)).isEmpty
  | .opened deliveryId => nothingIn rt env (trackingMessage deliveryId.text .opened [])
  | .clicked deliveryId url =>
    nothingIn rt env (trackingMessage deliveryId.text .clicked (rt.encode url))
  | .access _ _ _ _ => true
  | .challenge userId _ exp =>
    decide (exp ≤ env.now / 1000) || !(env.user (some userId)).any (·.isActive)

section Links

theorem accepted_unsubscribe {message : Text} (hdot : '.' ∉ message) :
    (Presentation.unsubscribe (message ++ '.' :: rt.mac .hs256 message)).accepted rt jwt env =
      (!message.isEmpty && !(normalizeEmail rt (rt.decode message)).isEmpty) := by
  have hfirst := firstPart_joined hdot (rt.mac .hs256 message)
  have hsecond := secondPart_joined hdot (rt.mac_plain .hs256 message).1
  simp only [Presentation.accepted, verifyUnsubscribeToken, hfirst, hsecond, rt.mac_ne_nil]
  cases message <;> simp

theorem accepted_protectedFile {message : Text} (hdot : '.' ∉ message) :
    (Presentation.protectedFile (message ++ '.' :: rt.mac .hs256 message)).accepted rt jwt env =
      (rt.parse (rt.decode message)).any (liveFile rt env) := by
  have hfirst := firstPart_joined hdot (rt.mac .hs256 message)
  have hsecond := secondPart_joined hdot (rt.mac_plain .hs256 message).1
  simp only [Presentation.accepted, verifyProtectedToken, hfirst, hsecond, rt.mac_ne_nil,
    ne_eq, not_true, or_self, if_false]
  cases rt.parse (rt.decode message) with
  | none => rfl
  | some payload => cases h : liveFile rt env payload <;> simp [Option.filter, h]

theorem address_of_accepted {token : Text}
    (h : (Presentation.unsubscribe token).accepted rt jwt env = true) :
    (normalizeEmail rt (rt.decode (firstPart token))).isEmpty = false := by
  simp only [Presentation.accepted, verifyUnsubscribeToken] at h
  split at h
  · cases h
  split at h
  · cases h
  · exact Bool.not_eq_true' _ ▸ h

theorem file_of_accepted {token : Text}
    (h : (Presentation.protectedFile token).accepted rt jwt env = true) :
    (rt.parse (rt.decode (firstPart token))).any (liveFile rt env) = true := by
  simp only [Presentation.accepted, verifyProtectedToken] at h
  split at h
  · cases h
  · obtain ⟨payload, hpayload⟩ := Option.isSome_iff_exists.mp h
    obtain ⟨hparse, hlive⟩ := Option.filter_eq_some_iff.mp hpayload
    rw [hparse]
    exact hlive

theorem reads_unsubscribe {message : Text} (hdot : '.' ∉ message) :
    (Presentation.unsubscribe (message ++ '.' :: rt.mac .hs256 message)).Reads message
      (rt.mac .hs256 message) :=
  ⟨(firstPart_joined hdot _).symm, (secondPart_joined hdot (rt.mac_plain .hs256 message).1).symm⟩

theorem reads_bearer (message : Text) :
    (Presentation.bearer (message ++ '.' :: rt.mac .hs256 message)).Reads message
      (rt.mac .hs256 message) :=
  ⟨rfl, (rt.mac_plain .hs256 message).1⟩

theorem reads_protectedFile {message : Text} (hdot : '.' ∉ message) :
    (Presentation.protectedFile (message ++ '.' :: rt.mac .hs256 message)).Reads message
      (rt.mac .hs256 message) :=
  ⟨(firstPart_joined hdot _).symm, (secondPart_joined hdot (rt.mac_plain .hs256 message).1).symm⟩

theorem of_separated {issue : Issue} (hdot : '.' ∉ issue.message rt jwt)
    (h : Separated rt jwt env issue) :
    (issue.purpose ≠ .unsubscribe → issue.message rt jwt ≠ [] →
      (normalizeEmail rt (rt.decode (issue.message rt jwt))).isEmpty = true) ∧
    (issue.purpose ≠ .protectedFile →
      (rt.parse (rt.decode (issue.message rt jwt))).any (liveFile rt env) = false) := by
  constructor
  · intro hpurpose hne
    by_contra haddress
    refine hpurpose (h _ _ (reads_unsubscribe hdot) ?_).symm
    rw [accepted_unsubscribe hdot]
    simp_all
  · intro hpurpose
    by_contra hfile
    refine hpurpose (h _ _ (reads_protectedFile hdot) ?_).symm
    rw [accepted_protectedFile hdot]
    exact Bool.not_eq_false _ ▸ hfile

end Links

section Challenges

theorem verify_signed_iff {claims found : JwtClaims} :
    verify rt jwt env (jwt.message claims ++ '.' :: rt.mac .hs256 (jwt.message claims)) =
      some found ↔ env.now / 1000 < claims.exp ∧ found = claims := by
  have hsigned := jwt.verify_signed claims (env.now / 1000)
  rw [verify, Jwt.message, hsigned]
  by_cases h : env.now / 1000 < claims.exp
  · rw [if_pos h]
    exact ⟨fun heq => ⟨h, (Option.some.inj heq).symm⟩, fun heq => congrArg some heq.2.symm⟩
  · rw [if_neg h]
    exact ⟨fun heq => (nomatch heq), fun heq => absurd heq.1 h⟩

theorem claims_of_any {token : Text} {claims : JwtClaims} {check : JwtClaims → Bool}
    (htoken : token = jwt.message claims ++ '.' :: rt.mac .hs256 (jwt.message claims))
    (h : (verify rt jwt env token).any check = true) :
    env.now / 1000 < claims.exp ∧ check claims = true := by
  obtain ⟨found, hfound, hcheck⟩ := (Option.any_eq_true _ _).mp h
  rw [htoken] at hfound
  obtain ⟨htime, rfl⟩ := verify_signed_iff.mp hfound
  exact ⟨htime, hcheck⟩

theorem any_of_claims {claims : JwtClaims} {check : JwtClaims → Bool}
    (htime : env.now / 1000 < claims.exp) (hcheck : check claims = true) :
    (verify rt jwt env (jwt.message claims ++ '.' :: rt.mac .hs256 (jwt.message claims))).any
      check = true :=
  (Option.any_eq_true _ _).mpr ⟨claims, verify_signed_iff.mpr ⟨htime, rfl⟩, hcheck⟩

theorem active_of_validate {claims : JwtClaims} (h : validate env claims = true) :
    (env.user claims.sub).any (·.isActive) = true := by
  obtain ⟨user, huser, hactive⟩ := (Option.any_eq_true _ _).mp (Bool.and_eq_true_iff.mp h).2
  exact (Option.any_eq_true _ _).mpr ⟨user, huser, (Bool.and_eq_true_iff.mp hactive).1⟩

theorem active_of_canActivate {claims : JwtClaims} (h : canActivate env claims = true) :
    (env.user claims.sub).any (·.isActive) = true := by
  obtain ⟨user, huser, hactive⟩ := (Option.any_eq_true _ _).mp (Bool.and_eq_true_iff.mp h).1
  simp only [Bool.and_eq_true] at hactive
  exact (Option.any_eq_true _ _).mpr ⟨user, huser, hactive.1.1⟩

/-- Only the verifiers of such tokens accept the signature of one, the access token
verifiers for an active user, and the others for the purpose in the claims. -/
theorem purpose_of_jwt {claims : JwtClaims} {p : Presentation}
    (hreads : p.Reads (jwt.message claims) (rt.mac .hs256 (jwt.message claims)))
    (haccepted : p.accepted rt jwt env = true) :
    env.now / 1000 < claims.exp ∧ (p.purpose = .access ∧
        (env.user claims.sub).any (·.isActive) = true ∨
      ∃ purpose, p.purpose = .challenge purpose ∧ claims.purpose = some purpose.text) := by
  have hdot := dot_mem_message jwt claims
  have hbar := bar_notMem_message jwt claims
  cases p with
  | unsubscribe token | protectedFile token =>
    rw [hreads.1] at hdot
    exact absurd hdot (dot_notMem_firstPart token)
  | opened deliveryId given | clicked deliveryId url given =>
    rw [hreads.1] at hbar
    exact absurd (bar_mem_trackingMessage _ _ _) hbar
  | bearer token =>
    obtain ⟨htime, hvalid⟩ := claims_of_any hreads.1 haccepted
    exact ⟨htime, .inl ⟨rfl, active_of_validate hvalid⟩⟩
  | socket token =>
    obtain ⟨htime, hvalid⟩ := claims_of_any hreads.1 haccepted
    exact ⟨htime, .inl ⟨rfl, active_of_canActivate hvalid⟩⟩
  | challenge purpose token =>
    obtain ⟨htime, hvalid⟩ := claims_of_any hreads.1 haccepted
    have hpurpose := (Bool.and_eq_true_iff.mp hvalid).1
    exact ⟨htime, .inr ⟨purpose, rfl, decide_eq_true_eq.mp hpurpose⟩⟩

end Challenges

section Messages

/-- A message without a dot is of use to a verifier of links that finds something in
it, or to one of tracking links. -/
theorem purpose_of_link {p : Presentation} {message : Text} (hdot : '.' ∉ message)
    (hreads : p.Reads message (rt.mac .hs256 message))
    (haccepted : p.accepted rt jwt env = true) :
    p.purpose = .unsubscribe ∧ (normalizeEmail rt (rt.decode message)).isEmpty = false ∨
      p.purpose = .protectedFile ∧ (rt.parse (rt.decode message)).any (liveFile rt env) = true ∨
      ∃ event deliveryId payload, p.purpose = .tracking event ∧
        message = trackingMessage deliveryId event payload := by
  cases p with
  | unsubscribe token =>
    refine .inl ⟨rfl, ?_⟩
    rw [hreads.1]
    exact address_of_accepted haccepted
  | protectedFile token =>
    refine .inr (.inl ⟨rfl, ?_⟩)
    rw [hreads.1]
    exact file_of_accepted haccepted
  | opened deliveryId given => exact .inr (.inr ⟨.opened, deliveryId, [], rfl, hreads.1⟩)
  | clicked deliveryId url given => exact .inr (.inr ⟨.clicked, deliveryId, url, rfl, hreads.1⟩)
  | bearer token | socket token | challenge purpose token =>
    obtain ⟨claims, hclaims, -⟩ := (Option.any_eq_true _ _).mp haccepted
    exact absurd (verify_reads hclaims hreads.1 hreads.2).1 hdot

end Messages

theorem purpose_of_tracking {p : Presentation} (deliveryId : DeliveryId) (event : Event)
    {payload : Text} (hpayload : Plain payload)
    (hnothing : nothingIn rt env (trackingMessage deliveryId.text event payload) = true)
    (hreads : p.Reads (trackingMessage deliveryId.text event payload)
      (rt.mac .hs256 (trackingMessage deliveryId.text event payload)))
    (haccepted : p.accepted rt jwt env = true) : p.purpose = .tracking event := by
  have hdot := dot_notMem_trackingMessage event deliveryId.plain.1 hpayload.1
  obtain ⟨haddress, hfile⟩ := Bool.and_eq_true_iff.mp hnothing
  rcases purpose_of_link hdot hreads haccepted with ⟨-, h⟩ | ⟨-, h⟩ | ⟨other, b, y, hpurpose, heq⟩
  · rw [haddress] at h
    cases h
  · rw [h] at hfile
    cases hfile
  · rw [hpurpose, event_of_trackingMessage deliveryId.plain.2 hpayload.2 heq]

theorem separated_of_staysApart {issue : Issue} (h : staysApart rt env issue = true) :
    Separated rt jwt env issue := by
  intro p message hreads haccepted
  obtain rfl := message_of_accepted haccepted hreads
  cases issue with
  | unsubscribe email =>
    have hplain := rt.encode_plain (normalizeEmail rt email)
    rcases purpose_of_link hplain.1 hreads haccepted with ⟨hp, -⟩ | ⟨-, hfile⟩ | ⟨_, b, y, -, heq⟩
    · exact hp
    · rw [rt.decode_encode] at hfile
      simp [staysApart, hfile] at h
    · exact absurd (heq ▸ bar_mem_trackingMessage b _ y) hplain.2
  | protectedFile link =>
    have hplain := rt.encode_plain (rt.stringify link)
    rcases purpose_of_link hplain.1 hreads haccepted with ⟨-, hne⟩ | ⟨hp, -⟩ | ⟨_, b, y, -, heq⟩
    · rw [rt.decode_encode] at hne
      exact absurd (h.symm.trans hne) (by decide)
    · exact hp
    · exact absurd (heq ▸ bar_mem_trackingMessage b _ y) hplain.2
  | opened deliveryId =>
    exact purpose_of_tracking deliveryId .opened ⟨by simp, by simp⟩ h hreads haccepted
  | clicked deliveryId url =>
    exact purpose_of_tracking deliveryId .clicked (rt.encode_plain url) h hreads haccepted
  | access userId sessionId authVersion exp =>
    obtain ⟨-, ⟨hp, -⟩ | ⟨purpose, -, hnone⟩⟩ := purpose_of_jwt hreads haccepted
    · exact hp
    · cases hnone
  | challenge userId purpose exp =>
    obtain ⟨htime, ⟨-, hactive⟩ | ⟨other, hp, hsame⟩⟩ := purpose_of_jwt hreads haccepted
    · have hlater : ¬ exp ≤ env.now / 1000 := by
        have hexp : env.now / 1000 < exp := htime
        omega
      have huser : (env.user (some userId)).any (·.isActive) = true := hactive
      simp [staysApart, hlater, huser] at h
    · rw [hp, MfaPurpose.text_injective (Option.some.inj hsame)]
      rfl

theorem trackingMessage_ne_nil (deliveryId : Text) (event : Event) (payload : Text) :
    trackingMessage deliveryId event payload ≠ [] := by
  simp [trackingMessage]

theorem nothingIn_of_separated {issue : Issue} (hdot : '.' ∉ issue.message rt jwt)
    (hne : issue.message rt jwt ≠ []) {event : Event} (hpurpose : issue.purpose = .tracking event)
    (h : Separated rt jwt env issue) : nothingIn rt env (issue.message rt jwt) = true := by
  obtain ⟨haddress, hfile⟩ := of_separated hdot h
  rw [nothingIn, haddress (by simp [hpurpose]) hne, hfile (by simp [hpurpose])]
  rfl

theorem staysApart_of_separated {issue : Issue} (h : Separated rt jwt env issue) :
    staysApart rt env issue = true := by
  cases issue with
  | unsubscribe email =>
    have hdot : '.' ∉ (Issue.unsubscribe email).message rt jwt := (rt.encode_plain _).1
    have hfile := (of_separated hdot h).2 (by simp [Issue.purpose])
    rw [Issue.message, rt.decode_encode] at hfile
    simp [staysApart, hfile]
  | protectedFile link =>
    have hdot : '.' ∉ (Issue.protectedFile link).message rt jwt := (rt.encode_plain _).1
    have haddress := (of_separated hdot h).1 (by simp [Issue.purpose])
      (rt.encode_ne_nil (rt.stringify_ne_nil link))
    rw [Issue.message, rt.decode_encode] at haddress
    exact haddress
  | opened deliveryId =>
    have hdot : '.' ∉ (Issue.opened deliveryId).message rt jwt :=
      dot_notMem_trackingMessage .opened deliveryId.plain.1 (by simp)
    have hne : (Issue.opened deliveryId).message rt jwt ≠ [] := trackingMessage_ne_nil _ _ _
    have hnothing := nothingIn_of_separated hdot hne rfl h
    rw [Issue.message] at hnothing
    rw [staysApart, hnothing]
  | clicked deliveryId url =>
    have hdot : '.' ∉ (Issue.clicked deliveryId url).message rt jwt :=
      dot_notMem_trackingMessage .clicked deliveryId.plain.1 (rt.encode_plain url).1
    have hne : (Issue.clicked deliveryId url).message rt jwt ≠ [] := trackingMessage_ne_nil _ _ _
    have hnothing := nothingIn_of_separated hdot hne rfl h
    rw [Issue.message] at hnothing
    rw [staysApart, hnothing]
  | access userId sessionId authVersion exp => rfl
  | challenge userId purpose exp =>
    by_contra hopen
    simp only [staysApart, Bool.or_eq_true, not_or, decide_eq_true_eq, Bool.not_eq_true',
      Bool.not_eq_false] at hopen
    -- the strategy asks for no session and no version where the claims have none
    have hvalid : validate env (challengeClaims userId purpose exp) = true := by
      obtain ⟨user, huser, hactive⟩ := (Option.any_eq_true _ _).mp hopen.2
      refine Bool.and_eq_true_iff.mpr ⟨rfl, (Option.any_eq_true _ _).mpr ⟨user, huser, ?_⟩⟩
      simpa [challengeClaims] using hactive
    have haccepted : Presentation.accepted rt jwt env (.bearer
        (jwt.message (challengeClaims userId purpose exp) ++
          '.' :: rt.mac .hs256 (jwt.message (challengeClaims userId purpose exp)))) = true :=
      any_of_claims (Int.not_le.mp hopen.1) hvalid
    have hpurpose := h _ _ (reads_bearer _) haccepted
    cases hpurpose

/-- The signature of an issued message is accepted for its own purpose only, if and
only if the message is of no use elsewhere. -/
theorem separated_iff_staysApart (issue : Issue) :
    Separated rt jwt env issue ↔ staysApart rt env issue = true :=
  ⟨staysApart_of_separated, separated_of_staysApart⟩

end Accepted

section Samples

instance charEncodable : Encodable Char :=
  Encodable.ofLeftInjection Char.toNat (fun n => some (Char.ofNat n)) fun c => by simp

deriving instance Encodable for Algorithm, JwtClaims

def lettersOf {α : Type} [Encodable α] (a : α) : Text :=
  List.replicate (Encodable.encode a + 1) 'a'

def ofLetters {α : Type} [Encodable α] (text : Text) : Option α :=
  Encodable.decode (text.length - 1)

@[simp] theorem ofLetters_lettersOf {α : Type} [Encodable α] (a : α) :
    ofLetters (lettersOf a) = some a := by
  simp [ofLetters, lettersOf]

theorem lettersOf_injective {α : Type} [Encodable α] {a b : α} (h : lettersOf a = lettersOf b) :
    a = b := by
  have hdecoded := congrArg (fun text => (ofLetters text : Option α)) h
  simpa using hdecoded

theorem lettersOf_plain {α : Type} [Encodable α] (a : α) : Plain (lettersOf a) := by
  constructor <;> simp [lettersOf]

theorem lettersOf_ne_nil {α : Type} [Encodable α] (a : α) : lettersOf a ≠ [] := by
  simp [lettersOf]

def sampleRuntime : Runtime where
  mac algorithm message := lettersOf (algorithm, message)
  mac_injective h := Prod.mk.inj (lettersOf_injective h)
  mac_plain _ _ := lettersOf_plain _
  mac_ne_nil _ _ := lettersOf_ne_nil _
  encode text := lettersOf text
  encode_plain _ := lettersOf_plain _
  encode_ne_nil _ := lettersOf_ne_nil _
  decode text := (ofLetters text).getD []
  decode_encode text := by simp
  parse _ := none
  stringify link := link.key ++ ['a']
  stringify_ne_nil link := by simp
  notAfter _ _ := true
  trimLower text := text.map Char.toLower
  isSpace := Char.isWhitespace

def sampleJwt : Jwt sampleRuntime where
  header _ := ['h']
  payload claims := lettersOf claims
  header_plain _ := by constructor <;> decide
  payload_plain _ := lettersOf_plain _
  verify token now :=
    if '|' ∉ secondPart token ∧ token = (['h'] ++ '.' :: secondPart token) ++
        '.' :: sampleRuntime.mac .hs256 (['h'] ++ '.' :: secondPart token) then
      (ofLetters (secondPart token)).filter fun claims => now < claims.exp
    else none
  verify_sound := by
    intro token now claims h
    split at h
    next hjoined =>
      have hdot : '.' ∉ secondPart token := dot_notMem_firstPart _
      exact ⟨.hs256, ['h'], secondPart token, ⟨by decide, by decide⟩, ⟨hdot, hjoined.1⟩, hjoined.2⟩
    next => cases h
  verify_signed := by
    intro claims now
    have hsecond : secondPart ((['h'] ++ '.' :: lettersOf claims) ++
        '.' :: sampleRuntime.mac .hs256 (['h'] ++ '.' :: lettersOf claims)) = lettersOf claims := by
      have hhead : '.' ∉ ['h'] := by decide
      have hrest : ∀ b : Text, secondPart (['h'] ++ '.' :: b) = b.takeWhile (· ≠ '.') := by
        intro b
        rw [secondPart, dropWhile_joined hhead, List.tail_cons]
      rw [List.append_assoc]
      refine (hrest _).trans ?_
      exact takeWhile_joined (lettersOf_plain claims).1 _
    rw [hsecond, if_pos ⟨(lettersOf_plain claims).2, rfl⟩, ofLetters_lettersOf]
    by_cases h : now < claims.exp <;> simp [Option.filter, h]

def sampleEnv : Env where
  now := 0
  users := [⟨['u'], true, false, 3⟩]
  sessions := []

/-- The challenge of a user who has given the password is accepted as an access token. -/
theorem challenge_accepted : ¬ ∀ (rt : Runtime) (jwt : Jwt rt) (env : Env) (issue : Issue),
    Separated rt jwt env issue := by
  intro h
  have hapart := staysApart_of_separated (h sampleRuntime sampleJwt sampleEnv
    (.challenge ['u'] .login 300))
  exact absurd hapart (by decide)

end Samples

end FieldserviceIT.Tokens
