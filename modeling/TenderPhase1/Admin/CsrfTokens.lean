import TenderPhase1.Foundation.JoinedTexts
import TenderPhase1.Foundation.PyNumber

/-!
# The tokens of the admin forms

A token has the time of its issue, a nonce and the signature of the user, the time and
the nonce. The signed text joins its parts by colons and the token by full stops, and
the time of a token is read by `int`, which takes many texts for one number. Over an
ideal MAC a token is accepted only with a signature that was issued for just that user,
time and nonce.
-/

namespace TenderPhase1.Admin

open PyText JoinedTexts

/-! ## Signing and checking -/

inductive TokenError where
  | valueError
  | typeError
  deriving DecidableEq, Repr

def isHexDigit (c : Char) : Bool := c.isDigit || ('a' ≤ c && c ≤ 'f')

/-- `hmac.new(secret, payload.encode("utf-8"), hashlib.sha256).hexdigest()`, under the secret of the process -/
structure Hmac where
  hexdigest : String → String
  length_hexdigest : ∀ payload, (hexdigest payload).length = 64
  isHexDigit_hexdigest : ∀ payload, ∀ c ∈ (hexdigest payload).toList, isHexDigit c

def adminCsrfTtlSeconds : ℤ := 12 * 60 * 60

/-- `f"{username}:{issued_at}:{nonce}"` -/
def csrfPayload (username issuedAt nonce : String) : String := username ++ ":" ++ issuedAt ++ ":" ++ nonce

/-- `text.split(sep)` -/
def splitText (text : String) (sep : Char) : List String := (text.toList.splitOn sep).map String.ofList

section Tokens

variable (hmac : Hmac)

def signAdminCsrfToken (username : String) (issuedAt : ℤ) (nonce : String) : Except TokenError String :=
  match writeInt issuedAt with
  | some text => .ok (hmac.hexdigest (csrfPayload username text nonce))
  | none => .error .valueError

/-- `build_admin_csrf_token`; `clock` is `int(time.time())` and `random` is `secrets.token_urlsafe(24)`. -/
def buildAdminCsrfToken (username : String) (issuedAt : Option ℤ) (nonce : Option String) (clock : ℤ)
    (random : String) : Except TokenError String := do
  let normalizedIssuedAt := (issuedAt.filter (· ≠ 0)).getD clock
  let normalizedNonce := (nonce.filter (· ≠ "")).getD random
  let signature ← signAdminCsrfToken hmac username normalizedIssuedAt normalizedNonce
  match writeInt normalizedIssuedAt with
  | some text => return text ++ "." ++ normalizedNonce ++ "." ++ signature
  | none => throw .valueError

def IsAscii (text : String) : Prop := ∀ c ∈ text.toList, c.toNat < 128

instance (text : String) : Decidable (IsAscii text) := inferInstanceAs (Decidable (∀ c ∈ text.toList, c.toNat < 128))

/-- `secrets.compare_digest` of two texts, which takes ASCII only; it raises `typeError`. -/
def compareDigest {Error : Type} (typeError : Error) (first second : String) : Except Error Bool :=
  if IsAscii first ∧ IsAscii second then .ok (first = second) else .error typeError

/-- `_is_valid_admin_csrf_token`, where `int(time.time())` is `now` -/
def isValidAdminCsrfToken (token username : String) (now : ℤ) : Except TokenError Bool :=
  match splitText token '.' with
  | [issuedAtRaw, nonce, signature] =>
    if nonce = "" ∨ signature = "" then .ok false
    else
      match readInt issuedAtRaw with
      | none => .ok false
      | some issuedAt =>
        if now + 60 < issuedAt then .ok false
        else if adminCsrfTtlSeconds < now - issuedAt then .ok false
        else do
          let expectedSignature ← signAdminCsrfToken hmac username issuedAt nonce
          compareDigest TokenError.typeError signature expectedSignature
  | _ => .ok false

end Tokens

/-! ## What is issued -/

/-- A user name as HTTP Basic brings it: the first colon of the credentials ends it. -/
structure Username where
  name : String
  no_colon : ':' ∉ name.toList

/-- What `secrets.token_urlsafe` returns. -/
structure UrlSafe where
  text : String
  length_text : text.length = 32
  urlSafe : ∀ c ∈ text.toList, c.isAlphanum ∨ c = '-' ∨ c = '_'

/-- A call of `build_admin_csrf_token` with its default nonce. -/
structure Issue where
  username : Username
  issuedAt : Option ℤ
  clock : ℤ
  random : UrlSafe

namespace Issue

def time (issue : Issue) : ℤ := (issue.issuedAt.filter (· ≠ 0)).getD issue.clock

def build (hmac : Hmac) (issue : Issue) : Except TokenError String :=
  buildAdminCsrfToken hmac issue.username.name issue.issuedAt none issue.clock issue.random.text

/-- The text that is signed, where the time can be written. -/
def payload (issue : Issue) : Option String :=
  (writeInt issue.time).map fun text ↦ csrfPayload issue.username.name text issue.random.text

end Issue

def signaturePart (token : String) : Option String := (splitText token '.')[2]?

/-- The MAC is ideal for a history and a token that is presented: the token has the tag of no text but of one that
was signed, and two signed texts have different tags. -/
structure IdealMac (hmac : Hmac) (history : List Issue) (token : String) : Prop where
  unforged : ∀ signature ∈ signaturePart token, ∀ payload, hmac.hexdigest payload = signature →
    payload ∈ history.filterMap Issue.payload
  distinct : ∀ payload ∈ history.filterMap Issue.payload, ∀ other ∈ history.filterMap Issue.payload,
    hmac.hexdigest payload = hmac.hexdigest other → payload = other

/-- The token has a signature that was issued for the user, at the time and with the nonce that it reads as, and
it comes in time. -/
def IssuedFor (hmac : Hmac) (history : List Issue) (token username : String) (now : ℤ) : Prop :=
  ∃ issue ∈ history, issue.username.name = username ∧ ∃ issuedAtRaw signature,
    splitText token '.' = [issuedAtRaw, issue.random.text, signature] ∧ readInt issuedAtRaw = some issue.time ∧
      signAdminCsrfToken hmac issue.username.name issue.time issue.random.text = .ok signature ∧
        now - adminCsrfTtlSeconds ≤ issue.time ∧ issue.time ≤ now + 60

section Parts

variable {hmac : Hmac} {history : List Issue} {issue : Issue} {token username : String} {now : ℤ}

theorem splitText_intercalate {parts : List String} {sep : Char} (hsep : ∀ part ∈ parts, sep ∉ part.toList)
    (hne : parts ≠ []) : splitText (String.ofList ([sep].intercalate (parts.map String.toList))) sep = parts := by
  unfold splitText
  rw [String.toList_ofList, List.splitOn_intercalate]
  · rw [List.map_map]
    calc parts.map (String.ofList ∘ String.toList) = parts.map id := by
          apply List.map_congr_left
          exact fun part _ ↦ String.ofList_toList
      _ = parts := List.map_id _
  · exact List.forall_mem_map.mpr hsep
  · simpa using hne

/-- A time has no separator in it, nor a nonce or a signature. -/
theorem notMem_of_writeInt {n : ℤ} {text : String} {sep : Char} (h : writeInt n = some text) (hsign : sep ≠ '-')
    (hdigit : sep.isDigit = false) : sep ∉ text.toList := by
  obtain ⟨rfl, -⟩ := readInt_writeInt h
  intro hmem
  rcases forall_mem_textOfInt hmem with rfl | hsep
  · exact hsign rfl
  · rw [hsep] at hdigit
    cases hdigit

theorem UrlSafe.notMem (nonce : UrlSafe) {sep : Char} (halphanum : sep.isAlphanum = false) (hsign : sep ≠ '-')
    (hline : sep ≠ '_') : sep ∉ nonce.text.toList := by
  intro hmem
  rcases nonce.urlSafe sep hmem with hsep | rfl | rfl
  · rw [hsep] at halphanum
    cases halphanum
  · exact hsign rfl
  · exact hline rfl

theorem Hmac.notMem (hmac : Hmac) {sep : Char} (hsep : isHexDigit sep = false) (payload : String) :
    sep ∉ (hmac.hexdigest payload).toList := by
  intro hmem
  rw [hmac.isHexDigit_hexdigest payload sep hmem] at hsep
  cases hsep

/-- The three parts of a signed text can be read back where one of two texts has no colon in its parts. -/
theorem csrfPayload_inj {username issuedAt nonce otherName otherIssuedAt otherNonce : String}
    (hname : ':' ∉ username.toList) (hissuedAt : ':' ∉ issuedAt.toList) (hnonce : ':' ∉ nonce.toList)
    (h : csrfPayload username issuedAt nonce = csrfPayload otherName otherIssuedAt otherNonce) :
    username = otherName ∧ issuedAt = otherIssuedAt ∧ nonce = otherNonce := by
  have hchars (first second third : String) : (csrfPayload first second third).toList =
      [':'].intercalate [first.toList, second.toList, third.toList] := by
    simp [csrfPayload, List.intercalate, String.toList_append]
  have hjoined := congrArg String.toList h
  rw [hchars, hchars] at hjoined
  have hlength : [username.toList, issuedAt.toList, nonce.toList].length =
      [otherName.toList, otherIssuedAt.toList, otherNonce.toList].length := rfl
  have hparts := eq_of_intercalate_eq hlength hjoined (by simp [hname, hissuedAt, hnonce])
  simpa [String.toList_inj] using hparts

/-- The tag of a text is signed where the text is that of an issue. -/
theorem Issue.payload_eq_some {payload : String} (h : issue.payload = some payload) :
    ∃ text, writeInt issue.time = some text ∧ payload = csrfPayload issue.username.name text issue.random.text := by
  obtain ⟨text, htext, rfl⟩ := Option.map_eq_some_iff.mp h
  exact ⟨text, htext, rfl⟩

theorem signAdminCsrfToken_eq_ok {issuedAt : ℤ} {nonce signature : String}
    (h : signAdminCsrfToken hmac username issuedAt nonce = .ok signature) :
    ∃ text, writeInt issuedAt = some text ∧ signature = hmac.hexdigest (csrfPayload username text nonce) := by
  unfold signAdminCsrfToken at h
  cases htext : writeInt issuedAt with
  | none =>
    rw [htext] at h
    cases h
  | some text =>
    rw [htext] at h
    exact ⟨text, rfl, (Except.ok.inj h).symm⟩

/-- What an accepted token consists of. -/
theorem isValidAdminCsrfToken_eq_true (h : isValidAdminCsrfToken hmac token username now = .ok true) :
    ∃ issuedAtRaw nonce signature issuedAt, splitText token '.' = [issuedAtRaw, nonce, signature] ∧
      readInt issuedAtRaw = some issuedAt ∧ now - adminCsrfTtlSeconds ≤ issuedAt ∧ issuedAt ≤ now + 60 ∧
        signAdminCsrfToken hmac username issuedAt nonce = .ok signature := by
  unfold isValidAdminCsrfToken at h
  split at h
  · rename_i issuedAtRaw nonce signature hparts
    split at h
    · cases h
    · cases hissuedAt : readInt issuedAtRaw with
      | none =>
        rw [hissuedAt] at h
        cases h
      | some issuedAt =>
        rw [hissuedAt] at h
        dsimp only at h
        split at h
        · cases h
        · split at h
          · cases h
          · cases hexpected : signAdminCsrfToken hmac username issuedAt nonce with
            | error error =>
              rw [hexpected] at h
              cases h
            | ok expected =>
              rw [hexpected] at h
              change compareDigest TokenError.typeError signature expected = .ok true at h
              have hsame : signature = expected := by
                unfold compareDigest at h
                split at h
                · simpa using h
                · cases h
              refine ⟨issuedAtRaw, nonce, signature, issuedAt, hparts, hissuedAt, by omega, by omega, ?_⟩
              rw [hexpected, hsame]
  · cases h

/-- The token that a call builds has three parts. -/
theorem Issue.build_eq_ok (h : issue.build hmac = .ok token) :
    ∃ text signature, writeInt issue.time = some text ∧
      signAdminCsrfToken hmac issue.username.name issue.time issue.random.text = .ok signature ∧
        signature = hmac.hexdigest (csrfPayload issue.username.name text issue.random.text) ∧
          splitText token '.' = [text, issue.random.text, signature] := by
  change (do
    let signature ← signAdminCsrfToken hmac issue.username.name issue.time issue.random.text
    match writeInt issue.time with
    | some text => return text ++ "." ++ issue.random.text ++ "." ++ signature
    | none => throw TokenError.valueError) = .ok token at h
  cases hsignature : signAdminCsrfToken hmac issue.username.name issue.time issue.random.text with
  | error error =>
    rw [hsignature] at h
    cases h
  | ok signature =>
    obtain ⟨text, htext, hdigest⟩ := signAdminCsrfToken_eq_ok hsignature
    rw [hsignature] at h
    change (match writeInt issue.time with
      | some text => Except.ok (text ++ "." ++ issue.random.text ++ "." ++ signature)
      | none => Except.error TokenError.valueError) = .ok token at h
    rw [htext] at h
    refine ⟨text, signature, htext, rfl, hdigest, ?_⟩
    have hjoined : token = String.ofList (['.'].intercalate ([text, issue.random.text, signature].map String.toList)) := by
      rw [← Except.ok.inj h]
      apply String.toList_injective
      simp [List.intercalate, String.toList_append]
    rw [hjoined]
    apply splitText_intercalate
    · simp only [List.forall_mem_cons]
      refine ⟨notMem_of_writeInt htext (by decide) (by decide), ?_, ?_, fun _ hpart ↦ absurd hpart List.not_mem_nil⟩
      · exact issue.random.notMem (by decide) (by decide) (by decide)
      · rw [hdigest]
        exact hmac.notMem (by decide) _
    · exact List.cons_ne_nil _ _

theorem signaturePart_eq {first second third : String} (h : splitText token '.' = [first, second, third]) :
    signaturePart token = some third := by
  unfold signaturePart
  rw [h]
  rfl

theorem toNat_lt_of_isHexDigit {c : Char} (h : isHexDigit c) : c.toNat < 128 := by
  simp only [isHexDigit, Char.isDigit, Bool.or_eq_true, Bool.and_eq_true, decide_eq_true_eq,
    UInt32.le_iff_toNat_le] at h
  rcases h with ⟨-, hdigit⟩ | ⟨-, hletter⟩
  · exact Nat.lt_of_le_of_lt hdigit (by decide)
  · exact Nat.lt_of_le_of_lt hletter (by decide)

/-- A signature is equal to itself for `compare_digest`, too. -/
theorem compareDigest_hexdigest (payload : String) :
    compareDigest TokenError.typeError (hmac.hexdigest payload) (hmac.hexdigest payload) = .ok true := by
  have hascii : IsAscii (hmac.hexdigest payload) :=
    fun c hc ↦ toNat_lt_of_isHexDigit (hmac.isHexDigit_hexdigest payload c hc)
  unfold compareDigest
  rw [if_pos ⟨hascii, hascii⟩, decide_eq_true rfl]

/-- A token that was built is accepted for its user in time. -/
theorem Issue.isValid_build (h : issue.build hmac = .ok token) (hearly : now - adminCsrfTtlSeconds ≤ issue.time)
    (hlate : issue.time ≤ now + 60) : isValidAdminCsrfToken hmac token issue.username.name now = .ok true := by
  obtain ⟨text, signature, htext, hsignature, hdigest, hparts⟩ := issue.build_eq_ok h
  have hnonce : issue.random.text ≠ "" := by
    intro hempty
    have hlength := issue.random.length_text
    rw [hempty] at hlength
    cases hlength
  have hne : signature ≠ "" := by
    intro hempty
    have hlength := hmac.length_hexdigest (csrfPayload issue.username.name text issue.random.text)
    rw [← hdigest, hempty] at hlength
    cases hlength
  unfold isValidAdminCsrfToken
  rw [hparts]
  dsimp only
  rw [if_neg (by simp [hnonce, hne]), (readInt_writeInt htext).2]
  dsimp only
  rw [if_neg (by omega), if_neg (by omega), hsignature]
  change compareDigest TokenError.typeError signature signature = _
  rw [hdigest]
  exact compareDigest_hexdigest _

/-- What is accepted was issued. -/
theorem IdealMac.issuedFor (hmacIdeal : IdealMac hmac history token)
    (h : isValidAdminCsrfToken hmac token username now = .ok true) : IssuedFor hmac history token username now := by
  obtain ⟨issuedAtRaw, nonce, signature, issuedAt, hparts, hread, hearly, hlate, hsignature⟩ :=
    isValidAdminCsrfToken_eq_true h
  obtain ⟨text, htext, hdigest⟩ := signAdminCsrfToken_eq_ok hsignature
  have hsigned := hmacIdeal.unforged signature (signaturePart_eq hparts) _ hdigest.symm
  obtain ⟨issue, hissue, hpayload⟩ := List.mem_filterMap.mp hsigned
  obtain ⟨issuedText, hissuedText, hsame⟩ := issue.payload_eq_some hpayload
  obtain ⟨hname, htexts, hnonce⟩ := csrfPayload_inj issue.username.no_colon
    (notMem_of_writeInt hissuedText (by decide) (by decide))
    (issue.random.notMem (by decide) (by decide) (by decide)) hsame.symm
  have htime : issue.time = issuedAt := by
    apply textOfInt_injective
    rw [← (readInt_writeInt hissuedText).1, ← (readInt_writeInt htext).1, htexts]
  subst hname hnonce htime
  exact ⟨issue, hissue, rfl, issuedAtRaw, signature, hparts, hread, hsignature, hearly, hlate⟩

/-- Over an ideal MAC a token is accepted for a user only where its signature was issued for that user, the time
and the nonce that the token reads as, in time; every token is accepted for its user in time; and a token with the
signature of an issued one is accepted for no other user. -/
theorem csrfToken_sound (hmacIdeal : IdealMac hmac history token) :
    (isValidAdminCsrfToken hmac token username now = .ok true → IssuedFor hmac history token username now) ∧
    (∀ issue ∈ history, ∀ issued, issue.build hmac = .ok issued → now - adminCsrfTtlSeconds ≤ issue.time →
      issue.time ≤ now + 60 → isValidAdminCsrfToken hmac issued issue.username.name now = .ok true) ∧
    ∀ issue ∈ history, ∀ issued, issue.build hmac = .ok issued → signaturePart token = signaturePart issued →
      issue.username.name ≠ username → isValidAdminCsrfToken hmac token username now ≠ .ok true := by
  refine ⟨hmacIdeal.issuedFor, fun issue _ issued hissued hearly hlate ↦ issue.isValid_build hissued hearly hlate, ?_⟩
  intro issue hissue issued hissued hsignature hother haccepted
  obtain ⟨text, signature, htext, -, hdigest, hparts⟩ := issue.build_eq_ok hissued
  obtain ⟨accepted, hacceptedIssue, hname, issuedAtRaw, presented, hpresentedParts, -, hpresented, -⟩ :=
    hmacIdeal.issuedFor haccepted
  obtain ⟨acceptedText, hacceptedText, hpresentedDigest⟩ := signAdminCsrfToken_eq_ok hpresented
  rw [signaturePart_eq hpresentedParts, signaturePart_eq hparts] at hsignature
  have hpayload : issue.payload = some (csrfPayload issue.username.name text issue.random.text) := by
    unfold Issue.payload
    rw [htext]
    rfl
  have hacceptedPayload : accepted.payload =
      some (csrfPayload accepted.username.name acceptedText accepted.random.text) := by
    unfold Issue.payload
    rw [hacceptedText]
    rfl
  have hsame := hmacIdeal.distinct _ (List.mem_filterMap.mpr ⟨issue, hissue, hpayload⟩) _
    (List.mem_filterMap.mpr ⟨accepted, hacceptedIssue, hacceptedPayload⟩) (by
      rw [← hdigest, ← hpresentedDigest]
      exact (Option.some.inj hsignature).symm)
  obtain ⟨hnames, -, -⟩ := csrfPayload_inj issue.username.no_colon (notMem_of_writeInt htext (by decide) (by decide))
    (issue.random.notMem (by decide) (by decide) (by decide)) hsame
  exact hother (hnames.trans hname)

/-- A token of one user, signed under `secret-one`, and what no other text has as its tag -/
def aliceNonce : UrlSafe := ⟨"q3Zt0Vx_-uY8bWcR1kLmNpQsTvXyZa23", by decide, by decide⟩

def aliceIssue : Issue := ⟨⟨"alice", by decide⟩, none, 1700000000, aliceNonce⟩

def aliceSignature : String := "3d6e1a90207c7eb5c877ddb1378be6a22171ffaff005e95efada4ef688215807"

def aliceToken : String := "1700000000.q3Zt0Vx_-uY8bWcR1kLmNpQsTvXyZa23." ++ aliceSignature

def secretOne : Hmac where
  hexdigest payload :=
    if payload = "alice:1700000000:q3Zt0Vx_-uY8bWcR1kLmNpQsTvXyZa23" then aliceSignature
    else String.ofList (List.replicate 64 '0')
  length_hexdigest payload := by
    split
    · decide +kernel
    · decide +kernel
  isHexDigit_hexdigest payload := by
    split
    · decide +kernel
    · decide +kernel

/-- A token that alice got is accepted for her, and not for bob. -/
theorem csrfToken_sound_alice : aliceIssue.build secretOne = .ok aliceToken ∧
    IssuedFor secretOne [aliceIssue] aliceToken "alice" 1700000100 ∧
    isValidAdminCsrfToken secretOne aliceToken "alice" 1700000100 = .ok true ∧
    isValidAdminCsrfToken secretOne aliceToken "bob" 1700000100 ≠ .ok true := by
  have hbuilt : aliceIssue.build secretOne = .ok aliceToken := by decide +kernel
  have hpayloads : [aliceIssue].filterMap Issue.payload = ["alice:1700000000:q3Zt0Vx_-uY8bWcR1kLmNpQsTvXyZa23"] := by
    decide +kernel
  have hideal : IdealMac secretOne [aliceIssue] aliceToken := by
    constructor
    · intro signature hsignature payload hpayload
      have hpart : signaturePart aliceToken = some aliceSignature := by decide +kernel
      rw [hpart] at hsignature
      obtain rfl : aliceSignature = signature := Option.some.inj hsignature
      rw [hpayloads, List.mem_singleton]
      by_contra hother
      have hzeros : secretOne.hexdigest payload = String.ofList (List.replicate 64 '0') := if_neg hother
      rw [hzeros] at hpayload
      exact absurd hpayload (by decide +kernel)
    · intro payload hpayload other hotherPayload _
      rw [hpayloads, List.mem_singleton] at hpayload hotherPayload
      exact hpayload.trans hotherPayload.symm
  have haccepted (username : String) := @csrfToken_sound secretOne [aliceIssue] aliceToken username 1700000100 hideal
  have hvalid : isValidAdminCsrfToken secretOne aliceToken "alice" 1700000100 = .ok true :=
    (haccepted "alice").2.1 aliceIssue List.mem_cons_self aliceToken hbuilt (by decide +kernel) (by decide +kernel)
  refine ⟨hbuilt, (haccepted "alice").1 hvalid, hvalid, ?_⟩
  exact (haccepted "bob").2.2 aliceIssue List.mem_cons_self aliceToken hbuilt rfl (by decide)

end Parts

end TenderPhase1.Admin
