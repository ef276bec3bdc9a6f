import Boxplot.E2ee.Transport
/-!
# Delivery of sealed mail

The recipient's materialiser opens a sealed mail exactly if the header fields
carry its subject and its two addresses.
-/

namespace Boxplot.E2ee

open Domain Lib Remote Net Outbox Sync Memory

variable {sodium : Sodium} {json : SerdeJson}

/-! ## The materialiser -/

section
variable {deps : BodyMaterializerDependencies} {emailId : ScopedEmailId}

theorem parse_envelopeObject {parseJson : String → Option JsValue} {payload : String} {envelope : BoxplotE2eeEnvelope}
    (h : parseJson payload = some (envelopeObject envelope)) : parseBoxplotE2eeEnvelope parseJson payload = some envelope := by
  unfold parseBoxplotE2eeEnvelope
  rw [h]
  simp only [envelopeObject, asRecord, requiredString, bind, Option.bind, List.lookup, String.reduceBEq, ne_eq, not_true_eq_false,
    or_self, if_false]

theorem matching_length {emails : List String} {recipient : String} :
    ((emails.filter (· = recipient)).dedup).length = 1 ↔ recipient ∈ emails := by
  rw [List.filter_eq]
  cases hcount : emails.count recipient with
  | zero => simpa using List.count_eq_zero.1 hcount
  | succ n =>
    rw [List.replicate_dedup (by omega)]
    simpa using List.count_pos_iff.1 (by omega : 0 < emails.count recipient)

/-- What has to be found before a sealed body is opened. -/
theorem resolveExpectedMetadata_ok {email : Email} {identities : List Identity} {metadata : ExpectedE2eeMetadata}
    (hemail : deps.readEmail emailId = .ok (.present email))
    (hidentities : deps.listIdentities email.id.accountKey = .ok (.present identities)) (hcc : email.cc = none)
    (hbcc : email.bcc = none) :
    resolveExpectedMetadata deps emailId = .ok metadata ↔ ∃ sender recipient subject, singleAddress email.from = some sender ∧
      singleAddress email.to = some recipient ∧ email.subject = some subject ∧ recipient ∈ identities.map (·.email) ∧
        metadata = ⟨recipient, sender, recipient, subject⟩ := by
  have hread : readLocal (deps.readEmail emailId) = .ok (.present email) := by
    rw [hemail]
    rfl
  unfold resolveExpectedMetadata
  rw [hread]
  dsimp only [bind, Except.bind]
  cases hsender : singleAddress email.from with
  | none => simp [failed]
  | some sender =>
    cases hrecipient : singleAddress email.to with
    | none => simp [failed]
    | some recipient =>
      cases hsubject : email.subject with
      | none => simp [failed]
      | some subject =>
        rw [hcc, hbcc]
        change resolveLocalIdentity deps email sender recipient subject = _ ↔ _
        unfold resolveLocalIdentity
        rw [hidentities]
        change (if ((identities.map (·.email)).filter (· = recipient)).dedup.length ≠ 1 then failed .metadataUnavailable
          else Except.ok (ExpectedE2eeMetadata.mk recipient sender recipient subject)) = Except.ok metadata ↔ _
        by_cases hmatch : recipient ∈ identities.map (·.email)
        · rw [if_neg (not_not.2 (matching_length.2 hmatch))]
          constructor
          · intro h
            exact ⟨sender, recipient, subject, rfl, rfl, rfl, hmatch, (Except.ok.inj h).symm⟩
          · rintro ⟨_, _, _, ⟨⟩, ⟨⟩, ⟨⟩, -, rfl⟩
            rfl
        · rw [if_pos fun hlength => hmatch (matching_length.1 hlength)]
          constructor
          · rintro ⟨⟩
          · rintro ⟨_, _, _, ⟨⟩, ⟨⟩, ⟨⟩, hmem, -⟩
            exact absurd hmem hmatch

theorem decryptBody_ok {payload : String} {envelope : BoxplotE2eeEnvelope} {body : EmailBody}
    (henvelope : parseBoxplotE2eeEnvelope deps.parseJson payload = some envelope) :
    decryptBody deps emailId payload = .ok body ↔ ∃ metadata plaintext, resolveExpectedMetadata deps emailId = .ok metadata ∧
      deps.decryptFrom ⟨metadata.localIdentity, metadata.expectedSender, metadata.expectedRecipient, metadata.expectedSubject,
        envelope⟩ = .ok plaintext ∧ body = ⟨emailId, some plaintext.text, plaintext.html⟩ := by
  unfold decryptBody
  rw [except_bind_eq_ok]
  apply exists_congr
  intro metadata
  rw [henvelope]
  constructor
  · rintro ⟨hmetadata, hrest⟩
    obtain ⟨plaintext, hplaintext, heq⟩ := except_bind_eq_ok.1 hrest
    refine ⟨plaintext, hmetadata, ?_, (Except.ok.inj heq).symm⟩
    unfold answered at hplaintext
    split at hplaintext
    · rename_i value hvalue
      cases hplaintext
      exact hvalue
    · cases hplaintext
    · cases hplaintext
  · rintro ⟨plaintext, hmetadata, hplaintext, rfl⟩
    refine ⟨hmetadata, ?_⟩
    rw [except_bind_eq_ok]
    exact ⟨plaintext, by rw [hplaintext]; rfl, rfl⟩

end

section
variable {deps : BodyMaterializerDependencies} {emailId : ScopedEmailId}

/-- Nothing else stops a body that was fetched sealed. -/
theorem materializeOnce_sealed {payload remoteId : String} (hcached : deps.readEmailBody emailId = .ok .notCached)
    (hremote : remoteEmailId emailId = .ok remoteId)
    (hfetch : deps.fetchBody emailId.accountKey remoteId = .ok (.boxplotE2ee payload)) (hcurrent : deps.assertCurrent = .ok ())
    (hwrite : ∀ body, deps.cacheEmailBody body = .ok ()) :
    materializeOnce deps emailId = (decryptBody deps emailId payload).map .materialized := by
  unfold materializeOnce
  rw [hcached, hremote]
  simp only [readLocal, answered, bind, Except.bind, Except.mapError, hfetch, fetched, hcurrent, hwrite]
  cases decryptBody deps emailId payload <;> rfl

end

/-! ## There and back -/

section
variable {x : Sender} {intent : SendIntent} {envelope : BoxplotE2eeEnvelope} {built : BuiltMessage}

/-- The request that an intent is sealed for. -/
def sealRequest (intent : SendIntent) (recipient : EmailAddress) : EncryptRequest :=
  ⟨intent.from.email, recipient.email, intent.subject, intent.body.text, intent.body.html⟩

/-- A sealed intent has one recipient; its message is its header fields and the envelope. -/
theorem Sender.Sends.shape (h : x.Sends sodium json intent envelope built) (hdate : Unbroken x.date) :
    ∃ recipient, intent.to = [recipient] ∧
      encryptFor sodium json x.store (sealRequest intent recipient) x.nonce = .ok (nativeEnvelope envelope) ∧
      built.message = render (x.fields intent) (encodeBody (bytes (serializeBoxplotE2eeEnvelope envelope))) ∧
      ∀ f ∈ x.fields intent, Unbroken f.value := by
  obtain ⟨hencrypted, draft, request, hdraft, hrequest, hbuilt⟩ := h
  obtain ⟨recipient, hto, hcc, hbcc, hport⟩ := encryptedBy_ok hencrypted
  refine ⟨recipient, hto, adapterEncryptFor_ok hport, ?_⟩
  unfold submissionDraft at hdraft
  obtain ⟨identity, -, heq⟩ := except_bind_eq_ok.1 hdraft
  cases heq
  unfold SmtpSubmission.request at hrequest
  rw [if_neg (by simp)] at hrequest
  cases hrequest
  have hsealed := buildMessage_sealed hbuilt (by simp [nativeSubmitRequest, hcc]) rfl hdate
  exact hsealed

theorem Sender.fields_values (x : Sender) {recipient : EmailAddress} (hto : intent.to = [recipient]) :
    valueOf (x.fields intent) "From" = some (addressText (nativeAddress intent.from)) ∧
      valueOf (x.fields intent) "To" = some (addressText (nativeAddress recipient)) ∧
      valueOf (x.fields intent) "Cc" = none ∧ valueOf (x.fields intent) "Bcc" = none ∧
      valueOf (x.fields intent) "Subject" = some (encodeHeader intent.subject) ∧
      valueOf (x.fields intent) "Content-Type" = some "application/vnd.boxplot.e2ee+json" ∧
      valueOf (x.fields intent) "Content-Transfer-Encoding" = some "base64" := by
  unfold Sender.fields sealedFields
  rw [hto]
  split <;> simp [valueOf, List.find?]

/-- What the header of a sealed message has to carry. -/
def Carries (p : MailParser) (intent : SendIntent) : Prop :=
  CarriesSubject p intent.subject ∧ ∀ address ∈ intent.from :: intent.to, CarriesAddress p address

theorem except_map_materialized {r : Materialized EmailBody} {body : EmailBody} :
    r.map BodyMaterializationResult.materialized = .ok (.materialized body) ↔ r = .ok body := by
  cases r with
  | error e => simp [Except.map]
  | ok value => simp [Except.map]

/-- Once the message is received, the materialiser caches what the envelope opens to under the header's metadata. -/
theorem materialize_received {p : MailParser} {recipientStore : E2eeKeyStore} {recipient : EmailAddress} {emailId : ScopedEmailId}
    {deps : BodyMaterializerDependencies} {body : EmailBody} (hto : intent.to = [recipient])
    (hmessage : built.message = render (x.fields intent) (encodeBody (bytes (serializeBoxplotE2eeEnvelope envelope))))
    (hunbroken : ∀ f ∈ x.fields intent, Unbroken f.value)
    (hparses : p.Parses (x.fields intent) (serializeBoxplotE2eeEnvelope envelope))
    (hparseJson : deps.parseJson (serializeBoxplotE2eeEnvelope envelope) = some (envelopeObject envelope))
    (h : Received sodium json p recipientStore built recipient.email emailId deps) :
    materializeOnce deps emailId = .ok (.materialized body) ↔ ∃ from' to' subject identities payload,
      (∃ l, p.addresses (addressText (nativeAddress intent.from)) = some l ∧ l.filterMap (·.address) = [from']) ∧
      (∃ l, p.addresses (addressText (nativeAddress recipient)) = some l ∧ l.filterMap (·.address) = [to']) ∧
      p.text (encodeHeader intent.subject) = some subject ∧
      deps.listIdentities emailId.accountKey = .ok (.present identities) ∧ to' ∈ identities.map (·.email) ∧
      decryptFrom sodium json recipientStore ⟨to', from', to', subject, nativeEnvelope envelope⟩ = .ok payload ∧
      payload.version = 1 ∧ body = ⟨emailId, some payload.text, payload.html⟩ := by
  obtain ⟨hfrom, hvto, hcc, hbcc, hsubject, htype, hencoding⟩ := x.fields_values hto
  obtain ⟨m, hparsed, hreads⟩ := hparses hunbroken
  obtain ⟨m', mailbox, uidValidity, uid, fetched, raw, record, hparse, hmap, hrecord, hid, hemail, hfetch⟩ := h.arrived
  rw [hmessage, hparsed] at hparse
  cases hparse
  obtain ⟨hefrom, heto, hecc, hebcc, hesubject⟩ := synced_header hmap hrecord
  have hremote := synced_remoteEmailId hrecord
  rw [hid] at hremote
  -- the body comes back as the envelope
  have hbody : m.body = .boxplotE2ee (serializeBoxplotE2eeEnvelope envelope) := by
    unfold MailMessage.body MailMessage.isBoxplotE2ee
    rw [hreads.contentType htype, hreads.firstPart hencoding]
    rfl
  rw [hbody] at hfetch
  rw [materializeOnce_sealed h.notCached hremote hfetch h.current h.caches, except_map_materialized]
  obtain ⟨identities, hidentities, -⟩ := h.identity
  have hidentities' : deps.listIdentities record.email.id.accountKey = .ok (.present identities) := by rw [hid, hidentities]
  have hcc' : record.email.cc = none := by
    rw [hecc]
    change remoteAddresses (parsedAddresses m.cc) = none
    rw [hreads.cc, hcc]
    rfl
  have hbcc' : record.email.bcc = none := by
    rw [hebcc]
    change remoteAddresses (parsedAddresses m.bcc) = none
    rw [hreads.bcc, hbcc]
    rfl
  rw [decryptBody_ok (parse_envelopeObject hparseJson)]
  have hsender : ∀ email, singleAddress record.email.from = some email ↔
      ∃ l, p.addresses (addressText (nativeAddress intent.from)) = some l ∧ l.filterMap (·.address) = [email] := by
    intro email
    rw [hefrom, ← singleAddress_parsed]
    change singleAddress (remoteAddresses (parsedAddresses m.from)) = _ ↔ _
    rw [hreads.from, hfrom]
    rfl
  have hrecipient : ∀ email, singleAddress record.email.to = some email ↔
      ∃ l, p.addresses (addressText (nativeAddress recipient)) = some l ∧ l.filterMap (·.address) = [email] := by
    intro email
    rw [heto, ← singleAddress_parsed]
    change singleAddress (remoteAddresses (parsedAddresses m.to)) = _ ↔ _
    rw [hreads.to, hvto]
    rfl
  have htext : record.email.subject = p.text (encodeHeader intent.subject) := by
    rw [hesubject]
    change m.subject = _
    rw [hreads.subject, hsubject, Option.bind_some]
  constructor
  · rintro ⟨metadata, plaintext, hmetadata, hdecrypt, rfl⟩
    obtain ⟨from', to', subject, hs, hr, htext', hmem, rfl⟩ :=
      (resolveExpectedMetadata_ok hemail hidentities' hcc' hbcc').1 hmetadata
    rw [h.decrypts] at hdecrypt
    obtain ⟨payload, hpayload, hversion, rfl⟩ := adapterDecryptFrom_ok.1 hdecrypt
    exact ⟨from', to', subject, identities, payload, (hsender _).1 hs, (hrecipient _).1 hr, htext ▸ htext', hidentities, hmem,
      hpayload, hversion, rfl⟩
  · rintro ⟨from', to', subject, identities', payload, hs, hr, htext', hlist, hmem, hpayload, hversion, rfl⟩
    rw [hidentities] at hlist
    cases hlist
    have hmetadata : resolveExpectedMetadata deps emailId = .ok ⟨to', from', to', subject⟩ :=
      (resolveExpectedMetadata_ok hemail hidentities' hcc' hbcc').2
        ⟨from', to', subject, (hsender from').2 hs, (hrecipient to').2 hr, htext.trans htext', hmem, rfl⟩
    have hdecrypt : deps.decryptFrom ⟨to', from', to', subject, envelope⟩ =
        .ok ⟨payload.sender, payload.recipient, payload.subject, payload.text, payload.html⟩ := by
      rw [h.decrypts]
      exact adapterDecryptFrom_ok.2 ⟨payload, hpayload, hversion, rfl⟩
    exact ⟨_, _, hmetadata, hdecrypt, rfl⟩

/-- The mail survives its transport: the materialiser caches the sender's text and html. -/
def Survives (intent : SendIntent) (deps : BodyMaterializerDependencies) (emailId : ScopedEmailId) : Prop :=
  materializeOnce deps emailId = .ok (.materialized ⟨emailId, some intent.body.text, intent.body.html⟩)

/-- What is relied on of the code that is not here, for one sealed message. -/
structure Relied (sodium : Sodium) (json : SerdeJson) (p : MailParser) (x : Sender) (intent : SendIntent)
    (envelope : BoxplotE2eeEnvelope) (deps : BodyMaterializerDependencies) : Prop where
  opens : sodium.Opens
  readsBack : ∀ recipient ∈ intent.to, json.ReadsBack (sealRequest intent recipient).payload
  parses : p.Parses (x.fields intent) (serializeBoxplotE2eeEnvelope envelope)
  decodes : p.Decodes intent.subject
  date : Unbroken x.date
  parseJson : deps.parseJson (serializeBoxplotE2eeEnvelope envelope) = some (envelopeObject envelope)

/-- What is opened was expected under the sender's own metadata, so the header carried it. -/
theorem carries_of_materialized {p : MailParser} {recipientStore : E2eeKeyStore} {emailId : ScopedEmailId}
    {deps : BodyMaterializerDependencies} {body : EmailBody} (hrelied : Relied sodium json p x intent envelope deps)
    (hsent : x.Sends sodium json intent envelope built)
    (hkeys : ∀ recipient ∈ intent.to, KeysInPlace sodium x.store recipientStore intent.from.email recipient.email)
    (hreceived : ∀ recipient ∈ intent.to, Received sodium json p recipientStore built recipient.email emailId deps)
    (h : materializeOnce deps emailId = .ok (.materialized body)) : Carries p intent := by
  obtain ⟨recipient, hto, hencrypt, hmessage, hunbroken⟩ := hsent.shape hrelied.date
  have hmem : recipient ∈ intent.to := by simp [hto]
  have hreceived := hreceived recipient hmem
  rw [materialize_received hto hmessage hunbroken hrelied.parses hrelied.parseJson hreceived] at h
  obtain ⟨from', to', subject, identities, payload, hfrom, hrecipient, hsubject, -, -, hpayload, -, -⟩ := h
  obtain ⟨rfl, rfl, rfl, -⟩ :=
    (decryptFrom_sealed hrelied.opens (hrelied.readsBack recipient hmem) hencrypt (hkeys recipient hmem)).1 hpayload
  refine ⟨(text_encodeHeader hrelied.decodes).1 hsubject, ?_⟩
  intro address haddress
  rw [hto] at haddress
  rcases List.mem_pair.1 haddress with rfl | rfl
  · exact hfrom
  · exact hrecipient

/-- A sealed mail survives its transport exactly if its header carries its subject and its addresses. -/
theorem survives_iff {p : MailParser} {recipientStore : E2eeKeyStore} {emailId : ScopedEmailId}
    {deps : BodyMaterializerDependencies} (hrelied : Relied sodium json p x intent envelope deps)
    (hsent : x.Sends sodium json intent envelope built)
    (hkeys : ∀ recipient ∈ intent.to, KeysInPlace sodium x.store recipientStore intent.from.email recipient.email)
    (hreceived : ∀ recipient ∈ intent.to, Received sodium json p recipientStore built recipient.email emailId deps) :
    Survives intent deps emailId ↔ Carries p intent := by
  constructor
  · intro h
    exact carries_of_materialized hrelied hsent hkeys hreceived h
  · rintro ⟨hsubject, haddresses⟩
    obtain ⟨recipient, hto, hencrypt, hmessage, hunbroken⟩ := hsent.shape hrelied.date
    have hmem : recipient ∈ intent.to := by simp [hto]
    have hreceived := hreceived recipient hmem
    obtain ⟨identities, hidentities, hidentity⟩ := hreceived.identity
    unfold Survives
    rw [materialize_received hto hmessage hunbroken hrelied.parses hrelied.parseJson hreceived]
    have hfrom := haddresses intent.from List.mem_cons_self
    have hrecipient := haddresses recipient (List.mem_cons_of_mem _ hmem)
    have hopened : decryptFrom sodium json recipientStore
        ⟨recipient.email, intent.from.email, recipient.email, intent.subject, nativeEnvelope envelope⟩ =
          .ok (sealRequest intent recipient).payload :=
      (decryptFrom_sealed hrelied.opens (hrelied.readsBack recipient hmem) hencrypt (hkeys recipient hmem)).2 ⟨rfl, rfl, rfl, rfl⟩
    exact ⟨intent.from.email, recipient.email, intent.subject, identities, (sealRequest intent recipient).payload, hfrom,
      hrecipient, (text_encodeHeader hrelied.decodes).2 hsubject, hidentities, hidentity, hopened, rfl, rfl⟩

end

/-! ## A letter from Alice to Bob -/

/-- Boxes of the two keys, in either direction. -/
def pairSodium : Sodium where
  ensureInit := true
  scalarmultBase privateKey := some (samplePublic privateKey)
  publicKeyFromBytes _ := true
  secretKeyFromBytes _ := true
  «seal» plaintext _ publicKey privateKey :=
    if s(samplePublic privateKey, publicKey) = s(samplePublic alicePrivate, samplePublic bobPrivate) then some (plaintext.map (· + 1))
    else none
  «open» ciphertext _ publicKey privateKey :=
    if s(samplePublic privateKey, publicKey) = s(samplePublic alicePrivate, samplePublic bobPrivate) then some (ciphertext.map (· - 1))
    else none

theorem pairSodium_opens : pairSodium.Opens where
  opens := by
    intro plaintext nonce publicKey privateKey ciphertext own other hseal hown hother
    simp only [pairSodium, Option.ite_none_right_eq_some, Option.some.injEq] at hseal hown hother ⊢
    obtain ⟨hkeys, rfl⟩ := hseal
    subst hown hother
    refine ⟨Sym2.eq_swap.trans hkeys, ?_⟩
    rw [List.map_map]
    exact (List.map_congr_left fun b _ => UInt8.add_sub_cancel b 1).trans (List.map_id _)
  publicKeys _ := rfl
  secretKeys _ := rfl

def letterIntent (subject : String) : SendIntent where
  securityMode := .boxplotE2eeV1
  identityId := ⟨"a", "i1"⟩
  «from» := ⟨some "Alice", "alice@boxplot.test"⟩
  replyTo := []
  «to» := [⟨none, "bob@boxplot.test"⟩]
  cc := []
  bcc := []
  subject
  body := ⟨"Hi", none⟩

def letterRequest (subject : String) : EncryptRequest := sealRequest (letterIntent subject) ⟨none, "bob@boxplot.test"⟩

/-- Knows the one payload. -/
def letterJson (subject : String) : SerdeJson := ⟨fun _ => bytes subject, fun _ => some (letterRequest subject).payload.serialize⟩

def letterSender : Sender where
  store := sampleStore "alice@boxplot.test" "bob@boxplot.test" alicePrivate (samplePublic bobPrivate)
  nonce := sampleNonce
  submission := ⟨"s", "remote-a"⟩
  idempotencyKey := "k"
  date := "Thu, 01 Jan 2026 00:00:00 +0000"

def letterStore : E2eeKeyStore := sampleStore "bob@boxplot.test" "alice@boxplot.test" bobPrivate (samplePublic alicePrivate)

def letterEnvelope (subject : String) : BoxplotE2eeEnvelope :=
  ⟨"alice@boxplot.test", "bob@boxplot.test", encodeKey (samplePublic alicePrivate), encodeKey (samplePublic bobPrivate),
    encodeBytes sampleNonce.1, encodeBytes ((bytes subject).map (· + 1))⟩

def letterSubmission (subject : String) : SmtpSubmitRequest where
  sessionId := "s"
  «from» := (letterIntent subject).from
  «to» := (letterIntent subject).to
  cc := []
  bcc := []
  replyTo := []
  subject
  body := .boxplotE2ee (serializeBoxplotE2eeEnvelope (letterEnvelope subject))
  idempotencyKey := "k"

/-- The parsed message, with the subject the parser shows. -/
def letterMessage (subject shown : String) : MailMessage where
  sender := none
  «from» := some [⟨some "Alice", some "alice@boxplot.test"⟩]
  replyTo := none
  «to» := some [⟨none, some "bob@boxplot.test"⟩]
  cc := none
  bcc := none
  subject := some shown
  date := some "2026-01-01T00:00:00Z"
  contentType := some ⟨"application", some "vnd.boxplot.e2ee+json"⟩
  firstPart := some (serializeBoxplotE2eeEnvelope (letterEnvelope subject))
  textPart := none
  htmlPart := none
  attachmentCount := 0

def letterAddresses (value : String) : Option (List ParsedAddress) :=
  if value = "\"Alice\" <alice@boxplot.test>" then some [⟨some "Alice", some "alice@boxplot.test"⟩]
  else some [⟨none, some value⟩]

theorem letterAddresses_alice : letterAddresses (addressText ⟨some "Alice", "alice@boxplot.test"⟩) =
    some [⟨some "Alice", some "alice@boxplot.test"⟩] := by decide

theorem letterAddresses_bob : letterAddresses (addressText ⟨none, "bob@boxplot.test"⟩) =
    some [⟨none, some "bob@boxplot.test"⟩] := by decide

/-- Knows the one message. Blanks around a header are trimmed, and an empty one is absent. -/
def letterParser (subject shown : String) : MailParser where
  parse raw :=
    if raw = render (letterSender.fields (letterIntent subject))
      (encodeBody (bytes (serializeBoxplotE2eeEnvelope (letterEnvelope subject)))) then some (letterMessage subject shown)
    else none
  isSpace c := c = ' ' || c = '\t'
  hasEncodedWord _ := false
  decodeWords value := value
  reportsEmpty := false
  addresses := letterAddresses

def letterDeps (subject : String) (record : EmailSyncRecord) : BodyMaterializerDependencies where
  readEmailBody _ := .ok .notCached
  readEmail _ := .ok (.present record.email)
  listIdentities accountKey := .ok (.present [⟨⟨accountKey, "i2"⟩, "Bob", "bob@boxplot.test", none, none⟩])
  cacheEmailBody _ := .ok ()
  fetchBody _ _ := .ok (.boxplotE2ee (serializeBoxplotE2eeEnvelope (letterEnvelope subject)))
  assertCurrent := .ok ()
  decryptFrom := adapterDecryptFrom pairSodium (letterJson subject) letterStore
  parseJson _ := some (envelopeObject (letterEnvelope subject))

def letterMetadata (subject shown : String) : NativeMessageMetadataDto :=
  (letterMessage subject shown).parsed.metadata "INBOX" 1 2 ⟨[], "2026-01-01T00:00:00Z", 500, []⟩

/-- Everything that is relied on and that has to happen, for an ASCII subject. -/
structure LetterArrives (subject shown : String) (built : BuiltMessage) (emailId : ScopedEmailId)
    (deps : BodyMaterializerDependencies) : Prop where
  relied : Relied pairSodium (letterJson subject) (letterParser subject shown) letterSender (letterIntent subject)
    (letterEnvelope subject) deps
  sent : letterSender.Sends pairSodium (letterJson subject) (letterIntent subject) (letterEnvelope subject) built
  keys : ∀ recipient ∈ (letterIntent subject).to,
    KeysInPlace pairSodium letterSender.store letterStore (letterIntent subject).from.email recipient.email
  received : ∀ recipient ∈ (letterIntent subject).to,
    Received pairSodium (letterJson subject) (letterParser subject shown) letterStore built recipient.email emailId deps

theorem letter_encrypted (subject : String) :
    encryptFor pairSodium (letterJson subject) letterSender.store (letterRequest subject) sampleNonce =
      .ok (nativeEnvelope (letterEnvelope subject)) := by
  simp [encryptFor, encrypt, publicFromPrivate, okOr, bind, Except.bind, pairSodium, letterJson, letterSender, sampleStore,
    letterRequest, sealRequest, letterIntent, letterEnvelope, nativeEnvelope, EncryptRequest.payload]

theorem letter_encryptedBy (subject : String) :
    encryptedBy (adapterEncryptFor pairSodium (letterJson subject) letterSender.store letterSender.nonce) (letterIntent subject) =
      some (.ok (.ok (letterEnvelope subject))) := by
  have hport : adapterEncryptFor pairSodium (letterJson subject) letterSender.store letterSender.nonce
      ⟨"alice@boxplot.test", "bob@boxplot.test", subject, "Hi", none⟩ = .ok (letterEnvelope subject) := by
    unfold adapterEncryptFor
    have hencrypted := letter_encrypted subject
    unfold letterRequest sealRequest at hencrypted
    change encryptFor pairSodium (letterJson subject) letterSender.store
      (encryptRequest ⟨"alice@boxplot.test", "bob@boxplot.test", subject, "Hi", none⟩) letterSender.nonce = _ at hencrypted
    rw [hencrypted]
    rfl
  unfold encryptedBy encryptSendIntent
  change (Prog.play _ (Prog.await (Call.encryptFor ⟨"alice@boxplot.test", "bob@boxplot.test", subject, "Hi", none⟩) _) ()).1 = _
  unfold Prog.play
  dsimp only
  rw [hport]
  rfl

theorem letter_submitted (subject : String) : ∃ draft,
    submissionDraft (letterIntent subject) (.boxplotE2ee (serializeBoxplotE2eeEnvelope (letterEnvelope subject))) = .ok draft ∧
      letterSender.submission.request ⟨draft, letterSender.submission.accountId⟩ letterSender.idempotencyKey =
        .ok (letterSubmission subject) := by
  have hidentity : remoteIdentityId (letterIntent subject).identityId = .ok "i1" := by
    change remoteIdentityId ⟨"a", "i1"⟩ = .ok "i1"
    decide
  unfold submissionDraft
  rw [hidentity]
  refine ⟨_, rfl, ?_⟩
  unfold SmtpSubmission.request
  rw [if_neg (by simp)]
  rfl

theorem letter_parses {subject shown : String}
    (hshown : some shown = (letterParser subject shown).text (encodeHeader subject)) :
    (letterParser subject shown).Parses (letterSender.fields (letterIntent subject))
      (serializeBoxplotE2eeEnvelope (letterEnvelope subject)) := by
  intro _
  obtain ⟨hfrom, hto, hcc, hbcc, hsubject, -, -⟩ :=
    letterSender.fields_values (rfl : (letterIntent subject).to = [⟨none, "bob@boxplot.test"⟩])
  refine ⟨letterMessage subject shown, if_pos rfl, ?_⟩
  constructor
  · rw [hfrom]
    exact letterAddresses_alice.symm
  · rw [hto]
    exact letterAddresses_bob.symm
  · rw [hcc]
    rfl
  · rw [hbcc]
    rfl
  · rw [hsubject, Option.bind_some]
    exact hshown
  · exact fun _ => rfl
  · exact fun _ => rfl

theorem letter_decodes {subject shown : String} (hascii : isAscii subject = true) : (letterParser subject shown).Decodes subject where
  plain _ := rfl
  shorter h := by cases h
  encoded h := by
    rw [hascii] at h
    cases h

theorem letter_arrives {subject shown : String} (hascii : isAscii subject = true)
    (hshown : some shown = (letterParser subject shown).text (encodeHeader subject))
    (hbuilt : (buildMessage letterSender.date (nativeSubmitRequest (letterSubmission subject))).toOption.isSome = true)
    (hrecord : ((mapNativeEmail (letterMetadata subject shown)).toOption.bind (toDomainEmailRecord "b")).isSome = true) :
    ∃ built emailId deps, LetterArrives subject shown built emailId deps := by
  obtain ⟨built, hbuilt⟩ := Option.isSome_iff_exists.1 hbuilt
  obtain ⟨record, hrecord⟩ := Option.isSome_iff_exists.1 hrecord
  obtain ⟨raw, hraw, hrecord⟩ := Option.bind_eq_some_iff.1 hrecord
  have hbuilt := toOption_eq_some.1 hbuilt
  have hraw := toOption_eq_some.1 hraw
  obtain ⟨draft, hdraft, hrequest⟩ := letter_submitted subject
  have hsent : letterSender.Sends pairSodium (letterJson subject) (letterIntent subject) (letterEnvelope subject) built :=
    ⟨letter_encryptedBy subject, draft, _, hdraft, hrequest, hbuilt⟩
  have hkey := (toDomainEmailRecord_some hrecord).1
  have hdate : Unbroken letterSender.date := by decide
  obtain ⟨recipient, hto, -, hmessage, -⟩ := hsent.shape hdate
  have hrelied : Relied pairSodium (letterJson subject) (letterParser subject shown) letterSender (letterIntent subject)
      (letterEnvelope subject) (letterDeps subject record) := by
    refine ⟨pairSodium_opens, ?_, letter_parses hshown, letter_decodes hascii, hdate, rfl⟩
    intro recipient hmem
    obtain rfl := List.mem_singleton.1 hmem
    rfl
  refine ⟨built, record.email.id, letterDeps subject record, hrelied, hsent, ?_, ?_⟩
  · intro recipient hmem
    obtain rfl := List.mem_singleton.1 hmem
    exact ⟨alicePrivate, _, bobPrivate, _, rfl, rfl, rfl, rfl, rfl, rfl⟩
  · intro recipient hmem
    obtain rfl := List.mem_singleton.1 hmem
    constructor
    · refine ⟨letterMessage subject shown, "INBOX", 1, 2, ⟨[], "2026-01-01T00:00:00Z", 500, []⟩, raw, record, ?_, hraw, ?_, rfl, rfl, rfl⟩
      · rw [hmessage]
        exact if_pos rfl
      · rw [hkey]
        exact hrecord
    · exact ⟨_, rfl, by simp⟩
    · rfl
    · rfl
    · exact fun _ => rfl
    · rfl

/-- A letter with the subject `Hello` is opened. -/
theorem hello_survives : ∃ built emailId deps, LetterArrives "Hello" "Hello" built emailId deps ∧
    Survives (letterIntent "Hello") deps emailId := by
  obtain ⟨built, emailId, deps, harrives⟩ := @letter_arrives "Hello" "Hello" (by decide) (by decide)
    (by decide +kernel) (by decide +kernel)
  refine ⟨built, emailId, deps, harrives, ?_⟩
  rw [survives_iff harrives.relied harrives.sent harrives.keys harrives.received]
  refine ⟨fun _ => ⟨by decide, rfl, fun h => absurd h (by decide)⟩, ?_⟩
  intro address haddress
  rcases List.mem_pair.1 haddress with rfl | rfl
  · exact ⟨_, letterAddresses_alice, rfl⟩
  · exact ⟨_, letterAddresses_bob, rfl⟩

/-- With a blank before it the subject comes back without, and nothing opens the letter. -/
theorem blank_hello_lost : ∃ built emailId deps, LetterArrives " Hello" "Hello" built emailId deps ∧
    ¬ ∃ body, materializeOnce deps emailId = .ok (.materialized body) := by
  obtain ⟨built, emailId, deps, harrives⟩ := @letter_arrives " Hello" "Hello" (by decide) (by decide)
    (by decide +kernel) (by decide +kernel)
  refine ⟨built, emailId, deps, harrives, ?_⟩
  rintro ⟨body, hbody⟩
  have hcarries := carries_of_materialized harrives.relied harrives.sent harrives.keys harrives.received hbody
  have htrim := (hcarries.1 (by decide)).1
  exact absurd htrim (by decide)

end Boxplot.E2ee
