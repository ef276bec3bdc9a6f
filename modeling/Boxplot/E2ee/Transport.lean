import Boxplot.E2ee.Adapter
import Boxplot.Net.Rendering
import Boxplot.Remote.ImapSync
import Boxplot.Remote.Native
/-!
# Sealed mail in transport

A sealed intent goes out through `build_message` and comes back through the
mail parser and the recipient's sync. What its header carries, and under which
metadata its envelope opens.
-/

namespace Boxplot.E2ee

open Domain Lib Remote Net Outbox Sync Memory

/-! ## Out -/

def nativeAddress (value : EmailAddress) : NativeAddressDto := ⟨value.name, value.email⟩

def nativeBody : SubmissionBody → NativeSubmissionBodyDto
  | .plain text html => .plain text html
  | .boxplotE2ee payload => .boxplotE2ee payload

/-- The request of `SmtpSubmission.submit` in the native process. -/
def nativeSubmitRequest (request : SmtpSubmitRequest) : NativeSmtpSubmitRequest where
  sessionId := request.sessionId
  «from» := nativeAddress request.from
  «to» := request.to.map nativeAddress
  cc := request.cc.map nativeAddress
  bcc := request.bcc.map nativeAddress
  replyTo := request.replyTo.map nativeAddress
  subject := request.subject
  body := nativeBody request.body
  idempotencyKey := request.idempotencyKey

/-- Where an intent is sent from. -/
structure Sender where
  store : E2eeKeyStore
  nonce : Nonce
  submission : SmtpSubmission
  idempotencyKey : String
  /-- The text of the `Date` field. -/
  date : String

variable (sodium : Sodium) (json : SerdeJson)

/-- The intent is sealed in the envelope, and the message is what `build_message` makes of the submission. -/
def Sender.Sends (x : Sender) (intent : SendIntent) (envelope : BoxplotE2eeEnvelope) (built : BuiltMessage) : Prop :=
  encryptedBy (adapterEncryptFor sodium json x.store x.nonce) intent = some (.ok (.ok envelope)) ∧
    ∃ draft request, submissionDraft intent (.boxplotE2ee (serializeBoxplotE2eeEnvelope envelope)) = .ok draft ∧
      x.submission.request ⟨draft, x.submission.accountId⟩ x.idempotencyKey = .ok request ∧
      buildMessage x.date (nativeSubmitRequest request) = .ok built

/-- The header fields of the message. -/
def Sender.fields (x : Sender) (intent : SendIntent) : List HeaderField :=
  sealedFields x.date
    { sessionId := x.submission.sessionId, «from» := nativeAddress intent.from, «to» := intent.to.map nativeAddress, cc := [],
      bcc := [], replyTo := intent.replyTo.map nativeAddress, subject := intent.subject, body := .boxplotE2ee "",
      idempotencyKey := x.idempotencyKey }

/-! ## In -/

/-- `ImapRemoteMail.fetchBody`. -/
def remoteBody : NativeBodyDto → RemoteBody
  | .plain text html => .plain text html
  | .boxplotE2ee payload => .boxplotE2ee payload

def envelopeObject (envelope : BoxplotE2eeEnvelope) : JsValue :=
  .obj [("version", .num 1), ("algorithm", .str "boxplot-crypto-box-v1"), ("sender", .str envelope.sender),
    ("recipient", .str envelope.recipient), ("senderPublicKey", .str envelope.senderPublicKey),
    ("recipientPublicKey", .str envelope.recipientPublicKey), ("nonce", .str envelope.nonce),
    ("ciphertext", .str envelope.ciphertext)]

/-- The recipient has synchronised the message, has not cached its body, and has an identity with the address. -/
structure Received (p : MailParser) (store : E2eeKeyStore) (built : BuiltMessage) (recipient : String) (emailId : ScopedEmailId)
    (deps : BodyMaterializerDependencies) : Prop where
  arrived : ∃ m mailbox uidValidity uid fetched raw record,
    p.parse built.message = some m ∧ mapNativeEmail (m.parsed.metadata mailbox uidValidity uid fetched) = .ok raw ∧
      toDomainEmailRecord emailId.accountKey raw = some record ∧ record.email.id = emailId ∧
      deps.readEmail emailId = .ok (.present record.email) ∧
      deps.fetchBody emailId.accountKey emailId.jmapId = .ok (remoteBody m.body)
  identity : ∃ identities, deps.listIdentities emailId.accountKey = .ok (.present identities) ∧
    recipient ∈ identities.map (·.email)
  notCached : deps.readEmailBody emailId = .ok .notCached
  current : deps.assertCurrent = .ok ()
  caches : ∀ body, deps.cacheEmailBody body = .ok ()
  decrypts : deps.decryptFrom = adapterDecryptFrom sodium json store

/-- Each party has their own key and has pinned the other's. -/
def KeysInPlace (senderStore recipientStore : E2eeKeyStore) (sender recipient : String) : Prop :=
  ∃ senderPrivate senderPublic recipientPrivate recipientPublic,
    senderStore.loadPrivateKey sender = .ok (some senderPrivate) ∧ sodium.scalarmultBase senderPrivate = some senderPublic ∧
    senderStore.loadPeerPublicKey sender recipient = .ok (some recipientPublic) ∧
    recipientStore.loadPrivateKey recipient = .ok (some recipientPrivate) ∧
    sodium.scalarmultBase recipientPrivate = some recipientPublic ∧
    recipientStore.loadPeerPublicKey recipient sender = .ok (some senderPublic)

/-! ## What the header carries -/

/-- The address is read back, alone. -/
def CarriesAddress (p : MailParser) (address : EmailAddress) : Prop :=
  ∃ items, p.addresses (addressText (nativeAddress address)) = some items ∧ items.filterMap (·.address) = [address.email]

/-- An ASCII subject goes as it is: nothing may be trimmed off it or decoded in it, and an empty one must be reported. -/
def CarriesSubject (p : MailParser) (subject : String) : Prop :=
  isAscii subject = true → p.trim subject = subject ∧ p.hasEncodedWord subject = false ∧ (subject = "" → p.reportsEmpty = true)

theorem length_trim_le (p : MailParser) (value : String) : (p.trim value).toList.length ≤ value.toList.length := by
  unfold MailParser.trim
  rw [String.toList_ofList, List.length_reverse]
  calc _ ≤ (value.toList.dropWhile p.isSpace).reverse.length := (List.dropWhile_sublist _).length_le
    _ = (value.toList.dropWhile p.isSpace).length := List.length_reverse
    _ ≤ value.toList.length := (List.dropWhile_sublist _).length_le

theorem text_encodeHeader {p : MailParser} {subject : String} (hp : p.Decodes subject) :
    p.text (encodeHeader subject) = some subject ↔ CarriesSubject p subject := by
  unfold CarriesSubject
  cases hascii : isAscii subject with
  | false => simp [hp.encoded hascii]
  | true =>
    have hplain : encodeHeader subject = subject := if_pos hascii
    rw [hplain]
    simp only [forall_const]
    unfold MailParser.text
    by_cases hempty : p.trim subject = ""
    · rw [if_pos hempty]
      have hword : p.hasEncodedWord "" = false := by
        by_contra hword
        have hshorter := hp.shorter (by rw [hempty]; simpa using hword)
        rw [hempty] at hshorter
        exact absurd hshorter (by simp)
      constructor
      · intro h
        split at h
        · rename_i hreports
          obtain rfl := Option.some.inj h
          exact ⟨hempty, hword, fun _ => hreports⟩
        · cases h
      · rintro ⟨htrim, -, hreports⟩
        have hsubject : subject = "" := htrim.symm.trans hempty
        rw [if_pos (hreports hsubject), hsubject]
    · rw [if_neg hempty, Option.some.injEq]
      cases hword : p.hasEncodedWord (p.trim subject) with
      | false =>
        rw [hp.plain hword]
        constructor
        · intro htrim
          refine ⟨htrim, by rwa [htrim] at hword, fun hsubject => ?_⟩
          rw [hsubject] at htrim hempty
          exact absurd htrim hempty
        · exact fun h => h.1
      | true =>
        -- what is decoded is shorter than the subject
        have hshorter := hp.shorter hword
        have hle := length_trim_le p subject
        constructor
        · intro h
          rw [h] at hshorter
          omega
        · rintro ⟨htrim, hnone, -⟩
          rw [htrim, hnone] at hword
          cases hword

/-! ## What the recipient expects -/

theorem singleAddress_parsed {items : Option (List ParsedAddress)} {email : String} :
    singleAddress (remoteAddresses (parsedAddresses items)) = some email ↔
      ∃ l, items = some l ∧ l.filterMap (·.address) = [email] := by
  cases items with
  | none => simp [parsedAddresses, remoteAddresses, singleAddress]
  | some l =>
    have hemails : (l.filterMap fun item => item.address.map (NativeAddressDto.mk item.name)).map (·.email) =
        l.filterMap (·.address) := by
      rw [List.map_filterMap]
      apply List.filterMap_congr
      intro item _
      cases item.address <;> rfl
    simp only [parsedAddresses, remoteAddresses, Option.map_some, Option.some.injEq, exists_eq_left']
    rw [← hemails]
    generalize (l.filterMap fun item => item.address.map (NativeAddressDto.mk item.name)) = found
    match found with
    | [] => simp [singleAddress]
    | [address] => simp [singleAddress]
    | _ :: _ :: _ => simp [singleAddress]

theorem email_header {input e : Email} (h : email input = .ok e) :
    e.from = input.from ∧ e.to = input.to ∧ e.cc = input.cc ∧ e.bcc = input.bcc ∧ e.subject = input.subject := by
  unfold email at h
  repeat' split at h
  all_goals try cases h
  obtain ⟨keywords, -, heq⟩ := except_bind_eq_ok.1 h
  cases heq
  exact ⟨rfl, rfl, rfl, rfl, rfl⟩

/-- The header of a synchronised email is the message's. -/
theorem synced_header {value : NativeMessageMetadataDto} {raw : RemoteEmail} {accountKey : AccountKey} {record : EmailSyncRecord}
    (hmap : mapNativeEmail value = .ok raw) (hrecord : toDomainEmailRecord accountKey raw = some record) :
    record.email.from = remoteAddresses value.from ∧ record.email.to = remoteAddresses value.to ∧
      record.email.cc = remoteAddresses value.cc ∧ record.email.bcc = remoteAddresses value.bcc ∧
      record.email.subject = value.subject := by
  unfold mapNativeEmail at hmap
  obtain ⟨id, -, hraw⟩ := except_bind_eq_ok.1 hmap
  cases hraw
  unfold toDomainEmailRecord at hrecord
  rw [built_eq_some] at hrecord
  simp only [except_bind_eq_ok] at hrecord
  obtain ⟨_, -, _, -, _, -, keywords, -, domainEmail, hemail, memberships, -, heq⟩ := hrecord
  cases heq
  exact email_header hemail

/-- A synchronised email can be asked for again. -/
theorem synced_remoteEmailId {raw : RemoteEmail} {accountKey : AccountKey} {record : EmailSyncRecord}
    (hrecord : toDomainEmailRecord accountKey raw = some record) : remoteEmailId record.email.id = .ok record.email.id.jmapId := by
  have hid := (toDomainEmailRecord_some hrecord).1
  unfold toDomainEmailRecord at hrecord
  rw [built_eq_some] at hrecord
  obtain ⟨id, hlocal, -⟩ := except_bind_eq_ok.1 hrecord
  unfold localEmailId Remote.opaqueIdFromString at hlocal
  rw [hid]
  unfold remoteEmailId remoteIdFromString
  split at hlocal
  · cases hlocal
  · rename_i hlength
    rw [if_neg hlength]

/-! ## Opening under other metadata -/

variable {sodium json}

/-- The expected subject is compared after the box is opened. -/
theorem decryptFrom_subject {store : E2eeKeyStore} {request : DecryptRequest} {payload : DecryptedPayload}
    (h : decryptFrom sodium json store request = .ok payload) (subject : String) :
    decryptFrom sodium json store { request with expectedSubject := subject } =
      acceptPayload { request with expectedSubject := subject } payload := by
  unfold decryptFrom at h ⊢
  split at h
  · cases h
  rename_i houter
  rw [if_neg houter]
  simp only [bind_eq_ok, okOr_eq_ok, publicFromPrivate_eq_ok] at h
  obtain ⟨_, hprivate, privateKey, rfl, recipientPublic, hbase, _, hpin, trustedSender, rfl, senderKey, hkey, h⟩ := h
  split at h
  · cases h
  rename_i htrusted
  obtain ⟨recipientKey, hrecipient, h⟩ := bind_eq_ok.1 h
  split at h
  · cases h
  rename_i hown
  obtain ⟨opened, hopened, h⟩ := bind_eq_ok.1 h
  have hopen : opened = payload := by
    unfold acceptPayload at h
    split at h <;> cases h
    rfl
  have hpublic := (publicFromPrivate_eq_ok sodium).2 hbase
  simp only [hprivate, hpin, okOr, hpublic, hkey, hrecipient, bind, Except.bind, if_neg htrusted, if_neg hown, hopened, hopen]

/-- An envelope opens under its own sender, recipient and subject, and under no other. -/
theorem decryptFrom_sealed (hopens : sodium.Opens) {senderStore recipientStore : E2eeKeyStore} {request : EncryptRequest}
    {nonce : Nonce} {envelope : E2eeEnvelope} (hjson : json.ReadsBack request.payload)
    (h : encryptFor sodium json senderStore request nonce = .ok envelope)
    (hkeys : KeysInPlace sodium senderStore recipientStore request.localIdentity request.recipientIdentity)
    {sender recipient subject : String} {payload : DecryptedPayload} :
    decryptFrom sodium json recipientStore ⟨recipient, sender, recipient, subject, envelope⟩ = .ok payload ↔
      sender = request.localIdentity ∧ recipient = request.recipientIdentity ∧ subject = request.subject ∧
        payload = request.payload := by
  obtain ⟨senderPrivate, senderPublic, recipientPrivate, recipientPublic, hsender, hsenderBase, hpin, hrecipient, hbase,
    hpinned⟩ := hkeys
  have hown := decryptFrom_encryptFor hopens hjson h
    (fun privateKey hload => by rw [Option.some.inj (Except.ok.inj (hload.symm.trans hsender))]; exact hsenderBase)
    hpin hrecipient hbase hpinned
  constructor
  · intro hopened
    have houter : sender = request.localIdentity ∧ recipient = request.recipientIdentity := by
      obtain ⟨_, _, _, _, -, -, -, -, -, rfl⟩ := encryptFor_ok sodium json h
      unfold decryptFrom at hopened
      split at hopened
      · cases hopened
      · rename_i hsame
        simp only [not_or, not_not] at hsame
        exact ⟨hsame.1.symm, hsame.2.symm⟩
    obtain ⟨rfl, rfl⟩ := houter
    rw [decryptFrom_subject hown subject] at hopened
    unfold acceptPayload at hopened
    split at hopened
    · cases hopened
    · rename_i hinner
      simp only [not_or, not_not] at hinner
      cases hopened
      exact ⟨rfl, rfl, hinner.2.2.2.symm, rfl⟩
  · rintro ⟨rfl, rfl, rfl, rfl⟩
    exact hown

end Boxplot.E2ee
