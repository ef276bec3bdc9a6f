import Mathlib
import Boxplot.Remote.ImapReconciler
import Boxplot.Remote.Ipc
/-!
# Where the two sides agree

For each request and response: what one side writes, the other reads back.
Counts and sizes that are no double are rounded, and a message id that is found
is written under a name that TypeScript does not know.
-/

namespace Boxplot.Remote

open Lib Net

/-! ## Responses -/

/-- An object of exactly the required properties, in the type's order. -/
theorem object_exact {required : List String} {fields : List (String × JsValue)} (h : fields.map (·.1) = required)
    (hn : required.Nodup) : Ipc.object required [] (some (.obj fields)) = some (fields.map fun f => some f.2) := by
  simp only [Ipc.object, Option.bind_eq_bind, Option.bind_some, exactFields_required h, List.append_nil, Option.pure_def,
    Option.some.injEq]
  subst h
  exact lookup_keys hn

theorem openResponse_reads (v : NativeMailOpenResponse) : Ipc.nativeMailOpenResponse (some v.serialize) = some v := by
  simp [NativeMailOpenResponse.serialize, Ipc.nativeMailOpenResponse, Ipc.object, List.lookup]

theorem googleAuthorizeResponse_reads (v : GoogleAuthorizeResponse) :
    Ipc.nativeGoogleOAuthAuthorizeResponse (some v.serialize) = some v := by
  simp [GoogleAuthorizeResponse.serialize, Ipc.nativeGoogleOAuthAuthorizeResponse, Ipc.object, List.lookup]

@[simp] theorem address_reads (v : NativeAddressDto) : Ipc.nativeAddressDto (some v.serialize) = some v := by
  simp [NativeAddressDto.serialize, Ipc.nativeAddressDto, Ipc.object, List.lookup]

@[simp] theorem addresses_reads (v : Option (List NativeAddressDto)) : Ipc.addresses (some (serializeAddresses v)) = some v :=
  (reads_nullable (by rintro a ⟨⟩)).2 fun _ _ => reads_array.2 fun a _ => address_reads a

theorem mailbox_reads (v : NativeMailboxDto) :
    Ipc.nativeMailboxDto (some v.serialize) = some v ↔ IsDouble v.messages.toNat ∧ IsDouble v.unseen.toNat := by
  obtain ⟨name, messages, unseen, uidValidity, uidNext, specialUse⟩ := v
  rw [← reads_u64, ← reads_u64]
  cases specialUse <;>
    simp [NativeMailboxDto.serialize, Ipc.nativeMailboxDto, Ipc.object, Reader.optional, Reader.nullable, List.lookup,
      Option.bind_eq_some_iff]

/-- The names of a message's metadata on the wire. -/
theorem metadata_wire (v : NativeMessageMetadataDto) :
    v.serialize = .obj
      [("mailbox", .str v.mailbox), ("uidValidity", .u32 v.uidValidity), ("uid", .u32 v.uid), ("flags", .vec .str v.flags),
        ("internalDate", .str v.internalDate), ("size", .u64 v.size), ("sender", serializeAddresses v.sender),
        ("from", serializeAddresses v.from), ("replyTo", serializeAddresses v.replyTo), ("to", serializeAddresses v.to),
        ("cc", serializeAddresses v.cc), ("bcc", serializeAddresses v.bcc), ("subject", .option .str v.subject),
        ("sentAt", .option .str v.sentAt), ("preview", .str v.preview), ("hasAttachment", .bool v.hasAttachment)] := by
  simp [NativeMessageMetadataDto.serialize]

theorem metadata_reads (v : NativeMessageMetadataDto) :
    Ipc.nativeMessageMetadataDto (some v.serialize) = some v ↔ IsDouble v.size.toNat := by
  rw [← reads_u64, metadata_wire]
  obtain ⟨mailbox, uidValidity, uid, flags, internalDate, size⟩ := v
  unfold Ipc.nativeMessageMetadataDto
  rw [object_exact (by rfl) (by decide), Option.bind_eq_bind, Option.bind_some]
  simp only [List.map_cons, List.map_nil, ↓bind_reads (string_str _), ↓bind_reads (reads_u32 _), ↓bind_reads (array_string _),
    ↓bind_reads (addresses_reads _), ↓bind_reads (nullable_string _), ↓bind_reads (boolean_bool _)]
  cases Reader.u64 (some (.u64 size)) with
  | none => simp
  | some n => simp

theorem snapshot_reads (v : NativeMailboxSnapshotDto) :
    Ipc.nativeMailboxSnapshotDto (some v.serialize) = some v ↔
      (IsDouble v.mailbox.messages.toNat ∧ IsDouble v.mailbox.unseen.toNat) ∧ ∀ m ∈ v.messages, IsDouble m.size.toNat := by
  obtain ⟨mailbox, messages⟩ := v
  have hmessages : Reader.array Ipc.nativeMessageMetadataDto (some (.vec NativeMessageMetadataDto.serialize messages)) =
      some messages ↔ ∀ m ∈ messages, IsDouble m.size.toNat :=
    reads_array.trans (forall₂_congr fun m _ => metadata_reads m)
  rw [← mailbox_reads, ← hmessages]
  simp [NativeMailboxSnapshotDto.serialize, Ipc.nativeMailboxSnapshotDto, Ipc.object, List.lookup, Option.bind_eq_some_iff]

theorem body_reads (v : NativeBodyDto) : Ipc.nativeBodyDto (some v.serialize) = some v := by
  cases v <;> simp [NativeBodyDto.serialize, Ipc.nativeBodyDto, Ipc.kindOf, Ipc.object, List.lookup]

theorem attachment_reads (v : NativeAttachmentDto) :
    Ipc.nativeAttachmentDto (some v.serialize) = some v ↔ IsDouble v.size.toNat := by
  obtain ⟨partId, name, mediaType, size, disposition, cid⟩ := v
  rw [← reads_u64]
  simp [NativeAttachmentDto.serialize, Ipc.nativeAttachmentDto, Ipc.object, List.lookup, Option.bind_eq_some_iff]

theorem moveResponse_reads (v : NativeMoveResponse) : Ipc.nativeMoveResponse (some v.serialize) = some v := by
  simp [NativeMoveResponse.serialize, Ipc.nativeMoveResponse, Ipc.object, List.lookup]

theorem smtpSubmitResponse_reads (v : NativeSmtpSubmitResponse) : Ipc.nativeSmtpSubmitResponse (some v.serialize) = some v := by
  simp [NativeSmtpSubmitResponse.serialize, Ipc.nativeSmtpSubmitResponse, Ipc.object, List.lookup]

theorem error_reads (v : NativeMailErrorDto) : Ipc.nativeMailErrorDto (some v.serialize) = some v := by
  obtain ⟨kind, retry, session, outcome, code⟩ := v
  have hkind : Ipc.remoteErrorKind (some kind.serialize) = some kind := by cases kind <;> decide
  have hretry : Ipc.retryDisposition (some retry.serialize) = some retry := by cases retry <;> decide
  have hsession : Ipc.sessionDisposition (some session.serialize) = some session := by cases session <;> decide
  have houtcome : Ipc.operationOutcome (some outcome.serialize) = some outcome := by cases outcome <;> decide
  cases code <;>
    simp [NativeMailErrorDto.serialize, Ipc.nativeMailErrorDto, Ipc.object, Reader.absentOr, List.lookup, hkind, hretry,
      hsession, houtcome]

/-- The answers of a search are read back, but for the one that found something: its field has another name. -/
theorem findMessageId_reads (v : NativeFindMessageIdResponse) :
    Ipc.nativeFindMessageIdResponse (some v.serialize) = some v ↔ ∀ id, v ≠ .found id := by
  cases v <;>
    simp [NativeFindMessageIdResponse.serialize, Ipc.nativeFindMessageIdResponse, Ipc.kindOf, Ipc.object, List.lookup]

/-! ## Requests -/

theorem openRequest_reads (v : NativeMailOpenRequest) : NativeMailOpenRequest.deserialize (Ipc.openRequest v) = some v := by
  simp [NativeMailOpenRequest.deserialize, Ipc.openRequest, List.lookup]

theorem googleAuthorizeRequest_reads (v : GoogleAuthorizeRequest) :
    GoogleAuthorizeRequest.deserialize (Ipc.googleAuthorizeRequest v) = some v := by
  simp [GoogleAuthorizeRequest.deserialize, Ipc.googleAuthorizeRequest, List.lookup]

theorem googleForgetRequest_reads (v : GoogleForgetRequest) :
    GoogleForgetRequest.deserialize (Ipc.googleForgetRequest v) = some v := by
  simp [GoogleForgetRequest.deserialize, Ipc.googleForgetRequest, List.lookup]

theorem googleOpenRequest_reads (v : NativeGoogleMailOpenRequest) :
    NativeGoogleMailOpenRequest.deserialize (Ipc.googleOpenRequest v) = some v := by
  simp [NativeGoogleMailOpenRequest.deserialize, Ipc.googleOpenRequest, List.lookup]

theorem sessionRequest_reads (v : NativeSessionRequest) : NativeSessionRequest.deserialize (Ipc.sessionRequest v) = some v := by
  simp [NativeSessionRequest.deserialize, Ipc.sessionRequest, List.lookup]

theorem mailboxRequest_reads (v : NativeMailboxRequest) : NativeMailboxRequest.deserialize (Ipc.mailboxRequest v) = some v := by
  simp [NativeMailboxRequest.deserialize, Ipc.mailboxRequest, List.lookup]

theorem messageRequest_reads (v : NativeMessageRequest) : NativeMessageRequest.deserialize (Ipc.messageRequest v) = some v := by
  simp [NativeMessageRequest.deserialize, Ipc.messageRequest, List.lookup]

theorem findMessageIdRequest_reads (v : NativeFindMessageIdRequest) :
    NativeFindMessageIdRequest.deserialize (Ipc.findMessageIdRequest v) = some v := by
  simp [NativeFindMessageIdRequest.deserialize, Ipc.findMessageIdRequest, List.lookup]

@[simp] theorem flags_reads (flags : List NativeFlag) :
    Reader.array NativeFlag.deserialize (some (.vec Ipc.flag flags)) = some flags :=
  reads_array.2 fun f _ => by unfold Lib.Reads; cases f <;> decide

theorem storeFlagsRequest_reads (v : NativeStoreFlagsRequest) :
    NativeStoreFlagsRequest.deserialize (Ipc.storeFlagsRequest v) = some v := by
  simp [NativeStoreFlagsRequest.deserialize, Ipc.storeFlagsRequest, List.lookup]

theorem moveRequest_reads (v : NativeMoveRequest) : NativeMoveRequest.deserialize (Ipc.moveRequest v) = some v := by
  simp [NativeMoveRequest.deserialize, Ipc.moveRequest, List.lookup]

@[simp] theorem requestAddress_reads (v : NativeAddressDto) : NativeAddressDto.deserialize (some (Ipc.address v)) = some v := by
  simp [NativeAddressDto.deserialize, Ipc.address, List.lookup]

@[simp] theorem requestAddresses_reads (v : List NativeAddressDto) :
    Reader.array NativeAddressDto.deserialize (some (.vec Ipc.address v)) = some v :=
  reads_array.2 fun a _ => requestAddress_reads a

@[simp] theorem submissionBody_reads (v : NativeSubmissionBodyDto) :
    NativeSubmissionBodyDto.deserialize (some (Ipc.submissionBody v)) = some v := by
  cases v <;> simp [NativeSubmissionBodyDto.deserialize, Ipc.submissionBody, List.lookup]

theorem smtpSubmitRequest_reads (v : NativeSmtpSubmitRequest) :
    NativeSmtpSubmitRequest.deserialize (Ipc.smtpSubmitRequest v) = some v := by
  simp [NativeSmtpSubmitRequest.deserialize, Ipc.smtpSubmitRequest, List.lookup]

/-! ## The whole wire -/

/-- A value of a request or response type. -/
inductive NativeValue
  | openRequest (v : NativeMailOpenRequest)
  | googleAuthorizeRequest (v : GoogleAuthorizeRequest)
  | googleForgetRequest (v : GoogleForgetRequest)
  | googleOpenRequest (v : NativeGoogleMailOpenRequest)
  | sessionRequest (v : NativeSessionRequest)
  | mailboxRequest (v : NativeMailboxRequest)
  | messageRequest (v : NativeMessageRequest)
  | findMessageIdRequest (v : NativeFindMessageIdRequest)
  | storeFlagsRequest (v : NativeStoreFlagsRequest)
  | moveRequest (v : NativeMoveRequest)
  | smtpSubmitRequest (v : NativeSmtpSubmitRequest)
  | openResponse (v : NativeMailOpenResponse)
  | googleAuthorizeResponse (v : GoogleAuthorizeResponse)
  | mailboxes (v : List NativeMailboxDto)
  | snapshot (v : NativeMailboxSnapshotDto)
  | body (v : NativeBodyDto)
  | attachments (v : List NativeAttachmentDto)
  | findMessageIdResponse (v : NativeFindMessageIdResponse)
  | moveResponse (v : NativeMoveResponse)
  | smtpSubmitResponse (v : NativeSmtpSubmitResponse)
  | error (v : NativeMailErrorDto)

namespace NativeValue

/-- The other side reads back the value one side writes, under the other side's own names. -/
def Agrees : NativeValue → Prop
  | openRequest v => NativeMailOpenRequest.deserialize (Ipc.openRequest v) = some v
  | googleAuthorizeRequest v => GoogleAuthorizeRequest.deserialize (Ipc.googleAuthorizeRequest v) = some v
  | googleForgetRequest v => GoogleForgetRequest.deserialize (Ipc.googleForgetRequest v) = some v
  | googleOpenRequest v => NativeGoogleMailOpenRequest.deserialize (Ipc.googleOpenRequest v) = some v
  | sessionRequest v => NativeSessionRequest.deserialize (Ipc.sessionRequest v) = some v
  | mailboxRequest v => NativeMailboxRequest.deserialize (Ipc.mailboxRequest v) = some v
  | messageRequest v => NativeMessageRequest.deserialize (Ipc.messageRequest v) = some v
  | findMessageIdRequest v => NativeFindMessageIdRequest.deserialize (Ipc.findMessageIdRequest v) = some v
  | storeFlagsRequest v => NativeStoreFlagsRequest.deserialize (Ipc.storeFlagsRequest v) = some v
  | moveRequest v => NativeMoveRequest.deserialize (Ipc.moveRequest v) = some v
  | smtpSubmitRequest v => NativeSmtpSubmitRequest.deserialize (Ipc.smtpSubmitRequest v) = some v
  | openResponse v => Ipc.nativeMailOpenResponse (some v.serialize) = some v
  | googleAuthorizeResponse v => Ipc.nativeGoogleOAuthAuthorizeResponse (some v.serialize) = some v
  | mailboxes v => Reader.array Ipc.nativeMailboxDto (some (.vec NativeMailboxDto.serialize v)) = some v
  | snapshot v => Ipc.nativeMailboxSnapshotDto (some v.serialize) = some v
  | body v => Ipc.nativeBodyDto (some v.serialize) = some v
  | attachments v => Reader.array Ipc.nativeAttachmentDto (some (.vec NativeAttachmentDto.serialize v)) = some v
  | findMessageIdResponse v => Ipc.nativeFindMessageIdResponse (some v.serialize) = some v
  | moveResponse v => Ipc.nativeMoveResponse (some v.serialize) = some v
  | smtpSubmitResponse v => Ipc.nativeSmtpSubmitResponse (some v.serialize) = some v
  | error v => Ipc.nativeMailErrorDto (some v.serialize) = some v

/-- Its counts and sizes are doubles, and it is not the answer of a search that found something. -/
def Portable : NativeValue → Prop
  | mailboxes v => ∀ m ∈ v, IsDouble m.messages.toNat ∧ IsDouble m.unseen.toNat
  | snapshot v => (IsDouble v.mailbox.messages.toNat ∧ IsDouble v.mailbox.unseen.toNat) ∧ ∀ m ∈ v.messages, IsDouble m.size.toNat
  | attachments v => ∀ a ∈ v, IsDouble a.size.toNat
  | findMessageIdResponse v => ∀ id, v ≠ .found id
  | _ => True

theorem agrees_iff (v : NativeValue) : v.Agrees ↔ v.Portable := by
  cases v with
  | openRequest v => exact iff_of_true (openRequest_reads v) trivial
  | googleAuthorizeRequest v => exact iff_of_true (googleAuthorizeRequest_reads v) trivial
  | googleForgetRequest v => exact iff_of_true (googleForgetRequest_reads v) trivial
  | googleOpenRequest v => exact iff_of_true (googleOpenRequest_reads v) trivial
  | sessionRequest v => exact iff_of_true (sessionRequest_reads v) trivial
  | mailboxRequest v => exact iff_of_true (mailboxRequest_reads v) trivial
  | messageRequest v => exact iff_of_true (messageRequest_reads v) trivial
  | findMessageIdRequest v => exact iff_of_true (findMessageIdRequest_reads v) trivial
  | storeFlagsRequest v => exact iff_of_true (storeFlagsRequest_reads v) trivial
  | moveRequest v => exact iff_of_true (moveRequest_reads v) trivial
  | smtpSubmitRequest v => exact iff_of_true (smtpSubmitRequest_reads v) trivial
  | openResponse v => exact iff_of_true (openResponse_reads v) trivial
  | googleAuthorizeResponse v => exact iff_of_true (googleAuthorizeResponse_reads v) trivial
  | mailboxes v => exact reads_array.trans (forall₂_congr fun m _ => mailbox_reads m)
  | snapshot v => exact snapshot_reads v
  | body v => exact iff_of_true (body_reads v) trivial
  | attachments v => exact reads_array.trans (forall₂_congr fun a _ => attachment_reads a)
  | findMessageIdResponse v => exact findMessageId_reads v
  | moveResponse v => exact iff_of_true (moveResponse_reads v) trivial
  | smtpSubmitResponse v => exact iff_of_true (smtpSubmitResponse_reads v) trivial
  | error v => exact iff_of_true (error_reads v) trivial

end NativeValue

/-! ## What becomes of a message id that is found -/

/-- What a prototype provides is no email id. -/
theorem imapEmailIdOf_inherited (e : Engine) (kind : JsKind) (key : String) :
    ∃ x, imapEmailIdOf e (JsValue.inherited e kind key) = .error x := by
  unfold JsValue.inherited
  split
  · by_cases h : e.inherits .builtin "uidValidity" <;>
      simp [imapEmailIdOf, JsValue.get, JsValue.inherited, positiveInteger, h, Except.mapError, bind, Except.bind]
  · simp [imapEmailIdOf, JsValue.get, Except.mapError, bind, Except.bind]

/-- Nothing is read under `emailId`, whatever an object inherits, that has a uid validity. -/
theorem evidence_found (e : Engine) (id : NativeFoundEmailIdDto) :
    ∃ x, evidence e (NativeFindMessageIdResponse.found id).serialize = .error x := by
  have wire : (NativeFindMessageIdResponse.found id).serialize = .obj [("kind", .str "found"), ("email_id", id.serialize)] := by
    simp [NativeFindMessageIdResponse.serialize]
  have kind : JsValue.get e (.obj [("kind", .str "found"), ("email_id", id.serialize)]) "kind" = .ok (.str "found") := by
    simp [JsValue.get, List.lookup]
  have emailId : JsValue.get e (.obj [("kind", .str "found"), ("email_id", id.serialize)]) "emailId" =
      .ok (JsValue.inherited e .obj "emailId") := by
    simp [JsValue.get, List.lookup]
  obtain ⟨x, hx⟩ := imapEmailIdOf_inherited e .obj "emailId"
  refine ⟨x, ?_⟩
  simp [evidence, wire, kind, emailId, hx, JsValue.isText, Except.mapError, bind, Except.bind]

/-- The native side found the message of the send in its sent mailbox, as `id`. -/
def FoundBy {S : Type} (native : NativeImap S) (idempotencyKey : String) (id : NativeFoundEmailIdDto) : Prop :=
  ∃ mailboxes sent s, native.listMailboxes = .ok mailboxes ∧ mailboxes.filter isSent = [sent] ∧
    native.connection.findMessageId sent.name (smtpMessageId idempotencyKey) native.state = .ok (.found id) s

theorem reconcileSend_found {S : Type} (e : Engine) (self : ImapMutationReconciler) {native : NativeImap S}
    {idempotencyKey : String} {id : NativeFoundEmailIdDto} (h : FoundBy native idempotencyKey id) :
    ∃ x, reconcileSend e self native self.accountId idempotencyKey = .error x := by
  obtain ⟨mailboxes, sent, s, hlist, hsent, hfind⟩ := h
  obtain ⟨x, hx⟩ := evidence_found e id
  refine ⟨toNativeRemoteError x, ?_⟩
  simp [reconcileSend, hlist, hsent, hfind, settles, hx, Except.mapError, bind, Except.bind]

/-- The two sides agree on a value if and only if its numbers are doubles and it is no message id that was found;
and no send whose message was found is ever reported as applied. -/
theorem native_wire_agrees_iff (v : NativeValue) :
    (v.Agrees ↔ v.Portable) ∧
      ∀ (S : Type) (e : Engine) (self : ImapMutationReconciler) (native : NativeImap S) (idempotencyKey : String)
        (id : NativeFoundEmailIdDto), FoundBy native idempotencyKey id →
          ∀ emailId, reconcileSend e self native self.accountId idempotencyKey ≠ .ok (.applied emailId) := by
  refine ⟨v.agrees_iff, fun S e self native idempotencyKey id h emailId => ?_⟩
  obtain ⟨x, hx⟩ := reconcileSend_found e self h
  rw [hx]
  rintro ⟨⟩

/-- A sent mailbox that holds message 42, whose message id is that of the send `k`. -/
def sampleImap : NativeImap Unit :=
  ⟨.ok [⟨"Sent", 1, 0, 71, 43, some "\\Sent"⟩],
    ⟨fun _ => pure 71, fun _ => pure [42], fun _ => pure (some (smtpMessageId "k"))⟩, ()⟩

theorem sampleImap_found : FoundBy sampleImap "k" ⟨"Sent", 71, 42⟩ := by
  refine ⟨_, ⟨"Sent", 1, 0, 71, 43, some "\\Sent"⟩, (), rfl, by decide, ?_⟩
  simp [sampleImap, ImapConnection.findMessageId, ImapConnection.exactMatch, ImapConnection.maxMessageIdCandidates, bind,
    EStateM.bind, pure, EStateM.pure]

/-- A mailbox crosses the wire, and the send `k` is never confirmed. -/
theorem sampleImap_never_applied :
    (NativeValue.mailboxes [⟨"INBOX", 3, 1, 71, 4, none⟩]).Agrees ∧
      ∀ emailId, reconcileSend ⟨fun _ _ => false, fun _ => ""⟩ ⟨"s", "a"⟩ sampleImap "a" "k" ≠ .ok (.applied emailId) :=
  ⟨(native_wire_agrees_iff (.mailboxes _)).1.2 fun m hm => by rw [List.mem_singleton.1 hm]; decide,
    (native_wire_agrees_iff (.mailboxes [])).2 Unit _ ⟨"s", "a"⟩ sampleImap "k" _ sampleImap_found⟩

/-- The answer `Found` is not read back, and the send it is about is not reported as applied. -/
theorem found_send_not_applied :
    ¬ (NativeValue.findMessageIdResponse (.found ⟨"Sent", 71, 42⟩)).Agrees ∧
      FoundBy sampleImap "k" ⟨"Sent", 71, 42⟩ ∧
      (∃ emailId, imapEmailId ⟨"Sent", 71, 42⟩ = .ok emailId ∧
        reconcileSend ⟨fun _ _ => false, fun _ => ""⟩ ⟨"s", "a"⟩ sampleImap "a" "k" ≠ .ok (.applied emailId)) := by
  refine ⟨fun h => (NativeValue.agrees_iff _).1 h _ rfl, sampleImap_found, _, rfl, fun h => ?_⟩
  obtain ⟨x, hx⟩ := reconcileSend_found ⟨fun _ _ => false, fun _ => ""⟩ ⟨"s", "a"⟩ sampleImap_found
  rw [hx] at h
  cases h

end Boxplot.Remote
