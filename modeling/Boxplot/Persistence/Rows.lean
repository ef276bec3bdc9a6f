import Boxplot.Lib.State
import Boxplot.Persistence.Schema
/-!
# Records in rows

How `src-tauri/src/persistence/engine.rs` puts a record into a row and makes a
record of a row. Whatever is written is read back.
-/

namespace Boxplot.Persistence

open Lib

/-! ## Columns -/

def maxSafeInteger : Nat := 9007199254740991

def toI64 (v : UInt64) : PersistResult Int := if maxSafeInteger < v.toNat then .error .conflict else .ok v.toNat

def decodeU64 (v : Int) : PersistResult UInt64 := do
  corruptIf (v < 0) "out of range integral type conversion attempted"
  corruptIf (maxSafeInteger < v) "integer out of range"
  return UInt64.ofNat v.toNat

/-- How `rusqlite` reads a column as a `u32`. -/
def decodeU32 (v : Int) : PersistResult UInt32 := do
  corruptIf (v < 0 ∨ 2 ^ 32 ≤ v) "integer out of range"
  return UInt32.ofNat v.toNat

def boolI64 (v : Bool) : Int := if v then 1 else 0

/-- How `rusqlite` reads a column as a `bool`. -/
def decodeBool (v : Int) : Bool := v ≠ 0

/-! ## Rows read -/

/-- `query_row(..).optional()`: no row is no error, and the row there is must decode. -/
def readRow {R α : Type} (ofRow : R → PersistResult α) : Option R → PersistResult (Option α)
  | none => .ok none
  | some r => (ofRow r).map some

def accountOfRow (key : String) (r : AccountRow) : PersistResult Account :=
  .ok { key, serviceKey := r.serviceKey, jmapAccountId := r.jmapAccountId }

def mailboxOfRow (key : String × String) (r : MailboxRow) : PersistResult Mailbox := do
  let v : Mailbox :=
    { accountKey := key.1, jmapId := key.2, name := r.name, parentJmapId := r.parentJmapId, role := r.role,
      sortOrder := ← decodeU32 r.sortOrder, totalEmails := ← decodeU64 r.totalEmails,
      unreadEmails := ← decodeU64 r.unreadEmails,
      rights :=
        { mayReadItems := decodeBool r.mayReadItems, mayAddItems := decodeBool r.mayAddItems,
          mayRemoveItems := decodeBool r.mayRemoveItems, maySetSeen := decodeBool r.maySetSeen,
          maySetKeywords := decodeBool r.maySetKeywords, maySubmit := decodeBool r.maySubmit } }
  validateMailbox v
  return v

def identityOfRow (key : String × String) (r : IdentityRow) : PersistResult Identity := do
  nonEmpty r.email "Identity email"
  return { accountKey := key.1, jmapId := key.2, name := r.name, email := r.email,
           replyTo := ← decode readAddressList r.replyToJson "Identity replyTo",
           bcc := ← decode readAddressList r.bccJson "Identity bcc" }

def emailOfRow (key : String × String) (r : EmailRow) : PersistResult Email := do
  let sender ← decode readAddressList r.senderJson "Email sender"
  let «from» ← decode readAddressList r.fromJson "Email from"
  let replyTo ← decode readAddressList r.replyToJson "Email replyTo"
  let «to» ← decode readAddressList r.toJson "Email to"
  let cc ← decode readAddressList r.ccJson "Email cc"
  let bcc ← decode readAddressList r.bccJson "Email bcc"
  corruptIf (r.size < 0) "negative Email size"
  let keywords ← decode (Reader.array .string) r.keywordsJson "Email keywords"
  let value : Email :=
    { accountKey := key.1, jmapId := key.2, blobId := r.blobId, threadId := r.threadId, sender, «from», replyTo, «to», cc, bcc,
      subject := r.subject, sentAt := r.sentAt, receivedAt := r.receivedAt, size := UInt64.ofNat r.size.toNat,
      preview := r.preview, hasAttachment := decodeBool r.hasAttachment, keywords }
  validateEmail value
  return value

def bodyOfRow (key : String × String) (r : EmailBodyRow) : PersistResult EmailBody :=
  .ok { accountKey := key.1, emailJmapId := key.2, text := r.textBody, html := r.htmlBody }

def attachmentOfRow (key : String × String) (e : String × AttachmentRow) : PersistResult AttachmentRef := do
  return { accountKey := key.1, emailJmapId := key.2, partId := e.1, blobId := e.2.blobId, name := e.2.name,
           mediaType := e.2.mediaType, size := ← decodeU64 e.2.size, disposition := e.2.disposition, cid := e.2.cid }

def attachmentsOfRows (key : String × String) (rows : List (String × AttachmentRow)) : PersistResult (List AttachmentRef) := do
  let values ← rows.mapM (attachmentOfRow key)
  values.forM validateAttachment
  return values

/-- A view's own row, its coverage and its items. -/
abbrev ViewRows := MailboxViewRow × List (Nat × CoverageRow) × List (Int × String)

def rangeOfRow (e : Nat × CoverageRow) : PersistResult CoverageRange := do
  return { start := ← decodeU64 e.2.start, endExclusive := ← decodeU64 e.2.endExclusive }

def itemOfRow (e : Int × String) : PersistResult ViewItem := do
  return { position := ← decodeU64 e.1, emailJmapId := e.2 }

def viewOfRows (spec : MailboxViewSpec) (rows : ViewRows) : PersistResult MailboxView := do
  let total ← decodeU64 rows.1.total
  let coverage ← rows.2.1.mapM rangeOfRow
  let items ← rows.2.2.mapM itemOfRow
  let v : MailboxView := { spec, queryState := rows.1.queryState, total, coverage, items }
  validateView v
  return v

def cursorOfRow (account : String) (dataType : CollectionDataType) (state : String) : PersistResult CollectionSyncCursor :=
  .ok { accountKey := account, dataType, state }

/-- A value the rest cannot do without. -/
def required {α : Type} (value : Option α) (missing : String) : PersistResult α :=
  match value with
  | some v => .ok v
  | none => .error (.corruptState missing)

def payloadOfRow (r : MutationRow) : PersistResult MutationPayload :=
  if r.kind = "send" then do
    let send ← required r.sendIntentJson "send payload missing"
    return .send (← decode SendIntent.deserialize send "SendIntent")
  else if r.kind = "keyword" then do
    let target ← required r.targetEmailJmapId "keyword target missing"
    let change ← required r.keywordChangeJson "keyword payload missing"
    return .keyword target (← decode KeywordChange.deserialize change "KeywordChange")
  else if r.kind = "mailboxMembership" then do
    let target ← required r.targetEmailJmapId "membership target missing"
    let change ← required r.membershipChangeJson "membership payload missing"
    return .mailboxMembership target (← decode MembershipChange.deserialize change "MembershipChange")
  else .error (.corruptState "invalid mutation kind")

def mutationOfRow (key : String × String) (r : MutationRow) : PersistResult PendingMutation := do
  let payload ← payloadOfRow r
  let m : PendingMutation :=
    { accountKey := key.1, mutationId := key.2, createdAt := r.createdAt, payload,
      lifecycle := ← decode MutationLifecycle.deserialize r.lifecycleJson "MutationLifecycle" }
  validateMutation m
  return m

/-! ## Rows written -/

def mailboxRowOf (v : Mailbox) : PersistResult MailboxRow := do
  return { name := v.name, parentJmapId := v.parentJmapId, role := v.role, sortOrder := v.sortOrder.toNat,
           totalEmails := ← toI64 v.totalEmails, unreadEmails := ← toI64 v.unreadEmails,
           mayReadItems := boolI64 v.rights.mayReadItems, mayAddItems := boolI64 v.rights.mayAddItems,
           mayRemoveItems := boolI64 v.rights.mayRemoveItems, maySetSeen := boolI64 v.rights.maySetSeen,
           maySetKeywords := boolI64 v.rights.maySetKeywords, maySubmit := boolI64 v.rights.maySubmit }

def identityRowOf (v : Identity) : IdentityRow :=
  { name := v.name, email := v.email, replyToJson := addressListJson v.replyTo, bccJson := addressListJson v.bcc }

def emailRowOf (v : Email) : PersistResult EmailRow := do
  return { blobId := v.blobId, threadId := v.threadId, senderJson := addressListJson v.sender,
           fromJson := addressListJson v.from, replyToJson := addressListJson v.replyTo, toJson := addressListJson v.to,
           ccJson := addressListJson v.cc, bccJson := addressListJson v.bcc, subject := v.subject, sentAt := v.sentAt,
           receivedAt := v.receivedAt, size := ← toI64 v.size, preview := v.preview,
           hasAttachment := boolI64 v.hasAttachment, keywordsJson := .vec .str v.keywords }

def attachmentRowOf (r : AttachmentRef) : PersistResult (String × AttachmentRow) := do
  return (r.partId, { blobId := r.blobId, name := r.name, mediaType := r.mediaType, size := ← toI64 r.size,
                      disposition := r.disposition, cid := r.cid })

def coverageRowOf (r : CoverageRange) : PersistResult CoverageRow := do
  return { start := ← toI64 r.start, endExclusive := ← toI64 r.endExclusive }

def itemRowOf (i : ViewItem) : PersistResult (Int × String) := do
  return (← toI64 i.position, i.emailJmapId)

/-- The rows of coverage under their ordinals. -/
def ordinals (rows : List CoverageRow) : List (Nat × CoverageRow) := rows.zipIdx.map fun e => (e.2, e.1)

theorem ordinals_sorted (rows : List CoverageRow) : ((ordinals rows).map (·.1)).Pairwise (· < ·) := by
  have hkeys : (ordinals rows).map (·.1) = List.range' 0 rows.length := by
    rw [ordinals, List.map_map]
    exact List.zipIdx_map_snd 0 rows
  rw [hkeys]
  exact List.pairwise_lt_range'

theorem mem_ordinals {rows : List CoverageRow} {e : Nat × CoverageRow} (h : e ∈ ordinals rows) : e.2 ∈ rows := by
  obtain ⟨⟨r, n⟩, hr, rfl⟩ := List.mem_map.1 h
  exact List.fst_mem_of_mem_zipIdx hr

/-- `mutation_parts` and the row made of them. -/
def mutationRowOf (m : PendingMutation) : MutationRow :=
  let empty : MutationRow :=
    { kind := "", createdAt := m.createdAt, targetEmailJmapId := none, sendIntentJson := none, keywordChangeJson := none,
      membershipChangeJson := none, lifecycleJson := m.lifecycle.serialize }
  match m.payload with
  | .send v => { empty with kind := "send", sendIntentJson := some v.serialize }
  | .keyword emailJmapId change =>
    { empty with kind := "keyword", targetEmailJmapId := some emailJmapId, keywordChangeJson := some change.serialize }
  | .mailboxMembership emailJmapId change =>
    { empty with kind := "mailboxMembership", targetEmailJmapId := some emailJmapId, membershipChangeJson := some change.serialize }

/-! ## Whatever is written is read back -/

theorem toI64_ok {v : UInt64} {n : Int} : toI64 v = .ok n ↔ v.toNat ≤ maxSafeInteger ∧ n = v.toNat := by
  unfold toI64
  split
  · rename_i h
    simp only [reduceCtorEq, false_iff]
    omega
  · rename_i h
    simp only [Except.ok.injEq, not_lt] at h ⊢
    simp [h, eq_comm]

@[simp] theorem decodeU64_toNat {v : UInt64} (h : v.toNat ≤ maxSafeInteger) : decodeU64 (v.toNat : Int) = .ok v := by
  have hneg : corruptIf ((v.toNat : Int) < 0) "out of range integral type conversion attempted" = .ok () :=
    corruptIf_ok.2 (by omega)
  have hmax : corruptIf ((maxSafeInteger : Int) < v.toNat) "integer out of range" = .ok () := corruptIf_ok.2 (by omega)
  simp only [decodeU64, hneg, hmax, Int.toNat_natCast, UInt64.ofNat_toNat]
  rfl

@[simp] theorem decodeU32_toNat (v : UInt32) : decodeU32 (v.toNat : Int) = .ok v := by
  have hlt : v.toNat < 2 ^ 32 := v.toNat_lt
  have hout : corruptIf ((v.toNat : Int) < 0 ∨ 2 ^ 32 ≤ (v.toNat : Int)) "integer out of range" = .ok () :=
    corruptIf_ok.2 (by omega)
  simp only [decodeU32, hout, Int.toNat_natCast, UInt32.ofNat_toNat]
  rfl

@[simp] theorem decodeBool_boolI64 (v : Bool) : decodeBool (boolI64 v) = v := by cases v <;> rfl

theorem mailboxOfRow_rowOf {v : Mailbox} {r : MailboxRow} (hv : validateMailbox v = .ok ()) (hr : mailboxRowOf v = .ok r) :
    mailboxOfRow (v.accountKey, v.jmapId) r = .ok v := by
  unfold mailboxRowOf at hr
  obtain ⟨total, ht, hr⟩ := except_bind_eq_ok.1 hr
  obtain ⟨unread, hu, hr⟩ := except_bind_eq_ok.1 hr
  obtain ⟨hle, rfl⟩ := toI64_ok.1 ht
  obtain ⟨hle', rfl⟩ := toI64_ok.1 hu
  cases hr
  simp only [mailboxOfRow, decodeU32_toNat, decodeU64_toNat hle, decodeU64_toNat hle', decodeBool_boolI64]
  simp only [bind, Except.bind, hv, pure, Except.pure]

theorem identityOfRow_rowOf {v : Identity} (hv : v.email ≠ "") :
    identityOfRow (v.accountKey, v.jmapId) (identityRowOf v) = .ok v := by
  have hemail : nonEmpty v.email "Identity email" = .ok () := nonEmpty_ok.2 hv
  simp only [identityOfRow, identityRowOf, hemail, decode_eq_ok.2 (addressList_reads _)]
  rfl

theorem emailOfRow_rowOf {v : Email} {r : EmailRow} (hv : validateEmail v = .ok ()) (hr : emailRowOf v = .ok r) :
    emailOfRow (v.accountKey, v.jmapId) r = .ok v := by
  unfold emailRowOf at hr
  obtain ⟨size, hs, hr⟩ := except_bind_eq_ok.1 hr
  obtain ⟨hle, rfl⟩ := toI64_ok.1 hs
  cases hr
  have hsize : corruptIf ((v.size.toNat : Int) < 0) "negative Email size" = .ok () := corruptIf_ok.2 (by omega)
  have hkeywords : decode (Reader.array .string) (.vec .str v.keywords) "Email keywords" = .ok v.keywords :=
    decode_eq_ok.2 (array_string _)
  simp only [emailOfRow, decode_eq_ok.2 (addressList_reads _), hsize, hkeywords, decodeBool_boolI64, Int.toNat_natCast,
    UInt64.ofNat_toNat]
  simp only [bind, Except.bind, hv, pure, Except.pure]

theorem attachmentOfRow_rowOf {v : AttachmentRef} {e : String × AttachmentRow} (hr : attachmentRowOf v = .ok e) :
    attachmentOfRow (v.accountKey, v.emailJmapId) e = .ok v := by
  unfold attachmentRowOf at hr
  obtain ⟨size, hs, hr⟩ := except_bind_eq_ok.1 hr
  obtain ⟨hle, rfl⟩ := toI64_ok.1 hs
  cases hr
  simp only [attachmentOfRow, decodeU64_toNat hle]
  rfl

theorem rangeOfRow_rowOf {v : CoverageRange} {r : CoverageRow} (hr : coverageRowOf v = .ok r) (ordinal : Nat) :
    rangeOfRow (ordinal, r) = .ok v := by
  unfold coverageRowOf at hr
  obtain ⟨start, hs, hr⟩ := except_bind_eq_ok.1 hr
  obtain ⟨stop, he, hr⟩ := except_bind_eq_ok.1 hr
  obtain ⟨hle, rfl⟩ := toI64_ok.1 hs
  obtain ⟨hle', rfl⟩ := toI64_ok.1 he
  cases hr
  simp only [rangeOfRow, decodeU64_toNat hle, decodeU64_toNat hle']
  rfl

theorem itemOfRow_rowOf {v : ViewItem} {e : Int × String} (hr : itemRowOf v = .ok e) :
    itemOfRow e = .ok v ∧ e.1 = v.position.toNat := by
  unfold itemRowOf at hr
  obtain ⟨position, hp, hr⟩ := except_bind_eq_ok.1 hr
  obtain ⟨hle, rfl⟩ := toI64_ok.1 hp
  cases hr
  refine ⟨?_, rfl⟩
  simp only [itemOfRow, decodeU64_toNat hle]
  rfl

/-- The rows of a list that was written are read as the list. -/
theorem mapM_ofRow {α β : Type} {write : α → PersistResult β} {read : β → PersistResult α}
    (h : ∀ a b, write a = .ok b → read b = .ok a) {l : List α} {rows : List β} (hr : l.mapM write = .ok rows) :
    rows.mapM read = .ok l :=
  mapM_eq_ok.2 ((mapM_eq_ok.1 hr).flip.imp fun b a hab => h a b hab)

theorem mutationOfRow_rowOf {m : PendingMutation} (hm : validateMutation m = .ok ()) :
    mutationOfRow (m.accountKey, m.mutationId) (mutationRowOf m) = .ok m := by
  have hpayload : payloadOfRow (mutationRowOf m) = .ok m.payload := by
    obtain ⟨account, id, created, payload, lifecycle⟩ := m
    cases payload with
    | send intent => simp [payloadOfRow, mutationRowOf, required, decode, bind, Except.bind, pure, Except.pure]
    | keyword email change => simp [payloadOfRow, mutationRowOf, required, decode, bind, Except.bind, pure, Except.pure]
    | mailboxMembership email change =>
      simp [payloadOfRow, mutationRowOf, required, decode, bind, Except.bind, pure, Except.pure]
  have hlifecycle : decode MutationLifecycle.deserialize (mutationRowOf m).lifecycleJson "MutationLifecycle" = .ok m.lifecycle := by
    have hjson : (mutationRowOf m).lifecycleJson = m.lifecycle.serialize := by unfold mutationRowOf; cases m.payload <;> rfl
    rw [hjson]
    exact decode_eq_ok.2 (lifecycle_reads _)
  have hcreated : (mutationRowOf m).createdAt = m.createdAt := by unfold mutationRowOf; cases m.payload <;> rfl
  simp only [mutationOfRow, hpayload, hlifecycle, hcreated]
  simp only [bind, Except.bind, hm, pure, Except.pure]

end Boxplot.Persistence
