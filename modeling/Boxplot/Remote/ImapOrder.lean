import Boxplot.Lib.Sorting
import Boxplot.Net.InternalDate
import Boxplot.Remote.ImapAccountSnapshot
import Boxplot.Remote.ImapIdCodec
import Boxplot.Remote.ImapSync
/-!
# Querying a mailbox over IMAP

`ImapRemoteMail.queryMailbox` of `src/remote/imap/imap-remote-mail.ts`. Every
query reads the whole mailbox, sorts its messages by the text of their internal
dates, with the server's offsets in them, and cuts a page out of them. The
offsets make texts and instants differ; when they do not, the pages of an
unchanged mailbox put together are its messages, the latest first.
-/

namespace Boxplot.Remote

open Domain Lib Net

namespace ImapSyncMail

variable (js : JsText) (self : ImapSyncMail)

/-- The uids are looked at only where the dates are equal. -/
def compareEmails (left right : RemoteEmail) : Except RemoteError Int := do
  let order := js.localeCompare right.receivedAt left.receivedAt
  if order ≠ 0 then .ok order
  else do
    let rightId ← decodeImapEmailId right.id
    let leftId ← decodeImapEmailId left.id
    .ok ((rightId.uid : Int) - leftId.uid)

/-- The list that pages are cut from. -/
def sortedEmails (messages : List NativeMessageMetadataDto) : Except RemoteError (List RemoteEmail) := do
  let emails ← messages.mapM mapNativeEmail
  sortM (compareEmails js) emails

def queryMark (value : NativeMessageMetadataDto) : JsValue :=
  .arr [.num value.uidValidity.toNat, .num value.uid.toNat, .str value.internalDate]

/-- Where the page begins. -/
def pagePosition (mailbox : String) (emails : List RemoteEmail) (options : RemoteQueryOptions) : Except RemoteError Nat := do
  let requestedPosition := options.position.getD 0
  if maxSafeInteger < requestedPosition ∨ requestedPosition < 0 then .error (ImapRemoteMail.unsupported "Invalid mailbox position")
  else
    match options.anchor with
    | none => .ok requestedPosition.toNat
    | some anchor => do
      let decoded ← decodeImapEmailId anchor
      if decoded.mailbox ≠ mailbox then .error (ImapRemoteMail.invalidState "Anchor belongs to another mailbox")
      else
        match emails.findIdx? fun email => email.id = anchor with
        | none => .error (ImapRemoteMail.invalidState "Anchor is absent from mailbox")
        | some index => .ok (max 0 (index + options.anchorOffset.getD 0)).toNat

/-- What a query makes of the mailbox it has read. -/
def cutPage (mailbox : String) (messages : List NativeMessageMetadataDto) (options : RemoteQueryOptions) :
    Except RemoteError RemoteMailboxQuery := do
  let emails ← sortedEmails js messages
  let position ← pagePosition mailbox emails options
  let limit := options.limit.getD 500
  if maxSafeInteger < limit then .error (ImapRemoteMail.unsupported "Invalid mailbox limit")
  else
    .ok { ids := ((emails.drop position).take limit).map (·.id), queryState := js.state "query" (messages.map queryMark),
          total := emails.length, position, canCalculateChanges := false }

/-- `filtered`: a filter is given. -/
def queryMailbox (accountId mailboxId : String) (filtered : Bool) (options : RemoteQueryOptions) : ImapMailCall RemoteMailboxQuery := do
  Async.lift ((self.assertAccount accountId).mapError .remote)
  if filtered then throw (.remote (ImapRemoteMail.unsupported "IMAP MVP does not support mailbox filters"))
  else
    tryCatch (do
      let mailbox ← Async.lift ((decodeImapMailboxId mailboxId).mapError .remote)
      let snapshot : NativeMailboxSnapshotDto ← invoke (.snapshotMailbox self.sessionId mailbox)
      Async.lift ((cutPage js mailbox snapshot.messages options).mapError .remote))
      fun error => throw (toNativeRemoteError error)

end ImapSyncMail

open Net.ImapText

/-! ## Texts of dates -/

/-- Digits, and the signs and the letter of RFC 3339. -/
def isDateByte (b : UInt8) : Bool := isDigitByte b || b = 45 || b = 58 || b = 43 || b = 84

/-- A collation puts the hyphen first, then the colon, the plus sign, the digits and the letter. -/
def collationWeight (b : UInt8) : Nat := if b = 45 then 0 else if b = 58 then 1 else if b = 43 then 2 else b.toNat

def weights (text : String) : List Nat := (bytes text).map collationWeight

/-- `localeCompare` compares the texts of dates character by character. -/
def JsText.OrdersDates (js : JsText) : Prop :=
  ∀ s t : String, (∀ b ∈ bytes s, isDateByte b = true) → (∀ b ∈ bytes t, isDateByte b = true) →
    (js.localeCompare s t < 0 ↔ weights s < weights t) ∧ (js.localeCompare s t = 0 ↔ weights s = weights t)

theorem isDateByte_iff {b : UInt8} : isDateByte b = true ↔ IsDigit b ∨ b = 45 ∨ b = 58 ∨ b = 43 ∨ b = 84 := by
  simp [isDateByte, isDigitByte_iff, or_assoc]

theorem collationWeight_digit {b : UInt8} (h : IsDigit b) : collationWeight b = b.toNat ∧ 48 ≤ b.toNat ∧ b.toNat ≤ 57 := by
  refine ⟨?_, h⟩
  have hne : ∀ c : UInt8, c = b → 48 ≤ c.toNat ∧ c.toNat ≤ 57 := by
    rintro c rfl
    exact h
  unfold collationWeight
  rw [if_neg fun heq => absurd (hne 45 heq.symm) (by decide), if_neg fun heq => absurd (hne 58 heq.symm) (by decide),
    if_neg fun heq => absurd (hne 43 heq.symm) (by decide)]

theorem collationWeight_injective {b c : UInt8} (hb : isDateByte b = true) (hc : isDateByte c = true)
    (h : collationWeight b = collationWeight c) : b = c := by
  have hweights : collationWeight 45 = 0 ∧ collationWeight 58 = 1 ∧ collationWeight 43 = 2 ∧ collationWeight 84 = 84 := by decide
  obtain ⟨h45, h58, h43, h84⟩ := hweights
  rcases isDateByte_iff.1 hb with hb | hb | hb | hb | hb <;> rcases isDateByte_iff.1 hc with hc | hc | hc | hc | hc
  · rw [(collationWeight_digit hb).1, (collationWeight_digit hc).1] at h
    exact UInt8.toNat_inj.1 h
  all_goals
    try have hdigit := collationWeight_digit hb
    try have hdigit := collationWeight_digit hc
    subst_vars
    first
      | rfl
      | omega

theorem weights_injective {s t : String} (hs : ∀ b ∈ bytes s, isDateByte b = true) (ht : ∀ b ∈ bytes t, isDateByte b = true)
    (h : weights s = weights t) : s = t := by
  apply bytes_injective
  unfold weights at h
  generalize bytes s = l at hs h
  generalize bytes t = l' at ht h
  induction l generalizing l' with
  | nil =>
    cases l' with
    | nil => rfl
    | cons c rest => cases h
  | cons b rest ih =>
    cases l' with
    | nil => cases h
    | cons c rest' =>
      obtain ⟨hhead, htail⟩ := List.cons.inj h
      rw [collationWeight_injective (hs b List.mem_cons_self) (ht c List.mem_cons_self) hhead,
        ih (fun b hb => hs b (List.mem_cons_of_mem _ hb)) rest' (fun b hb => ht b (List.mem_cons_of_mem _ hb)) htail]

/-- The text of a date and a time of full seconds. -/
theorem isDateByte_text {d : DateTime} (hfraction : d.time.fraction = []) {b : UInt8} (hb : b ∈ d.text) : isDateByte b = true := by
  have hsign : d.offset.sign = 45 ∨ d.offset.sign = 43 := by
    unfold Offset.sign
    split
    · exact .inl rfl
    · exact .inr rfl
  have hdigits : ∀ {width n : Nat}, b ∈ Lib.digits width n → IsDigit b := isDigit_digits
  rw [isDateByte_iff]
  simp only [DateTime.text, Date.text, Time.text, Offset.text, hfraction, fractionText, List.mem_append, List.mem_cons, List.append_nil]
    at hb
  rcases hb with (h | rfl | h | rfl | h) | rfl | (h | rfl | h | rfl | h) | rfl | h | rfl | h
  all_goals first
    | exact .inl (hdigits h)
    | simp
    | (rcases hsign with h | h <;> simp [h])

/-! ## Internal dates -/

/-- The internal date was made of this date and time, in full seconds. -/
def Dated (m : NativeMessageMetadataDto) (d : DateTime) : Prop :=
  d.time.fraction = [] ∧ ∃ value : String, Fields (bytes value) (imapDateOf d) ∧
    imapDateToRfc3339 (bytes value) = some (some (bytes m.internalDate))

theorem fields_unique {value : List UInt8} {d d' : ImapDate} (h : Fields value d) (h' : Fields value d') : d = d' := by
  obtain ⟨date, more, day, month, year, rest, hwords, hsplit, hday, hmonth, hyear⟩ := h
  obtain ⟨date', more', day', month', year', rest', hwords', hsplit', hday', hmonth', hyear'⟩ := h'
  obtain ⟨rfl, htime, hzone, rfl⟩ : date = date' ∧ d.time = d'.time ∧ d.timezone = d'.timezone ∧ more = more' := by
    simpa using hwords.symm.trans hwords'
  obtain ⟨rfl, rfl, rfl, rfl⟩ : day = day' ∧ month = month' ∧ year = year' ∧ rest = rest' := by
    simpa using hsplit.symm.trans hsplit'
  have hd := Option.some.inj (hday.symm.trans hday')
  have hm := Option.some.inj (hmonth.symm.trans hmonth')
  have hy := Option.some.inj (hyear.symm.trans hyear')
  cases d
  cases d'
  simp_all

theorem Dated.text {m : NativeMessageMetadataDto} {d : DateTime} (h : Dated m d) : bytes m.internalDate = d.text := by
  obtain ⟨-, value, hfields, hvalue⟩ := h
  unfold imapDateToRfc3339 at hvalue
  split at hvalue
  · cases hvalue
  · rename_i d' hread
    split at hvalue
    · cases hvalue
    · obtain ⟨hfields', -, -⟩ := readImapDate_eq_some.1 hread
      obtain rfl := fields_unique hfields' hfields
      have hresult : (imapDateOf d).toRfc3339 = bytes m.internalDate := Option.some.inj (Option.some.inj hvalue)
      rw [← hresult]
      exact (toRfc3339_eq (by simp [imapDateOf, timezoneText])).2 ⟨rfl, rfl, rfl, rfl, rfl⟩

theorem Dated.dateBytes {m : NativeMessageMetadataDto} {d : DateTime} (h : Dated m d) : ∀ b ∈ bytes m.internalDate, isDateByte b = true := by
  intro b hb
  rw [h.text] at hb
  exact isDateByte_text h.1 hb

/-! ## A snapshot -/

/-- Messages of one mailbox, as a server numbers and dates them. -/
structure SnapshotOf (mailbox : String) (messages : List NativeMessageMetadataDto) (date : NativeMessageMetadataDto → DateTime) : Prop where
  mailbox : ∀ m ∈ messages, m.mailbox = mailbox
  positive : ∀ m ∈ messages, 0 < m.uidValidity ∧ 0 < m.uid
  uids : (messages.map (·.uid)).Nodup
  dated : ∀ m ∈ messages, Dated m (date m)

/-- Received at a later instant, or at the same one with the greater uid. -/
def Later (date : NativeMessageMetadataDto → DateTime) (a b : NativeMessageMetadataDto) : Prop :=
  (date b).seconds < (date a).seconds ∨ ((date b).seconds = (date a).seconds ∧ b.uid < a.uid)

theorem Later.asymm {date : NativeMessageMetadataDto → DateTime} {a b : NativeMessageMetadataDto} (h : Later date a b) : ¬Later date b a := by
  rcases h with h | ⟨heq, h⟩ <;> rintro (h' | ⟨heq', h'⟩)
  · omega
  · omega
  · omega
  · exact absurd (UInt32.lt_trans h h') (UInt32.lt_irrefl _)

theorem Later.total (date : NativeMessageMetadataDto → DateTime) {a b : NativeMessageMetadataDto} (h : a.uid ≠ b.uid) :
    Later date a b ∨ Later date b a := by
  unfold Later
  rcases lt_trichotomy (date a).seconds (date b).seconds with hlt | heq | hlt
  · exact .inr (.inl hlt)
  · rcases UInt32.lt_or_lt_of_ne h with hlt | hlt
    · exact .inr (.inr ⟨heq, hlt⟩)
    · exact .inl (.inr ⟨heq.symm, hlt⟩)
  · exact .inl (.inl hlt)

/-- What the messages are sorted by: the text of the date, then the uid. -/
def sortKey (m : NativeMessageMetadataDto) : List Nat ×ₗ Nat := toLex (weights m.internalDate, m.uid.toNat)

def Before (a b : NativeMessageMetadataDto) : Prop := sortKey b ≤ sortKey a

instance : DecidableRel Before := fun a b => inferInstanceAs (Decidable (sortKey b ≤ sortKey a))

instance : Std.Total Before := ⟨fun a b => le_total (sortKey b) (sortKey a)⟩

instance : IsTrans NativeMessageMetadataDto Before := ⟨fun _ _ _ hab hbc => le_trans hbc hab⟩

theorem before_iff {a b : NativeMessageMetadataDto} : Before a b ↔
    weights b.internalDate < weights a.internalDate ∨ (weights b.internalDate = weights a.internalDate ∧ b.uid.toNat ≤ a.uid.toNat) :=
  Prod.Lex.toLex_le_toLex

section

variable {mailbox : String} {messages : List NativeMessageMetadataDto} {date : NativeMessageMetadataDto → DateTime}
  {a b m : NativeMessageMetadataDto} {e : RemoteEmail} {js : JsText}

theorem SnapshotOf.eq_of_uid (h : SnapshotOf mailbox messages date) (ha : a ∈ messages) (hb : b ∈ messages) (huid : a.uid = b.uid) : a = b :=
  List.inj_on_of_nodup_map h.uids ha hb huid

theorem SnapshotOf.antisymm (h : SnapshotOf mailbox messages date) (ha : a ∈ messages) (hb : b ∈ messages) (hab : Before a b)
    (hba : Before b a) : a = b := by
  have hkey : sortKey a = sortKey b := le_antisymm hba hab
  exact h.eq_of_uid ha hb (UInt32.toNat_inj.1 (congrArg (fun k => (ofLex k).2) hkey))

/-- The later message goes first if and only if the text of its date is not the lesser one. -/
theorem SnapshotOf.before_iff (h : SnapshotOf mailbox messages date) (ha : a ∈ messages) (hb : b ∈ messages) (hlater : Later date a b) :
    Before a b ↔ weights b.internalDate ≤ weights a.internalDate := by
  rw [Remote.before_iff, le_iff_lt_or_eq (a := weights b.internalDate)]
  refine or_congr Iff.rfl (and_iff_left_of_imp fun heq => ?_)
  have htext := weights_injective (h.dated b hb).dateBytes (h.dated a ha).dateBytes heq
  have hdate : date b = date a := DateTime.text_injective ((h.dated b hb).text ▸ (h.dated a ha).text ▸ congrArg bytes htext)
  rcases hlater with hlt | ⟨-, hlt⟩
  · rw [hdate] at hlt
    exact absurd hlt (lt_irrefl _)
  · exact Nat.le_of_lt (UInt32.lt_iff_toNat_lt.1 hlt)

/-! ## Emails -/

theorem safe_of_pos {n : UInt32} (h : 0 < n) : 0 < n.toNat ∧ n.toNat ≤ maxSafeInteger := by
  have hlt := n.toNat_lt
  refine ⟨UInt32.lt_iff_toNat_lt.1 h, ?_⟩
  unfold maxSafeInteger
  omega

theorem SnapshotOf.mapped (h : SnapshotOf mailbox messages date) (hm : m ∈ messages) : ∃ e, mapNativeEmail m = .ok e := by
  obtain ⟨hvalidity, huid⟩ := h.positive m hm
  have hid : imapEmailId ⟨m.mailbox, m.uidValidity.toNat, m.uid.toNat⟩ = .ok _ :=
    imapEmailId_ok (safe_of_pos hvalidity) (safe_of_pos huid)
  unfold mapNativeEmail
  rw [hid]
  exact ⟨_, rfl⟩

theorem mapNativeEmail_receivedAt (h : mapNativeEmail m = .ok e) : e.receivedAt = m.internalDate := by
  unfold mapNativeEmail at h
  obtain ⟨id, -, h⟩ := except_bind_eq_ok.1 h
  cases h
  rfl

/-- An email's id is read back as far as the name of its mailbox is. -/
theorem SnapshotOf.decoded (h : SnapshotOf mailbox messages date) (hname : mailbox ≠ "") (hm : m ∈ messages)
    (he : mapNativeEmail m = .ok e) : decodeImapEmailId e.id =
      (decode (encode mailbox).toList).map fun name => ⟨name, m.uidValidity.toNat, m.uid.toNat⟩ := by
  obtain rfl := h.mailbox m hm
  obtain ⟨hvalidity, huid⟩ := h.positive m hm
  have hback := decodeImapEmailId_imapEmailId ⟨m.mailbox, m.uidValidity.toNat, m.uid.toNat⟩ hname (safe_of_pos hvalidity) (safe_of_pos huid)
  rw [mapNativeEmail_id he] at hback
  exact hback

/-- The comparison of two emails is that of their messages. -/
theorem SnapshotOf.compare (h : SnapshotOf mailbox messages date) (hjs : js.OrdersDates) (hname : mailbox ≠ "")
    (hmark : mailbox.toList.head? ≠ some byteOrderMark) {e' : RemoteEmail} (ha : a ∈ messages) (hb : b ∈ messages)
    (he : mapNativeEmail a = .ok e) (he' : mapNativeEmail b = .ok e') :
    ∃ n, ImapSyncMail.compareEmails js e e' = .ok n ∧ (n ≤ 0 ↔ Before a b) := by
  obtain ⟨hlt, heq⟩ := hjs b.internalDate a.internalDate (h.dated b hb).dateBytes (h.dated a ha).dateBytes
  rw [Remote.before_iff]
  unfold ImapSyncMail.compareEmails
  rw [mapNativeEmail_receivedAt he, mapNativeEmail_receivedAt he']
  by_cases hzero : js.localeCompare b.internalDate a.internalDate = 0
  · have hsame := heq.1 hzero
    have hdecode := (decode_encode mailbox).2 hmark
    refine ⟨(b.uid.toNat : Int) - a.uid.toNat, ?_, ?_⟩
    · simp [hzero, h.decoded hname ha he, h.decoded hname hb he', hdecode, Except.map, bind, Except.bind]
    · rw [hsame]
      simp only [lt_irrefl, false_or, true_and]
      omega
  · refine ⟨js.localeCompare b.internalDate a.internalDate, by simp [hzero], ?_⟩
    rw [← hlt, ← heq]
    omega

/-- The sort puts the emails in the order of the texts of their dates. -/
theorem SnapshotOf.sorted (h : SnapshotOf mailbox messages date) (hjs : js.OrdersDates) (hname : mailbox ≠ "")
    (hmark : messages = [] ∨ mailbox.toList.head? ≠ some byteOrderMark) :
    ∃ emails, ImapSyncMail.sortedEmails js messages = .ok emails ∧ (messages.insertionSort Before).mapM mapNativeEmail = .ok emails := by
  rcases hmark with rfl | hmark
  · exact ⟨[], rfl, rfl⟩
  obtain ⟨mapped, hmapped⟩ := exists_forall₂ (R := fun m e => m ∈ messages ∧ mapNativeEmail m = .ok e) fun m hm => by
    obtain ⟨e, he⟩ := h.mapped hm
    exact ⟨e, hm, he⟩
  have hcompare : ∀ x a y b, (x ∈ messages ∧ mapNativeEmail x = .ok a) → (y ∈ messages ∧ mapNativeEmail y = .ok b) →
      ∃ n, ImapSyncMail.compareEmails js a b = .ok n ∧ (n ≤ 0 ↔ Before x y) := by
    intro x a y b ha hb
    exact h.compare hjs hname hmark ha.1 hb.1 ha.2 hb.2
  obtain ⟨emails, hemails, hforall⟩ := sortM_forall₂ hcompare hmapped
  refine ⟨emails, ?_, mapM_eq_ok.2 (hforall.imp fun _ _ hR => hR.2)⟩
  have hmap := mapM_eq_ok.2 (hmapped.imp fun _ _ hR => hR.2)
  unfold ImapSyncMail.sortedEmails
  rw [hmap]
  exact hemails

end

/-! ## Pages -/

/-- The replies while the mailbox has this snapshot. -/
def answerQuery (sessionId mailbox : String) (snapshot : NativeMailboxSnapshotDto) (_ : Unit) :
    (c : NativeImapCall) → Option (NativeImapReply c × Unit)
  | .listMailboxes _ => none
  | .snapshotMailbox s m => if s = sessionId ∧ m = mailbox then some (.ok snapshot, ()) else none

/-- What a query comes to while the mailbox has this snapshot. -/
def queried (js : JsText) (self : ImapSyncMail) (accountId mailboxId mailbox : String) (snapshot : NativeMailboxSnapshotDto)
    (options : RemoteQueryOptions) : Option (Except JsError RemoteMailboxQuery) :=
  ((self.queryMailbox js accountId mailboxId false options).run.play (answerQuery self.sessionId mailbox snapshot) ()).1

/-- The options ask for `limit` emails from number `start` on: by position, or from an email of the list as the anchor. -/
def AsksFor (emails : List RemoteEmail) (limit start : Nat) (options : RemoteQueryOptions) : Prop :=
  options.limit = some limit ∧ 0 ≤ options.position.getD 0 ∧ options.position.getD 0 ≤ maxSafeInteger ∧
    ((options.anchor = none ∧ options.position.getD 0 = start) ∨
      ∃ (i : Nat) (email : RemoteEmail), emails[i]? = some email ∧ options.anchor = some email.id ∧
        (i : Int) + options.anchorOffset.getD 0 = start)

/-- Requests for one page after the other, to the end of the list. -/
inductive Consecutive (emails : List RemoteEmail) (limit : Nat) : Nat → List RemoteQueryOptions → Prop
  | done {start : Nat} (h : emails.length ≤ start) : Consecutive emails limit start []
  | next {start : Nat} {options : RemoteQueryOptions} {rest : List RemoteQueryOptions} (h : AsksFor emails limit start options)
      (hrest : Consecutive emails limit (start + limit) rest) : Consecutive emails limit start (options :: rest)

/-- The list that pages are cut from has each message once, the latest first, and the pages of any size, however they are
asked for, are together this list. -/
def PagedInOrder (js : JsText) (self : ImapSyncMail) (accountId mailboxId mailbox : String) (snapshot : NativeMailboxSnapshotDto)
    (date : NativeMessageMetadataDto → DateTime) : Prop :=
  ∃ emails, ImapSyncMail.sortedEmails js snapshot.messages = .ok emails ∧
    (∃ ms : List NativeMessageMetadataDto, ms.Perm snapshot.messages ∧ ms.mapM mapNativeEmail = .ok emails ∧ ms.Pairwise (Later date)) ∧
    ∀ limit start requests, 0 < limit → limit ≤ maxSafeInteger → Consecutive emails limit start requests →
      ∃ pages, List.Forall₂ (fun options page => queried js self accountId mailboxId mailbox snapshot options = some (.ok page))
          requests pages ∧
        pages.flatMap (·.ids) = (emails.drop start).map (·.id) ∧ ∀ page ∈ pages, page.total = emails.length

section

variable {js : JsText} {self : ImapSyncMail} {accountId mailboxId mailbox : String} {snapshot : NativeMailboxSnapshotDto}
  {emails : List RemoteEmail} {limit start : Nat} {options : RemoteQueryOptions}

theorem queried_eq (haccount : accountId = self.accountId) (hid : decodeImapMailboxId mailboxId = .ok mailbox)
    (options : RemoteQueryOptions) : queried js self accountId mailboxId mailbox snapshot options =
      some ((ImapSyncMail.cutPage js mailbox snapshot.messages options).mapError .remote) := by
  have hassert : self.assertAccount accountId = .ok () := by simp [ImapRemoteMail.assertAccount, haccount]
  have hserved : answerQuery self.sessionId mailbox snapshot () (.snapshotMailbox self.sessionId mailbox) = some (.ok snapshot, ()) :=
    if_pos ⟨rfl, rfl⟩
  unfold queried ImapSyncMail.queryMailbox
  rw [hassert, hid, if_neg Bool.false_ne_true]
  simp only [bind, Async.bind, Async.lift, Async.run, Async.call, invoke, Prog.bind, Prog.play, tryCatch, tryCatchThe,
    MonadExceptOf.tryCatch, Except.mapError, hserved]
  cases ImapSyncMail.cutPage js mailbox snapshot.messages options <;> rfl

theorem findIdx?_anchor {i : Nat} {email : RemoteEmail} (hnodup : (emails.map (·.id)).Nodup) (hi : emails[i]? = some email) :
    emails.findIdx? (fun e => e.id = email.id) = some i := by
  obtain ⟨hlt, rfl⟩ := List.getElem?_eq_some_iff.1 hi
  have hdistinct : emails.Pairwise fun a b => a.id ≠ b.id := List.pairwise_map.1 hnodup
  rw [List.findIdx?_eq_some_iff_getElem]
  refine ⟨hlt, by simp, fun j hj => ?_⟩
  simpa using List.pairwise_iff_getElem.1 hdistinct j i (hj.trans hlt) hlt hj

/-- The page that is asked for is cut, where every id is read back with the name of the mailbox. -/
theorem cutPage_eq {messages : List NativeMessageMetadataDto} (hsorted : ImapSyncMail.sortedEmails js messages = .ok emails)
    (hnodup : (emails.map (·.id)).Nodup) (hdecoded : ∀ e ∈ emails, ∃ decoded, decodeImapEmailId e.id = .ok decoded ∧ decoded.mailbox = mailbox)
    (hlimit : limit ≤ maxSafeInteger) (hasks : AsksFor emails limit start options) :
    ∃ page, ImapSyncMail.cutPage js mailbox messages options = .ok page ∧
      page.ids = ((emails.drop start).take limit).map (·.id) ∧ page.total = emails.length := by
  obtain ⟨hlim, hlow, hhigh, hstart⟩ := hasks
  have hposition : ImapSyncMail.pagePosition mailbox emails options = .ok start := by
    unfold ImapSyncMail.pagePosition
    rw [if_neg (by omega)]
    rcases hstart with ⟨hanchor, hpos⟩ | ⟨i, email, hi, hanchor, hoffset⟩
    · rw [hanchor, hpos]
      rfl
    · obtain ⟨decoded, hid, hname⟩ := hdecoded email (List.mem_of_getElem? hi)
      rw [hanchor]
      simp only [hid, bind, Except.bind, hname, ne_eq, not_true_eq_false, if_false, findIdx?_anchor hnodup hi, hoffset]
      congr 1
  refine ⟨⟨((emails.drop start).take limit).map (·.id), js.state "query" (messages.map ImapSyncMail.queryMark), emails.length, start,
    false⟩, ?_, rfl, rfl⟩
  unfold ImapSyncMail.cutPage
  rw [hsorted]
  simp only [bind, Except.bind, hposition, hlim, Option.getD_some, if_neg (Nat.not_lt.2 hlimit)]

/-- A page with an anchor is cut only if the anchor's id is read back. -/
theorem cutPage_anchor {messages : List NativeMessageMetadataDto} {page : RemoteMailboxQuery} {anchor : String}
    (h : ImapSyncMail.cutPage js mailbox messages options = .ok page) (hanchor : options.anchor = some anchor) :
    ∃ decoded, decodeImapEmailId anchor = .ok decoded ∧ decoded.mailbox = mailbox := by
  obtain ⟨emails, -, h⟩ := except_bind_eq_ok.1 h
  obtain ⟨position, h, -⟩ := except_bind_eq_ok.1 h
  unfold ImapSyncMail.pagePosition at h
  dsimp only at h
  split at h
  · cases h
  · rw [hanchor] at h
    obtain ⟨decoded, hdecoded, h⟩ := except_bind_eq_ok.1 h
    refine ⟨decoded, hdecoded, ?_⟩
    by_contra hne
    rw [if_pos hne] at h
    cases h

/-- Page after page, the list is read to its end. -/
theorem pages_eq (haccount : accountId = self.accountId) (hid : decodeImapMailboxId mailboxId = .ok mailbox)
    (hsorted : ImapSyncMail.sortedEmails js snapshot.messages = .ok emails) (hnodup : (emails.map (·.id)).Nodup)
    (hdecoded : ∀ e ∈ emails, ∃ decoded, decodeImapEmailId e.id = .ok decoded ∧ decoded.mailbox = mailbox)
    (hlimit : limit ≤ maxSafeInteger) {requests : List RemoteQueryOptions} (hrequests : Consecutive emails limit start requests) :
    ∃ pages, List.Forall₂ (fun options page => queried js self accountId mailboxId mailbox snapshot options = some (.ok page))
        requests pages ∧
      pages.flatMap (·.ids) = (emails.drop start).map (·.id) ∧ ∀ page ∈ pages, page.total = emails.length := by
  induction hrequests with
  | done h => exact ⟨[], .nil, by simp [List.drop_eq_nil_of_le h], by simp⟩
  | @next start options rest hasks _ ih =>
    obtain ⟨page, hpage, hids, htotal⟩ := cutPage_eq hsorted hnodup hdecoded hlimit hasks
    obtain ⟨pages, hpages, hconcat, htotals⟩ := ih
    refine ⟨page :: pages, .cons ?_ hpages, ?_, ?_⟩
    · rw [queried_eq haccount hid, hpage]
      rfl
    · rw [List.flatMap_cons, hids, hconcat, ← List.map_append, ← List.drop_drop, List.take_append_drop]
    · rintro p hp
      rcases List.mem_cons.1 hp with rfl | hp
      · exact htotal
      · exact htotals p hp

end

/-! ## When the pages are in order -/

section

variable {js : JsText} {self : ImapSyncMail} {accountId mailboxId mailbox : String} {snapshot : NativeMailboxSnapshotDto}
  {date : NativeMessageMetadataDto → DateTime} {emails : List RemoteEmail} {ms : List NativeMessageMetadataDto}

/-- Emails of different messages have different ids. -/
theorem SnapshotOf.ids_nodup (h : SnapshotOf mailbox snapshot.messages date) (hms : ms.Perm snapshot.messages)
    (hemails : ms.mapM mapNativeEmail = .ok emails) : (emails.map (·.id)).Nodup := by
  have hnodup : (ms.map (·.uid)).Nodup := (hms.map _).nodup_iff.2 h.uids
  have hall := mapM_eq_ok.1 hemails
  clear hemails hms
  induction hall with
  | nil => exact List.nodup_nil
  | @cons m e ms emails he hall ih =>
    rw [List.map_cons, List.nodup_cons] at hnodup ⊢
    refine ⟨fun hmem => hnodup.1 ?_, ih hnodup.2⟩
    obtain ⟨e', he', hid⟩ := List.mem_map.1 hmem
    obtain ⟨m', hm', hmap⟩ := exists_of_mem_mapM (mapM_eq_ok.2 hall) he'
    have heq := imapEmailId_injective (mapNativeEmail_id hmap) (hid ▸ mapNativeEmail_id he)
    simp only [DecodedImapEmailId.mk.injEq] at heq
    exact List.mem_map.2 ⟨m', hm', UInt32.toNat_inj.1 heq.2.2⟩

theorem mapM_mapNativeEmail_inj {ms' : List NativeMessageMetadataDto} (h : SnapshotOf mailbox snapshot.messages date)
    (hms : ms.Perm snapshot.messages) (hms' : ms'.Perm snapshot.messages) (hemails : ms.mapM mapNativeEmail = .ok emails)
    (hemails' : ms'.mapM mapNativeEmail = .ok emails) : ms = ms' := by
  have hall : ∀ {l : List NativeMessageMetadataDto}, l.Perm snapshot.messages → l.mapM mapNativeEmail = .ok emails →
      List.Forall₂ (fun m e => m ∈ snapshot.messages ∧ mapNativeEmail m = .ok e) l emails := by
    intro l hl hmap
    have hforall := mapM_eq_ok.1 hmap
    rw [List.forall₂_iff_get] at hforall ⊢
    exact ⟨hforall.1, fun i hi hi' => ⟨hl.subset (List.get_mem l _), hforall.2 i hi hi'⟩⟩
  refine List.left_unique_forall₂' ?_ (hall hms hemails) (hall hms' hemails')
  rintro a e b ⟨ha, he⟩ ⟨hb, he'⟩
  have heq := imapEmailId_injective (mapNativeEmail_id he) (mapNativeEmail_id he')
  simp only [DecodedImapEmailId.mk.injEq] at heq
  exact h.eq_of_uid ha hb (UInt32.toNat_inj.1 heq.2.2)

/-- The sorted messages are in the order of their instants if and only if no offset puts two of them the other way round. -/
theorem SnapshotOf.later_iff (h : SnapshotOf mailbox snapshot.messages date) :
    (snapshot.messages.insertionSort Before).Pairwise (Later date) ↔
      ∀ a ∈ snapshot.messages, ∀ b ∈ snapshot.messages, Later date a b → weights b.internalDate ≤ weights a.internalDate := by
  have hmem : ∀ m, m ∈ snapshot.messages.insertionSort Before ↔ m ∈ snapshot.messages := fun m => List.mem_insertionSort Before
  have hnodup : (snapshot.messages.insertionSort Before).Nodup :=
    (List.perm_insertionSort Before snapshot.messages).nodup_iff.2 (h.uids.of_map _)
  rw [pairwise_iff_agree hnodup (List.pairwise_insertionSort Before snapshot.messages)]
  · constructor
    · intro hall a ha b hb hlater
      exact (h.before_iff ha hb hlater).1 (hall a ((hmem a).2 ha) b ((hmem b).2 hb) hlater)
    · intro hall a ha b hb hlater
      exact (h.before_iff ((hmem a).1 ha) ((hmem b).1 hb) hlater).2 (hall a ((hmem a).1 ha) b ((hmem b).1 hb) hlater)
  · intro a ha b hb hab hba
    exact h.antisymm ((hmem a).1 ha) ((hmem b).1 hb) hab hba
  · exact fun a b => Later.asymm
  · intro a ha b hb hne
    exact Later.total date fun huid => hne (h.eq_of_uid ((hmem a).1 ha) ((hmem b).1 hb) huid)

/-- A page with an email as its anchor is there only if the email's id is read back. -/
theorem PagedInOrder.unmarked (hpaged : PagedInOrder js self accountId mailboxId mailbox snapshot date) (haccount : accountId = self.accountId)
    (hid : decodeImapMailboxId mailboxId = .ok mailbox) (hname : mailbox ≠ "") (h : SnapshotOf mailbox snapshot.messages date) :
    snapshot.messages = [] ∨ mailbox.toList.head? ≠ some byteOrderMark := by
  obtain ⟨emails, -, ⟨ms, hms, hemails, -⟩, hpages⟩ := hpaged
  rcases List.eq_nil_or_concat snapshot.messages with hnil | ⟨_, m₀, hm₀⟩
  · exact .inl hnil
  right
  obtain ⟨m, hm⟩ := List.exists_mem_of_ne_nil ms fun hnil => by
    rw [hnil, hm₀] at hms
    simp at hms
  obtain ⟨e, he, hmap⟩ := mem_mapM_of_mem hemails hm
  obtain ⟨i, hi, rfl⟩ := List.getElem_of_mem he
  have hasks : AsksFor emails 1 emails.length ⟨none, some 1, some emails[i].id, some (emails.length - i)⟩ :=
    ⟨rfl, by simp, by simp, .inr ⟨i, emails[i], List.getElem?_eq_getElem hi, rfl, by simp⟩⟩
  obtain ⟨pages, hall, -⟩ := hpages 1 emails.length _ (by omega) (by decide) (.next hasks (.done (by omega)))
  obtain ⟨page, hpage⟩ : ∃ page, queried js self accountId mailboxId mailbox snapshot
      ⟨none, some 1, some emails[i].id, some (emails.length - i)⟩ = some (.ok page) := by
    cases hall with
    | cons h _ => exact ⟨_, h⟩
  rw [queried_eq haccount hid] at hpage
  obtain ⟨decoded, hdecoded, hmailbox⟩ := cutPage_anchor (mapError_eq_ok.1 (Option.some.inj hpage)) rfl
  rw [h.decoded hname (hms.subset hm) hmap] at hdecoded
  cases hdecode : decode (encode mailbox).toList with
  | error e =>
    rw [hdecode] at hdecoded
    cases hdecoded
  | ok name =>
    rw [hdecode] at hdecoded
    cases hdecoded
    exact (decode_encode mailbox).1 (hmailbox ▸ hdecode)

theorem PagedInOrder.agrees (hpaged : PagedInOrder js self accountId mailboxId mailbox snapshot date) (hjs : js.OrdersDates)
    (hname : mailbox ≠ "") (h : SnapshotOf mailbox snapshot.messages date)
    (hmark : snapshot.messages = [] ∨ mailbox.toList.head? ≠ some byteOrderMark) :
    ∀ a ∈ snapshot.messages, ∀ b ∈ snapshot.messages, Later date a b → weights b.internalDate ≤ weights a.internalDate := by
  obtain ⟨emails, hsorted, ⟨ms, hms, hemails, hlater⟩, -⟩ := hpaged
  obtain ⟨emails', hsorted', hemails'⟩ := h.sorted hjs hname hmark
  obtain rfl : emails' = emails := Except.ok.inj (hsorted'.symm.trans hsorted)
  rw [mapM_mapNativeEmail_inj h hms (List.perm_insertionSort Before snapshot.messages) hemails hemails'] at hlater
  exact h.later_iff.1 hlater

/-- A mailbox is shown in order and page by page if and only if its name does not begin with a byte order mark (or it is
empty), and of any two messages the later one has not the lesser text of its date. -/
theorem query_pages_iff (hjs : js.OrdersDates) (haccount : accountId = self.accountId) (hid : decodeImapMailboxId mailboxId = .ok mailbox)
    (hname : mailbox ≠ "") (h : SnapshotOf mailbox snapshot.messages date) :
    PagedInOrder js self accountId mailboxId mailbox snapshot date ↔
      (snapshot.messages = [] ∨ mailbox.toList.head? ≠ some byteOrderMark) ∧
        ∀ a ∈ snapshot.messages, ∀ b ∈ snapshot.messages, Later date a b → weights b.internalDate ≤ weights a.internalDate := by
  constructor
  · intro hpaged
    have hmark := hpaged.unmarked haccount hid hname h
    exact ⟨hmark, hpaged.agrees hjs hname h hmark⟩
  · rintro ⟨hmark, hagree⟩
    have hperm := List.perm_insertionSort Before snapshot.messages
    obtain ⟨emails, hsorted, hemails⟩ := h.sorted hjs hname hmark
    refine ⟨emails, hsorted, ⟨_, hperm, hemails, h.later_iff.2 hagree⟩, fun limit start requests _ hlimit hrequests => ?_⟩
    refine pages_eq haccount hid hsorted (h.ids_nodup hperm hemails) (fun e he => ?_) hlimit hrequests
    obtain ⟨m, hm, hmap⟩ := exists_of_mem_mapM hemails he
    have hm := hperm.subset hm
    have hmark : mailbox.toList.head? ≠ some byteOrderMark := by
      rcases hmark with hnil | hmark
      · rw [hnil] at hm
        cases hm
      · exact hmark
    rw [h.decoded hname hm hmap, (decode_encode mailbox).2 hmark]
    exact ⟨_, rfl, rfl⟩

end

/-! ## Two offsets -/

/-- A collation of dates. -/
def collating : JsText :=
  ⟨fun _ => "", fun s t => if weights s < weights t then -1 else if weights s = weights t then 0 else 1⟩

theorem collating_ordersDates : collating.OrdersDates := by
  intro s t _ _
  simp only [collating]
  split
  · rename_i h
    simp [h, h.ne]
  · rename_i h
    split
    · rename_i heq
      simp [heq]
    · rename_i heq
      simp [h, heq]

def sampleMail : ImapSyncMail := ⟨⟨"session", "account"⟩, .genericImap⟩

def received (uid : UInt32) (internalDate : String) : NativeMessageMetadataDto where
  mailbox := "INBOX"
  uidValidity := 71
  uid
  flags := []
  internalDate
  size := 120
  sender := none
  «from» := none
  replyTo := none
  «to» := none
  cc := none
  bcc := none
  subject := none
  sentAt := none
  preview := ""
  hasAttachment := false

/-- On one day, at a full hour of local time. -/
def atHour (hour offset : Fin 24) : DateTime where
  date := ⟨2026, 8, 28, by decide, by decide, by decide⟩
  time := ⟨hour, 0, 0, [], hour.2, by decide, by decide, by simp⟩
  offset := ⟨false, offset, 0, offset.2, by decide⟩

theorem atHour_seconds (hour offset : Fin 24) :
    (atHour hour offset).seconds = (atHour 0 0).seconds + 3600 * (hour : Nat) - 3600 * (offset : Nat) := by
  have hminutes : ∀ offset : Fin 24, (atHour hour offset).offset.minutes = 60 * (offset : Nat) := fun offset => by
    simp [atHour, Offset.minutes]
  have hzero : (atHour 0 0).offset.minutes = 0 := rfl
  unfold DateTime.seconds
  rw [hminutes, hzero]
  simp only [atHour]
  push_cast
  omega

def inbox (messages : List NativeMessageMetadataDto) : NativeMailboxSnapshotDto := ⟨⟨"INBOX", 2, 0, 71, 3, none⟩, messages⟩

theorem dated_of_read {m : NativeMessageMetadataDto} {hour offset : Fin 24} (value : String)
    (hread : readImapDate (bytes value) = some (imapDateOf (atHour hour offset)))
    (hvalue : imapDateToRfc3339 (bytes value) = some (some (bytes m.internalDate))) : Dated m (atHour hour offset) :=
  ⟨rfl, value, (readImapDate_eq_some.1 hread).1, hvalue⟩

/-- Two messages with one offset. -/
def steadyMessages : List NativeMessageMetadataDto :=
  [received 1 "2026-08-28T11:00:00+02:00", received 2 "2026-08-28T12:00:00+02:00"]

def steadyDate (m : NativeMessageMetadataDto) : DateTime := atHour (if m.uid = 1 then 11 else 12) 2

/-- The second was received an hour before the first, two hours further east. -/
def movedMessages : List NativeMessageMetadataDto :=
  [received 1 "2026-08-28T11:00:00+00:00", received 2 "2026-08-28T12:00:00+02:00"]

def movedDate (m : NativeMessageMetadataDto) : DateTime := if m.uid = 1 then atHour 11 0 else atHour 12 2

theorem snapshotOf_steady : SnapshotOf "INBOX" steadyMessages steadyDate where
  mailbox := by simp [steadyMessages, received]
  positive := by simp [steadyMessages, received]
  uids := by decide
  dated := by
    simp only [steadyMessages, List.mem_cons, List.not_mem_nil, or_false, forall_eq_or_imp, forall_eq]
    exact ⟨dated_of_read "28-Aug-2026 11:00:00 +0200" (by decide_cbv) (by decide_cbv),
      dated_of_read "28-Aug-2026 12:00:00 +0200" (by decide_cbv) (by decide_cbv)⟩

theorem snapshotOf_moved : SnapshotOf "INBOX" movedMessages movedDate where
  mailbox := by simp [movedMessages, received]
  positive := by simp [movedMessages, received]
  uids := by decide
  dated := by
    simp only [movedMessages, List.mem_cons, List.not_mem_nil, or_false, forall_eq_or_imp, forall_eq]
    exact ⟨dated_of_read "28-Aug-2026 11:00:00 +0000" (by decide_cbv) (by decide_cbv),
      dated_of_read "28-Aug-2026 12:00:00 +0200" (by decide_cbv) (by decide_cbv)⟩

theorem query_pages_steady : PagedInOrder collating sampleMail "account" (imapMailboxId "INBOX") "INBOX" (inbox steadyMessages) steadyDate := by
  refine (query_pages_iff collating_ordersDates rfl (by decide_cbv) (by decide) snapshotOf_steady).2 ⟨.inr (by decide), ?_⟩
  simp only [inbox, steadyMessages, List.mem_cons, List.not_mem_nil, or_false]
  rintro a (rfl | rfl) b (rfl | rfl) hlater
  · exact le_rfl
  · -- the first message is not the later one
    have hearlier : Later steadyDate (received 2 "2026-08-28T12:00:00+02:00") (received 1 "2026-08-28T11:00:00+02:00") := by
      left
      change (atHour 11 2).seconds < (atHour 12 2).seconds
      rw [atHour_seconds 11 2, atHour_seconds 12 2]
      simp
    exact absurd hlater hearlier.asymm
  · decide_cbv
  · exact le_rfl

/-- The list begins with the message that was received first. -/
theorem query_pages_moved :
    ¬PagedInOrder collating sampleMail "account" (imapMailboxId "INBOX") "INBOX" (inbox movedMessages) movedDate := by
  intro hpaged
  have hagree := hpaged.agrees collating_ordersDates (by decide) snapshotOf_moved (.inr (by decide))
  have hlater : Later movedDate (received 1 "2026-08-28T11:00:00+00:00") (received 2 "2026-08-28T12:00:00+02:00") := by
    left
    change (atHour 12 2).seconds < (atHour 11 0).seconds
    rw [atHour_seconds 12 2, atHour_seconds 11 0]
    simp
    omega
  exact absurd (hagree _ (by simp [inbox, movedMessages]) _ (by simp [inbox, movedMessages]) hlater) (by decide_cbv)

end Boxplot.Remote
