import Boxplot.Net.ImapConsistency
import Boxplot.Remote.ImapSync
/-!
# Snapshots of an account are of one time

Between two listings that agree no mailbox got or lost a message, so whatever is
read between them is the mailboxes as they were all that time, if the names of
the mailboxes are read as they are and not taken for their numbers.
-/

namespace Boxplot.Remote

open Domain Lib Contract Net
open Net.ImapText (ServerLine unmisled)

/-! ## The native side -/

/-- A native call with its reply, and the instants when it began and ended. -/
structure NativeExchange where
  call : NativeImapCall
  reply : NativeImapReply call
  began : Nat
  ended : Nat

structure AccountWorld where
  imap : ImapWorld
  log : List NativeExchange

section

variable (allowed : ImapCall → List ServerLine → Bool) (parseMessage : List UInt8 → NetResult ParsedMessage)

/-- What a call does on the connection of a generic session. -/
def native : (c : NativeImapCall) → ImapProgram (NativeImapResult c)
  | .listMailboxes _ => listMailboxes
  | .snapshotMailbox _ mailbox => snapshot parseMessage mailbox

/-- A call that finds the connection with any mailbox selected. The promise is rejected if the call goes wrong on either side. -/
def AccountWorld.perform (w : AccountWorld) (c : NativeImapCall) (r : NativeImapReply c) (w' : AccountWorld) : Prop :=
  ∃ before selected o imap, w.imap.Others before ∧ Exec (ImapWorld.perform allowed) (native parseMessage c).run { before with selected } o imap ∧
    ((∃ v, o = some (.ok v) ∧ r = .ok v) ∨ ∃ x, r = .error x) ∧
    w' = ⟨imap, w.log ++ [⟨c, r, before.instant, imap.instant⟩]⟩

end

/-! ## What the calls show -/

def AccountWorld.Later (w w' : AccountWorld) : Prop := w.imap.Later w'.imap

instance : IsPreorder AccountWorld AccountWorld.Later where
  refl w := ImapWorld.Later.refl w.imap
  trans _ _ _ := ImapWorld.Later.trans

section

variable {allowed : ImapCall → List ServerLine → Bool} {parseMessage : List UInt8 → NetResult ParsedMessage}

def accountContract (allowed : ImapCall → List ServerLine → Bool) (parseMessage : List UInt8 → NetResult ParsedMessage) :
    Contract NativeImapCall NativeImapReply AccountWorld :=
  keeps (AccountWorld.perform allowed parseMessage) fun _ => True

theorem yields_invoke {c : NativeImapCall} {P : NativeImapResult c → ImapWorld → ImapWorld → Prop}
    (hP : ∀ w, Gives allowed (native parseMessage c) (fun v w' => P v w w') w) (w : AccountWorld) :
    (accountContract allowed parseMessage).Yields AccountWorld.Later (invoke c) (fun v w' => ∃ before, w.imap.Later before ∧
      before.Later w'.imap ∧ P v before w'.imap ∧ w'.log = w.log ++ [⟨c, .ok v, before.instant, w'.imap.instant⟩]) w := by
  refine ⟨trivial, fun r w' hr => ?_⟩
  obtain ⟨before, selected, o, imap, hothers, hexec, hreply, rfl⟩ := hr
  have hselect : before.Later { before with selected } := before.later_select selected
  have hlater (w w' : ImapWorld) (e : ImapCall) (r : ImapReply e) (hp : w.perform allowed e r w') : w.Later w' :=
    (ImapWorld.perform_cases hp).1
  have hmoves : ImapWorld.Later { before with selected } imap := hexec.moves fun w e r w' => hlater w w' e r
  have hto : w.imap.Later imap := hothers.later.trans (hselect.trans hmoves)
  cases r with
  | error x => exact ⟨hto, by rintro v ⟨⟩⟩
  | ok v =>
    refine ⟨hto, ?_⟩
    rintro _ ⟨⟩
    rcases hreply with ⟨v', rfl, hv⟩ | ⟨x, hx⟩
    · cases hv
      obtain ⟨hl, hPv⟩ := (hP { before with selected }).exec hexec v rfl
      exact ⟨{ before with selected }, hothers.later.trans hselect, hl, hPv, rfl⟩
    · cases hx

/-- Whether a call reads a mailbox. -/
def NativeExchange.isSnapshot (x : NativeExchange) : Prop := ∃ sessionId mailbox, x.call = .snapshotMailbox sessionId mailbox

theorem yields_snapshotMailboxes (sessionId : String) (mailboxes : List NativeMailboxDto) (w : AccountWorld) :
    (accountContract allowed parseMessage).Yields AccountWorld.Later (ImapSyncMail.snapshotMailboxes sessionId mailboxes) (fun snapshots w' =>
      (∃ calls, w'.log = w.log ++ calls ∧ ∀ x ∈ calls, x.isSnapshot) ∧
      List.Forall₂ (fun d s => ∃ i m, i ≤ w'.imap.instant ∧ ReadAt w.imap.instant w'.imap d.name s i m) mailboxes snapshots) w := by
  induction mailboxes generalizing w with
  | nil => exact Yields.pure ⟨⟨[], by simp, by simp⟩, .nil⟩
  | cons mailbox rest ih =>
    have hread (w : ImapWorld) : Gives allowed (native parseMessage (.snapshotMailbox sessionId mailbox.name)) (fun s w' =>
        ∃ i m, ReadAt w.instant w' mailbox.name s i m) w :=
      Yields.mono (gives_snapshot mailbox.name w) fun s w' _ ⟨i, m, h, _⟩ => ⟨i, m, h⟩
    refine Yields.bind (yields_invoke hread w) ?_
    rintro snapshot w₁ hl₁ ⟨before, hbefore, -, ⟨i, m, hat⟩, hlog⟩
    refine Yields.bind (ih w₁) ?_
    rintro snapshots w₂ hl₂ ⟨⟨calls, hcalls, hall⟩, hrest⟩
    have hi : i ≤ w₁.imap.instant := by
      obtain ⟨a, ha, -⟩ := hat.shown
      exact ha.le
    refine Yields.pure ⟨⟨_ :: calls, by rw [hcalls, hlog, List.append_assoc]; rfl, ?_⟩, .cons ?_ ?_⟩
    · intro x hx
      rcases List.mem_cons.1 hx with rfl | hx
      · exact ⟨_, _, rfl⟩
      · exact hall x hx
    · exact ⟨i, m, hi.trans hl₂.instant_le, hat.later hbefore.instant_le hl₂⟩
    · refine hrest.imp ?_
      rintro d s ⟨j, m', hj, hat'⟩
      exact ⟨j, m', hj, hat'.later hl₁.instant_le (.refl _)⟩

end

/-! ## Between the listings -/

/-- A mailbox keeps its messages from one instant to another. -/
def Steady (w : ImapWorld) (start «end» : Nat) (mailbox : String) (uidValidity : UInt32) (uids : List UInt32) : Prop :=
  ∀ i a, start ≤ i → i ≤ «end» → w.At i a → ∃ m, a mailbox = some m ∧ m.uids = uids ∧ m.uidValidity = uidValidity

theorem mem_sortMailboxes {js : JsText} {values : List NativeMailboxDto} {d : NativeMailboxDto} : d ∈ js.sortMailboxes values ↔ d ∈ values := by
  unfold JsText.sortMailboxes
  exact List.mem_insertionSort _

/-- A mailbox that one of two equal fingerprints shows is in the other with the same numbers. -/
theorem exists_sameMark {js : JsText} {l l' : List NativeMailboxDto}
    (h : mailboxFingerprint (js.sortMailboxes l) = mailboxFingerprint (js.sortMailboxes l')) {d : NativeMailboxDto} (hd : d ∈ l) :
    ∃ d' ∈ l', d'.name = d.name ∧ d'.uidValidity = d.uidValidity ∧ d'.uidNext = d.uidNext ∧ d'.messages = d.messages := by
  have hmem := List.mem_map_of_mem (f := fun v : NativeMailboxDto => MailboxMark.mk v.name v.uidValidity v.uidNext v.messages v.unseen)
    ((@mem_sortMailboxes js l d).2 hd)
  rw [← mailboxFingerprint, h] at hmem
  obtain ⟨d', hd', heq⟩ := List.mem_map.1 hmem
  simp only [MailboxMark.mk.injEq] at heq
  exact ⟨d', mem_sortMailboxes.1 hd', heq.1, heq.2.1, heq.2.2.1, heq.2.2.2.1⟩

/-- A mailbox whose numbers are the same before and after kept its messages in between. -/
theorem steady_of_status {w w₁ w₂ w₃ : ImapWorld} (ho : w₃.Orderly) {d d' : NativeMailboxDto} (hd : StatusAt w w₁ d)
    (hd' : StatusAt w₂ w₃ d') (hl : w₁.Later w₃) (hname : d'.name = d.name) (hnext : d'.uidNext = d.uidNext)
    (hmessages : d'.messages = d.messages) :
    ∃ uids, Steady w₃ w₁.instant w₂.instant d.name d.uidValidity uids := by
  obtain ⟨i₁, a₁, m₁, -, ha₁, hm₁, hs₁⟩ := hd
  obtain ⟨i₂, a₂, m₂, hi₂, ha₂, hm₂, hs₂⟩ := hd'
  refine ⟨m₁.uids, fun i a hi hi' ha => ?_⟩
  have hbefore := ho.changes (ha₁.le.trans hi) (ha₁.later hl) ha
  have hafter := ho.changes (hi'.trans hi₂) ha ha₂
  obtain ⟨m, hm, hc₁⟩ := hbefore.some hm₁
  obtain ⟨m₂', hm₂', hc₂⟩ := hafter.some hm
  rw [hname] at hm₂
  obtain rfl : m₂' = m₂ := Option.some.inj (hm₂'.symm.trans hm₂)
  refine ⟨m, hm, hc₁.between hc₂ ?_ ?_, ?_⟩
  · rw [← hs₁.uidNext, ← hs₂.uidNext, hnext]
  · rw [← hs₁.messages, ← hs₂.messages, hmessages]
  · rw [hc₁.uids.1, hs₁.uidValidity]

/-! ## The emails -/

/-- An email for the message is among those returned. -/
def Returned (snapshot : List RemoteEmail) (mailbox : String) (uidValidity uid : UInt32) : Prop :=
  ∃ e ∈ snapshot, imapEmailId ⟨mailbox, uidValidity.toNat, uid.toNat⟩ = .ok e.id

theorem mapNativeEmail_id {value : NativeMessageMetadataDto} {e : RemoteEmail} (h : mapNativeEmail value = .ok e) :
    imapEmailId ⟨value.mailbox, value.uidValidity.toNat, value.uid.toNat⟩ = .ok e.id := by
  unfold mapNativeEmail at h
  obtain ⟨id, hid, h⟩ := except_bind_eq_ok.1 h
  cases h
  exact hid

theorem checkIdentities_nodup {ids identities result : List String} (hnodup : identities.Nodup)
    (h : checkIdentities identities ids = .ok result) : (identities ++ ids).Nodup := by
  induction ids generalizing identities with
  | nil => simpa using hnodup
  | cons id rest ih =>
    unfold checkIdentities at h
    split at h
    · cases h
    · rename_i hnew
      have hnext : (identities ++ [id]).Nodup := List.nodup_append.2 ⟨hnodup, List.nodup_singleton _, by
        rintro x hx y hy rfl
        exact hnew (List.mem_singleton.1 hy ▸ hx)⟩
      simpa using ih hnext h

theorem replace_ok {state : String} {snapshot : List RemoteEmail} {result : RemoteCollectionSync RemoteEmail String}
    (h : validateRemoteCollectionSync (.replace state snapshot) (·.id) = .ok result) :
    result = .replace state snapshot ∧ (snapshot.map (·.id)).Nodup := by
  obtain ⟨identities, hids, hresult⟩ := except_bind_eq_ok.1 h
  cases hresult
  exact ⟨rfl, by simpa using checkIdentities_nodup List.nodup_nil hids⟩

/-- If every read is of a steady mailbox, the emails are those mailboxes' messages. -/
theorem returned_iff {w : ImapWorld} {start «end» : Nat} {mailboxes : List NativeMailboxDto} {snapshots : List NativeMailboxSnapshotDto}
    {emails : List RemoteEmail}
    (hsteady : ∀ d ∈ mailboxes, ∃ uids, Steady w start «end» d.name d.uidValidity uids)
    (hreads : ∀ d ∈ mailboxes, ∃ s ∈ snapshots, ∃ i m, i ≤ «end» ∧ ReadAt start w d.name s i m)
    (hof : ∀ s ∈ snapshots, ∃ d ∈ mailboxes, s.mailbox.uidValidity = d.uidValidity ∧ ∃ i m, i ≤ «end» ∧ ReadAt start w d.name s i m)
    (hemails : (snapshots.flatMap (·.messages)).mapM mapNativeEmail = .ok emails)
    {d : NativeMailboxDto} (hd : d ∈ mailboxes) {i : Nat} {a : MailAccount} (hi : start ≤ i) (hi' : i ≤ «end») (ha : w.At i a) :
    ∃ m, a d.name = some m ∧ ∀ uid, uid ∈ m.uids ↔ Returned emails d.name m.uidValidity uid := by
  obtain ⟨uids, hall⟩ := hsteady d hd
  obtain ⟨m, hm, rfl, hvalidity⟩ := hall i a hi hi' ha
  refine ⟨m, hm, fun uid => ⟨fun huid => ?_, ?_⟩⟩
  · -- a message of the mailbox was read with it
    obtain ⟨s, hs, j, m', hj, hread⟩ := hreads d hd
    obtain ⟨b, hb, hm'⟩ := hread.shown
    obtain ⟨found, hfound, huids, -⟩ := hall j b hread.since hj hb
    obtain rfl : found = m' := Option.some.inj (hfound.symm.trans hm')
    rw [← huids] at huid
    obtain ⟨v, hv, rfl⟩ := List.mem_map.1 ((hread.uids uid).2 huid)
    obtain ⟨e, he, hmap⟩ := mem_mapM_of_mem hemails (List.mem_flatMap.2 ⟨s, hs, hv⟩)
    obtain ⟨hmailbox, hkey⟩ := hread.keys v hv
    obtain ⟨d', hd', hvalidity', k, m'', hk, hread'⟩ := hof s hs
    have hname : d'.name = d.name := hread'.status.symm.trans hread.status
    have hsame : d'.uidValidity = d.uidValidity := by
      obtain ⟨uids', hall'⟩ := hsteady d' hd'
      obtain ⟨m₃, hm₃, -, hv₃⟩ := hall' i a hi hi' ha
      rw [hname, hm] at hm₃
      cases hm₃
      exact hv₃.symm.trans hvalidity
    refine ⟨e, he, ?_⟩
    rw [← mapNativeEmail_id hmap, hmailbox, hkey, hvalidity', hsame, hvalidity]
  · rintro ⟨e, he, hid⟩
    obtain ⟨v, hv, hmap⟩ := exists_of_mem_mapM hemails he
    obtain ⟨s, hs, hv⟩ := List.mem_flatMap.1 hv
    obtain ⟨d', hd', -, j, m', hj, hread⟩ := hof s hs
    obtain ⟨hmailbox, -⟩ := hread.keys v hv
    -- the id is of this mailbox and this uid
    have heq := imapEmailId_injective (mapNativeEmail_id hmap) hid
    simp only [DecodedImapEmailId.mk.injEq] at heq
    have hname : d'.name = d.name := hmailbox.symm.trans heq.1
    obtain ⟨b, hb, hm'⟩ := hread.shown
    obtain ⟨found, hfound, huids, -⟩ := hall j b hread.since hj hb
    rw [hname] at hm'
    obtain rfl : found = m' := Option.some.inj (hfound.symm.trans hm')
    rw [← UInt32.toNat_inj.1 heq.2.2, ← huids]
    exact (hread.uids v.uid).1 (List.mem_map_of_mem hv)

/-! ## `syncEmails` -/

/-- The log ends with an attempt: a listing, reads of mailboxes and a listing. All mailboxes are listed, and at every instant
between the two listings they have the messages that were returned. -/
def Simultaneous (w : AccountWorld) (emails : List RemoteEmail) : Prop :=
  ∃ before sessionId mailboxes mailboxes' calls b e b' e', w.log = before ++ ⟨.listMailboxes sessionId, .ok mailboxes, b, e⟩ :: calls ++
      [⟨.listMailboxes sessionId, .ok mailboxes', b', e'⟩] ∧ (∀ x ∈ calls, x.isSnapshot) ∧ e ≤ b' ∧ (emails.map (·.id)).Nodup ∧
    (∀ name ∈ w.imap.listed, name ∈ mailboxes.map (·.name)) ∧ ∀ d ∈ mailboxes, ∀ i a, e ≤ i → i ≤ b' → w.imap.At i a →
      ∃ m, a d.name = some m ∧ ∀ uid, uid ∈ m.uids ↔ Returned emails d.name m.uidValidity uid

section

variable {allowed : ImapCall → List ServerLine → Bool} {parseMessage : List UInt8 → NetResult ParsedMessage} {js : JsText}
  {self : ImapSyncMail} (hpolicy : self.syncPolicy = .genericImap)
include hpolicy

theorem yields_syncEmailsAttempt (hwithin : Within allowed unmisled) (w : AccountWorld) (ho : w.imap.Orderly) :
    (accountContract allowed parseMessage).Yields AccountWorld.Later (self.syncEmailsAttempt js) (fun result w' =>
      ∀ state emails, result = .replace state emails → Simultaneous w' emails) w := by
  have hlist (w : ImapWorld) : Gives allowed (native parseMessage (.listMailboxes self.sessionId)) (fun mailboxes w' =>
      (∀ name ∈ w.listed, name ∈ mailboxes.map (·.name)) ∧ ∀ d ∈ mailboxes, StatusAt w w' d) w := gives_listMailboxes hwithin w
  have hall (values : List NativeMailboxDto) : self.syncMailboxesForPolicy values = values := by
    rw [ImapSyncMail.syncMailboxesForPolicy, hpolicy]
  unfold ImapSyncMail.syncEmailsAttempt
  refine Yields.bind (yields_invoke hlist w) ?_
  rintro mailboxes w₁ hl₁ ⟨before, hbefore, -, ⟨hnames, hinitial⟩, hlog₁⟩
  refine Yields.bind (yields_snapshotMailboxes self.sessionId _ w₁) ?_
  rintro snapshots w₂ hl₂ ⟨⟨calls, hlog₂, hcalls⟩, hreads⟩
  refine Yields.bind (yields_invoke hlist w₂) ?_
  rintro mailboxes' w₃ hl₃ ⟨before', hbefore', -, ⟨-, hfinal⟩, hlog₃⟩
  dsimp only
  split
  · exact Yields.throw
  rename_i hsame
  simp only [hall, ImapSyncMail.changed, Bool.or_eq_true, decide_eq_true_eq, not_or, not_not] at hsame hreads
  obtain ⟨hsnapshots, hmarks⟩ := hsame
  have hbetween : w₁.imap.instant ≤ before'.instant := hl₂.instant_le.trans hbefore'.instant_le
  have hto₃ : w₁.imap.Later w₃.imap := hl₂.trans hl₃
  have ho₃ : w₃.imap.Orderly := hto₃.2.1 (hl₁.2.1 ho)
  have hsteady : ∀ d ∈ mailboxes, ∃ uids, Steady w₃.imap w₁.imap.instant before'.instant d.name d.uidValidity uids := by
    intro d hd
    obtain ⟨d', hd', hname, -, hnext, hmessages⟩ := exists_sameMark hmarks hd
    exact steady_of_status ho₃ (hinitial d hd) (hfinal d' hd') hto₃ hname hnext hmessages
  have hread : ∀ d ∈ mailboxes, ∃ s ∈ snapshots, ∃ i m, i ≤ before'.instant ∧ ReadAt w₁.imap.instant w₃.imap d.name s i m := by
    intro d hd
    obtain ⟨s, hs, i, m, hi, hat⟩ := exists_of_forall₂ hreads (mem_sortMailboxes.2 hd)
    exact ⟨s, hs, i, m, hi.trans hbefore'.instant_le, hat.later (Nat.le_refl _) hl₃⟩
  have hof : ∀ s ∈ snapshots, ∃ d ∈ mailboxes, s.mailbox.uidValidity = d.uidValidity ∧
      ∃ i m, i ≤ before'.instant ∧ ReadAt w₁.imap.instant w₃.imap d.name s i m := by
    intro s hs
    obtain ⟨d, -, i, m, hi, hat⟩ := exists_of_forall₂ hreads.flip hs
    obtain ⟨d', hd', hname, hvalidity, -⟩ := exists_sameMark hsnapshots.symm (List.mem_map_of_mem hs)
    rw [hat.status] at hname
    exact ⟨d', hd', hvalidity.symm, i, m, hi.trans hbefore'.instant_le, hname ▸ hat.later (Nat.le_refl _) hl₃⟩
  refine Yields.bind (P := fun emails w' => w' = w₃ ∧ (snapshots.flatMap (·.messages)).mapM mapNativeEmail = .ok emails)
    (Yields.lift fun emails hemails => ⟨rfl, mapError_eq_ok.1 hemails⟩) ?_
  rintro emails w' - ⟨rfl, hemails⟩
  refine Yields.lift fun result hresult => ?_
  obtain ⟨rfl, hnodup⟩ := replace_ok (mapError_eq_ok.1 hresult)
  rintro state _ ⟨⟩
  refine ⟨w.log, self.sessionId, mailboxes, mailboxes', calls, before.instant, w₁.imap.instant, before'.instant, w'.imap.instant, ?_,
    hcalls, hbetween, hnodup, ?_, fun d hd i a hi hi' ha => returned_iff hsteady hread hof hemails hd hi hi' ha⟩
  · rw [hlog₃, hlog₂, hlog₁]
    simp
  · intro name hname
    have hlisted : w'.imap.listed = before.listed := (hto₃.2.2.trans hl₁.2.2).trans hbefore.2.2.symm
    exact hnames name (hlisted ▸ hname)

theorem yields_syncEmailsFrom (hwithin : Within allowed unmisled) (attempt left : Nat) (w : AccountWorld) (ho : w.imap.Orderly) :
    (accountContract allowed parseMessage).Yields AccountWorld.Later (self.syncEmailsFrom js attempt left) (fun result w' =>
      ∀ state emails, result = .replace state emails → Simultaneous w' emails) w := by
  induction left generalizing attempt w with
  | zero => exact Yields.throw
  | succ left ih =>
    refine Yields.tryCatch (yields_syncEmailsAttempt hpolicy hwithin w ho) fun error w' hl => ?_
    split
    · split
      · exact ih _ w' (hl.2.1 ho)
      · exact Yields.throw
    · exact Yields.throw

/-- Whatever the other clients do at any time, the emails that a synchronisation returns are those of all mailboxes at once, if
no name misleads. -/
theorem syncEmails_consistent {accountId state : String} {previousState selected : Option String} {account : MailAccount}
    {listed : List String} {emails : List RemoteEmail} {w' : AccountWorld}
    (h : Exec (AccountWorld.perform unmisled parseMessage) (self.syncEmails js accountId previousState).run
      ⟨⟨[], account, selected, listed⟩, []⟩ (some (.ok (.replace state emails))) w') : Simultaneous w' emails := by
  have ho : ImapWorld.Orderly ⟨[], account, selected, listed⟩ := List.pairwise_singleton _ _
  have hyields : (accountContract unmisled parseMessage).Yields AccountWorld.Later (self.syncEmails js accountId previousState)
      (fun result w' => ∀ state emails, result = .replace state emails → Simultaneous w' emails) ⟨⟨[], account, selected, listed⟩, []⟩ := by
    refine Yields.bind (P := fun _ w' => w'.imap.Orderly) (Yields.lift fun _ _ => ho) ?_
    exact fun _ w _ ho => yields_syncEmailsFrom hpolicy (fun _ _ h => h) 0 2 w ho
  obtain ⟨-, hQ⟩ := Exec.sound h trivial hyields fun _ _ _ => trivial
  exact (hQ _ rfl).2 _ rfl _ _ rfl

end

/-! ## A run -/

/-- Calls on a connection to a server that answers. -/
def AccountWorld.serve (allowed : ImapCall → List ServerLine → Bool) (others : ImapCall → ImapWorld → ImapWorld) (w : AccountWorld)
    (c : NativeImapCall) : Option (NativeImapReply c × AccountWorld) :=
  let (o, imap) := (native sampleParse c).run.play (ImapWorld.serve allowed (fun _ => false) others) w.imap
  let ended (r : NativeImapReply c) : Option (NativeImapReply c × AccountWorld) :=
    some (r, ⟨imap, w.log ++ [⟨c, r, w.imap.instant, imap.instant⟩]⟩)
  match o with
  | none => none
  | some (.ok v) => ended (.ok v)
  | some (.error e) => ended (.error (nativeRejection e))

theorem AccountWorld.serve_performs {allowed : ImapCall → List ServerLine → Bool} {others : ImapCall → ImapWorld → ImapWorld}
    (hothers : ∀ command, ∀ w : ImapWorld, w.Others (others command w)) (w : AccountWorld) (c : NativeImapCall) (r : NativeImapReply c)
    (w' : AccountWorld) (h : w.serve allowed others c = some (r, w')) : w.perform allowed sampleParse c r w' := by
  have hrun := Exec.of_play (@ImapWorld.serve_performs allowed (fun _ => false) others hothers) (native sampleParse c).run w.imap
  unfold AccountWorld.serve at h
  generalize (native sampleParse c).run.play (ImapWorld.serve allowed (fun _ => false) others) w.imap = played at h hrun
  obtain ⟨o, imap⟩ := played
  dsimp only at h hrun
  refine ⟨w.imap, w.imap.selected, o, imap, .refl, hrun, ?_⟩
  rcases o with - | e | v
  · cases h
  · cases h
    exact ⟨.inr ⟨_, rfl⟩, rfl⟩
  · cases h
    exact ⟨.inl ⟨v, rfl, rfl⟩, rfl⟩

/-- Messages arrive before each of the first four commands. -/
def deliverEarly (w : ImapWorld) : ImapWorld := if w.instant < 4 then w.deliver "INBOX" else w

theorem deliverEarly_others (w : ImapWorld) : w.Others (deliverEarly w) := by
  unfold deliverEarly
  split
  · exact ImapWorld.deliver_others "INBOX" w
  · exact .refl

def sampleText : JsText where
  stringify _ := ""
  localeCompare a b := if a < b then -1 else if a = b then 0 else 1

def sampleSyncMail : ImapSyncMail := ⟨⟨"s", "a"⟩, .genericImap⟩

def sampleWorld (account : MailAccount) (listed : List String) : AccountWorld := ⟨⟨[], account, none, listed⟩, []⟩

def syncOf (allowed : ImapCall → List ServerLine → Bool) (others : ImapCall → ImapWorld → ImapWorld) (w : AccountWorld) :
    Option (Except JsError (RemoteCollectionSync RemoteEmail String)) × AccountWorld :=
  (sampleSyncMail.syncEmails sampleText "a" none).run.play (AccountWorld.serve allowed others) w

/-- How many emails a snapshot holds. -/
def emailCount : Option (Except JsError (RemoteCollectionSync RemoteEmail String)) → Nat
  | some (.ok (.replace _ emails)) => emails.length
  | _ => 0

theorem exec_syncOf {allowed : ImapCall → List ServerLine → Bool} {others : ImapCall → ImapWorld → ImapWorld}
    (hothers : ∀ command, ∀ w : ImapWorld, w.Others (others command w)) {w : AccountWorld} {n : Nat}
    (h : emailCount (syncOf allowed others w).1 = n + 1) : ∃ state emails,
    Exec (AccountWorld.perform allowed sampleParse) (sampleSyncMail.syncEmails sampleText "a" none).run w
      (some (.ok (.replace state emails))) (syncOf allowed others w).2 ∧ emails.length = n + 1 := by
  have hrun : Exec (AccountWorld.perform allowed sampleParse) (sampleSyncMail.syncEmails sampleText "a" none).run w
      (syncOf allowed others w).1 (syncOf allowed others w).2 := Exec.of_play (AccountWorld.serve_performs hothers) _ _
  unfold emailCount at h
  split at h
  · rename_i state emails heq
    rw [heq] at hrun
    exact ⟨state, emails, hrun, h⟩
  · cases h

def retriedSync : Option (Except JsError (RemoteCollectionSync RemoteEmail String)) × AccountWorld :=
  syncOf unmisled (fun _ => deliverEarly) (sampleWorld sampleAccount ["Sent", "INBOX"])

/-- The first attempt does not see the same twice, the second one does. -/
theorem syncEmails_consistent_retried : ∃ state emails w', Exec (AccountWorld.perform unmisled sampleParse)
    (sampleSyncMail.syncEmails sampleText "a" none).run (sampleWorld sampleAccount ["Sent", "INBOX"])
      (some (.ok (.replace state emails))) w' ∧
    emails.length = 6 ∧ w'.log.length = 8 ∧ Simultaneous w' emails := by
  have hend : emailCount retriedSync.1 = 6 := by decide +kernel
  have hlog : retriedSync.2.log.length = 8 := by decide +kernel
  obtain ⟨state, emails, hrun, hlength⟩ := exec_syncOf (fun _ => deliverEarly_others) hend
  exact ⟨state, emails, _, hrun, hlength, hlog, syncEmails_consistent rfl hrun⟩

/-! ## A name that looks like numbers -/

def countedName : String := "MESSAGES 1 UNSEEN 0 UIDNEXT 5 UIDVALIDITY 7"

def countedAccount : MailAccount := fun name => if name = countedName then some ⟨7, 5, [⟨4, ["\\Seen"]⟩]⟩ else none

/-- The mailbox after one more message has arrived. -/
def grownMailbox : ImapMailbox := ⟨7, 6, [⟨4, ["\\Seen"]⟩, ⟨5, []⟩]⟩

/-- A message arrives when the uids have been read. -/
def deliverLate : ImapCall → ImapWorld → ImapWorld
  | .fetchFlags _, w => w.deliver countedName
  | _, w => w

theorem deliverLate_others (command : ImapCall) (w : ImapWorld) : w.Others (deliverLate command w) := by
  unfold deliverLate
  split
  · exact ImapWorld.deliver_others countedName w
  · exact .refl

def misledSync : Option (Except JsError (RemoteCollectionSync RemoteEmail String)) × AccountWorld :=
  syncOf anyAnswer deliverLate (sampleWorld countedAccount [countedName])

/-- Both listings find the numbers in the name, and so the new message is not noticed. -/
theorem syncEmails_misled : ∃ state emails w', Exec (AccountWorld.perform anyAnswer sampleParse)
    (sampleSyncMail.syncEmails sampleText "a" none).run (sampleWorld countedAccount [countedName])
      (some (.ok (.replace state emails))) w' ∧ ¬Simultaneous w' emails := by
  have hend : emailCount misledSync.1 = 1 := by decide +kernel
  have hbegan : misledSync.2.log.getLast?.map (·.began) = some 1 := by decide +kernel
  have hhistory : misledSync.2.imap.history.map (· countedName) = [countedAccount countedName, some grownMailbox] := by decide +kernel
  have hlisted : countedName ∈ misledSync.2.imap.listed := by decide +kernel
  obtain ⟨state, emails, hrun, hlength⟩ := exec_syncOf deliverLate_others hend
  refine ⟨state, emails, _, hrun, ?_⟩
  rintro ⟨before, sessionId, mailboxes, mailboxes', calls, b, e, b', e', hlog, -, hle, -, hnames, hall⟩
  obtain ⟨d, hd, hname⟩ := List.mem_map.1 (hnames countedName hlisted)
  -- the final listing begins when the message is there
  obtain rfl : b' = 1 := by
    change misledSync.2.log = _ at hlog
    rw [hlog, List.getLast?_append] at hbegan
    exact Option.some.inj hbegan
  obtain ⟨a, ha, hgrown⟩ : ∃ a, misledSync.2.imap.At 1 a ∧ a countedName = some grownMailbox := by
    have hget := congrArg (·[1]?) hhistory
    rw [List.getElem?_map] at hget
    obtain ⟨a, ha, hgrown⟩ := Option.map_eq_some_iff.1 hget
    exact ⟨a, ha, hgrown⟩
  obtain ⟨m, hm, hreturned⟩ := hall d hd 1 a hle (Nat.le_refl _) ha
  rw [hname] at hm hreturned
  cases hgrown.symm.trans hm
  obtain ⟨only, rfl⟩ := List.length_eq_one_iff.1 hlength
  obtain ⟨e₄, h₄, hid₄⟩ := (hreturned 4).1 (by decide)
  obtain ⟨e₅, h₅, hid₅⟩ := (hreturned 5).1 (by decide)
  cases List.mem_singleton.1 h₄
  cases List.mem_singleton.1 h₅
  exact absurd (imapEmailId_injective hid₄ hid₅) (by decide)

end Boxplot.Remote
