import Boxplot.Net.ImapServer
/-!
# Snapshots are of one instant

A snapshot reads the uids, then message by message, then the uids and the flags
again. If both readings agree, the mailbox was as the snapshot says when the
uids were read the second time, whatever the other clients did in between,
unless a line was taken for the flags of a message that it is not about.
-/

namespace Boxplot.Net

open Lib Contract ImapText

section

variable {allowed : ImapCall → List ServerLine → Bool}

/-! ## Rules -/

/-- The contract of a connection: each command is answered as the server answers it. -/
def imapContract (allowed : ImapCall → List ServerLine → Bool) : Contract ImapCall ImapReply ImapWorld :=
  keeps (ImapWorld.perform allowed) fun _ => True

instance : IsPreorder ImapWorld ImapWorld.Later where
  refl := ImapWorld.Later.refl
  trans _ _ _ := ImapWorld.Later.trans

/-- From `w` the program only moves on in time, and if it ends well `P` holds. -/
abbrev Gives (allowed : ImapCall → List ServerLine → Bool) {α : Type} (p : ImapProgram α) (P : α → ImapWorld → Prop) (w : ImapWorld) : Prop :=
  (imapContract allowed).Yields ImapWorld.Later p P w

/-- Every answer that is allowed meets the condition. -/
def Within (allowed condition : ImapCall → List ServerLine → Bool) : Prop :=
  ∀ command lines, allowed command lines = true → condition command lines = true

theorem gives_mapError {α : Type} {p : ImapProgram α} {f : NativeMailErrorDto → NativeMailErrorDto} {P : α → ImapWorld → Prop}
    {w : ImapWorld} (h : Gives allowed p P w) : Gives allowed (tryCatch p fun e => throw (f e)) P w :=
  h.tryCatch fun _ _ _ => .throw

theorem gives_sendCommand (command : ImapCall) (w : ImapWorld) : Gives allowed (sendCommand command) (fun lines w' =>
    ∃ served : List ServerLine, lines = (served.map fun line => readLine command line.line) ∧ w'.Answers served command ∧
      allowed command served = true ∧ w'.selected = command.selects w.selected) w := by
  refine ⟨trivial, fun r w' hr => ?_⟩
  obtain ⟨hl, ⟨e, rfl⟩ | ⟨served, rfl, h⟩⟩ := ImapWorld.perform_cases hr
  · exact ⟨hl, by rintro lines ⟨⟩⟩
  · refine ⟨hl, ?_⟩
    rintro _ ⟨⟩
    exact ⟨served, rfl, h⟩

/-! ## Commands -/

theorem gives_selectMailbox (mailbox : String) (w : ImapWorld) :
    Gives allowed (selectMailbox mailbox) (fun _ w' => w'.selected = some mailbox) w := by
  refine Yields.bind (P := fun _ w' => w' = w) (Yields.lift fun _ _ => rfl) ?_
  rintro _ w₁ - rfl
  refine Yields.bind (gives_sendCommand _ w₁) ?_
  rintro lines w' - ⟨served, -, -, -, hselected⟩
  split
  · exact Yields.pure hselected
  · exact Yields.throw

/-- The numbers are the mailbox's. -/
structure StatusOf (m : ImapMailbox) (mailbox : String) (dto : NativeMailboxDto) : Prop where
  name : dto.name = mailbox
  messages : dto.messages.toNat = m.messages.length
  uidNext : dto.uidNext.toNat = m.uidNext
  uidValidity : dto.uidValidity = m.uidValidity

theorem toU32_ok {n : UInt64} {code : String} {n' : UInt32} (h : toU32 n code = .ok n') : n'.toNat = n.toNat := by
  obtain rfl := toU32_eq_ok.1 h
  exact UInt32.toNat_toUInt64 n'

theorem readStatus_line {mailbox : String} {lines : List ImapLine} {dto : NativeMailboxDto} (h : readStatus mailbox lines = .ok dto) :
    dto.name = mailbox ∧ ∃ line, .status line ∈ lines ∧ line.messages = .ok dto.messages ∧
      (∃ n, line.uidNext = .ok n ∧ dto.uidNext.toNat = n.toNat) ∧ ∃ n, line.uidValidity = .ok n ∧ dto.uidValidity.toNat = n.toNat := by
  unfold readStatus at h
  split at h
  · cases h
  · rename_i line hfound
    obtain ⟨found, hmem, hline⟩ := List.exists_of_findSome?_eq_some hfound
    have hstatus : .status line ∈ lines := by
      cases found <;> cases hline
      exact hmem
    simp only [except_bind_eq_ok] at h
    obtain ⟨messages, hmessages, unseen, -, next, hnext, next', hn, validity, hvalidity, validity', hv, hdto⟩ := h
    cases hdto
    exact ⟨rfl, line, hstatus, hmessages, ⟨next, hnext, toU32_ok hn⟩, validity, hvalidity, toU32_ok hv⟩

/-- Where the name does not mislead, what is read is the mailbox's status. -/
theorem readStatus_ok {mailbox : String} {served : List ServerLine} {m : ImapMailbox} {dto : NativeMailboxDto}
    (hserved : ∀ name numbers order, .status name numbers order ∈ served → order.Perm StatusItem.all ∧ Counts numbers m)
    (hname : unmisled (.status mailbox) served = true)
    (h : readStatus mailbox (served.map fun line => readLine (.status mailbox) line.line) = .ok dto) : StatusOf m mailbox dto := by
  obtain ⟨rfl, line, hline, hmessages, ⟨next, hnext, hdtoNext⟩, validity, hvalidity, hdtoValidity⟩ := readStatus_line h
  obtain ⟨sent, hsent, hread⟩ := List.mem_map.1 hline
  obtain ⟨name, numbers, order, rfl, rfl⟩ := readLine_status hread
  obtain ⟨hperm, hcounts⟩ := hserved name numbers order hsent
  have hmisled := List.all_eq_true.1 hname _ hsent
  simp only [List.all_cons, List.all_nil, Bool.and_true, Bool.and_eq_true, Bool.not_eq_true'] at hmisled
  have hmem (item : StatusItem) : item ∈ order := by
    rw [hperm.mem_iff]
    cases item <;> decide
  refine ⟨rfl, ?_, ?_, ?_⟩
  · exact (numberAfter_named (hmem .messages) hmisled.1 hmessages).trans hcounts.messages
  · exact hdtoNext.trans ((numberAfter_named (hmem .uidNext) hmisled.2.1 hnext).trans hcounts.uidNext)
  · refine UInt32.toNat_inj.1 (hdtoValidity.trans ((numberAfter_named (hmem .uidValidity) hmisled.2.2 hvalidity).trans ?_))
    exact congrArg UInt32.toNat hcounts.uidValidity

theorem gives_mailboxStatus (mailbox : String) (w : ImapWorld) : Gives allowed (mailboxStatus mailbox) (fun dto w' =>
    dto.name = mailbox ∧ w'.selected = w.selected ∧
      (Within allowed unmisled → ∃ m, w'.now mailbox = some m ∧ StatusOf m mailbox dto)) w := by
  refine Yields.bind (P := fun _ w' => w' = w) (Yields.lift fun _ _ => rfl) ?_
  rintro _ w₁ - rfl
  refine Yields.bind (gives_sendCommand _ w₁) ?_
  rintro lines w' - ⟨served, rfl, ⟨m, hm, hserved⟩, hallowed, hselected⟩
  refine Yields.lift fun dto hdto => ⟨(readStatus_line hdto).1, hselected, fun hwithin => ⟨m, hm, ?_⟩⟩
  exact readStatus_ok hserved (hwithin _ _ hallowed) hdto

/-- The numbers are the mailbox's at an instant since `w`. -/
def StatusAt (w w' : ImapWorld) (dto : NativeMailboxDto) : Prop :=
  ∃ i a m, w.instant ≤ i ∧ w'.At i a ∧ a dto.name = some m ∧ StatusOf m dto.name dto

theorem gives_listStatuses (hwithin : Within allowed unmisled) (names : List (String × Option String)) (w : ImapWorld) :
    Gives allowed (listStatuses names) (fun mailboxes w' => mailboxes.map (·.name) = names.map (·.1) ∧
      ∀ d ∈ mailboxes, StatusAt w w' d) w := by
  induction names generalizing w with
  | nil => exact Yields.pure ⟨rfl, by simp⟩
  | cons entry rest ih =>
    obtain ⟨name, specialUse⟩ := entry
    refine Yields.bind (gives_mailboxStatus name w) ?_
    rintro dto w₁ hl ⟨hname, -, hstatus⟩
    obtain ⟨m, hm, hstatus⟩ := hstatus hwithin
    refine Yields.bind (ih w₁) ?_
    rintro mailboxes w₂ hl₂ ⟨hnames, hall⟩
    refine Yields.pure ⟨?_, fun d hd => ?_⟩
    · rw [List.map_cons, List.map_cons, hnames, hname]
    · rcases List.mem_cons.1 hd with rfl | hd
      · obtain rfl := hstatus.name
        exact ⟨_, _, m, hl.instant_le, w₁.at_now.later hl₂, hm, ⟨rfl, hstatus.messages, hstatus.uidNext, hstatus.uidValidity⟩⟩
      · obtain ⟨i, a, m', hi, ha, hm', hstatus'⟩ := hall d hd
        exact ⟨i, a, m', hl.instant_le.trans hi, ha, hm', hstatus'⟩

/-- A name that is written quoted and without a quotation mark is read. -/
theorem mem_listedNames {served : List ServerLine} (hnames : unmisled .list served = true) {flags : List (List UInt8)}
    {delimiter : Option Char} {mailbox : String} {name : List UInt8} {written : Writes mailbox name}
    (h : .list flags delimiter mailbox name written ∈ served) :
    mailbox ∈ (listedNames (served.map fun line => readLine .list line.line)).map (·.1) := by
  obtain ⟨hquoted, hplain⟩ := Bool.and_eq_true_iff.1 (List.all_eq_true.1 hnames _ h)
  obtain rfl : name = ImapText.quotedText mailbox := of_decide_eq_true hquoted
  obtain ⟨specialUse, hread⟩ := readLine_list (of_decide_eq_true hplain) flags delimiter
  refine List.mem_map.2 ⟨(mailbox, specialUse), List.mem_filterMap.2 ⟨_, List.mem_map_of_mem h, ?_⟩, rfl⟩
  dsimp only [ServerLine.line]
  rw [hread]

theorem gives_listMailboxes (hwithin : Within allowed unmisled) (w : ImapWorld) : Gives allowed listMailboxes (fun mailboxes w' =>
    (∀ name ∈ w.listed, name ∈ mailboxes.map (·.name)) ∧ ∀ d ∈ mailboxes, StatusAt w w' d) w := by
  refine Yields.bind (gives_sendCommand .list w) ?_
  rintro lines w₁ hl ⟨served, rfl, hserved, hallowed, -⟩
  refine Yields.mono (gives_listStatuses hwithin _ w₁) ?_
  rintro mailboxes w' - ⟨hnames, hall⟩
  refine ⟨fun name hname => ?_, fun d hd => ?_⟩
  · obtain ⟨flags, delimiter, text, written, hline⟩ := hserved name (hl.2.2 ▸ hname)
    rw [hnames]
    exact mem_listedNames (hwithin _ _ hallowed) hline
  · obtain ⟨i, a, m, hi, ha, hm, hstatus⟩ := hall d hd
    exact ⟨i, a, m, hl.instant_le.trans hi, ha, hm, hstatus⟩

theorem gives_searchUids (w : ImapWorld) : Gives allowed searchUids (fun uids w' => w'.selected = w.selected ∧
    ∃ m, w'.selected.bind w'.now = some m ∧ uids.Nodup ∧ ∀ uid, uid ∈ uids ↔ uid ∈ m.uids) w := by
  refine Yields.bind (gives_sendCommand _ w) ?_
  rintro lines w' - ⟨served, rfl, ⟨m, hm, hserved⟩, -, hselected⟩
  refine Yields.lift fun uids huids => ⟨hselected, m, hm, ?_⟩
  unfold Net.searchUidsFromResponse at huids
  split at huids
  · cases huids
  · rename_i found hfound
    obtain ⟨line, hmem, hline⟩ := List.exists_of_findSome?_eq_some hfound
    cases found with
    | error e => cases huids
    | ok found =>
      cases huids
      refine ⟨List.nodup_dedup _, fun uid => ?_⟩
      rw [List.mem_dedup, List.mem_insertionSort]
      have hsearch : .search (.ok found) ∈ served.map fun line => readLine .searchAll line.line := by
        cases line <;> cases hline
        exact hmem
      obtain ⟨sent, hsent, hread⟩ := List.mem_map.1 hsearch
      obtain rfl := readLine_searchAll hread
      exact hserved found hsent uid

/-! ## Flags -/

theorem canonicalFlags_eq {flags flags' : List String} (h : ∀ f, f ∈ flags ↔ f ∈ flags') : canonicalFlags flags = canonicalFlags flags' := by
  have hsorted (l : List String) : (canonicalFlags l).Pairwise (· ≤ ·) :=
    (List.pairwise_insertionSort (· ≤ ·) l).sublist (List.dedup_sublist _)
  have hmem (l : List String) (f : String) : f ∈ canonicalFlags l ↔ f ∈ l := by
    rw [canonicalFlags, List.mem_dedup, List.mem_insertionSort]
  have hperm : (canonicalFlags flags).Perm (canonicalFlags flags') := by
    refine (List.perm_ext_iff_of_nodup (List.nodup_dedup _) (List.nodup_dedup _)).2 fun f => ?_
    exact (hmem flags f).trans ((h f).trans (hmem flags' f).symm)
  exact hperm.eq_of_pairwise' (hsorted _) (hsorted _)

/-- A message of the mailbox has the uid and the canonical flags. -/
def MailAccount.HasFlags (a : MailAccount) (mailbox : String) (uid : UInt32) (flags : List String) : Prop :=
  ∃ m, a mailbox = some m ∧ ∃ x ∈ m.messages, x.uid = uid ∧ canonicalFlags x.flags = flags

/-- So it was at an instant since `w`. -/
def FlagsSeen (w w' : ImapWorld) (mailbox : String) (uid : UInt32) (flags : List String) : Prop :=
  ∃ i a, w.instant ≤ i ∧ w'.At i a ∧ a.HasFlags mailbox uid flags

theorem FlagsSeen.later {w w₁ w₂ w₃ : ImapWorld} {mailbox : String} {uid : UInt32} {flags : List String} (h : FlagsSeen w₁ w₂ mailbox uid flags)
    (hl : w.Later w₁) (hl' : w₂.Later w₃) : FlagsSeen w w₃ mailbox uid flags := by
  obtain ⟨i, a, hi, ha, hflags⟩ := h
  exact ⟨i, a, hl.instant_le.trans hi, ha.later hl', hflags⟩

theorem flagsSeen_now {w w' : ImapWorld} (hl : w.Later w') {mailbox : String} {m : ImapMailbox} (hm : w'.now mailbox = some m)
    {x : ImapMessage} (hx : x ∈ m.messages) {flags : List String} (hflags : ∀ f, f ∈ flags ↔ f ∈ x.flags) :
    FlagsSeen w w' mailbox x.uid (canonicalFlags flags) :=
  ⟨_, _, hl.instant_le, w'.at_now, m, hm, x, hx, rfl, canonicalFlags_eq fun f => (hflags f).symm⟩

/-! ## The flags that are read -/

/-- Of all lines, the ones with `FETCH` and a literal are those that a fetch looks at. -/
theorem filterMap_fetched (uid : UInt32) (served : List ServerLine) :
    ((served.map fun line => readLine (.fetch uid) line.line).filterMap fun
      | .fetch line => line.literal.map fun raw => (line, raw)
      | _ => none).map (fun p => (p.1.uid, p.1.flags)) =
    (served.filter fun line => line.line.literal.isSome && isFetchLine line.line).map
      fun line => (fetchUid line.line.text, readFlags line.line.text) := by
  induction served with
  | nil => rfl
  | cons line served ih =>
    have hread : readLine (.fetch uid) line.line = fetchLine (fetchUid line.line.text) line.line := rfl
    rw [List.map_cons, List.filterMap_cons, List.filter_cons, hread, fetchLine]
    cases isFetchLine line.line with
    | false => simpa using ih
    | true =>
      cases hliteral : line.line.literal with
      | none => simpa [hliteral] using ih
      | some raw => simpa [hliteral] using ih

theorem findSome_fetched (uid : UInt32) (served : List ServerLine) :
    ((served.map fun line => readLine (.fetchFlags uid) line.line).findSome? fun
      | .fetch line => some line
      | _ => none).map (fun line => (line.uid, line.flags)) =
    (served.find? fun line => isFetchLine line.line).map fun line => (flagsUid line.line.text, readFlags line.line.text) := by
  induction served with
  | nil => rfl
  | cons line served ih =>
    have hread : readLine (.fetchFlags uid) line.line = fetchLine (flagsUid line.line.text) line.line := rfl
    rw [List.map_cons, List.findSome?_cons, List.find?_cons, hread, fetchLine]
    cases isFetchLine line.line with
    | false => simpa using ih
    | true => rfl

/-- The flags are those of a response about the message. -/
def Shown (served : List ServerLine) (uid : UInt32) (read : Option (List String)) : Prop :=
  ∃ response, .fetch response ∈ served ∧ .uid uid ∈ response.items ∧
    ∃ flags written, .flags flags written ∈ response.items ∧ read = some flags

theorem shown_of_unmistaken {served : List ServerLine} {uid : UInt32} {readUid : List UInt8 → NetResult UInt32} {line : ServerLine}
    (hmem : line ∈ served) (h : line.unmistaken readUid uid = true) (huid : readUid line.line.text = .ok uid) :
    Shown served uid (readFlags line.line.text) := by
  unfold ServerLine.unmistaken at h
  rw [huid] at h
  obtain ⟨response, rfl, hown, flags, written, hflags, hread⟩ := ServerLine.shows_fetch (by simpa using h)
  exact ⟨response, hmem, hown, flags, written, hflags, hread⟩

theorem fetchedMessage_shown {served : List ServerLine} {uid : UInt32} {fetched : FetchedMessage}
    (h : fetchedMessage uid (served.map fun line => readLine (.fetch uid) line.line) = .ok fetched)
    (hline : unmistaken (.fetch uid) served = true) : Shown served uid (some fetched.flags) := by
  unfold fetchedMessage at h
  split at h
  · cases h
  · cases h
  · rename_i line raw hone
    -- the only line with a literal
    have hall := (congrArg (List.map fun p => (p.1.uid, p.1.flags)) hone).symm.trans (filterMap_fetched uid served)
    obtain ⟨sent, hsent, hpair⟩ := List.map_eq_singleton_iff.1 hall.symm
    obtain ⟨huid, hflags⟩ := Prod.mk.inj hpair
    have hmem : sent ∈ served := List.mem_of_mem_filter (hsent ▸ List.mem_singleton_self sent)
    rw [unmistaken, hsent] at hline
    obtain ⟨found, hfound, hrest⟩ := except_bind_eq_ok.1 h
    split at hrest
    · cases hrest
    · rename_i heq
      obtain rfl : found = uid := not_not.1 heq
      have hshown := shown_of_unmistaken hmem hline (huid.trans hfound)
      split at hrest
      · cases hrest
      · obtain ⟨size, -, hfetched⟩ := except_bind_eq_ok.1 hrest
        cases hfetched
        obtain ⟨response, hresponse, hown, flags, written, hitem, hread⟩ := hshown
        refine ⟨response, hresponse, hown, flags, written, hitem, ?_⟩
        rw [← hflags, hread]
        rfl

theorem fetchFlags_shown {served : List ServerLine} {uid : UInt32} {flags : List String}
    (h : fetchFlags uid (served.map fun line => readLine (.fetchFlags uid) line.line) = .ok flags)
    (hline : unmistaken (.fetchFlags uid) served = true) : ∃ read, flags = canonicalFlags read ∧ Shown served uid (some read) := by
  unfold fetchFlags at h
  split at h
  · cases h
  · rename_i line hfound
    have hall := (congrArg (Option.map fun line => (line.uid, line.flags)) hfound).symm.trans (findSome_fetched uid served)
    obtain ⟨sent, hsent, hpair⟩ := Option.map_eq_some_iff.1 hall.symm
    obtain ⟨huid, hflags⟩ := Prod.mk.inj hpair
    rw [unmistaken, hsent] at hline
    obtain ⟨found, hread, hrest⟩ := except_bind_eq_ok.1 h
    split at hrest
    · cases hrest
    · rename_i heq
      obtain rfl : found = uid := not_not.1 heq
      have hshown := shown_of_unmistaken (List.mem_of_find?_eq_some hsent) hline (huid.trans hread)
      split at hrest
      · cases hrest
      · rename_i read hsome
        cases hrest
        exact ⟨read, rfl, by rwa [← hsome, ← hflags]⟩

/-- What is shown of a message in the mailbox are its flags. -/
theorem Shown.flagsSeen {w w' : ImapWorld} (hl : w.Later w') {mailbox : String} {m : ImapMailbox} (hm : w'.now mailbox = some m)
    {served : List ServerLine} {uid : UInt32} {flags : List String} (h : Shown served uid (some flags))
    (hserved : ∀ response, .fetch response ∈ served → ∃ x ∈ m.messages, ∀ item ∈ response.items, Tells x item) :
    FlagsSeen w w' mailbox uid (canonicalFlags flags) := by
  obtain ⟨response, hresponse, hown, read, written, hitem, hread⟩ := h
  obtain rfl := Option.some.inj hread
  obtain ⟨x, hx, htells⟩ := hserved response hresponse
  obtain rfl : uid = x.uid := htells _ hown
  exact flagsSeen_now hl hm hx (htells _ hitem)

theorem gives_fetchMessage {mailbox : String} (uid : UInt32) {w : ImapWorld} (hs : w.selected = some mailbox) :
    Gives allowed (fetchMessage uid) (fun fetched w' => w'.selected = some mailbox ∧
      (Within allowed unmistaken → FlagsSeen w w' mailbox uid (canonicalFlags fetched.flags))) w := by
  refine Yields.bind (gives_sendCommand _ w) ?_
  rintro lines w' hl ⟨served, rfl, ⟨m, hm, hserved⟩, hallowed, hselected⟩
  rw [show w'.selected = w.selected from hselected, hs] at hm
  refine Yields.lift fun fetched hfetched => ⟨hselected.trans hs, fun hwithin => ?_⟩
  exact (fetchedMessage_shown hfetched (hwithin _ _ hallowed)).flagsSeen hl hm hserved

theorem gives_fetchFlagSnapshot {mailbox : String} (uids : List UInt32) {w : ImapWorld} (hs : w.selected = some mailbox) :
    Gives allowed (fetchFlagSnapshot uids) (fun snapshot w' => snapshot.map (·.1) = uids ∧
      (Within allowed unmistaken → ∀ p ∈ snapshot, FlagsSeen w w' mailbox p.1 p.2)) w := by
  induction uids generalizing w with
  | nil => exact Yields.pure ⟨rfl, by simp⟩
  | cons uid rest ih =>
    refine Yields.bind (gives_sendCommand _ w) ?_
    rintro lines w₁ hl ⟨served, rfl, ⟨m, hm, hserved⟩, hallowed, hselected⟩
    have hs₁ : w₁.selected = some mailbox := hselected.trans hs
    rw [hs₁] at hm
    refine Yields.bind (P := fun flags w' => w' = w₁ ∧ (Within allowed unmistaken → FlagsSeen w w₁ mailbox uid flags))
      (Yields.lift fun flags hflags => ⟨rfl, fun hwithin => ?_⟩) ?_
    · obtain ⟨read, rfl, hshown⟩ := fetchFlags_shown hflags (hwithin _ _ hallowed)
      exact hshown.flagsSeen hl hm hserved
    · rintro flags _ - ⟨rfl, hseen⟩
      refine Yields.bind (ih hs₁) ?_
      rintro snapshot w₂ hl₂ ⟨hkeys, hall⟩
      refine Yields.pure ⟨by rw [List.map_cons, hkeys], fun hwithin p hp => ?_⟩
      rcases List.mem_cons.1 hp with rfl | hp
      · exact (hseen hwithin).later (.refl w) hl₂
      · exact (hall hwithin p hp).later hl (.refl w₂)

/-! ## Snapshots -/

/-- The snapshot shows the uids that its mailbox had at an instant from `start` on. -/
structure ReadAt (start : Nat) (w : ImapWorld) (mailbox : String) (dto : NativeMailboxSnapshotDto) (i : Nat) (m : ImapMailbox) : Prop where
  since : start ≤ i
  shown : ∃ a, w.At i a ∧ a mailbox = some m
  status : dto.mailbox.name = mailbox
  uids : ∀ uid, uid ∈ dto.messages.map (·.uid) ↔ uid ∈ m.uids
  keys : ∀ d ∈ dto.messages, d.mailbox = mailbox ∧ d.uidValidity = dto.mailbox.uidValidity

theorem ReadAt.later {start start' : Nat} {w w' : ImapWorld} {mailbox : String} {dto : NativeMailboxSnapshotDto} {i : Nat} {m : ImapMailbox}
    (h : ReadAt start w mailbox dto i m) (hstart : start' ≤ start) (hl : w.Later w') : ReadAt start' w' mailbox dto i m := by
  obtain ⟨a, ha, hm⟩ := h.shown
  exact { h with since := hstart.trans h.since, shown := ⟨a, ha.later hl, hm⟩ }

/-- Each message's flags were its flags some time from `start` to `i`, and some time from `i` on. -/
def FlagsAround (start : Nat) (w : ImapWorld) (mailbox : String) (dto : NativeMailboxSnapshotDto) (i : Nat) : Prop :=
  ∀ d ∈ dto.messages, (∃ j b, start ≤ j ∧ j ≤ i ∧ w.At j b ∧ b.HasFlags mailbox d.uid (canonicalFlags d.flags)) ∧
    ∃ k c, i ≤ k ∧ w.At k c ∧ c.HasFlags mailbox d.uid (canonicalFlags d.flags)

variable {parseMessage : List UInt8 → NetResult ParsedMessage}

theorem gives_fetchMessages {mailbox : String} (uidValidity : UInt32) (uids : List UInt32) {w : ImapWorld}
    (hs : w.selected = some mailbox) : Gives allowed (fetchMessages parseMessage mailbox uidValidity uids) (fun fetched w' =>
      w'.selected = some mailbox ∧ fetched.1.map (·.uid) = uids ∧
      fetched.2 = fetched.1.map (fun d => (d.uid, canonicalFlags d.flags)) ∧
      (∀ d ∈ fetched.1, d.mailbox = mailbox ∧ d.uidValidity = uidValidity) ∧
      (Within allowed unmistaken → ∀ d ∈ fetched.1, FlagsSeen w w' mailbox d.uid (canonicalFlags d.flags))) w := by
  induction uids generalizing w with
  | nil => exact Yields.pure ⟨hs, rfl, rfl, by simp, by simp⟩
  | cons uid rest ih =>
    refine Yields.bind (gives_mapError (gives_fetchMessage uid hs)) ?_
    rintro fetched w₁ hl ⟨hs₁, hseen⟩
    refine Yields.bind (P := fun _ w' => w' = w₁) (Yields.lift fun _ _ => rfl) ?_
    rintro parsed _ - rfl
    refine Yields.bind (ih hs₁) ?_
    rintro ⟨messages, flags⟩ w₂ hl₂ ⟨hs₂, huids, hflags, hkeys, hall⟩
    dsimp only at huids hflags hkeys hall
    refine Yields.pure ⟨hs₂, by simp [ParsedMessage.metadata, huids], by simp [ParsedMessage.metadata, hflags], fun d hd => ?_,
      fun hwithin d hd => ?_⟩
    · rcases List.mem_cons.1 hd with rfl | hd
      · exact ⟨rfl, rfl⟩
      · exact hkeys d hd
    · rcases List.mem_cons.1 hd with rfl | hd
      · exact (hseen hwithin).later (.refl w) hl₂
      · exact (hall hwithin d hd).later hl (.refl w₂)

theorem ensureSnapshotStable_ok {uidValidity : UInt32} {initialStatus finalStatus : NativeMailboxDto} {initialUids finalUids : List UInt32}
    {initialFlags finalFlags : FlagSnapshot} {u : Unit}
    (h : ensureSnapshotStable uidValidity initialStatus initialUids finalStatus finalUids initialFlags finalFlags = .ok u) :
    finalStatus.uidValidity = uidValidity ∧ initialUids = finalUids ∧ initialFlags = finalFlags := by
  unfold ensureSnapshotStable at h
  split at h
  · cases h
  · rename_i hstable
    simp only [not_or, not_not] at hstable
    exact ⟨hstable.2.1, hstable.2.2.2.2.2.1, hstable.2.2.2.2.2.2⟩

theorem gives_snapshot (mailbox : String) (w : ImapWorld) : Gives allowed (snapshot parseMessage mailbox) (fun dto w' =>
    ∃ i m, ReadAt w.instant w' mailbox dto i m ∧ (Within allowed unmistaken → FlagsAround w.instant w' mailbox dto i)) w := by
  refine Yields.bind (gives_selectMailbox mailbox w) ?_
  rintro uidValidity w₁ hl₁ hs₁
  refine Yields.bind (gives_mailboxStatus mailbox w₁) ?_
  rintro initialStatus w₂ hl₂ ⟨-, hs₂, -⟩
  split
  · exact Yields.throw
  refine Yields.bind (gives_searchUids w₂) ?_
  rintro initialUids w₃ hl₃ ⟨hs₃, -⟩
  have hselected₃ : w₃.selected = some mailbox := hs₃.trans (hs₂.trans hs₁)
  refine Yields.bind (gives_fetchMessages uidValidity initialUids hselected₃) ?_
  rintro ⟨messages, initialFlags⟩ w₄ hl₄ ⟨hs₄, huids, hflags, hkeys, hbefore⟩
  dsimp only at huids hflags hkeys hbefore
  refine Yields.bind (gives_mailboxStatus mailbox w₄) ?_
  rintro finalStatus w₅ hl₅ ⟨hname, hs₅, -⟩
  -- the second reading of the uids, at whose instant the mailbox is as the snapshot says
  refine Yields.bind (gives_searchUids w₅) ?_
  rintro finalUids w₆ hl₆ ⟨hs₆, m, hm, -, hfinal⟩
  have hselected₆ : w₆.selected = some mailbox := hs₆.trans (hs₅.trans hs₄)
  rw [hselected₆] at hm
  refine Yields.bind (gives_mapError (gives_fetchFlagSnapshot finalUids hselected₆)) ?_
  rintro finalFlags w₇ hl₇ ⟨-, hafter⟩
  refine Yields.bind (P := fun _ w' => w' = w₇ ∧ finalStatus.uidValidity = uidValidity ∧ initialUids = finalUids ∧
    initialFlags = finalFlags) (Yields.lift fun _ hstable => ⟨rfl, ensureSnapshotStable_ok hstable⟩) ?_
  rintro _ _ - ⟨rfl, hvalidity, hsame, hsameFlags⟩
  have hto₃ : w.Later w₃ := hl₁.trans (hl₂.trans hl₃)
  have hto₆ : w₄.Later w₆ := hl₅.trans hl₆
  refine Yields.pure ⟨w₆.instant, m, ⟨?_, ⟨w₆.now, w₆.at_now.later hl₇, hm⟩, hname, ?_, ?_⟩, fun hwithin d hd => ⟨?_, ?_⟩⟩
  · exact (hto₃.trans (hl₄.trans hto₆)).instant_le
  · intro uid
    rw [huids, hsame]
    exact hfinal uid
  · intro d hd
    exact ⟨(hkeys d hd).1, (hkeys d hd).2.trans hvalidity.symm⟩
  · obtain ⟨j, b, hj, hb, hhas⟩ := hbefore hwithin d hd
    exact ⟨j, b, hto₃.instant_le.trans hj, hb.le.trans hto₆.instant_le, hb.later (hto₆.trans hl₇), hhas⟩
  · have hmem : (d.uid, canonicalFlags d.flags) ∈ finalFlags := by
      rw [← hsameFlags, hflags]
      exact List.mem_map_of_mem hd
    exact hafter hwithin _ hmem

theorem Gives.exec {α : Type} {p : ImapProgram α} {P : α → ImapWorld → Prop} {w w' : ImapWorld} (hp : Gives allowed p P w)
    {o : Option (NetResult α)} (h : Exec (ImapWorld.perform allowed) p.run w o w') : ∀ a, o = some (.ok a) → w.Later w' ∧ P a w' := by
  rintro a rfl
  obtain ⟨-, hQ⟩ := Exec.sound h trivial hp fun _ _ _ => trivial
  obtain ⟨hl, hP⟩ := hQ _ rfl
  exact ⟨hl, hP a rfl⟩

end

/-! ## One instant -/

/-- No message of the mailbox has its flags changed and changed back from `w` to `w'`. -/
def FlagsNotRestored (w w' : ImapWorld) (mailbox : String) : Prop :=
  ∀ i j k a b c, w.instant ≤ i → i ≤ j → j ≤ k → w'.At i a → w'.At j b → w'.At k c → ∀ uid flags,
    a.HasFlags mailbox uid flags → c.HasFlags mailbox uid flags → ∀ flags', b.HasFlags mailbox uid flags' → flags' = flags

/-- The mailbox has the snapshot's uids, and its messages have the snapshot's flags. -/
structure ShowsMailbox (dto : NativeMailboxSnapshotDto) (m : ImapMailbox) : Prop where
  uids : ∀ uid, uid ∈ dto.messages.map (·.uid) ↔ uid ∈ m.uids
  flags : ∀ d ∈ dto.messages, ∀ x ∈ m.messages, x.uid = d.uid → canonicalFlags x.flags = canonicalFlags d.flags

/-- The snapshot shows the mailbox as it was at one instant of the call. -/
def OfOneInstant (w w' : ImapWorld) (mailbox : String) (dto : NativeMailboxSnapshotDto) : Prop :=
  ∃ i a m, w.instant ≤ i ∧ w'.At i a ∧ a mailbox = some m ∧ ShowsMailbox dto m

/-- Whatever the other clients do between the commands, if no line is mistaken for another. -/
theorem snapshot_consistent {parseMessage : List UInt8 → NetResult ParsedMessage} {mailbox : String} {w w' : ImapWorld}
    {dto : NativeMailboxSnapshotDto}
    (h : Exec (ImapWorld.perform unmistaken) (snapshot parseMessage mailbox).run w (some (.ok dto)) w')
    (hflags : FlagsNotRestored w w' mailbox) : OfOneInstant w w' mailbox dto := by
  obtain ⟨-, i, m, hat, haround⟩ := (gives_snapshot mailbox w).exec h dto rfl
  obtain ⟨a, ha, hm⟩ := hat.shown
  refine ⟨i, a, m, hat.since, ha, hm, hat.uids, fun d hd x hx huid => ?_⟩
  obtain ⟨⟨j, b, hj, hji, hb, hbefore⟩, k, c, hik, hc, hafter⟩ := haround (fun _ _ h => h) d hd
  exact hflags j i k b a c hj hji hik hb ha hc d.uid _ hbefore hafter _ ⟨m, hm, x, hx, huid, rfl⟩

def sampleMailbox : ImapMailbox := ⟨7, 4, [⟨1, ["\\Seen", "\\Flagged"]⟩, ⟨3, []⟩]⟩

def sampleAccount : MailAccount
  | "INBOX" => some sampleMailbox
  | "Sent" => some ⟨9, 1, []⟩
  | _ => none

def sampleParse (_ : List UInt8) : NetResult ParsedMessage := .ok ⟨none, none, none, none, none, none, none, none, "", false⟩

/-- The flags of each message. -/
def shownFlags : Option (NetResult NativeMailboxSnapshotDto) → List (UInt32 × List String)
  | some (.ok dto) => dto.messages.map fun d => (d.uid, d.flags)
  | _ => []

theorem shownFlags_ne_nil {r : Option (NetResult NativeMailboxSnapshotDto)} {l : List (UInt32 × List String)} (h : shownFlags r = l)
    (hne : l ≠ []) : ∃ dto, r = some (.ok dto) ∧ dto.messages.map (fun d => (d.uid, d.flags)) = l := by
  unfold shownFlags at h
  split at h
  · exact ⟨_, rfl, h⟩
  · exact absurd h.symm hne

/-- Before each command a message is sent. -/
def busySnapshot : Option (NetResult NativeMailboxSnapshotDto) × ImapWorld :=
  (snapshot sampleParse "INBOX").run.play (ImapWorld.serve unmistaken (fun _ => false) fun _ => ImapWorld.deliver "Sent")
    ⟨[], sampleAccount, none, []⟩

theorem snapshot_consistent_busy : ∃ w' dto, Exec (ImapWorld.perform unmistaken) (snapshot sampleParse "INBOX").run
    ⟨[], sampleAccount, none, []⟩ (some (.ok dto)) w' ∧
    dto.messages.map (fun d => (d.uid, d.flags)) = [(1, ["\\Seen", "\\Flagged"]), (3, [])] ∧ w'.instant = 9 ∧
    OfOneInstant ⟨[], sampleAccount, none, []⟩ w' "INBOX" dto := by
  have hend : shownFlags busySnapshot.1 = [(1, ["\\Seen", "\\Flagged"]), (3, [])] := by decide +kernel
  have hrun : Exec (ImapWorld.perform unmistaken) (snapshot sampleParse "INBOX").run ⟨[], sampleAccount, none, []⟩ busySnapshot.1
      busySnapshot.2 := Exec.of_play (ImapWorld.serve_performs fun _ => ImapWorld.deliver_others "Sent") _ _
  obtain ⟨dto, hdto, hshown⟩ := shownFlags_ne_nil hend (by decide)
  rw [hdto] at hrun
  -- the mailbox is the same all the time
  have hsame : busySnapshot.2.history.map (· "INBOX") = List.replicate 10 (some sampleMailbox) := by decide +kernel
  have hinbox (i : Nat) (a : MailAccount) (ha : busySnapshot.2.At i a) : a "INBOX" = some sampleMailbox := by
    have hget := ha.mailbox "INBOX"
    rw [hsame] at hget
    exact List.eq_of_mem_replicate (List.mem_of_getElem? hget)
  have hone : ∀ x ∈ sampleMailbox.messages, ∀ y ∈ sampleMailbox.messages, x.uid = y.uid → x = y := by decide
  have hflags : FlagsNotRestored ⟨[], sampleAccount, none, []⟩ busySnapshot.2 "INBOX" := by
    rintro i j k a b c - - - ha hb hc uid flags ⟨m, hm, x, hx, rfl, rfl⟩ - flags' ⟨m', hm', y, hy, huid, rfl⟩
    rw [hinbox i a ha] at hm
    rw [hinbox j b hb] at hm'
    cases hm
    cases hm'
    rw [hone y hy x hx huid]
  exact ⟨_, dto, hrun, hshown, by decide +kernel, snapshot_consistent hrun hflags⟩

/-! ## A keyword that looks like a uid -/

def keywordMailbox : ImapMailbox := ⟨7, 8, [⟨4, ["UID4"]⟩, ⟨7, []⟩]⟩

def passedMailbox : ImapMailbox := ⟨7, 8, [⟨4, []⟩, ⟨7, ["UID4"]⟩]⟩

def keywordAccount : MailAccount
  | "INBOX" => some keywordMailbox
  | _ => none

/-- The keyword passes from the one message to the other before the other is fetched. -/
def passKeyword (command : ImapCall) (w : ImapWorld) : ImapWorld :=
  if command = .fetch 7 then w.store "INBOX" fun x => if x.uid = 7 then ["UID4"] else [] else w

theorem passKeyword_others (command : ImapCall) (w : ImapWorld) : w.Others (passKeyword command w) := by
  unfold passKeyword
  split
  · exact ImapWorld.store_others _ _ w
  · exact .refl

/-- The server tells unasked of the flags of the other message. -/
def mistakenSnapshot : Option (NetResult NativeMailboxSnapshotDto) × ImapWorld :=
  (snapshot sampleParse "INBOX").run.play (ImapWorld.serve anyAnswer (fun x => x.flags ≠ []) passKeyword)
    ⟨[], keywordAccount, none, []⟩

/-- `* 2 FETCH (FLAGS (UID4))` is read as the flags of message 4, and both messages seem to have the keyword. -/
theorem snapshot_mistaken : ∃ w' dto, Exec (ImapWorld.perform anyAnswer) (snapshot sampleParse "INBOX").run
    ⟨[], keywordAccount, none, []⟩ (some (.ok dto)) w' ∧ FlagsNotRestored ⟨[], keywordAccount, none, []⟩ w' "INBOX" ∧
    ¬OfOneInstant ⟨[], keywordAccount, none, []⟩ w' "INBOX" dto := by
  have hend : shownFlags mistakenSnapshot.1 = [(4, ["UID4"]), (7, ["UID4"])] := by decide +kernel
  have hrun : Exec (ImapWorld.perform anyAnswer) (snapshot sampleParse "INBOX").run ⟨[], keywordAccount, none, []⟩ mistakenSnapshot.1
      mistakenSnapshot.2 := Exec.of_play (ImapWorld.serve_performs passKeyword_others) _ _
  obtain ⟨dto, hdto, hshown⟩ := shownFlags_ne_nil hend (by decide)
  rw [hdto] at hrun
  have hhistory : mistakenSnapshot.2.history.map (· "INBOX") = [some keywordMailbox, some passedMailbox] := by decide +kernel
  have hinbox (i : Nat) (a : MailAccount) (ha : mistakenSnapshot.2.At i a) :
      i = 0 ∧ a "INBOX" = some keywordMailbox ∨ i = 1 ∧ a "INBOX" = some passedMailbox := by
    have hget := ha.mailbox "INBOX"
    rw [hhistory] at hget
    match i with
    | 0 => exact .inl ⟨rfl, (Option.some.inj hget).symm⟩
    | 1 => exact .inr ⟨rfl, (Option.some.inj hget).symm⟩
    | i + 2 => cases hget
  have hchanged : ∀ x ∈ keywordMailbox.messages, ∀ y ∈ passedMailbox.messages, x.uid = y.uid →
      canonicalFlags x.flags ≠ canonicalFlags y.flags := by decide
  have hone : ∀ m ∈ [keywordMailbox, passedMailbox], ∀ x ∈ m.messages, ∀ y ∈ m.messages, x.uid = y.uid → x = y := by decide
  have hsame {a b : MailAccount} {m : ImapMailbox} (hm : m ∈ [keywordMailbox, passedMailbox]) (ha : a "INBOX" = some m)
      (hb : b "INBOX" = some m) {uid : UInt32} {flags flags' : List String} (hflags : a.HasFlags "INBOX" uid flags)
      (hflags' : b.HasFlags "INBOX" uid flags') : flags' = flags := by
    obtain ⟨m₁, hm₁, x, hx, rfl, rfl⟩ := hflags
    obtain ⟨m₂, hm₂, y, hy, huid, rfl⟩ := hflags'
    rw [ha] at hm₁
    rw [hb] at hm₂
    cases hm₁
    cases hm₂
    rw [hone m hm y hy x hx huid]
  refine ⟨_, dto, hrun, ?_, ?_⟩
  · intro i j k a b c _ hij hjk ha hb hc uid flags hbefore hafter flags' hbetween
    rcases hinbox i a ha with ⟨rfl, hai⟩ | ⟨rfl, hai⟩ <;> rcases hinbox k c hc with ⟨rfl, hck⟩ | ⟨rfl, hck⟩
    · obtain ⟨-, hbj⟩ := (hinbox j b hb).resolve_right (by omega)
      exact hsame (by simp) hai hbj hbefore hbetween
    · -- no message has the same flags at both instants
      obtain ⟨m₁, hm₁, x, hx, rfl, rfl⟩ := hbefore
      obtain ⟨m₂, hm₂, y, hy, huid, hflags⟩ := hafter
      rw [hai] at hm₁
      rw [hck] at hm₂
      cases hm₁
      cases hm₂
      exact absurd hflags.symm (hchanged x hx y hy huid.symm)
    · omega
    · obtain ⟨-, hbj⟩ := (hinbox j b hb).resolve_left (by omega)
      exact hsame (by simp) hai hbj hbefore hbetween
  · rintro ⟨i, a, m, -, ha, hm, hshows⟩
    have hne : canonicalFlags [] ≠ canonicalFlags ["UID4"] := by decide
    have hread (uid : UInt32) (hmem : (uid, ["UID4"]) ∈ [((4 : UInt32), ["UID4"]), (7, ["UID4"])]) (hx : ⟨uid, []⟩ ∈ m.messages) : False := by
      rw [← hshown] at hmem
      obtain ⟨d, hd, heq⟩ := List.mem_map.1 hmem
      obtain ⟨huid, hflags⟩ := Prod.mk.inj heq
      have hempty := hshows.flags d hd ⟨uid, []⟩ hx huid.symm
      rw [hflags] at hempty
      exact hne hempty
    rcases hinbox i a ha with ⟨-, hai⟩ | ⟨-, hai⟩
    · cases hai.symm.trans hm
      exact hread 7 (by simp) (by simp [keywordMailbox])
    · cases hai.symm.trans hm
      exact hread 4 (by simp) (by simp [passedMailbox])

end Boxplot.Net
