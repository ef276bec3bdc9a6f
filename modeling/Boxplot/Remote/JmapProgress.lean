import Boxplot.Remote.JmapDelta
import Boxplot.Sync.Coordinator
/-!
# Progress over JMAP

`syncEmails` called again and again, each time from the cursor the call before
it left. The server splits the backlog anew for each call. A call that meets no
more pages than it reads brings the cursor to the server's state, and one that
meets more leaves it where it was. The coordinator makes such calls, and stores
the cursor they return.
-/

namespace Boxplot.Jmap

open Domain Lib Remote JmapRemoteMail

variable {W : Type} {S : MailStore W} {log : ChangeLog S} {accountId : String}

/-! ## Every call ends -/

/-- A get has an answer: what the server holds of the ids. -/
theorem getEmails_always (ids : List String) : (answerable (serve log.answers)).Always (getEmails accountId ids) := by
  refine Contract.Always.bind (Contract.Always.bind (Contract.Always.call fun h => ?_) fun _ => Contract.Always.lift _)
    fun _ => Contract.Always.pure _
  let response : Reply (.emailGet accountId ids) := .ok ⟨some ((S.at log.last).heldOf () ids), some (S.emailState log.last)⟩
  exact ⟨response, _, (), ⟨_, rfl, _, rfl, .refl _⟩, rfl⟩

theorem fetchBatches_always {includeState : Bool} (batches : List (List String)) (state : Option String)
    (emails : List JmapEmail) :
    (answerable (serve log.answers)).Always (fetchBatches accountId includeState state emails batches) := by
  induction batches generalizing state emails with
  | nil => exact Contract.Always.pure _
  | cons batch rest ih =>
    unfold fetchBatches
    refine Contract.Always.bind (getEmails_always batch) fun result => ?_
    dsimp only
    split
    · exact Contract.Always.throw _
    · exact Contract.Always.bind (Contract.Always.lift _) fun _ => ih _ _

theorem finishDelta_always (state : String) (c : Changes) :
    (answerable (serve log.answers)).Always (finishDelta accountId state c) := by
  refine Contract.Always.bind (Contract.Always.bind (fetchBatches_always _ _ _) fun _ => Contract.Always.pure _) fun _ => ?_
  exact Contract.Always.bind (Contract.Always.lift _) fun _ => Contract.Always.bind (Contract.Always.lift _) fun _ =>
    Contract.Always.lift _

/-- The page since a state the log knows is there to be asked for. -/
theorem answerable_getEmailChanges {done rest : List (LogPage W)} {w : W} {c : Changes} (hr : Read log done rest w c)
    (h : List (Exchange Unit)) :
    (answerable (serve log.answers)).wpA (getEmailChanges accountId (S.emailState w)) (Ends False fun delta _ =>
      ∃ l p tail, log.pages = l ++ p :: tail ∧ S.emailState p.before = S.emailState w ∧ delta.newState = S.emailState p.after ∧
      delta.hasMoreChanges = !tail.isEmpty ∧
      delta.created = p.created ∧ delta.updated = p.updated ∧ delta.destroyed = p.destroyed) h := by
  refine wp_answerable (ends_getEmailChanges _ h) ?_
  obtain ⟨p, tail, rfl, rfl⟩ := hr.next
  refine Contract.wpA_bind_of (P := fun _ _ => True) ⟨?_, fun _ _ _ => trivial⟩ (fun response h' _ => ?_) fun _ _ _ => trivial
  · let r : Reply (.emailChanges accountId (S.emailState p.before)) := .ok (p.response S !tail.isEmpty)
    exact ⟨r, _, (), ⟨done, p, tail, hr.split, rfl, rfl⟩, rfl⟩
  · split <;> trivial

theorem answerable_deltaPages (left : Nat) {done rest : List (LogPage W)} {w : W} {c : Changes} (hr : Read log done rest w c)
    (h : List (Exchange Unit)) :
    (answerable (serve log.answers)).wpA (deltaPages accountId left (S.emailState w) c) (fun _ _ => True) h := by
  induction left generalizing done rest w c h with
  | zero => trivial
  | succ left ih =>
    unfold deltaPages
    refine Contract.wpA_bind_of (answerable_getEmailChanges hr h) ?_ fun x _ hx => hx.elim
    rintro delta h' ⟨l, p, tail, hp, hs, hnew, hmore, hcreated, hupdated, hdestroyed⟩
    obtain rfl := hr.page hp hs
    rw [hmore, hnew]
    cases tail with
    | nil => exact finishDelta_always _ _ h'
    | cons q tail => exact ih (hr.advance hcreated hupdated hdestroyed) h'

/-- Against an honest log every call can be run to its end. -/
theorem syncEmails_ends : ∃ outcome h,
    Exec (serve log.answers) (syncEmails accountId (some (S.emailState log.first))).run [] (some outcome) h := by
  have hwp : (answerable (serve log.answers)).wpA (syncEmails accountId (some (S.emailState log.first))) (fun _ _ => True) [] := by
    unfold syncEmails
    rw [Contract.wpA_tryCatch]
    refine Contract.wpA_mono _ (fun r _ hr => ?_)
      (wp_answerable (wp_deltaPages maxDeltaPages Read.start []) (answerable_deltaPages maxDeltaPages Read.start []))
    cases r with
    | ok result => trivial
    | error x =>
      obtain ⟨rfl, -⟩ := hr
      trivial
  obtain ⟨outcome, h, hrun, -⟩ := Exec.ends hwp
  exact ⟨outcome, h, hrun⟩

/-! ## One call after the other -/

/-- The cursor to call with next: that of the answer, or the same one after a failure. -/
def nextCursor (cursor : String) : Except JsError (RemoteCollectionSync RemoteEmail String) → String
  | .ok transition => transition.state
  | .error _ => cursor

/-- Calls from a cursor on, while the server is in the state `current`: the numbers of pages they meet, and where they lead.
Each call has a log of its own, from its cursor to that state. -/
inductive Calls (S : MailStore W) (accountId : String) (current : W) : String → List Nat → String → Prop
  | none (cursor : String) : Calls S accountId current cursor [] cursor
  | next {cursor cursor' : String} {pages : List Nat} (log : ChangeLog S)
      {outcome : Except JsError (RemoteCollectionSync RemoteEmail String)} {h : List (Exchange Unit)} :
      S.emailState log.first = cursor → log.last = current →
      Exec (serve log.answers) (syncEmails accountId (some cursor)).run [] (some outcome) h →
      Calls S accountId current (nextCursor cursor outcome) pages cursor' →
      Calls S accountId current cursor (log.pages.length :: pages) cursor'

/-- One call moves the cursor just if it meets no more pages than it reads. -/
theorem nextCursor_eq {outcome : Except JsError (RemoteCollectionSync RemoteEmail String)} {h : List (Exchange Unit)}
    (hrun : Exec (serve log.answers) (syncEmails accountId (some (S.emailState log.first))).run [] (some outcome) h) :
    nextCursor (S.emailState log.first) outcome =
      if log.pages.length ≤ maxDeltaPages then S.emailState log.last else S.emailState log.first := by
  have hr := (hrun.sound trivial wp_syncEmails fun _ _ _ => trivial).2 _ rfl
  cases outcome with
  | ok result =>
    obtain ⟨hle, changed, destroyed, rfl, -⟩ := hr
    rw [if_pos hle]
    rfl
  | error x =>
    obtain ⟨rfl, hlong⟩ := hr
    rw [if_neg (Nat.not_le.2 hlong)]
    rfl

/-- The first call that meets few enough pages brings the cursor to the server's state, where it stays. -/
theorem Calls.cursor_eq {current : W} {cursor cursor' : String} {pages : List Nat}
    (h : Calls S accountId current cursor pages cursor') :
    cursor' = if ∃ n ∈ pages, n ≤ maxDeltaPages then S.emailState current else cursor := by
  induction h with
  | none cursor => simp
  | @next cursor cursor' pages log outcome h hfirst hlast hrun _ ih =>
    subst hfirst hlast
    rw [ih, nextCursor_eq hrun]
    by_cases hle : log.pages.length ≤ maxDeltaPages
    · simp [hle]
    · simp [hle]

/-! ## The coordinator's calls -/

/-- A call from the cursor settles so. -/
def Settles (S : MailStore W) (accountId : String) (current : W) (cursor : String)
    (outcome : Except JsError (RemoteCollectionSync RemoteEmail String)) : Prop :=
  ∃ log : ChangeLog S, ∃ h, S.emailState log.first = cursor ∧ log.last = current ∧
    Exec (serve log.answers) (syncEmails accountId (some cursor)).run [] (some outcome) h

/-- The ports of the coordinator. The store has a cursor, and may fail; the remote side's calls settle as `settles` says. -/
def portStep (settles : String → Except JsError (RemoteCollectionSync RemoteEmail String) → Prop) (stored : CollectionSyncCursor) :
    (e : Outbox.Call) → Outbox.Reply e → CollectionSyncCursor → Prop
  | .sync (.readCollectionSyncCursor _ _), r, stored' => stored' = stored ∧ ∀ read, r = .ok read → read = .present stored
  | .sync (.syncEmails _ previous), r, stored' => stored' = stored ∧ ∃ cursor, previous = some cursor ∧ settles cursor r
  | .sync (.applyCollectionSync commit), r, stored' => r = .ok () ∧ stored' = commit.nextCursor ∨ r ≠ .ok () ∧ stored' = stored
  | _, _, stored' => stored' = stored

variable {settles : String → Except JsError (RemoteCollectionSync RemoteEmail String) → Prop}

theorem wp_readCursorOutcome (accountKey : AccountKey) (stored : CollectionSyncCursor) :
    (keeps (portStep settles) fun _ => True).wpA (Sync.readCursorOutcome accountKey .email)
      (fun r stored' => stored' = stored ∧ ∀ cursor, r = .ok cursor → cursor = some stored) stored := by
  refine ⟨trivial, ?_⟩
  rintro r stored' ⟨rfl, hr⟩
  rcases r with read | e | _
  · obtain rfl := hr read rfl
    exact ⟨rfl, fun cursor h => (Except.ok.inj h).symm⟩
  · exact ⟨rfl, fun cursor h => by cases h⟩
  · exact ⟨rfl, fun cursor h => by cases h⟩

/-- A synchronisation that resolves has stored the state of an answer; one that rejects has stored nothing. -/
theorem wp_coordinator (accountKey : AccountKey) (remoteAccountId : String) (attempts : Nat) (stored : CollectionSyncCursor) :
    (keeps (portStep settles) fun _ => True).wpA (Sync.syncCollection accountKey .email (fun previous => do
        let transition ← Outbox.settled (← Outbox.ask (.sync (.syncEmails remoteAccountId previous)))
        pure (Sync.emailCommit accountKey transition)) attempts)
      (fun r stored' => match r with
        | .ok _ => ∃ transition, settles stored.state (.ok transition) ∧ stored'.state = transition.state
        | .error _ => stored' = stored) stored := by
  induction attempts with
  | zero => rfl
  | succ attempts ih =>
    unfold Sync.syncCollection
    refine Contract.wpA_bind_of (wp_readCursorOutcome accountKey stored) ?_ fun _ _ h => h.1
    rintro cursor stored' ⟨heq, hcursor⟩
    subst stored'
    obtain rfl := hcursor cursor rfl
    refine Contract.wpA_bind_of (P := fun r stored' => stored' = stored ∧ ∀ createCommit, r = .ok createCommit →
      ∃ transition, settles stored.state (.ok transition) ∧ createCommit = Sync.emailCommit accountKey transition) ?_ ?_ ?_
    · refine ⟨trivial, ?_⟩
      rintro r stored' ⟨heq, cursor, ⟨⟩, hsettles⟩
      subst stored'
      cases r with
      | error x => exact ⟨rfl, fun _ h => by cases h⟩
      | ok transition => exact ⟨rfl, fun _ h => ⟨transition, hsettles, (Except.ok.inj h).symm⟩⟩
    · rintro createCommit stored' ⟨heq, hcreate⟩
      subst stored'
      obtain ⟨transition, hsettles, rfl⟩ := hcreate createCommit rfl
      cases hcommit : Sync.emailCommit accountKey transition (Sync.precondition (some stored)) with
      | error x => rfl
      | ok commit =>
        have hnext : commit.nextCursor.state = transition.state := by
          obtain ⟨change, -, h⟩ := except_bind_eq_ok.1 hcommit
          cases h
          rfl
        refine ⟨trivial, ?_⟩
        rintro r stored' (⟨rfl, rfl⟩ | ⟨hr, heq⟩)
        · exact ⟨transition, hsettles, hnext⟩
        · subst stored'
          rcases r with v | e | _
          · exact absurd rfl hr
          · cases e with
            | conflict => exact ih
            | unavailable => rfl
            | corruptState => rfl
            | unexpected => rfl
          · rfl
    · exact fun _ _ h => h.1

/-- `Coordinator.syncEmails` is one call from the stored cursor, if it resolves. -/
theorem Calls.of_coordinator {current : W} {accountKey : AccountKey} {remoteAccountId : String} {stored stored' : CollectionSyncCursor}
    (h : Exec (portStep (Settles S accountId current)) (Sync.syncEmails accountKey remoteAccountId).run stored (some (.ok ())) stored') :
    ∃ pages, Calls S accountId current stored.state [pages] stored'.state := by
  obtain ⟨transition, ⟨log, _, hfirst, hlast, hrun⟩, hstate⟩ :=
    (h.sound trivial (wp_coordinator accountKey remoteAccountId Sync.syncAttempts stored) fun _ _ _ => trivial).2 _ rfl
  exact ⟨_, .next log hfirst hlast hrun (hstate ▸ .none _)⟩

/-- And it leaves the stored cursor if it rejects. -/
theorem coordinator_rejects {current : W} {accountKey : AccountKey} {remoteAccountId : String} {stored stored' : CollectionSyncCursor}
    {x : JsError}
    (h : Exec (portStep (Settles S accountId current)) (Sync.syncEmails accountKey remoteAccountId).run stored (some (.error x)) stored') :
    stored' = stored :=
  (h.sound trivial (wp_coordinator accountKey remoteAccountId Sync.syncAttempts stored) fun _ _ _ => trivial).2 _ rfl

/-! ## Progress -/

/-- Every call against an honest log can be run to its end; and calls, however many, bring the cursor to the server's state
just if one of them meets no more than `maxDeltaPages` pages, and otherwise leave it where it was. -/
theorem delta_progress (S : MailStore W) (accountId : String) (current : W) :
    (∀ log : ChangeLog S, ∃ outcome h,
      Exec (serve log.answers) (syncEmails accountId (some (S.emailState log.first))).run [] (some outcome) h) ∧
    ∀ {cursor cursor' : String} {pages : List Nat}, Calls S accountId current cursor pages cursor' →
      cursor' = if ∃ n ∈ pages, n ≤ maxDeltaPages then S.emailState current else cursor :=
  ⟨fun _ => syncEmails_ends, Calls.cursor_eq⟩

theorem delta_progress_replacing : ∃ cursor', Calls replacingStore "a" true "s0" [1] cursor' ∧ cursor' = "s1" := by
  obtain ⟨outcome, h, hrun⟩ := (delta_progress replacingStore "a" true).1 replacingLog
  have hcalls : Calls replacingStore "a" true "s0" [1] (nextCursor "s0" outcome) := .next replacingLog rfl rfl hrun (.none _)
  exact ⟨_, hcalls, (delta_progress replacingStore "a" true).2 hcalls⟩

/-! ### One email that changes over and over -/

def changingRaw (n : Nat) : RawJmapEmail := { sampleRaw "e1" with size := some n }

def changingStore : MailStore Nat where
  emails n := [changingRaw n]
  emailState n := String.ofList (List.replicate (n + 1) 's')
  nodup n := List.nodup_singleton _
  wellFormed n raw h := by
    obtain rfl := List.mem_singleton.1 h
    exact ⟨⟨"e1", rfl, by decide⟩, ⟨"b", rfl, by decide⟩, ⟨"t", rfl, by decide⟩, ⟨_, rfl, by decide⟩, ⟨_, rfl, by decide, by decide⟩⟩

theorem changingStore_state_injective : Function.Injective changingStore.emailState := by
  intro m n h
  have hlen := congrArg List.length (String.ofList_injective h)
  simpa using hlen

theorem changingStore_holds {n : Nat} {id : String} : changingStore.holds n id ↔ id = "e1" := by
  simp [MailStore.holds, changingStore, changingRaw, sampleRaw, eq_comm]

/-- The email changed once. -/
def changingPage (n : Nat) : LogPage Nat := ⟨n, n + 1, [], ["e1"], []⟩

theorem changingPage_honest (n : Nat) : (changingPage n).Honest changingStore where
  created id hid hno := absurd (changingStore_holds.2 (changingStore_holds.1 hid)) hno
  updated raw hraw _ id hid hold := by simpa [changingPage] using changingStore_holds.1 hold
  destroyed id hid hno := absurd (changingStore_holds.2 (changingStore_holds.1 hid)) hno
  listed id hid := .inl (changingStore_holds.2 (by simpa [changingPage, LogPage.lists] using hid))
  gone id hid := by cases hid
  ids id hid := by cases hid

/-- So many changes, one a page. -/
def changingLog (changes : Nat) (h : 0 < changes) : ChangeLog changingStore where
  pages := (List.range changes).map changingPage
  nonempty := by simpa using Nat.ne_of_gt h
  honest p hp := by
    obtain ⟨n, -, rfl⟩ := List.mem_map.1 hp
    exact changingPage_honest n
  chain := by
    rw [List.isChain_map]
    exact (List.isChain_range _ _).2 fun _ _ => rfl
  states := by
    rw [List.map_map]
    exact List.nodup_range.map changingStore_state_injective
  unused := List.pairwise_map.2 (List.pairwise_of_forall fun _ _ _ hid => by cases hid)

/-- While the server goes on from page to page, no number of calls gets past a backlog of 21. -/
theorem delta_backlog_stuck : (∀ p ∈ (changingLog 21 (by decide)).pages, p.updated = ["e1"]) ∧
    (∀ calls, Calls changingStore "a" 21 "s" (List.replicate calls 21) "s") ∧
    ∀ calls cursor', Calls changingStore "a" 21 "s" (List.replicate calls 21) cursor' → cursor' ≠ changingStore.emailState 21 := by
  have hstuck : ∀ {calls cursor'}, Calls changingStore "a" 21 "s" (List.replicate calls 21) cursor' → cursor' = "s" := by
    intro calls cursor' h
    rw [h.cursor_eq, if_neg]
    rintro ⟨n, hn, hle⟩
    rw [List.eq_of_mem_replicate hn] at hle
    exact absurd hle (by decide)
  refine ⟨fun p hp => ?_, fun calls => ?_, fun calls cursor' h => ?_⟩
  · obtain ⟨n, -, rfl⟩ := List.mem_map.1 hp
    rfl
  · induction calls with
    | zero => exact .none _
    | succ calls ih =>
      obtain ⟨outcome, h, hrun⟩ : ∃ outcome h, Exec (serve (changingLog 21 (by decide)).answers)
          (syncEmails "a" (some (changingStore.emailState (changingLog 21 (by decide)).first))).run [] (some outcome) h :=
        syncEmails_ends
      have hnext : nextCursor "s" outcome = "s" := (nextCursor_eq hrun).trans (if_neg (by decide))
      exact .next (changingLog 21 (by decide)) rfl rfl hrun (by rwa [hnext])
  · rw [hstuck h]
    exact changingStore_state_injective.ne (show (0 : Nat) ≠ 21 by decide)

end Boxplot.Jmap
