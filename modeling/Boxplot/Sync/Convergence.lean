import Boxplot.Memory.Commits
import Boxplot.Sync.Carried
/-!
# Refreshes converge

Any number of refreshes of any accounts, over one memory engine that others
write to. Each reads a cursor, asks a server what came after it, and commits
the answer if the cursor is still the one it read; a conflict is tried once
more. Whatever the order, an account's rows are its server's at the states that
its cursors name, if the adapters answer with exactly what the servers have.
-/

namespace Boxplot.Sync

open Domain Remote Lib Outbox Memory

namespace Convergence

/-! ## The engine among others -/

/-- An engine, the emails that a write other than a commit has changed since a commit last said what they are, and
those it has moved. -/
structure SyncWorld where
  engine : Memory.Engine
  rewritten : ScopedEmailId → Bool
  moved : ScopedEmailId → Bool

/-- A commit says what the row of the email is. -/
def covers (a : AccountKey) (change : CollectionChange EmailSyncRecord ScopedEmailId) (id : ScopedEmailId) : Bool :=
  id.accountKey = a && match change with
    | .replace _ _ => true
    | .delta _ changed destroyed => changed.any (·.email.id = id) || destroyed.contains id

namespace SyncWorld

def initial : SyncWorld := ⟨.empty, fun _ => false, fun _ => false⟩

def state (w : SyncWorld) (a : AccountKey) (d : CollectionDataType) : Option String := (w.engine.cursors.get? (a, d)).map (·.state)

/-- After an operation that is not a commit. -/
def after (w : SyncWorld) (op : SyncOperation) : SyncWorld :=
  let engine := finalState (op.run w.engine)
  { engine
    rewritten id := w.rewritten id || decide (engine.emails.get? id ≠ w.engine.emails.get? id)
    moved id := w.moved id || decide (engine.memberships.get? id ≠ w.engine.memberships.get? id) }

/-- After a commit that left the engine so. -/
def committed (w : SyncWorld) (commit : CollectionSyncCommit) (engine : Memory.Engine) : SyncWorld :=
  match commit with
  | .email next change =>
    { engine
      rewritten id := w.rewritten id && !covers next.accountKey change id
      moved id := w.moved id && !covers next.accountKey change id }
  | _ => { w with engine }

end SyncWorld

/-- A commit goes through, is refused, or never reaches the engine. What the refresh hears of the first may be lost. -/
inductive Applied (w : SyncWorld) (commit : CollectionSyncCommit) : PortReply LocalWriteError Unit → SyncWorld → Prop
  | committed {r : PortReply LocalWriteError Unit} {s : Memory.Engine} :
      (SyncOperation.applyCollectionSync commit).run w.engine = .ok .ok s → Applied w commit r (w.committed commit s)
  | conflict {r : PortReply LocalWriteError Unit} {s : Memory.Engine} : r ≠ .ok () →
      (SyncOperation.applyCollectionSync commit).run w.engine = .ok .conflict s → Applied w commit r { w with engine := s }
  | thrown {r : PortReply LocalWriteError Unit} {message : String} {s : Memory.Engine} : r ≠ .ok () →
      (SyncOperation.applyCollectionSync commit).run w.engine = .error message s → Applied w commit r { w with engine := s }
  | failed {r : PortReply LocalWriteError Unit} : r ≠ .ok () → Applied w commit r w

/-- The reads of the engine may fail. -/
def perform (H : Servers) (w : SyncWorld) (_ : Nat) (e : Call) (r : Reply e) (w' : SyncWorld) : Prop :=
  match e, r with
  | .sync (.applyCollectionSync commit), r => Applied w commit r w'
  | .sync (.readCollectionSyncCursor a dataType), r =>
    (∀ read, r = .ok read → read = w.engine.readCollectionSyncCursor a dataType) ∧ w' = w
  | .sync (.listMailboxes a), r => (∀ read, r = .ok read → read = w.engine.listMailboxes a) ∧ w' = w
  | e, r => Plausible H e r ∧ w' = w

/-- Others call any operation of the engine but a commit. -/
inductive Env : SyncWorld → SyncWorld → Prop
  | write {w : SyncWorld} (op : SyncOperation) : (∀ commit, op ≠ .applyCollectionSync commit) → Env w (w.after op)

/-- Refreshes of any accounts, started at any time. -/
def syncSystem (H : Servers) : System Call Reply Unit SyncWorld where
  perform := perform H
  starts p := ∃ a, p = (refreshAccount a).run.bind fun _ => .pure ()
  env := Env

/-! ## What is kept -/

/-- The account's rows are its server's at the states its cursors name. A mailbox that the domain refuses may be an older one;
an email or an identity is never refused. -/
structure Mirrored (H : Servers) (w : SyncWorld) (a : AccountKey) : Prop where
  identities : (H.identities (H.accountOf a)).Mirrors (toDomainIdentity a) (w.state a .identity) (fun _ => False)
    fun id => w.engine.identities.get? ⟨a, id⟩
  mailboxes : (H.mailboxes (H.accountOf a)).Mirrors (toDomainMailbox a) (w.state a .mailbox) (fun _ => False)
    fun id => w.engine.mailboxes.get? ⟨a, id⟩
  emails : (H.emails (H.accountOf a)).Mirrors (fun row => (toDomainEmailRecord a row).map (·.email)) (w.state a .email)
    (fun id => w.rewritten ⟨a, id⟩ = true) fun id => w.engine.emails.get? ⟨a, id⟩
  memberships : (H.emails (H.accountOf a)).Mirrors (fun row => (toDomainEmailRecord a row).map (·.memberships)) (w.state a .email)
    (fun id => w.moved ⟨a, id⟩ = true) fun id => w.engine.memberships.get? ⟨a, id⟩
  identitiesAccepted : (H.identities (H.accountOf a)).Accepted (toDomainIdentity a) (w.state a .identity)
  emailsAccepted : (H.emails (H.accountOf a)).Accepted (toDomainEmailRecord a) (w.state a .email)

/-- Entries are under the ids of their values, and memberships are of emails that are there. -/
structure Sound (H : Servers) (w : SyncWorld) : Prop where
  keyed : w.engine.Keyed
  emailed : ∀ id, w.engine.memberships.has id = true → w.engine.emails.has id = true
  mirrored : ∀ a, Mirrored H w a

/-! ## Commits -/

variable {H : Servers} {w w' : SyncWorld} {s : Memory.Engine} {commit : CollectionSyncCommit} {a : AccountKey}

/-- What an operation that is not a commit leaves as it was. -/
structure RowsKept (s s' : Memory.Engine) : Prop where
  identities : s'.identities = s.identities
  mailboxes : s'.mailboxes = s.mailboxes
  cursors : s'.cursors = s.cursors
  emails : ∀ id, s.emails.has id = true → s'.emails.has id = true
  memberships : ∀ id, s'.memberships.has id = true → s.memberships.has id = true ∨ s.emails.has id = true

theorem RowsKept.of_eq {s' : Memory.Engine} (hidentities : s'.identities = s.identities) (hmailboxes : s'.mailboxes = s.mailboxes)
    (hcursors : s'.cursors = s.cursors) (hemails : s'.emails = s.emails) (hmemberships : s'.memberships = s.memberships) :
    RowsKept s s' :=
  ⟨hidentities, hmailboxes, hcursors, fun _ h => by rw [hemails]; exact h, fun _ h => .inl (by rw [← hmemberships]; exact h)⟩

/-- A refresh commits only what a server answered to the cursor it read. -/
def syncContract (H : Servers) : Contract Call Reply Unit where
  may _ e := ∀ commit, e = .sync (.applyCollectionSync commit) → Built H commit
  step _ e r _ := Plausible H e r

theorem wp_ask {e : Call} {Q : Except JsError (Reply e) → Unit → Prop} (hmay : ∀ commit, e = .sync (.applyCollectionSync commit) → Built H commit)
    (h : ∀ r, Plausible H e r → Q (.ok r) ()) : (syncContract H).wpA (ask e) Q () :=
  ((syncContract H).wpA_call _ _ _).2 ⟨hmay, fun r _ hr => h r hr⟩

theorem always_ask {e : Call} (hmay : ∀ commit, e ≠ .sync (.applyCollectionSync commit)) : (syncContract H).Always (ask e) :=
  .call fun _ commit he => absurd he (hmay commit)

theorem always_received {ε α : Type} (r : PortReply ε α) : (syncContract H).Always (received r) := by
  cases r with
  | ok v => exact .pure _
  | failed e => exact .pure _
  | rejected => exact .throw _

theorem always_readCursorOutcome (a : AccountKey) (dataType : CollectionDataType) :
    (syncContract H).Always (readCursorOutcome a dataType) := by
  refine .bind (always_ask (by rintro commit ⟨⟩)) fun r => .bind (always_received r) fun result => ?_
  rcases result with e | v
  · exact .throw _
  · cases v with
    | ownerAbsent => exact .throw _
    | absent => exact .pure _
    | present c => exact .pure _

/-- Whatever cursor was read, what is built after it may be committed. -/
theorem always_syncCollection {dataType : CollectionDataType}
    {build : Option String → Promise (CollectionCursorPrecondition → Except JsError CollectionSyncCommit)}
    (hbuild : ∀ cursor : Option CollectionSyncCursor, (syncContract H).wpA (build (cursor.map (·.state)))
      (fun r _ => ∀ create, r = .ok create → ∀ commit, create (precondition cursor) = .ok commit → Built H commit) ())
    (attempts : Nat) : (syncContract H).Always (syncCollection a dataType build attempts) := by
  induction attempts with
  | zero => exact .throw _
  | succ n ih =>
    refine .bind (always_readCursorOutcome _ _) fun outcome _ => ?_
    refine Contract.wpA_bind_of (hbuild outcome) (fun create _ hc => ?_) (fun _ _ _ => trivial)
    simp only [Contract.wpA_bind, settled, Contract.wpA_lift]
    cases hcommit : create (precondition outcome) with
    | error x => trivial
    | ok commit =>
      have hbuilt := hc create rfl commit hcommit
      simp only [Contract.andThen_ok, Contract.wpA_bind]
      refine wp_ask (by rintro _ ⟨⟩; exact hbuilt) fun r _ => ?_
      cases r with
      | ok u => trivial
      | rejected => trivial
      | failed e =>
        cases e with
        | conflict => exact ih ()
        | _ => trivial

theorem always_syncIdentities : (syncContract H).Always (syncIdentities a (H.accountOf a)) := by
  refine always_syncCollection (fun cursor => ?_) _
  simp only [Contract.wpA_bind]
  refine wp_ask (by rintro commit ⟨⟩) fun r hr => ?_
  cases r with
  | error x => rintro create ⟨⟩
  | ok transition =>
    rintro _ ⟨⟩ commit hc
    exact .identity (hr transition rfl) hc

theorem always_syncMailboxes : (syncContract H).Always (syncMailboxes a (H.accountOf a)) := by
  refine always_syncCollection (fun cursor => ?_) _
  simp only [Contract.wpA_bind]
  refine wp_ask (by rintro commit ⟨⟩) fun r hr => ?_
  cases r with
  | error x => rintro create ⟨⟩
  | ok transition =>
    rintro _ ⟨⟩ commit hc
    exact .mailbox (hr transition rfl) hc

/-- A server that always has one row, at one state. -/
def sampleSource {W : Type} (key : W → String) (row : W) : Source String key where
  rows state id := if state = "s" ∧ id = key row then some row else none
  key_eq state id row' h := by
    split at h <;> cases h
    rename_i hc
    exact hc.2.symm

/-- Everything at first, then that nothing has changed. -/
def sampleSync {W : Type} (row : W) : Option String → Except JsError (RemoteCollectionSync W String)
  | none => .ok (.replace "s" [row])
  | some state => if state = "s" then .ok (.delta "s" [] []) else .error (.error "cannotCalculateChanges")

theorem sampleSync_honest {W : Type} (key : W → String) (row : W) (previous : Option String)
    (transition : RemoteCollectionSync W String) (h : sampleSync row previous = .ok transition) :
    (sampleSource key row).Honest previous (answered transition) := by
  unfold sampleSync at h
  split at h
  · cases h
    intro row'
    simp only [List.mem_singleton, sampleSource, true_and]
    constructor
    · rintro rfl
      exact if_pos rfl
    · intro hrow
      split at hrow <;> cases hrow
      rfl
  · split at h <;> cases h
    rename_i hstate
    subst hstate
    exact ⟨"s", rfl, by simp, by simp, fun _ _ _ => rfl⟩

def sampleIdentity : RemoteIdentity := ⟨"i", "Ana", "ana@example.org", none, none⟩

def sampleMailbox : RemoteMailbox := ⟨"m", "Inbox", none, some "inbox", 0, 1, 1, ⟨true, true, true, true, true, true⟩⟩

def sampleEmail : RemoteEmail :=
  { id := "e", blobId := "b", threadId := "t", sender := none, «from» := none, replyTo := none, «to» := none, cc := none,
    bcc := none, subject := some "Hello", sentAt := none, receivedAt := "2026-01-01T00:00:00Z", size := 1, preview := "",
    hasAttachment := false, keywords := [], mailboxIds := ["m"] }

def sampleServers : Servers :=
  ⟨fun _ => "r", fun _ => sampleSource _ sampleIdentity, fun _ => sampleSource _ sampleMailbox, fun _ => sampleSource _ sampleEmail⟩

def sampleCommit (w : SyncWorld) (commit : CollectionSyncCommit) : PortReply LocalWriteError Unit × SyncWorld :=
  match (SyncOperation.applyCollectionSync commit).run w.engine with
  | .ok .ok s => (.ok (), w.committed commit s)
  | .ok .conflict s => (.failed .conflict, { w with engine := s })
  | .error _ s => (.rejected, { w with engine := s })

theorem sampleCommit_applied (w : SyncWorld) (commit : CollectionSyncCommit) :
    Applied w commit (sampleCommit w commit).1 (sampleCommit w commit).2 := by
  unfold sampleCommit
  split
  · rename_i hrun
    exact .committed hrun
  · rename_i hrun
    exact .conflict (by rintro ⟨⟩) hrun
  · rename_i hrun
    exact .thrown (by rintro ⟨⟩) hrun

def sampleReply (_ : Nat) (w : SyncWorld) (_ : Nat) : (e : Call) → Option (Reply e × SyncWorld)
  | .sync (.session _) => some (some "r", w)
  | .sync (.isCurrent _) => some (true, w)
  | .sync (.syncIdentities _ previous) => some (sampleSync sampleIdentity previous, w)
  | .sync (.syncMailboxes _ previous) => some (sampleSync sampleMailbox previous, w)
  | .sync (.syncEmails _ previous) => some (sampleSync sampleEmail previous, w)
  | .sync (.readCollectionSyncCursor a dataType) => some (.ok (w.engine.readCollectionSyncCursor a dataType), w)
  | .sync (.applyCollectionSync commit) => some (sampleCommit w commit)
  | _ => none

theorem sampleReply_performs (i : Nat) (w : SyncWorld) (t : Nat) (e : Call) (r : Reply e) (w' : SyncWorld)
    (h : sampleReply i w t e = some (r, w')) : (syncSystem sampleServers).perform w t e r w' := by
  cases e with
  | sync call =>
    cases call with
    | session a =>
      cases h
      exact ⟨by rintro id ⟨⟩; rfl, rfl⟩
    | isCurrent a =>
      cases h
      exact ⟨trivial, rfl⟩
    | syncIdentities id previous =>
      cases h
      exact ⟨sampleSync_honest _ sampleIdentity previous, rfl⟩
    | syncMailboxes id previous =>
      cases h
      exact ⟨sampleSync_honest _ sampleMailbox previous, rfl⟩
    | syncEmails id previous =>
      cases h
      exact ⟨sampleSync_honest _ sampleEmail previous, rfl⟩
    | readCollectionSyncCursor a dataType =>
      cases h
      exact ⟨by rintro read ⟨⟩; rfl, rfl⟩
    | applyCollectionSync commit =>
      have happlied := sampleCommit_applied w commit
      rw [Option.some.inj h] at happlied
      exact happlied
    | _ => cases h
  | _ => cases h

end Convergence

end Boxplot.Sync
