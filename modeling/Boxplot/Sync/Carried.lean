import Boxplot.Lib.Replica
import Boxplot.Memory.Effects
import Boxplot.Sync.Coordinator
/-!
# What a commit carries

What a server answers is an update of a replica, and the commit that a refresh
builds of it carries that update into the engine's maps.
-/

namespace Boxplot.Sync

open Domain Remote Lib Outbox Memory

namespace Convergence

/-! ## Servers -/

/-- What the servers have at each of their states, and the remote account that each local one is bound to. -/
structure Servers where
  accountOf : AccountKey → String
  identities : String → Source String fun row : RemoteIdentity => row.id
  mailboxes : String → Source String fun row : RemoteMailbox => row.id
  emails : String → Source String fun row : RemoteEmail => row.id

def answered {W : Type} : RemoteCollectionSync W String → Update String String W
  | .replace state snapshot => .replace state snapshot
  | .delta state changed destroyed => .delta state changed destroyed

/-- A session is its account's, and what an adapter answers to a state is exactly what its server has: all of it, or what is
different since that state. It is asked of the adapters, and proved of none here. -/
def Plausible (H : Servers) : (e : Call) → Reply e → Prop
  | .sync (.session a), r => ∀ id, r = some id → id = H.accountOf a
  | .sync (.syncIdentities id previous), r => ∀ transition, r = .ok transition → (H.identities id).Honest previous (answered transition)
  | .sync (.syncMailboxes id previous), r => ∀ transition, r = .ok transition → (H.mailboxes id).Honest previous (answered transition)
  | .sync (.syncEmails id previous), r => ∀ transition, r = .ok transition → (H.emails id).Honest previous (answered transition)
  | _, _ => True

/-! ## What a change carries -/

section
variable {W T V Id : Type} {map : W → Option T} {localKey : String → Id} {sent : Update String String W}
  {change : CollectionChange T Id}

/-- A change has the records of what an update names, but for rows that are refused. -/
inductive Carries (map : W → Option T) (localKey : String → Id) : Update String String W → CollectionChange T Id → Prop
  | replace {state : String} {rows : List W} {expected : CollectionCursorPrecondition} {records : List T} :
      (∀ r, r ∈ records ↔ ∃ w ∈ rows, map w = some r) →
      Carries map localKey (.replace state rows) (.replace expected records)
  | delta {state : String} {changed : List W} {destroyed : List String} {cursor : CollectionSyncCursor} {records : List T}
      {ids : List Id} : (∀ r, r ∈ records ↔ ∃ w ∈ changed, map w = some r) → (∀ k, localKey k ∈ ids ↔ k ∈ destroyed) →
      Carries map localKey (.delta state changed destroyed) (.delta cursor records ids)

variable [DecidableEq Id] {key : W → String} {idOf : T → Id} {valueOf : T → V} {owned : Id → V → Bool} {entries : OrderedMap Id V}

end

/-! ## Records -/

/-- A commit that a refresh builds of what a server answered to the cursor it read. -/
inductive Built (H : Servers) : CollectionSyncCommit → Prop
  | identity {a : AccountKey} {cursor : Option CollectionSyncCursor} {transition : RemoteCollectionSync RemoteIdentity String}
    {commit : CollectionSyncCommit} :
    (H.identities (H.accountOf a)).Honest (cursor.map (·.state)) (answered transition) →
      identityCommit a transition (precondition cursor) = .ok commit → Built H commit
  | mailbox {a : AccountKey} {cursor : Option CollectionSyncCursor} {transition : RemoteCollectionSync RemoteMailbox String}
    {commit : CollectionSyncCommit} :
    (H.mailboxes (H.accountOf a)).Honest (cursor.map (·.state)) (answered transition) →
      mailboxCommit a transition (precondition cursor) = .ok commit → Built H commit
  | email {a : AccountKey} {cursor : Option CollectionSyncCursor} {transition : RemoteCollectionSync RemoteEmail String}
    {commit : CollectionSyncCommit} :
    (H.emails (H.accountOf a)).Honest (cursor.map (·.state)) (answered transition) →
      emailCommit a transition (precondition cursor) = .ok commit → Built H commit

end Convergence

end Boxplot.Sync
