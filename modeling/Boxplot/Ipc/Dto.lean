import Boxplot.Lib.Serde
import Boxplot.Persistence.Model
/-!
# Mutations on the IPC boundary

The DTOs of mutations (`src/ipc/dto/index.ts`, `src-tauri/src/ipc/dto/mod.rs`),
the semantic records Rust makes of them and the scope it checks. A count is a
number on the wire and a `u64` in Rust.
-/

namespace Boxplot.Ipc

open Lib
open Persistence (PersistResult)

/-! ## DTOs -/

structure IpcScopedMailboxId where
  accountKey : String
  jmapMailboxId : String
  deriving DecidableEq, Repr

structure IpcScopedEmailId where
  accountKey : String
  jmapEmailId : String
  deriving DecidableEq, Repr

structure IpcScopedIdentityId where
  accountKey : String
  jmapIdentityId : String
  deriving DecidableEq, Repr

structure IpcEmailAddress where
  name : Option String
  email : String
  deriving DecidableEq, Repr

inductive IpcSendSecurityMode
  | plain | boxplotE2eeV1
  deriving DecidableEq, Repr

structure IpcSendBody where
  text : String
  html : Option String
  deriving DecidableEq, Repr

structure IpcSendIntent where
  securityMode : IpcSendSecurityMode
  identityId : IpcScopedIdentityId
  «from» : IpcEmailAddress
  replyTo : List IpcEmailAddress
  «to» : List IpcEmailAddress
  cc : List IpcEmailAddress
  bcc : List IpcEmailAddress
  subject : String
  body : IpcSendBody
  deriving DecidableEq, Repr

structure IpcSendConfirmation where
  emailId : IpcScopedEmailId
  deriving DecidableEq, Repr

/-- Lifecycles with counts `N`, confirmed by a `C`. -/
inductive IpcLifecycle (N C : Type)
  | pending (attemptCount : N)
  | inFlight (attemptCount : N)
  | retrying (attemptCount : N) (nextAttemptAt : String)
  | confirmed (attemptCount : N) (confirmation : C)
  | failedTerminal (attemptCount : N)
  deriving DecidableEq, Repr

abbrev IpcSendMutationLifecycle (N : Type) := IpcLifecycle N IpcSendConfirmation

abbrev IpcEmailUpdateLifecycle (N : Type) := IpcLifecycle N Unit

structure IpcKeywordChange where
  add : List String
  remove : List String
  deriving DecidableEq, Repr

structure IpcMailboxMembershipChange where
  add : List IpcScopedMailboxId
  remove : List IpcScopedMailboxId
  deriving DecidableEq, Repr

inductive IpcPendingMutation (N : Type)
  | send (mutationId accountKey createdAt : String) (intent : IpcSendIntent) (lifecycle : IpcSendMutationLifecycle N)
  | keyword (mutationId accountKey createdAt : String) (emailId : IpcScopedEmailId) (change : IpcKeywordChange)
      (lifecycle : IpcEmailUpdateLifecycle N)
  | mailboxMembership (mutationId accountKey createdAt : String) (emailId : IpcScopedEmailId)
      (change : IpcMailboxMembershipChange) (lifecycle : IpcEmailUpdateLifecycle N)
  deriving DecidableEq, Repr

/-! ## Counts -/

/-- How `serde` reads a number as a `u64`. -/
def deserializeCount (n : Rat) : Option UInt64 := Reader.u64 (some (.num n))

theorem deserializeCount_eq_some {n : Rat} {count : UInt64} : deserializeCount n = some count ↔ n = count.toNat := by
  constructor
  · intro h
    simp only [deserializeCount, Reader.u64, Reader.uint, Reader.number, Option.bind_eq_some_iff, Option.ite_none_right_eq_some,
      Option.some.injEq] at h
    obtain ⟨k, ⟨⟨hden, hpos⟩, rfl⟩, hlt, rfl⟩ := h
    have hnum : (n.num : Rat) = n := by
      conv_rhs => rw [← Rat.num_div_den n, hden]
      simp
    have htoNat : ((n.num.toNat : Int) : Rat) = n := by rw [Int.toNat_of_nonneg hpos, hnum]
    rw [UInt64.toNat_ofNat_of_lt' hlt]
    exact_mod_cast htoNat.symm
  · rintro rfl
    exact reads_integer count

namespace IpcLifecycle

variable {N M C : Type}

def attemptCount : IpcLifecycle N C → N
  | pending n => n
  | inFlight n => n
  | retrying n _ => n
  | confirmed n _ => n
  | failedTerminal n => n

def withCount (l : IpcLifecycle N C) (n : M) : IpcLifecycle M C :=
  match l with
  | pending _ => pending n
  | inFlight _ => inFlight n
  | retrying _ nextAttemptAt => retrying n nextAttemptAt
  | confirmed _ confirmation => confirmed n confirmation
  | failedTerminal _ => failedTerminal n

def confirmation : IpcLifecycle N C → Option C
  | confirmed _ confirmation => some confirmation
  | _ => none

@[simp] theorem attemptCount_withCount (l : IpcLifecycle N C) (n : M) : (l.withCount n).attemptCount = n := by
  cases l <;> rfl

@[simp] theorem confirmation_withCount (l : IpcLifecycle N C) (n : M) : (l.withCount n).confirmation = l.confirmation := by
  cases l <;> rfl

end IpcLifecycle

namespace IpcPendingMutation

variable {N : Type}

def mutationId : IpcPendingMutation N → String
  | send id _ _ _ _ => id
  | keyword id _ _ _ _ _ => id
  | mailboxMembership id _ _ _ _ _ => id

def accountKey : IpcPendingMutation N → String
  | send _ account _ _ _ => account
  | keyword _ account _ _ _ _ => account
  | mailboxMembership _ account _ _ _ _ => account

def createdAt : IpcPendingMutation N → String
  | send _ _ time _ _ => time
  | keyword _ _ time _ _ _ => time
  | mailboxMembership _ _ time _ _ _ => time

def attemptCount : IpcPendingMutation N → N
  | send _ _ _ _ lifecycle => lifecycle.attemptCount
  | keyword _ _ _ _ _ lifecycle => lifecycle.attemptCount
  | mailboxMembership _ _ _ _ _ lifecycle => lifecycle.attemptCount

def withCount {M : Type} (v : IpcPendingMutation N) (n : M) : IpcPendingMutation M :=
  match v with
  | send mutationId accountKey createdAt intent lifecycle => send mutationId accountKey createdAt intent (lifecycle.withCount n)
  | keyword mutationId accountKey createdAt emailId change lifecycle =>
    keyword mutationId accountKey createdAt emailId change (lifecycle.withCount n)
  | mailboxMembership mutationId accountKey createdAt emailId change lifecycle =>
    mailboxMembership mutationId accountKey createdAt emailId change (lifecycle.withCount n)

end IpcPendingMutation

/-- A mutation with its count as a `u64`, if it is one. -/
def deserialize (v : IpcPendingMutation Rat) : Option (IpcPendingMutation UInt64) :=
  (deserializeCount v.attemptCount).map v.withCount

/-! ## Semantic records -/

def addressToSemantic (v : IpcEmailAddress) : Persistence.Address := { name := v.name, email := v.email }

def securityModeToSemantic : IpcSendSecurityMode → Persistence.SendSecurityMode
  | .plain => .plain
  | .boxplotE2eeV1 => .boxplotE2eeV1

def intentToSemantic (v : IpcSendIntent) : Persistence.SendIntent :=
  { securityMode := securityModeToSemantic v.securityMode
    identityJmapId := v.identityId.jmapIdentityId
    «from» := addressToSemantic v.from
    replyTo := v.replyTo.map addressToSemantic
    «to» := v.to.map addressToSemantic
    cc := v.cc.map addressToSemantic
    bcc := v.bcc.map addressToSemantic
    subject := v.subject
    body := { text := v.body.text, html := v.body.html } }

/-- What the conversions of both lifecycles share. -/
def lifecycleToSemantic {C : Type} (confirmationOf : C → Option String) : IpcLifecycle UInt64 C → Persistence.MutationLifecycle
  | .pending n => .pending n
  | .inFlight n => .inFlight n
  | .retrying n nextAttemptAt => .retrying n nextAttemptAt
  | .confirmed n confirmation => .confirmed n (confirmationOf confirmation)
  | .failedTerminal n => .failedTerminal n

def sendLifecycleToSemantic : IpcSendMutationLifecycle UInt64 → Persistence.MutationLifecycle :=
  lifecycleToSemantic fun confirmation => some confirmation.emailId.jmapEmailId

def updateLifecycleToSemantic : IpcEmailUpdateLifecycle UInt64 → Persistence.MutationLifecycle :=
  lifecycleToSemantic fun _ => none

def mutationToSemantic : IpcPendingMutation UInt64 → Persistence.PendingMutation
  | .send mutationId accountKey createdAt intent lifecycle =>
    { accountKey, mutationId, createdAt, payload := .send (intentToSemantic intent)
      lifecycle := sendLifecycleToSemantic lifecycle }
  | .keyword mutationId accountKey createdAt emailId change lifecycle =>
    { accountKey, mutationId, createdAt
      payload := .keyword emailId.jmapEmailId { add := change.add.toFinset, remove := change.remove.toFinset }
      lifecycle := updateLifecycleToSemantic lifecycle }
  | .mailboxMembership mutationId accountKey createdAt emailId change lifecycle =>
    { accountKey, mutationId, createdAt
      payload := .mailboxMembership emailId.jmapEmailId
        { add := change.add.map (·.jmapMailboxId), remove := change.remove.map (·.jmapMailboxId) }
      lifecycle := updateLifecycleToSemantic lifecycle }

/-! ## Scopes -/

/-- Every id of a mutation is of its account. -/
def mutationScope {N : Type} : IpcPendingMutation N → Bool
  | .send _ accountKey _ intent lifecycle =>
    intent.identityId.accountKey = accountKey && lifecycle.confirmation.all (·.emailId.accountKey = accountKey)
  | .keyword _ accountKey _ emailId _ _ => emailId.accountKey = accountKey
  | .mailboxMembership _ accountKey _ emailId change _ =>
    emailId.accountKey = accountKey && (change.add ++ change.remove).all (·.accountKey = accountKey)

theorem mutationScope_withCount {N M : Type} (v : IpcPendingMutation N) (n : M) : mutationScope (v.withCount n) = mutationScope v := by
  cases v <;> simp [IpcPendingMutation.withCount, mutationScope]

def validateMutationScope {N : Type} (v : IpcPendingMutation N) : PersistResult Unit :=
  if mutationScope v then .ok () else .error .conflict

/-- What Rust makes of a mutation that it accepts. -/
def rustReads (v : IpcPendingMutation Rat) : Option Persistence.PendingMutation := do
  let dto ← deserialize v
  (validateMutationScope dto).toOption
  (Persistence.validateMutation (mutationToSemantic dto)).toOption
  return mutationToSemantic dto

end Boxplot.Ipc
