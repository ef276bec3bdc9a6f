import Mathlib.Tactic
/-!
# Pending mutations

`src/domain/ids.ts`, `send-intent.ts` and `pending-mutation.ts`: what the
outbox stores, and the lifecycle transitions it may record. Branded strings
are strings. A keyword set is the list of its members.
-/

namespace Boxplot.Domain

abbrev AccountKey := String
abbrev MutationId := String
abbrev MutationInstant := String

structure ScopedEmailId where
  accountKey : AccountKey
  jmapId : String
  deriving DecidableEq, Repr

structure ScopedMailboxId where
  accountKey : AccountKey
  jmapId : String
  deriving DecidableEq, Repr

structure ScopedIdentityId where
  accountKey : AccountKey
  jmapId : String
  deriving DecidableEq, Repr

structure EmailAddress where
  name : Option String
  email : String
  deriving DecidableEq, Repr

structure SendBody where
  text : String
  html : Option String
  deriving DecidableEq, Repr

inductive SendSecurityMode
  | plain
  | boxplotE2eeV1
  deriving DecidableEq, Repr

structure SendIntent where
  securityMode : SendSecurityMode
  identityId : ScopedIdentityId
  «from» : EmailAddress
  replyTo : List EmailAddress
  «to» : List EmailAddress
  cc : List EmailAddress
  bcc : List EmailAddress
  subject : String
  body : SendBody
  deriving DecidableEq, Repr

structure SendConfirmation where
  emailId : ScopedEmailId
  deriving DecidableEq, Repr

/-- The five lifecycle states. Only a confirmed send carries a confirmation. -/
inductive Lifecycle
  | pending (attemptCount : Nat)
  | inFlight (attemptCount : Nat)
  | retrying (attemptCount : Nat) (nextAttemptAt : MutationInstant)
  | confirmed (attemptCount : Nat) (confirmation : Option SendConfirmation)
  | failedTerminal (attemptCount : Nat)
  deriving DecidableEq, Repr

def Lifecycle.attemptCount : Lifecycle → Nat
  | .pending n => n
  | .inFlight n => n
  | .retrying n _ => n
  | .confirmed n _ => n
  | .failedTerminal n => n

def Lifecycle.status : Lifecycle → String
  | .pending _ => "pending"
  | .inFlight _ => "inFlight"
  | .retrying _ _ => "retrying"
  | .confirmed _ _ => "confirmed"
  | .failedTerminal _ => "failedTerminal"

structure KeywordChange where
  add : List String
  remove : List String
  deriving DecidableEq, Repr

structure MailboxMembershipChange where
  add : List ScopedMailboxId
  remove : List ScopedMailboxId
  deriving DecidableEq, Repr

/-- What tells the three kinds of mutation apart. -/
inductive Payload
  | send (intent : SendIntent)
  | keyword (emailId : ScopedEmailId) (change : KeywordChange)
  | mailboxMembership (emailId : ScopedEmailId) (change : MailboxMembershipChange)
  deriving DecidableEq, Repr

structure PendingMutation where
  mutationId : MutationId
  accountKey : AccountKey
  createdAt : MutationInstant
  payload : Payload
  lifecycle : Lifecycle
  deriving DecidableEq, Repr

namespace PendingMutation

def attemptCount (m : PendingMutation) : Nat := m.lifecycle.attemptCount

def kind (m : PendingMutation) : String :=
  match m.payload with
  | .send _ => "send"
  | .keyword _ _ => "keyword"
  | .mailboxMembership _ _ => "mailboxMembership"

def isSend (m : PendingMutation) : Bool :=
  match m.payload with
  | .send _ => true
  | _ => false

/-- Only the lifecycle of a mutation ever changes. -/
def replaceLifecycle (m : PendingMutation) (l : Lifecycle) : PendingMutation := { m with lifecycle := l }

@[simp] theorem replaceLifecycle_lifecycle (m : PendingMutation) (l : Lifecycle) :
    (m.replaceLifecycle l).lifecycle = l := rfl
@[simp] theorem replaceLifecycle_payload (m : PendingMutation) (l : Lifecycle) :
    (m.replaceLifecycle l).payload = m.payload := rfl
@[simp] theorem replaceLifecycle_accountKey (m : PendingMutation) (l : Lifecycle) :
    (m.replaceLifecycle l).accountKey = m.accountKey := rfl
@[simp] theorem replaceLifecycle_mutationId (m : PendingMutation) (l : Lifecycle) :
    (m.replaceLifecycle l).mutationId = m.mutationId := rfl

end PendingMutation

/-! ## Transitions -/

def maxSafeInteger : Nat := 2 ^ 53 - 1

/-- The `TypeError` a factory or a transition throws. -/
abbrev Checked (α : Type) := Except String α

def assertStartedAttemptCount (attemptCount : Nat) : Checked Unit :=
  if attemptCount < 1 ∨ maxSafeInteger < attemptCount then
    .error "Started mutation attemptCount must be a positive safe integer"
  else .ok ()

def startMutationAttempt (m : PendingMutation) : Checked PendingMutation :=
  match m.lifecycle with
  | .pending n =>
    if n ≠ 0 then .error "Pending mutation attemptCount must be zero"
    else .ok (m.replaceLifecycle (.inFlight 1))
  | .retrying n _ => do
    assertStartedAttemptCount n
    assertStartedAttemptCount (n + 1)
    .ok (m.replaceLifecycle (.inFlight (n + 1)))
  | _ => .error "Mutation attempt can start only from pending or retrying"

/-- The transitions that end an attempt: only from `inFlight`, keeping the attempt's number. -/
def endAttempt (message : String) (next : Nat → Lifecycle) (m : PendingMutation) : Checked PendingMutation :=
  match m.lifecycle with
  | .inFlight n => do
    assertStartedAttemptCount n
    .ok (m.replaceLifecycle (next n))
  | _ => .error message

def scheduleMutationRetry (m : PendingMutation) (nextAttemptAt : MutationInstant) : Checked PendingMutation :=
  endAttempt "Mutation retry can be scheduled only from inFlight" (.retrying · nextAttemptAt) m

def confirmEmailUpdateMutation (m : PendingMutation) : Checked PendingMutation :=
  endAttempt "Email update mutation can be confirmed only from inFlight" (.confirmed · none) m

def failMutationTerminal (m : PendingMutation) : Checked PendingMutation :=
  endAttempt "Mutation can fail terminally only from inFlight" .failedTerminal m

/-- The confirmation's account is checked between the attempt and the result. -/
def confirmSendMutation (m : PendingMutation) (confirmation : SendConfirmation) : Checked PendingMutation :=
  match m.lifecycle with
  | .inFlight n => do
    assertStartedAttemptCount n
    if confirmation.emailId.accountKey ≠ m.accountKey then
      .error "Send confirmation Email must match the SendMutation AccountKey"
    else .ok (m.replaceLifecycle (.confirmed n (some confirmation)))
  | _ => .error "SendMutation can be confirmed only from inFlight"

/-! ## What a transition does -/

/-- A claim starts attempt `n + 1` of a mutation that is pending or retrying after `n` attempts. -/
theorem startMutationAttempt_ok {m m' : PendingMutation} (h : startMutationAttempt m = .ok m') :
    (m.lifecycle = .pending 0 ∨ ∃ n at', m.lifecycle = .retrying n at') ∧
      m' = m.replaceLifecycle (.inFlight (m.attemptCount + 1)) := by
  unfold startMutationAttempt at h
  cases hl : m.lifecycle with
  | pending n =>
    simp only [hl] at h
    split at h
    · cases h
    · have hn : n = 0 := by omega
      subst hn
      cases h
      exact ⟨.inl rfl, by simp [PendingMutation.attemptCount, hl, Lifecycle.attemptCount]⟩
  | retrying n i =>
    simp only [hl, bind, Except.bind] at h
    split at h
    · cases h
    · split at h
      · cases h
      · cases h
        exact ⟨.inr ⟨n, i, rfl⟩, by simp [PendingMutation.attemptCount, hl, Lifecycle.attemptCount]⟩
  | _ => simp [hl] at h

theorem endAttempt_ok {message : String} {next : Nat → Lifecycle} {m m' : PendingMutation}
    (h : endAttempt message next m = .ok m') :
    m.lifecycle = .inFlight m.attemptCount ∧ m' = m.replaceLifecycle (next m.attemptCount) := by
  unfold endAttempt at h
  cases hl : m.lifecycle with
  | inFlight n =>
    simp only [hl, bind, Except.bind] at h
    split at h
    · cases h
    · cases h; simp [PendingMutation.attemptCount, hl, Lifecycle.attemptCount]
  | _ => simp [hl] at h

theorem confirmSendMutation_ok {m m' : PendingMutation} {c : SendConfirmation}
    (h : confirmSendMutation m c = .ok m') :
    m.lifecycle = .inFlight m.attemptCount ∧ m' = m.replaceLifecycle (.confirmed m.attemptCount (some c)) := by
  unfold confirmSendMutation at h
  cases hl : m.lifecycle with
  | inFlight n =>
    simp only [hl, bind, Except.bind] at h
    split at h
    · cases h
    · split at h
      · cases h
      · cases h; simp [PendingMutation.attemptCount, hl, Lifecycle.attemptCount]
  | _ => simp [hl] at h

end Boxplot.Domain
