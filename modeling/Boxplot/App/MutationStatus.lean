import Boxplot.Domain.Mutation
import Boxplot.Lib.OrderedMap
/-!
# The mutation status store

`src/app/stores/mutation-status.ts`: what the window shows of the mutations of
an account, with no payload. A record is a map that remembers insertion order.
-/

namespace Boxplot.App

open Domain Lib

inductive MutationStatusKind
  | send | keyword | mailboxMembership
  deriving DecidableEq, Repr

inductive MutationStatusLifecycle
  | pending | inFlight | retrying | failedTerminal | confirmed
  deriving DecidableEq, Repr

structure MutationStatusView where
  accountKey : AccountKey
  mutationId : MutationId
  kind : MutationStatusKind
  emailId : Option ScopedEmailId
  lifecycle : MutationStatusLifecycle
  attemptCount : Nat
  securityMode : Option SendSecurityMode
  needsReconciliation : Bool
  deriving DecidableEq, Repr

structure RecentMutationConfirmation where
  accountKey : AccountKey
  mutationId : MutationId
  kind : MutationStatusKind
  emailId : Option ScopedEmailId
  deriving DecidableEq, Repr

structure MutationStatusState where
  byAccount : OrderedMap String (List MutationStatusView)
  reconciliation : OrderedMap String Bool
  recentConfirmations : OrderedMap String RecentMutationConfirmation

/-- What every key of an account starts with. -/
def accountStart (accountKey : AccountKey) : String := accountKey ++ "\u0000"

def identity (accountKey : AccountKey) (mutationId : MutationId) : String := accountStart accountKey ++ mutationId

def ofAccount (accountKey : AccountKey) (key : String) : Bool := (accountStart accountKey).toList.isPrefixOf key.toList

theorem ofAccount_identity (accountKey : AccountKey) (mutationId : MutationId) :
    ofAccount accountKey (identity accountKey mutationId) = true := by
  unfold ofAccount identity
  rw [List.isPrefixOf_iff_prefix, String.toList_append]
  exact List.prefix_append _ _

theorem identity_inj {accountKey : AccountKey} {mutationId mutationId' : MutationId} :
    identity accountKey mutationId = identity accountKey mutationId' ↔ mutationId = mutationId' := by
  unfold identity
  constructor
  · intro h
    rw [← String.toList_inj, String.toList_append, String.toList_append] at h
    exact String.toList_inj.1 (List.append_cancel_left h)
  · rintro rfl
    rfl

namespace MutationStatusState

def empty : MutationStatusState := ⟨.empty, .empty, .empty⟩

/-! ## Getters -/

def statusesForAccount (state : MutationStatusState) : Option AccountKey → List MutationStatusView
  | none => []
  | some accountKey => (state.byAccount.get? accountKey).getD []

/-- The last confirmation of an email's mutation. -/
def recentConfirmationForEmail (state : MutationStatusState) (emailId : ScopedEmailId) : Option RecentMutationConfirmation :=
  (state.recentConfirmations.values.filter fun value => value.emailId = some emailId).getLast?

inductive LatestSend
  | status (value : MutationStatusView)
  | confirmed (value : RecentMutationConfirmation)
  deriving DecidableEq, Repr

def latestSendForAccount (state : MutationStatusState) : Option AccountKey → Option LatestSend
  | none => none
  | some accountKey =>
    let statuses := (state.byAccount.get? accountKey).getD []
    match statuses.reverse.find? fun status => status.kind = .send with
    | some send => some (.status send)
    | none =>
      (state.recentConfirmations.values.filter fun value => value.accountKey = accountKey && value.kind = .send).getLast?.map .confirmed

/-! ## Actions -/

def setStatuses (state : MutationStatusState) (accountKey : AccountKey) (values : List MutationStatusView) : MutationStatusState :=
  let projected := values.map fun value =>
    { value with needsReconciliation := (state.reconciliation.get? (identity accountKey value.mutationId)).getD false }
  let present := projected.map fun value => identity accountKey value.mutationId
  { state with
    byAccount := state.byAccount.set accountKey projected
    reconciliation := state.reconciliation.filter fun key _ => !(ofAccount accountKey key && !present.contains key) }

def markNeedsReconciliation (state : MutationStatusState) (accountKey : AccountKey) (mutationId : MutationId) : MutationStatusState :=
  let state := { state with reconciliation := state.reconciliation.set (identity accountKey mutationId) true }
  match state.byAccount.get? accountKey with
  | none => state
  | some statuses =>
    { state with
      byAccount := state.byAccount.set accountKey (statuses.map fun value =>
        if value.mutationId = mutationId then { value with needsReconciliation := true } else value) }

def markConfirmed (state : MutationStatusState) (accountKey : AccountKey) (mutationId : MutationId) (kind : MutationStatusKind)
    (emailId : Option ScopedEmailId) : MutationStatusState :=
  { state with
    recentConfirmations := state.recentConfirmations.set (identity accountKey mutationId) ⟨accountKey, mutationId, kind, emailId⟩ }

def clearAccount (state : MutationStatusState) (accountKey : AccountKey) : MutationStatusState where
  byAccount := state.byAccount.delete accountKey
  reconciliation := state.reconciliation.filter fun key _ => !ofAccount accountKey key
  recentConfirmations := state.recentConfirmations.filter fun key _ => !ofAccount accountKey key

/-! ## Confirmations -/

variable (state : MutationStatusState) (accountKey : AccountKey)

@[simp] theorem recentConfirmations_setStatuses (values : List MutationStatusView) :
    (state.setStatuses accountKey values).recentConfirmations = state.recentConfirmations := rfl

@[simp] theorem recentConfirmations_markNeedsReconciliation (mutationId : MutationId) :
    (state.markNeedsReconciliation accountKey mutationId).recentConfirmations = state.recentConfirmations := by
  unfold markNeedsReconciliation
  dsimp only
  split <;> rfl

/-- The confirmation kept for a mutation. -/
def confirmation (mutationId : MutationId) : Option RecentMutationConfirmation :=
  state.recentConfirmations.get? (identity accountKey mutationId)

@[simp] theorem confirmation_setStatuses (values : List MutationStatusView) (mutationId : MutationId) :
    (state.setStatuses accountKey values).confirmation accountKey mutationId = state.confirmation accountKey mutationId := rfl

@[simp] theorem confirmation_markNeedsReconciliation (mutationId mutationId' : MutationId) :
    (state.markNeedsReconciliation accountKey mutationId').confirmation accountKey mutationId = state.confirmation accountKey mutationId := by
  unfold confirmation
  rw [recentConfirmations_markNeedsReconciliation]

@[simp] theorem confirmation_markConfirmed (mutationId : MutationId) (kind : MutationStatusKind) (emailId : Option ScopedEmailId) :
    (state.markConfirmed accountKey mutationId kind emailId).confirmation accountKey mutationId =
      some ⟨accountKey, mutationId, kind, emailId⟩ :=
  OrderedMap.get?_set_self _ _ _

/-- The confirmations of the other mutations stay. -/
theorem confirmation_markConfirmed_ne {mutationId mutationId' : MutationId} (kind : MutationStatusKind)
    (emailId : Option ScopedEmailId) (h : mutationId' ≠ mutationId) :
    (state.markConfirmed accountKey mutationId kind emailId).confirmation accountKey mutationId' =
      state.confirmation accountKey mutationId' :=
  OrderedMap.get?_set_ne _ _ fun heq => h (identity_inj.1 heq)

@[simp] theorem confirmation_clearAccount (mutationId : MutationId) :
    (state.clearAccount accountKey).confirmation accountKey mutationId = none := by
  unfold confirmation clearAccount
  rw [OrderedMap.get?_filter_key, ofAccount_identity]
  rfl

/-- An email whose mutation is confirmed is shown as confirmed. -/
theorem recentConfirmationForEmail_isSome {mutationId : MutationId} {confirmed : RecentMutationConfirmation} {emailId : ScopedEmailId}
    (h : state.confirmation accountKey mutationId = some confirmed) (hemail : confirmed.emailId = some emailId) :
    (state.recentConfirmationForEmail emailId).isSome := by
  unfold recentConfirmationForEmail
  rw [List.getLast?_isSome]
  apply List.ne_nil_of_mem (a := confirmed)
  rw [List.mem_filter]
  exact ⟨OrderedMap.mem_values.2 ⟨_, h⟩, by simp [hemail]⟩

end MutationStatusState

end Boxplot.App
