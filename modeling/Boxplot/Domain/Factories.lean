import Boxplot.Domain.Email
import Boxplot.Lib.State
/-!
# Factories of mutations

`src/domain/ids.ts`, `send-intent.ts` and `pending-mutation.ts`: what a send
intent and a new mutation must satisfy to be built at all.
-/

namespace Boxplot.Domain

open Lib

/-- `throw new TypeError(message)` if the condition holds. -/
def typeErrorIf (condition : Prop) [Decidable condition] (message : String) : Checked Unit :=
  if condition then .error message else .ok ()

@[simp] theorem typeErrorIf_ok {condition : Prop} [Decidable condition] {message : String} {u : Unit} :
    typeErrorIf condition message = .ok u ↔ ¬condition := by
  unfold typeErrorIf
  split <;> simp_all

/-! ## Ids -/

def opaqueIdFromString (value typeName : String) : Checked String := do
  typeErrorIf (value = "") (typeName ++ " must not be empty")
  return value

def accountKeyFromString (value : String) : Checked AccountKey := opaqueIdFromString value "AccountKey"

def mutationIdFromString (value : String) : Checked MutationId := opaqueIdFromString value "MutationId"

def jmapMailboxIdFromString (value : String) : Checked String := opaqueIdFromString value "JmapMailboxId"

def jmapEmailIdFromString (value : String) : Checked String := opaqueIdFromString value "JmapEmailId"

def jmapIdentityIdFromString (value : String) : Checked String := opaqueIdFromString value "JmapIdentityId"

def mutationInstantFromString (value : String) : Checked MutationInstant := opaqueIdFromString value "MutationInstant"

@[simp] theorem opaqueIdFromString_ok {value typeName id : String} :
    opaqueIdFromString value typeName = .ok id ↔ value ≠ "" ∧ id = value := by
  simp only [opaqueIdFromString, except_bind_eq_ok, typeErrorIf_ok, pure, Except.pure, Except.ok.injEq]
  constructor
  · rintro ⟨_, hvalue, rfl⟩
    exact ⟨hvalue, rfl⟩
  · rintro ⟨hvalue, rfl⟩
    exact ⟨(), hvalue, rfl⟩

/-! ## Send intents -/

def emailAddress (name : Option String) (email : String) : EmailAddress := ⟨name, email⟩

def isWildcardIdentity (value : Identity) : Bool := "*@".toList.isPrefixOf value.email.toList

def containsUnsafeHeaderCharacter (value : String) : Bool := value.toList.any fun c => c = '\r' ∨ c = '\n' ∨ c = '\x00'

/-- The first `@` is the first or the last code unit if it is the first or the last character. -/
def assertUsableOutboundAddress (address : EmailAddress) : Checked Unit := do
  let atIndex := address.email.toList.findIdx? (· = '@')
  typeErrorIf (address.email = "" ∨ containsUnsafeHeaderCharacter address.email ∨ atIndex = none ∨ atIndex = some 0 ∨
    atIndex = some (address.email.toList.length - 1)) "Outbound email address is not usable"
  typeErrorIf (address.name.any containsUnsafeHeaderCharacter) "Outbound display name contains an unsafe character"

/-- What is merged so far, and the addresses to come. The emails seen are those of the result. -/
def mergeInto (result addresses : List EmailAddress) : List EmailAddress :=
  addresses.foldl (fun result address => if result.any (·.email = address.email) then result else result ++ [address]) result

def mergeBcc (userBcc : List EmailAddress) (defaultBcc : EmailAddressList) : List EmailAddress :=
  mergeInto [] (userBcc ++ defaultBcc.getD [])

section
variable {l result : List EmailAddress}

theorem mem_mergeInto {address : EmailAddress} (h : address ∈ mergeInto result l) : address ∈ result ++ l := by
  unfold mergeInto at h
  induction l generalizing result with
  | nil => simpa using h
  | cons a rest ih =>
    rw [List.foldl_cons] at h
    have hmem := ih h
    split at hmem <;> simp only [List.mem_append, List.mem_cons, List.not_mem_nil, or_false] at hmem ⊢ <;> tauto

/-- Each email comes once. -/
theorem nodup_mergeInto (h : (result.map (·.email)).Nodup) : ((mergeInto result l).map (·.email)).Nodup := by
  unfold mergeInto
  induction l generalizing result with
  | nil => exact h
  | cons a rest ih =>
    rw [List.foldl_cons]
    apply ih
    split
    · exact h
    · rename_i hnew
      simp only [List.any_eq_true, decide_eq_true_eq, not_exists, not_and] at hnew
      rw [List.map_append, List.nodup_append]
      refine ⟨h, List.nodup_singleton _, ?_⟩
      rintro e he e' he' rfl
      obtain ⟨b, hb, rfl⟩ := List.mem_map.1 he
      simp only [List.map_cons, List.map_nil, List.mem_singleton] at he'
      exact hnew b hb he'

theorem mergeInto_of_nodup (h : ((result ++ l).map (·.email)).Nodup) : mergeInto result l = result ++ l := by
  unfold mergeInto
  induction l generalizing result with
  | nil => simp
  | cons a rest ih =>
    have hnew : result.any (·.email = a.email) = false := by
      simp only [List.any_eq_false, decide_eq_true_eq]
      intro b hb he
      rw [List.map_append, List.nodup_append] at h
      exact h.2.2 _ (List.mem_map_of_mem hb) _ List.mem_cons_self he
    rw [List.foldl_cons, hnew, if_neg Bool.false_ne_true, ih (by simpa using h), List.append_assoc]
    rfl

theorem mergeInto_eq_nil : mergeInto result l = [] ↔ result = [] ∧ l = [] := by
  unfold mergeInto
  induction l generalizing result with
  | nil => simp
  | cons a rest ih =>
    rw [List.foldl_cons, ih]
    split
    · rename_i hany
      have hne : result ≠ [] := by
        rintro rfl
        cases hany
      simp [hne]
    · simp

theorem mem_mergeBcc {address : EmailAddress} (h : address ∈ mergeBcc l none) : address ∈ l := by
  simpa using mem_mergeInto h

theorem nodup_mergeBcc : ((mergeBcc l none).map (·.email)).Nodup := nodup_mergeInto List.nodup_nil

/-- The merge changes nothing exactly when each email comes once. -/
theorem mergeBcc_eq_self : mergeBcc l none = l ↔ (l.map (·.email)).Nodup := by
  constructor
  · intro h
    rw [← h]
    exact nodup_mergeBcc
  · intro h
    simp only [mergeBcc, Option.getD_none, List.append_nil]
    exact @mergeInto_of_nodup l [] h

theorem mergeBcc_eq_nil : mergeBcc l none = [] ↔ l = [] := by
  simp [mergeBcc, mergeInto_eq_nil]

end

structure SendIntentInput where
  securityMode : SendSecurityMode
  identity : Identity
  «to» : List EmailAddress
  cc : List EmailAddress
  bcc : List EmailAddress
  subject : String
  body : SendBody

def sendIntent (input : SendIntentInput) : Checked SendIntent := do
  typeErrorIf (isWildcardIdentity input.identity) "Wildcard Identity cannot be used for Send in the MVP"
  let «from» := emailAddress (some input.identity.name) input.identity.email
  let replyTo := input.identity.replyTo.getD []
  let bcc := mergeBcc input.bcc input.identity.bcc
  typeErrorIf (input.to.length + input.cc.length + bcc.length = 0) "SendIntent requires an effective recipient"
  («from» :: (replyTo ++ input.to ++ input.cc ++ bcc)).forM assertUsableOutboundAddress
  return { securityMode := input.securityMode, identityId := input.identity.id, «from», replyTo, «to» := input.to,
           cc := input.cc, bcc, subject := input.subject, body := input.body }

/-- An address without header characters and with an `@` inside its email. -/
def Usable (address : EmailAddress) : Prop :=
  ∃ i, address.email.toList.findIdx? (· = '@') = some i ∧ i ≠ 0 ∧ i ≠ address.email.toList.length - 1 ∧
    containsUnsafeHeaderCharacter address.email = false ∧ address.name.any containsUnsafeHeaderCharacter = false

theorem Usable.email_ne {address : EmailAddress} (h : Usable address) : address.email ≠ "" := by
  obtain ⟨i, hi, -⟩ := h
  intro he
  rw [he] at hi
  cases hi

theorem assertUsableOutboundAddress_ok {address : EmailAddress} {u : Unit} :
    assertUsableOutboundAddress address = .ok u ↔ Usable address := by
  simp only [assertUsableOutboundAddress, except_bind_eq_ok, typeErrorIf_ok, Usable, not_or, Bool.not_eq_true]
  constructor
  · rintro ⟨_, ⟨-, hsafe, hnone, hfirst, hlast⟩, hname⟩
    obtain ⟨i, hi⟩ := Option.ne_none_iff_exists'.1 hnone
    exact ⟨i, hi, fun h => hfirst (h ▸ hi), fun h => hlast (h ▸ hi), hsafe, hname⟩
  · rintro ⟨i, hi, hfirst, hlast, hsafe, hname⟩
    refine ⟨(), ⟨fun he => ?_, hsafe, by simp [hi], by simpa [hi] using hfirst, by simpa [hi] using hlast⟩, hname⟩
    -- an empty email has no `@`
    rw [he] at hi
    cases hi

theorem sendIntent_ok {input : SendIntentInput} {intent : SendIntent} : sendIntent input = .ok intent ↔
    isWildcardIdentity input.identity = false ∧
      intent = { securityMode := input.securityMode, identityId := input.identity.id
                 «from» := emailAddress (some input.identity.name) input.identity.email
                 replyTo := input.identity.replyTo.getD [], «to» := input.to, cc := input.cc
                 bcc := mergeBcc input.bcc input.identity.bcc, subject := input.subject, body := input.body } ∧
      intent.to.length + intent.cc.length + intent.bcc.length ≠ 0 ∧
      ∀ address ∈ intent.from :: (intent.replyTo ++ intent.to ++ intent.cc ++ intent.bcc), Usable address := by
  simp only [sendIntent, except_bind_eq_ok, typeErrorIf_ok, forM_eq_ok, assertUsableOutboundAddress_ok, pure, Except.pure,
    Except.ok.injEq, Bool.not_eq_true]
  constructor
  · rintro ⟨_, hwild, _, hrecipients, _, husable, rfl⟩
    exact ⟨hwild, rfl, hrecipients, husable⟩
  · rintro ⟨hwild, rfl, hrecipients, husable⟩
    exact ⟨(), hwild, (), hrecipients, (), husable, rfl⟩

/-! ## Mutations -/

def keywordChange (input : KeywordChange) : Checked KeywordChange := do
  let add ← keywordSet input.add
  let remove ← keywordSet input.remove
  typeErrorIf (add = [] ∧ remove = []) "KeywordChange must add or remove at least one keyword"
  typeErrorIf (add.any (remove.contains ·)) "KeywordChange cannot add and remove the same keyword"
  return ⟨add, remove⟩

def mailboxMembershipChange (input : MailboxMembershipChange) : Checked MailboxMembershipChange := do
  typeErrorIf (input.add = [] ∧ input.remove = []) "MailboxMembershipChange must add or remove at least one Mailbox"
  typeErrorIf (¬input.add.Nodup ∨ ¬input.remove.Nodup) "MailboxMembershipChange cannot contain duplicate Mailbox IDs"
  typeErrorIf (input.add.any (input.remove.contains ·)) "MailboxMembershipChange cannot add and remove the same Mailbox"
  return ⟨input.add, input.remove⟩

/-- The fields all mutations have. -/
structure MutationInput where
  mutationId : MutationId
  accountKey : AccountKey
  createdAt : MutationInstant

def pendingMutation (input : MutationInput) (payload : Payload) : PendingMutation :=
  { mutationId := input.mutationId, accountKey := input.accountKey, createdAt := input.createdAt, payload, lifecycle := .pending 0 }

def sendMutation (input : MutationInput) (intent : SendIntent) : Checked PendingMutation := do
  typeErrorIf (intent.identityId.accountKey ≠ input.accountKey)
    "SendMutation AccountKey must match its SendIntent Identity AccountKey"
  return pendingMutation input (.send intent)

def keywordMutation (input : MutationInput) (emailId : ScopedEmailId) (change : KeywordChange) : Checked PendingMutation := do
  typeErrorIf (emailId.accountKey ≠ input.accountKey) "KeywordMutation AccountKey must match its Email AccountKey"
  return pendingMutation input (.keyword emailId (← keywordChange change))

def mailboxMembershipMutation (input : MutationInput) (emailId : ScopedEmailId) (change : MailboxMembershipChange) :
    Checked PendingMutation := do
  typeErrorIf (emailId.accountKey ≠ input.accountKey)
    "MailboxMembershipMutation AccountKey must match its Email AccountKey"
  let change ← mailboxMembershipChange change
  typeErrorIf ((change.add ++ change.remove).any (·.accountKey ≠ input.accountKey))
    "MailboxMembershipMutation Mailboxes must match its AccountKey"
  return pendingMutation input (.mailboxMembership emailId change)

/-! ## What the factories check -/

section
variable {input : MutationInput} {emailId : ScopedEmailId} {m : PendingMutation}

theorem sendMutation_ok {intent : SendIntent} :
    sendMutation input intent = .ok m ↔ intent.identityId.accountKey = input.accountKey ∧ m = pendingMutation input (.send intent) := by
  simp only [sendMutation, except_bind_eq_ok, typeErrorIf_ok, pure, Except.pure, Except.ok.injEq, not_not]
  constructor
  · rintro ⟨_, haccount, rfl⟩
    exact ⟨haccount, rfl⟩
  · rintro ⟨haccount, rfl⟩
    exact ⟨(), haccount, rfl⟩

theorem keywordSet_ok {values set : List String} : keywordSet values = .ok set ↔ "" ∉ values ∧ set = values.foldl setAdd [] := by
  unfold keywordSet
  by_cases h : "" ∈ values
  · simp [h]
  · have hany : values.any (· = "") = false := by
      simp only [List.any_eq_false, decide_eq_true_eq]
      rintro k hk rfl
      exact h hk
    simp [h, hany, eq_comm]

theorem foldl_setAdd_eq_nil {values set : List String} : values.foldl setAdd set = [] ↔ set = [] ∧ values = [] := by
  simp only [List.eq_nil_iff_forall_not_mem, mem_foldl_setAdd, not_or, forall_and]

theorem foldl_setAdd_of_nodup {values set : List String} (h : (set ++ values).Nodup) : values.foldl setAdd set = set ++ values := by
  induction values generalizing set with
  | nil => simp
  | cons v rest ih =>
    have hnew : v ∉ set := fun hv => (List.nodup_append.1 h).2.2 v hv v List.mem_cons_self rfl
    rw [List.foldl_cons, setAdd, if_neg hnew, ih (by simpa using h), List.append_assoc]
    rfl

theorem nodup_foldl_setAdd {values set : List String} (h : set.Nodup) : (values.foldl setAdd set).Nodup := by
  induction values generalizing set with
  | nil => exact h
  | cons v rest ih =>
    rw [List.foldl_cons]
    apply ih
    unfold setAdd
    split
    · exact h
    · rename_i hnew
      exact List.nodup_append.2 ⟨h, List.nodup_singleton v, by rintro a ha b hb rfl; simp_all⟩

/-- A set of keywords is the set of its keywords. -/
theorem foldl_setAdd_idem (values : List String) : (values.foldl setAdd []).foldl setAdd [] = values.foldl setAdd [] :=
  foldl_setAdd_of_nodup (nodup_foldl_setAdd List.nodup_nil)

/-- A change adds or removes something, and nothing twice. -/
theorem keywordChange_ok {change made : KeywordChange} : keywordChange change = .ok made ↔
    ("" ∉ change.add ∧ "" ∉ change.remove) ∧ ¬(change.add = [] ∧ change.remove = []) ∧ (∀ k ∈ change.add, k ∉ change.remove) ∧
      made = ⟨change.add.foldl setAdd [], change.remove.foldl setAdd []⟩ := by
  simp only [keywordChange, except_bind_eq_ok, keywordSet_ok, typeErrorIf_ok, pure, Except.pure, Except.ok.injEq]
  constructor
  · rintro ⟨_, ⟨hadd, rfl⟩, _, ⟨hremove, rfl⟩, _, hsome, _, hdisjoint, rfl⟩
    simp only [foldl_setAdd_eq_nil, true_and] at hsome
    simp only [List.any_eq_true, List.contains_iff_mem, mem_foldl_setAdd, List.not_mem_nil, false_or, not_exists, not_and] at hdisjoint
    exact ⟨⟨hadd, hremove⟩, fun h => hsome h, hdisjoint, rfl⟩
  · rintro ⟨⟨hadd, hremove⟩, hsome, hdisjoint, rfl⟩
    refine ⟨_, ⟨hadd, rfl⟩, _, ⟨hremove, rfl⟩, (), ?_, (), ?_, rfl⟩
    · simpa only [foldl_setAdd_eq_nil, true_and] using hsome
    · simpa only [List.any_eq_true, List.contains_iff_mem, mem_foldl_setAdd, List.not_mem_nil, false_or, not_exists, not_and]
        using hdisjoint

/-- A change of sets that were made already. -/
theorem keywordChange_of_sets {add remove : List String} {made : KeywordChange} :
    keywordChange ⟨add.foldl setAdd [], remove.foldl setAdd []⟩ = .ok made ↔ keywordChange ⟨add, remove⟩ = .ok made := by
  rw [keywordChange_ok, keywordChange_ok]
  simp only [mem_foldl_setAdd, foldl_setAdd_eq_nil, foldl_setAdd_idem, List.not_mem_nil, false_or, true_and]

theorem keywordMutation_ok {change : KeywordChange} : keywordMutation input emailId change = .ok m ↔
    emailId.accountKey = input.accountKey ∧
      ∃ made, keywordChange change = .ok made ∧ m = pendingMutation input (.keyword emailId made) := by
  simp only [keywordMutation, except_bind_eq_ok, typeErrorIf_ok, pure, Except.pure, Except.ok.injEq, not_not]
  constructor
  · rintro ⟨_, haccount, made, hmade, rfl⟩
    exact ⟨haccount, made, hmade, rfl⟩
  · rintro ⟨haccount, made, hmade, rfl⟩
    exact ⟨(), haccount, made, hmade, rfl⟩

theorem mailboxMembershipChange_ok {change made : MailboxMembershipChange} : mailboxMembershipChange change = .ok made ↔
    ¬(change.add = [] ∧ change.remove = []) ∧ (change.add.Nodup ∧ change.remove.Nodup) ∧
      (∀ id ∈ change.add, id ∉ change.remove) ∧ made = change := by
  simp only [mailboxMembershipChange, except_bind_eq_ok, typeErrorIf_ok, pure, Except.pure, Except.ok.injEq, not_or, not_not,
    List.any_eq_true, List.contains_iff_mem, not_exists, not_and]
  constructor
  · rintro ⟨_, hsome, _, hnodup, _, hdisjoint, rfl⟩
    exact ⟨hsome, hnodup, hdisjoint, rfl⟩
  · rintro ⟨hsome, hnodup, hdisjoint, rfl⟩
    exact ⟨(), hsome, (), hnodup, (), hdisjoint, rfl⟩

theorem mailboxMembershipMutation_ok {change : MailboxMembershipChange} : mailboxMembershipMutation input emailId change = .ok m ↔
    emailId.accountKey = input.accountKey ∧ mailboxMembershipChange change = .ok change ∧
      (∀ id ∈ change.add ++ change.remove, id.accountKey = input.accountKey) ∧
      m = pendingMutation input (.mailboxMembership emailId change) := by
  simp only [mailboxMembershipMutation, except_bind_eq_ok, typeErrorIf_ok, pure, Except.pure, Except.ok.injEq, not_not,
    List.any_eq_true, decide_eq_true_eq, not_exists, not_and]
  constructor
  · rintro ⟨_, haccount, made, hmade, _, hmailboxes, rfl⟩
    obtain rfl := (mailboxMembershipChange_ok.1 hmade).2.2.2
    exact ⟨haccount, hmade, hmailboxes, rfl⟩
  · rintro ⟨haccount, hmade, hmailboxes, rfl⟩
    exact ⟨(), haccount, change, hmade, (), hmailboxes, rfl⟩

end

end Boxplot.Domain
