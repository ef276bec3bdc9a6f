import Boxplot.Domain.Factories
/-!
# What is cached of a mailbox

`src/domain/email-body.ts`, `attachment-ref.ts` and `mailbox-view.ts`: values
that hang on an email or a mailbox, and what their factories check.
-/

namespace Boxplot.Domain

open Lib

/-! ## Bodies and attachments -/

structure EmailBody where
  emailId : ScopedEmailId
  text : Option String
  html : Option String
  deriving DecidableEq, Repr

structure AttachmentRef where
  emailId : ScopedEmailId
  partId : String
  blobId : ScopedBlobId
  name : Option String
  mediaType : String
  size : Nat
  disposition : Option String
  cid : Option String
  deriving DecidableEq, Repr

def isMultipart (mediaType : String) : Bool := "multipart/".toList.isPrefixOf (mediaType.toList.map Char.toLower)

def attachmentRef (input : AttachmentRef) : Checked AttachmentRef := do
  typeErrorIf (input.emailId.accountKey ≠ input.blobId.accountKey)
    "AttachmentRef emailId and blobId must belong to the same AccountKey"
  typeErrorIf (input.mediaType = "") "AttachmentRef mediaType must not be empty"
  typeErrorIf (isMultipart input.mediaType) "AttachmentRef mediaType must not be multipart"
  typeErrorIf (maxSafeInteger < input.size) "AttachmentRef size must be a non-negative safe integer"
  return input

/-! ## Views -/

inductive SortDirection
  | ascending | descending
  deriving DecidableEq, Repr

/-- The filter is always `all`, the property `receivedAt`. -/
structure MailboxViewSpec where
  mailboxId : ScopedMailboxId
  direction : SortDirection
  deriving DecidableEq, Repr

structure MailboxViewCoverageRange where
  start : Nat
  endExclusive : Nat
  deriving DecidableEq, Repr

structure MailboxViewItem where
  position : Nat
  emailId : ScopedEmailId
  deriving DecidableEq, Repr

structure MailboxView where
  spec : MailboxViewSpec
  queryState : String
  total : Nat
  coverage : List MailboxViewCoverageRange
  items : List MailboxViewItem
  deriving DecidableEq, Repr

/-- A number from outside, checked before it is one of a view. -/
def safeInteger (value : Int) (fieldName : String) : Checked Nat :=
  if 0 ≤ value ∧ value ≤ maxSafeInteger then .ok value.toNat
  else .error (fieldName ++ " must be a non-negative safe integer")

def mailboxViewItem (position : Int) (emailId : ScopedEmailId) : Checked MailboxViewItem := do
  let position ← safeInteger position "MailboxViewItem position"
  .ok ⟨position, emailId⟩

def mailboxViewCoverageRange (start endExclusive : Int) : Checked MailboxViewCoverageRange := do
  let start ← safeInteger start "Coverage start"
  let endExclusive ← safeInteger endExclusive "Coverage endExclusive"
  typeErrorIf (endExclusive ≤ start) "Coverage range must not be empty or reversed"
  .ok ⟨start, endExclusive⟩

def mailboxViewQueryStateFromString (value : String) : Checked String := do
  typeErrorIf (value.length = 0) "MailboxViewQueryState must not be empty"
  .ok value

def assertNonNegativeSafeInteger (value : Nat) (fieldName : String) : Checked Unit :=
  typeErrorIf (maxSafeInteger < value) (fieldName ++ " must be a non-negative safe integer")

def assertCoverageRangeShape (range : MailboxViewCoverageRange) : Checked Unit := do
  assertNonNegativeSafeInteger range.start "Coverage start"
  assertNonNegativeSafeInteger range.endExclusive "Coverage endExclusive"
  typeErrorIf (range.endExclusive ≤ range.start) "Coverage range must not be empty or reversed"

/-- The ranges after one that ends at `previousEnd`. -/
def validateCoverage (total : Nat) : Option Nat → List MailboxViewCoverageRange → Checked Unit
  | _, [] => .ok ()
  | previousEnd, range :: rest => do
    assertCoverageRangeShape range
    typeErrorIf (total < range.endExclusive) "Coverage range must not exceed MailboxView total"
    typeErrorIf (previousEnd.any (range.start ≤ ·)) "Coverage ranges must be ordered, disjoint, and non-adjacent"
    validateCoverage total (some range.endExclusive) rest

/-- The items after those with these ids, the last of which is at `previousPosition`. -/
def validateItems (accountKey : AccountKey) : Option Nat → List ScopedEmailId → List MailboxViewItem → Checked Unit
  | _, _, [] => .ok ()
  | previousPosition, knownEmailIds, item :: rest => do
    assertNonNegativeSafeInteger item.position "MailboxViewItem position"
    typeErrorIf (previousPosition.any (item.position ≤ ·)) "MailboxViewItem positions must be strictly ascending"
    typeErrorIf (item.emailId.accountKey ≠ accountKey) "MailboxViewItem emailId must belong to the View AccountKey"
    typeErrorIf (item.emailId ∈ knownEmailIds) "MailboxView must not contain a duplicate Email ID"
    validateItems accountKey (some item.position) (knownEmailIds ++ [item.emailId]) rest

/-- The items of one range, which go on at `expectedPosition`: what is left of the items after it. -/
def coverRange (endExclusive : Nat) : Nat → List MailboxViewItem → Checked (Nat × List MailboxViewItem)
  | expectedPosition, [] => .ok (expectedPosition, [])
  | expectedPosition, item :: rest =>
    if item.position < endExclusive then
      if item.position ≠ expectedPosition then .error "MailboxView coverage and item positions must match exactly"
      else coverRange endExclusive (expectedPosition + 1) rest
    else .ok (expectedPosition, item :: rest)

def validateCoverageItems : List MailboxViewCoverageRange → List MailboxViewItem → Checked Unit
  | [], items => typeErrorIf (items ≠ []) "MailboxView items must not exist outside declared coverage"
  | range :: rest, items => do
    let (expectedPosition, left) ← coverRange range.endExclusive range.start items
    typeErrorIf (expectedPosition ≠ range.endExclusive) "MailboxView coverage and item positions must match exactly"
    validateCoverageItems rest left

def mailboxView (input : MailboxView) : Checked MailboxView := do
  assertNonNegativeSafeInteger input.total "MailboxView total"
  validateCoverage input.total none input.coverage
  validateItems input.spec.mailboxId.accountKey none [] input.items
  validateCoverageItems input.coverage input.items
  return input

end Boxplot.Domain
