import Boxplot.Lib.Async
import Boxplot.Remote.Collections
import Boxplot.Remote.Errors
/-!
# JMAP reads

`getMailboxes`, `queryEmails`, `getEmails` and `getEmailChanges` of
`src/jmap/mail`, over the requests they make through `jmap-jam`. What an answer
lacks gets a default, and an email that lacks a mandatory property is left out.
-/

namespace Boxplot.Jmap

open Domain Lib Remote

/-! ## What the server answers -/

/-- What `/query` takes. -/
structure EmailQuery where
  accountId : String
  inMailbox : String
  position : Option Int
  anchor : Option String
  anchorOffset : Option Int
  limit : Option Nat
  sort : List String
  calculateTotal : Bool
  deriving DecidableEq, Repr

inductive JamRequest
  | mailboxGet (accountId : String)
  | emailQuery (query : EmailQuery)
  | emailGet (accountId : String) (ids : List String)
  | emailChanges (accountId sinceState : String)
  deriving DecidableEq, Repr

structure RawJmapMailbox where
  id : String
  name : String
  parentId : Option String
  role : Option String
  sortOrder : Option Nat
  totalEmails : Option Nat
  unreadEmails : Option Nat
  myRights : Option MailboxRights
  deriving DecidableEq, Repr

/-- `none` is a property that is missing or null; the two records have each key once. -/
structure RawJmapEmail where
  id : Option String
  blobId : Option String
  threadId : Option String
  sender : EmailAddressList
  «from» : EmailAddressList
  replyTo : EmailAddressList
  «to» : EmailAddressList
  cc : EmailAddressList
  bcc : EmailAddressList
  subject : Option String
  sentAt : Option String
  receivedAt : Option String
  size : Option Int
  preview : Option String
  hasAttachment : Option Bool
  keywords : Option (List (String × Bool))
  mailboxIds : Option (List (String × Bool))
  deriving DecidableEq, Repr

/-- The answer to a `/get`. -/
structure RawGetResponse (α : Type) where
  list : Option (List α)
  state : Option String
  deriving DecidableEq, Repr

structure RawJmapQueryResponse where
  ids : Option (List String)
  queryState : Option String
  total : Option Int
  position : Option Int
  canCalculateChanges : Option Bool
  deriving DecidableEq, Repr

structure RawJmapChangesResponse where
  /-- Whether the property is there. -/
  cannotCalculateChanges : Bool
  oldState : String
  newState : String
  hasMoreChanges : Bool
  created : Option (List String)
  updated : Option (List String)
  destroyed : Option (List String)
  deriving DecidableEq, Repr

abbrev RawResponse : JamRequest → Type
  | .mailboxGet _ => RawGetResponse RawJmapMailbox
  | .emailQuery _ => RawJmapQueryResponse
  | .emailGet _ _ => RawGetResponse RawJmapEmail
  | .emailChanges _ _ => RawJmapChangesResponse

/-! ## Failed requests -/

/-- What a request rejects with: a `JmapAuthError`, or a value with a `status` or `statusCode` and a text. -/
inductive JamRejection
  | auth (message : String)
  | other (status : Option Int) (detail : String)
  deriving DecidableEq, Repr

/-- `401` or `403` here, with no digit behind it. -/
def statusHere : List Char → Bool
  | '4' :: '0' :: c :: rest => (c = '1' || c = '3') && !(rest.head?.any Char.isDigit)
  | _ => false

/-- `/(?:^|\D)(?:401|403)(?:\D|$)/`, where `digit` says whether a digit stands before the text. -/
def namesStatus (digit : Bool) : List Char → Bool
  | [] => false
  | c :: rest => (!digit && statusHere (c :: rest)) || namesStatus c.isDigit rest

/-- `/unauthori[sz]ed|forbidden/i`. -/
def namesRefusal (text : List Char) : Bool :=
  let text := text.map Char.toLower
  ["unauthorised", "unauthorized", "forbidden"].any fun word => text.tails.any (word.toList.isPrefixOf ·)

/-- `throwJmapRequestError`. -/
def jmapRequestError (method : String) : JamRejection → JsError
  | .auth message => .jmap (.auth message)
  | .other status detail =>
    if status = some 401 ∨ status = some 403 ∨ namesStatus false detail.toList ∨ namesRefusal detail.toList then
      .jmap (.auth ("Authentication failed during " ++ method))
    else .jmap (.method method "networkOrServerFail" detail)

/-- Functions that await `jam.request`. -/
abbrev JamCall (α : Type) : Type := Async JamRequest (fun e => Except JamRejection (RawResponse e)) JsError α

def jamRequest (method : String) (e : JamRequest) : JamCall (RawResponse e) := do
  let reply ← Async.call e
  Async.lift (reply.mapError (jmapRequestError method))

/-! ## Mailboxes -/

structure JmapMailbox where
  id : String
  name : String
  parent : Option String
  role : Option String
  sortOrder : Nat
  totalEmails : Nat
  unreadEmails : Nat
  rights : MailboxRights
  deriving DecidableEq, Repr

structure JmapMailboxesResult where
  mailboxes : List JmapMailbox
  state : String
  deriving DecidableEq, Repr

def mapMailbox (raw : RawJmapMailbox) : JmapMailbox where
  id := raw.id
  name := raw.name
  parent := raw.parentId
  role := raw.role
  sortOrder := raw.sortOrder.getD 0
  totalEmails := raw.totalEmails.getD 0
  unreadEmails := raw.unreadEmails.getD 0
  rights := raw.myRights.getD ⟨false, false, false, false, false, false⟩

def getMailboxes (accountId : String) : JamCall JmapMailboxesResult := do
  let response ← jamRequest "Mailbox/get" (.mailboxGet accountId)
  pure ⟨(response.list.getD []).map mapMailbox, response.state.getD ""⟩

/-! ## Emails -/

structure JmapQueryResult where
  ids : List String
  queryState : String
  total : Int
  position : Int
  canCalculateChanges : Bool
  deriving DecidableEq, Repr

structure QueryOptions where
  position : Option Int
  limit : Option Nat
  anchor : Option String
  anchorOffset : Option Int
  deriving DecidableEq, Repr

/-- The request names no sort, and does not ask for the total. -/
def emailQuery (accountId mailboxId : String) (options : QueryOptions) : EmailQuery where
  accountId := accountId
  inMailbox := mailboxId
  position := options.position
  anchor := options.anchor
  anchorOffset := options.anchorOffset
  limit := options.limit
  sort := []
  calculateTotal := false

/-- `filter` is the mailbox alone. -/
def queryEmails (accountId mailboxId : String) (options : QueryOptions) : JamCall JmapQueryResult := do
  let response ← jamRequest "Email/query" (.emailQuery (emailQuery accountId mailboxId options))
  pure { ids := response.ids.getD [], queryState := response.queryState.getD "", total := response.total.getD 0,
         position := response.position.getD 0, canCalculateChanges := response.canCalculateChanges.getD false }

structure JmapEmail where
  id : String
  blobId : String
  threadId : String
  sender : EmailAddressList
  «from» : EmailAddressList
  replyTo : EmailAddressList
  «to» : EmailAddressList
  cc : EmailAddressList
  bcc : EmailAddressList
  subject : Option String
  sentAt : Option String
  receivedAt : String
  size : Nat
  preview : String
  hasAttachment : Bool
  keywords : List (String × Bool)
  mailboxIds : List String
  deriving DecidableEq, Repr

structure JmapEmailsResult where
  emails : List JmapEmail
  state : String
  deriving DecidableEq, Repr

/-- An empty list maps to null. -/
def mapAddresses : EmailAddressList → EmailAddressList
  | some [] => none
  | raw => raw

/-- A text that is there and not empty. -/
def mandatory (value : Option String) : Option String := value.filter (· ≠ "")

/-- A size that is no safe integer counts as 0. -/
def mapSize : Option Int → Nat
  | some size => if 0 ≤ size ∧ size ≤ maxSafeInteger then size.toNat else 0
  | none => 0

/-- The keys of a record whose value is true. -/
def setKeys (entries : List (String × Bool)) : List String := (entries.filter (·.2)).map (·.1)

def validateAndMapEmail (raw : RawJmapEmail) : Option JmapEmail := do
  let id ← mandatory raw.id
  let blobId ← mandatory raw.blobId
  let threadId ← mandatory raw.threadId
  let receivedAt ← mandatory raw.receivedAt
  let mailboxIds := setKeys (raw.mailboxIds.getD [])
  if mailboxIds = [] then none
  else
    some
      { id, blobId, threadId, sender := mapAddresses raw.sender, «from» := mapAddresses raw.from,
        replyTo := mapAddresses raw.replyTo, «to» := mapAddresses raw.to, cc := mapAddresses raw.cc,
        bcc := mapAddresses raw.bcc, subject := raw.subject, sentAt := raw.sentAt, receivedAt, size := mapSize raw.size,
        preview := raw.preview.getD "", hasAttachment := raw.hasAttachment.getD false,
        keywords := raw.keywords.getD [], mailboxIds }

def getEmails (accountId : String) (emailIds : List String) : JamCall JmapEmailsResult := do
  let response ← jamRequest "Email/get" (.emailGet accountId emailIds)
  pure ⟨(response.list.getD []).filterMap validateAndMapEmail, response.state.getD ""⟩

/-! ## Changes -/

structure JmapDelta where
  accountId : String
  oldState : String
  newState : String
  hasMoreChanges : Bool
  created : List String
  updated : List String
  destroyed : List String
  deriving DecidableEq, Repr

def getEmailChanges (accountId sinceState : String) : JamCall JmapDelta := do
  let response ← jamRequest "Email/changes" (.emailChanges accountId sinceState)
  if response.cannotCalculateChanges then
    throw (.jmap (.method "Email/changes" "cannotCalculateChanges" "Server cannot calculate changes from this state."))
  else
    pure
      { accountId, oldState := response.oldState, newState := response.newState, hasMoreChanges := response.hasMoreChanges,
        created := response.created.getD [], updated := response.updated.getD [], destroyed := response.destroyed.getD [] }

end Boxplot.Jmap
