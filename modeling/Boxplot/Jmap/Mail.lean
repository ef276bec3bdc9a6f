import Boxplot.Domain.Mutation
import Boxplot.Lib.JsValue
import Boxplot.Remote.Errors
/-!
# JMAP mutations

`fetchJmapRaw` of `src/jmap/transport/http.ts`, against a server that does what
it likes: whether it performs the request's effect, and what of its answer
arrives, are independent. Over it `patchEmailKeywords` and
`patchEmailMailboxes` of `src/jmap/mail/mutations.ts`, and `submitEmail` of
`submission.ts`: the request each sends, and how it reads the method responses.
-/

namespace Boxplot.Jmap

open Lib Remote

inductive AuthConfig
  | bearer (token : String)
  | basic (token : String)
  deriving DecidableEq, Repr

/-- One method call: its name, its arguments and its id. -/
structure MethodCall where
  name : String
  args : JsValue
  callId : String

structure HttpRequest where
  url : String
  authorization : AuthConfig
  using' : List String
  methodCalls : List MethodCall

/-- What `fetch` and `response.json()` give: `body` is `none` if it is no JSON. -/
inductive HttpReply
  | lost
  | answered (status : Nat) (body : Option JsValue)

/-- What the server does with a request, and what arrives of its answer. -/
structure Served where
  performed : Bool
  reply : HttpReply

abbrev Server := HttpRequest → Served

/-- `btoa` refuses characters past U+00FF. -/
def btoaThrows (token : String) : Bool := token.toList.any (255 < ·.toNat)

def defaultUsing : List String :=
  ["urn:ietf:params:jmap:core", "urn:ietf:params:jmap:mail", "urn:ietf:params:jmap:submission"]

/-- What the reply to a request is turned into. -/
def readReply (e : Engine) : HttpReply → Except JsError (List JsValue)
  | .lost => .error (.jmap (.network "Network error during JMAP batch request"))
  | .answered status body =>
    if status = 401 ∨ status = 403 then
      .error (.jmap (.auth ("Authentication failed with status " ++ toString status)))
    else if status < 200 ∨ 299 < status then
      .error (.jmap (.network ("JMAP batch request failed with status " ++ toString status)))
    else match body with
      | none => .error (.jmap (.network "Failed to parse JMAP batch response as JSON"))
      | some body =>
        match body.optGet e "methodResponses" with
        | .ok (.arr items) => .ok items
        | _ => .error (.jmap (.network "JMAP batch response is missing methodResponses"))

/-- The request, if its authorization header can be made. -/
def jmapRequest (auth : AuthConfig) (methodCalls : List MethodCall) (apiUrl : String) : Option HttpRequest :=
  let unsendable := match auth with
    | .basic token => btoaThrows token
    | .bearer _ => false
  if unsendable then none else some ⟨apiUrl, auth, defaultUsing, methodCalls⟩

def fetchJmapRaw (e : Engine) (server : Server) (apiUrl : String) (auth : AuthConfig) (methodCalls : List MethodCall) :
    Attempt (List JsValue) :=
  match jmapRequest auth methodCalls apiUrl with
  | none => .ended (.error (.error "InvalidCharacterError"))
  | some request => ⟨(server request).performed, readReply e (server request).reply⟩

open Domain

/-! ## Reading method responses -/

/-- The first response with this call id. A response that is null or undefined throws. -/
def findResponse (e : Engine) (callId : String) : List JsValue → Except String (Option JsValue)
  | [] => .ok none
  | r :: rest => do
    let id ← r.get e "2"
    if id.isText callId then .ok (some r) else findResponse e callId rest

/-- A method error's `type` or `description`. One that is no string matches no known type. -/
def textOr (value : JsValue) (default : String) : String :=
  if value.truthy then
    match value with
    | .str s => s
    | _ => ""
  else default

/-- The error for an entry of `notUpdated` or `notCreated`. A type may have a default message of its own. -/
def setError (e : Engine) (method default : String) (special : String × String) (details : JsValue) : Except String JmapError := do
  let type ← details.get e "type"
  let description ← details.get e "description"
  if type.isText special.1 then .ok (.method method special.1 (textOr description special.2))
  else .ok (.method method (textOr type "unknown") (textOr description default))

/-- Throws the `TypeError` of a property read. -/
def reads {α : Type} (r : Except String α) : Except JsError α := r.mapError .typeError

/-- The message of a caught exception. -/
def caughtMessage : JsError → String
  | .remote e => e.message
  | .remoteMutationSource _ => "Remote mutation source failed"
  | .jmap e => e.message
  | .typeError m => m
  | .error m => m
  | .thrown _ => ""

/-- Reads an answer, or rethrows what `onError` makes of the failure to get one. -/
def answerOr {α β : Type} (a : Attempt α) (onError : JsError → JsError) (read : α → Except JsError β) : Attempt β :=
  ⟨a.performed, match a.outcome with
    | .ok value => read value
    | .error x => .error (onError x)⟩

/-! ## Updating an email -/

/-- The whole property is given, not patch paths into it. -/
def updateCall (property accountId emailId : String) (patch : List (String × JsValue)) : MethodCall :=
  ⟨"Email/set", .obj [("accountId", .str accountId), ("update", .obj [(emailId, .obj [(property, .obj patch)])])], "e1"⟩

/-- The truthy `notUpdated` entry of the email, if the responses have one. No response at all has none. -/
def notUpdatedEntry (e : Engine) (emailId : String) (responses : List JsValue) : Except String (Option JsValue) := do
  let response ← findResponse e "e1" responses
  let result ← match response with
    | some r => r.get e "1"
    | none => .ok (.obj [])
  let notUpdated ← result.get e "notUpdated"
  if notUpdated.truthy then do
    let details ← notUpdated.get e emailId
    .ok (if details.truthy then some details else none)
  else .ok none

/-- What the responses to an update say. -/
def readUpdate (e : Engine) (emailId mismatch failure : String) (responses : List JsValue) : Except JsError Unit := do
  let entry ← reads (notUpdatedEntry e emailId responses)
  match entry with
  | none => .ok ()
  | some details => do
    let error ← reads (setError e "Email/set" failure ("stateMismatch", mismatch) details)
    .error (.jmap error)

/-- Every failure to get an answer is thrown as a method error. -/
def updateFailed (x : JsError) : JsError := .jmap (.method "Email/set" "networkOrServerFail" (caughtMessage x))

/-- What both patches share: the property they replace and their messages tell them apart. -/
def patchEmail (property mismatch failure : String) (e : Engine) (server : Server) (apiUrl : String) (auth : AuthConfig)
    (accountId emailId : String) (patch : List (String × JsValue)) : Attempt Unit :=
  answerOr (fetchJmapRaw e server apiUrl auth [updateCall property accountId emailId patch]) updateFailed
    (readUpdate e emailId mismatch failure)

def patchEmailKeywords (e : Engine) (server : Server) (apiUrl : String) (auth : AuthConfig) (accountId emailId : String)
    (keywords : List (String × JsValue)) : Attempt Unit :=
  patchEmail "keywords" "State mismatch when updating keywords" "Failed to update keywords" e server apiUrl auth
    accountId emailId keywords

def patchEmailMailboxes (e : Engine) (server : Server) (apiUrl : String) (auth : AuthConfig) (accountId emailId : String)
    (mailboxIds : List (String × JsValue)) : Attempt Unit :=
  patchEmail "mailboxIds" "State mismatch when updating mailboxes" "Failed to update mailboxes" e server apiUrl auth
    accountId emailId mailboxIds

/-! ## Submitting an email -/

structure JmapEmailDraft where
  «from» : List EmailAddress
  «to» : List EmailAddress
  cc : List EmailAddress
  bcc : List EmailAddress
  replyTo : List EmailAddress
  subject : String
  textBody : Option String
  htmlBody : Option String
  deriving DecidableEq, Repr

def formatAddresses (addresses : List EmailAddress) : JsValue :=
  .arr (addresses.map fun a => .obj [("name", .str (a.name.getD "")), ("email", .str a.email)])

def draftsQuery (accountId : String) : MethodCall :=
  ⟨"Mailbox/query", .obj [("accountId", .str accountId), ("filter", .obj [("role", .str "drafts")]), ("limit", .num 1)], "m1"⟩

/-- `mbxResult[0][1]`. -/
def firstArgs (e : Engine) (responses : List JsValue) : Except JsError JsValue :=
  reads ((responses.headD .undefined).get e "1")

/-- The id of the drafts mailbox. -/
def draftsMailbox (e : Engine) (mailboxResponse : JsValue) : Except JsError JsValue := do
  let ids ← reads (mailboxResponse.get e "ids")
  let ids := ids.orElse (.arr [])
  let length ← reads (ids.get e "length")
  match length with
  | .num 0 => .error (.jmap (.method "Mailbox/query" "notFound" "Drafts mailbox not found"))
  | _ => reads (ids.get e "0")

/-- A body part that is given and not empty. -/
def bodyPart (partId : String) (content : Option String) : List (String × JsValue) × List JsValue :=
  match content with
  | some text => if text = "" then ([], []) else ([(partId, .obj [("value", .str text)])], [.obj [("partId", .str partId)]])
  | none => ([], [])

def emailCreateObj (e : Engine) (draftsMailboxId : JsValue) (draft : JmapEmailDraft) : JsValue :=
  let text := bodyPart "t1" draft.textBody
  let html := bodyPart "h1" draft.htmlBody
  .obj [("mailboxIds", .obj [(draftsMailboxId.key e, .bool true)]), ("from", formatAddresses draft.from),
    ("to", formatAddresses draft.to), ("cc", formatAddresses draft.cc), ("bcc", formatAddresses draft.bcc),
    ("replyTo", formatAddresses draft.replyTo), ("subject", .str draft.subject), ("bodyValues", .obj (text.1 ++ html.1)),
    ("textBody", .arr text.2), ("htmlBody", .arr html.2)]

def submissionBatch (e : Engine) (accountId : String) (draftsMailboxId : JsValue) (draft : JmapEmailDraft)
    (identityId : String) : List MethodCall :=
  [⟨"Email/set", .obj [("accountId", .str accountId),
      ("create", .obj [("draft1", emailCreateObj e draftsMailboxId draft)])], "e1"⟩,
   ⟨"EmailSubmission/set", .obj [("accountId", .str accountId),
      ("create", .obj [("sub1", .obj [("emailId", .str "#draft1"), ("identityId", .str identityId)])])], "s1"⟩]

/-- `batchResponse.find(...)?.[1] || {}`. -/
def responseArgs (e : Engine) (callId : String) (responses : List JsValue) : Except JsError JsValue := do
  let response ← reads (findResponse e callId responses)
  match response with
  | none => .ok (.obj [])
  | some r => do
    let args ← reads (r.get e "1")
    .ok (args.orElse (.obj []))

/-- `response.notCreated?.[name]`, if truthy. -/
def notCreatedEntry (e : Engine) (response : JsValue) (name : String) : Except JsError (Option JsValue) := do
  let table ← reads (response.get e "notCreated")
  let details ← reads (table.optGet e name)
  .ok (if details.truthy then some details else none)

/-- `response.created?.[name]?.id`. -/
def createdId (e : Engine) (response : JsValue) (name : String) : Except JsError JsValue := do
  let table ← reads (response.get e "created")
  let entry ← reads (table.optGet e name)
  reads (entry.optGet e "id")

/-- What the responses to the batch say: the two ids, if both objects were created. -/
def readBatch (e : Engine) (responses : List JsValue) : Except JsError (JsValue × JsValue) := do
  let emailSet ← responseArgs e "e1" responses
  let subSet ← responseArgs e "s1" responses
  let emailNotCreated ← notCreatedEntry e emailSet "draft1"
  match emailNotCreated with
  | some details => do
    let error ← reads (setError e "Email/set" "Failed to create email draft" ("tooLarge", "Email is too large") details)
    .error (.jmap error)
  | none => do
    let subNotCreated ← notCreatedEntry e subSet "sub1"
    match subNotCreated with
    | some details => do
      let error ← reads (setError e "EmailSubmission/set" "Failed to submit email" ("unknown", "Failed to submit email") details)
      .error (.jmap error)
    | none => do
      let emailId ← createdId e emailSet "draft1"
      let subId ← createdId e subSet "sub1"
      if emailId.truthy && subId.truthy then .ok (emailId, subId)
      else .error (.jmap (.method "EmailSubmission/set" "unknown" "Server returned success but missing IDs"))

def queryFailed : JsError → JsError
  | .jmap (.auth m) => .jmap (.auth m)
  | x => .jmap (.method "Mailbox/query" "networkOrServerFail" (caughtMessage x))

/-- Only a transport failure of the batch is ambiguous. -/
def batchFailed : JsError → JsError
  | .jmap (.auth m) => .jmap (.auth m)
  | .jmap (.network _) => .jmap (.submissionAmbiguous "Submission outcome is unknown after a transport failure")
  | x => .jmap (.method "Email/set+EmailSubmission/set" "networkOrServerFail" (caughtMessage x))

/-- The drafts mailbox is looked up first. -/
def draftsMailboxId (e : Engine) (server : Server) (apiUrl : String) (auth : AuthConfig) (accountId : String) :
    Except JsError JsValue :=
  let query := answerOr (fetchJmapRaw e server apiUrl auth [draftsQuery accountId]) queryFailed fun responses =>
    (firstArgs e responses).mapError queryFailed
  query.outcome.bind (draftsMailbox e)

/-- The submission is performed, if at all, by the batch. -/
def submitEmail (e : Engine) (server : Server) (apiUrl : String) (auth : AuthConfig) (accountId : String)
    (draft : JmapEmailDraft) (identityId : String) : Attempt (JsValue × JsValue) :=
  match draftsMailboxId e server apiUrl auth accountId with
  | .error x => .ended (.error x)
  | .ok mailboxId =>
    answerOr (fetchJmapRaw e server apiUrl auth (submissionBatch e accountId mailboxId draft identityId)) batchFailed
      (readBatch e)

end Boxplot.Jmap
