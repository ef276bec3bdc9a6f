import Boxplot.Jmap.Mail
import Boxplot.Remote.Errors
/-!
# The JMAP adapter

`toRemoteError` of `src/remote/jmap/error-mapper.ts`, the mutations of
`JmapRemoteMail` and `JmapSubmission.submit`.
-/

namespace Boxplot.Remote

open Domain Lib Jmap

/-! ## The error mapper -/

def methodErrorKind (type : String) (retryability : JmapErrorRetryability) : RemoteErrorKind :=
  if type = "rateLimited" then .rateLimited
  else if type = "tooLarge" then .tooLarge
  else if type = "cannotCalculateChanges" ∨ type = "stateMismatch" then .stateInvalid
  else if type = "serverUnavailable" then .unavailable
  else if retryability = .retryable then .protocol
  else .rejected

/-- `outcome` is what the caller knows of a failure that does not say. -/
def toRemoteError (outcome : OperationOutcome) : JsError → RemoteError
  | .remote e => e
  | .jmap (.auth _) => ⟨"Remote authentication failed", .auth, .never, .expire, .knownNotApplied⟩
  | .jmap (.submissionAmbiguous _) => ⟨"Submission outcome is unknown", .network, .reconcile, .keep, .unknown⟩
  | .jmap (.network _) =>
    ⟨"Remote network operation failed", .network, if outcome = .unknown then .reconcile else .safeBackoff, .keep, outcome⟩
  | .jmap (.method method type message) =>
    let retryability := (JmapError.method method type message).retryability
    ⟨"Remote protocol operation failed", methodErrorKind type retryability,
      if retryability = .retryable then .safeBackoff else .never, .keep, outcome⟩
  | _ => ⟨"Unexpected remote adapter failure", .unexpected, if outcome = .unknown then .reconcile else .never, .keep, outcome⟩

/-! ## `JamClientAdapter` -/

/-- The client both adapters use: its session, and the server it talks to. -/
structure JamClientAdapter where
  engine : Engine
  server : Server
  auth : AuthConfig
  /-- `none` until the session is opened. -/
  apiUrl : Option String

namespace JamClientAdapter

/-- Uses the open session. -/
def withSession {α : Type} (client : JamClientAdapter) (f : String → Attempt α) : Attempt α :=
  match client.apiUrl with
  | none => .ended (.error (.error "Session has not been opened or apiUrl is missing"))
  | some apiUrl => f apiUrl

def updateEmailKeywords (client : JamClientAdapter) (accountId emailId : String) (keywords : List (String × JsValue)) :
    Attempt Unit :=
  client.withSession fun apiUrl => patchEmailKeywords client.engine client.server apiUrl client.auth accountId emailId keywords

def updateEmailMailboxes (client : JamClientAdapter) (accountId emailId : String) (mailboxIds : List (String × JsValue)) :
    Attempt Unit :=
  client.withSession fun apiUrl => patchEmailMailboxes client.engine client.server apiUrl client.auth accountId emailId mailboxIds

def submitEmail (client : JamClientAdapter) (accountId : String) (draft : JmapEmailDraft) (identityId : String) :
    Attempt (JsValue × JsValue) :=
  client.withSession fun apiUrl => Jmap.submitEmail client.engine client.server apiUrl client.auth accountId draft identityId

end JamClientAdapter

/-! ## `JmapRemoteMail` -/

/-- `patch[value] = true` for what is added, then `patch[value] = false` for what is removed. -/
def patchOf (add remove : List String) : List (String × JsValue) :=
  remove.foldl (fun patch value => assign patch value (.bool false))
    (add.foldl (fun patch value => assign patch value (.bool true)) [])

/-- How both mutations report a failure. -/
def notApplied (x : JsError) : JsError := .remote (toRemoteError .knownNotApplied x)

def JmapRemoteMail.applyKeywordChange (client : JamClientAdapter) (accountId emailId : String)
    (change : RemoteKeywordChange) : Attempt Unit :=
  answerOr (client.updateEmailKeywords accountId emailId (patchOf change.add change.remove)) notApplied .ok

def JmapRemoteMail.applyMembershipChange (client : JamClientAdapter) (accountId emailId : String)
    (change : RemoteMembershipChange) : Attempt Unit :=
  answerOr (client.updateEmailMailboxes accountId emailId (patchOf change.add change.remove)) notApplied .ok

/-! ## `JmapSubmission` -/

/-- What is known of a failed submission. -/
def submissionOutcome : JsError → OperationOutcome
  | .jmap (.network _) => .unknown
  | .jmap (.submissionAmbiguous _) => .unknown
  | _ => .knownNotApplied

def unsupportedSubmission (message : String) : JsError := .remote ⟨message, .unsupported, .never, .keep, .knownNotApplied⟩

/-- `remoteEmailIdFromString(result.emailId)`: only the length is looked at. -/
def submissionResult (e : Engine) (ids : JsValue × JsValue) : Except JsError SubmissionResult := do
  let length ← reads (ids.1.get e "length")
  match length with
  | .num 0 => .error (.typeError "RemoteEmailId must not be empty")
  | _ => .ok ⟨some (ids.1.key e), some (ids.2.key e)⟩

/-- The draft and the identity a message is submitted with. -/
def submissionRequest (message : SubmissionMessage) : Except JsError (JmapEmailDraft × String) :=
  match message.remoteIdentityId, message.body with
  | none, _ => .error (unsupportedSubmission "JMAP submission requires a remote Identity")
  | some _, .boxplotE2ee _ => .error (unsupportedSubmission "Encrypted submission is not integrated yet")
  | some identityId, .plain text html =>
    .ok ({ «from» := [message.from], «to» := message.to, cc := message.cc, bcc := message.bcc, replyTo := message.replyTo,
           subject := message.subject, textBody := some text, htmlBody := html }, identityId)

/-- How a failed submission is reported. -/
def submissionRejected (x : JsError) : JsError := .remote (toRemoteError (submissionOutcome x) x)

def JmapSubmission.submit (client : JamClientAdapter) (message : SubmissionMessage) : Attempt SubmissionResult :=
  match submissionRequest message with
  | .error x => .ended (.error x)
  | .ok (draft, identityId) =>
    answerOr (client.submitEmail message.remoteAccountId draft identityId) submissionRejected fun ids =>
      (submissionResult client.engine ids).mapError submissionRejected

end Boxplot.Remote
