import Boxplot.Domain.Mutation
import Mathlib.Tactic
/-!
# Errors and requests of the TypeScript layers

`src/remote/errors.ts`, `src/remote/mutation-source.ts` and the JMAP errors of
`src/jmap/errors.ts`: the classes the outbox and the remote adapters tell apart
with `instanceof`. `JsError` is what an awaited promise can reject with; a
rejection with any other value is `thrown`, with the properties
`toNativeRemoteError` looks at. And what a remote adapter is asked to do:
`src/remote/submission-message.ts`, `submission.ts`, the changes of `mail.ts`,
and the evidence of `reconciliation.ts`.
-/

namespace Boxplot.Remote

inductive RemoteErrorKind
  | auth | network | unavailable | protocol | malformedRemoteData | stateInvalid | conflict | unsupported
  | rateLimited | tooLarge | rejected | unexpected
  deriving DecidableEq, Repr

/-- `other` (here and below): a value that no comparison with a label recognises. The types exclude it, but
nothing checks a rejected value's labels for being strings. -/
inductive RetryDisposition
  | never | safeImmediate | safeBackoff | reconcile | other
  deriving DecidableEq, Repr

inductive SessionDisposition
  | keep | expire | other
  deriving DecidableEq, Repr

inductive OperationOutcome
  | notApplicable | knownNotApplied | unknown | other
  deriving DecidableEq, Repr

def RetryDisposition.isSafe : RetryDisposition → Bool
  | .safeImmediate => true
  | .safeBackoff => true
  | _ => false

structure RemoteError where
  message : String
  kind : RemoteErrorKind
  retry : RetryDisposition
  session : SessionDisposition
  outcome : OperationOutcome
  deriving DecidableEq, Repr

inductive RemoteMutationSourceFailure
  | notConnected
  | cancelled
  | remote (error : RemoteError)
  | unexpected
  deriving DecidableEq, Repr

/-! ## JMAP errors -/

inductive JmapErrorRetryability
  | retryable
  | terminal
  deriving DecidableEq, Repr

/-- The method errors that are transient by nature; the last one is this code base's own. -/
def retryableMethodErrorTypes : List String :=
  ["serverFail", "serverPartialFail", "serverUnavailable", "rateLimited", "networkOrServerFail"]

inductive JmapError
  | auth (message : String)
  | network (message : String)
  | submissionAmbiguous (message : String)
  | method (method type message : String)
  deriving DecidableEq, Repr

def JmapError.message : JmapError → String
  | .auth m => m
  | .network m => m
  | .submissionAmbiguous m => m
  | .method _ _ m => m

def JmapError.retryability : JmapError → JmapErrorRetryability
  | .auth _ => .terminal
  | .network _ => .retryable
  | .submissionAmbiguous _ => .terminal
  | .method _ type _ => if type ∈ retryableMethodErrorTypes then .retryable else .terminal

/-! ## What a promise rejects with -/

/-- What reading one property of a rejected value gives: a string, another value that
`String(value)` turns into `text`, or an exception. -/
inductive JsField
  | string (value : String)
  | other (text : String)
  | throws
  deriving DecidableEq, Repr

/-- What reading and showing its `code` gives. -/
inductive JsCode
  | falsy
  | shown (text : String)
  | throws
  deriving DecidableEq, Repr

/-- A rejected value that is no `Error` of the classes above. -/
inductive ThrownValue
  | nonObject
  | object (kind retry session outcome : JsField) (code : JsCode)
  deriving DecidableEq, Repr

inductive JsError
  | remote (error : RemoteError)
  | remoteMutationSource (failure : RemoteMutationSourceFailure)
  | jmap (error : JmapError)
  | typeError (message : String)
  | error (message : String)
  | thrown (value : ThrownValue)
  deriving DecidableEq, Repr

/-- A call of an adapter: whether the remote effect was performed, and how the call's promise ends. -/
structure Attempt (α : Type) where
  performed : Bool
  outcome : Except JsError α

/-- The call ends before anything is sent. -/
def Attempt.ended {α : Type} (outcome : Except JsError α) : Attempt α := ⟨false, outcome⟩

/-! ## Requests -/

open Domain

inductive SubmissionBody
  | plain (text : String) (html : Option String)
  | boxplotE2ee (payload : String)
  deriving DecidableEq, Repr

structure RemoteSubmissionDraft where
  remoteIdentityId : Option String
  «from» : EmailAddress
  «to» : List EmailAddress
  cc : List EmailAddress
  bcc : List EmailAddress
  replyTo : List EmailAddress
  subject : String
  body : SubmissionBody
  deriving DecidableEq, Repr

structure SubmissionMessage extends RemoteSubmissionDraft where
  remoteAccountId : String
  deriving DecidableEq, Repr

structure SubmissionResult where
  remoteEmailId : Option String
  receiptId : Option String
  deriving DecidableEq, Repr

structure RemoteKeywordChange where
  add : List String
  remove : List String
  deriving DecidableEq, Repr

structure RemoteMembershipChange where
  add : List String
  remove : List String
  deriving DecidableEq, Repr

inductive RemoteMutationEvidence
  | applied (emailId : String)
  | inconclusive
  deriving DecidableEq, Repr

end Boxplot.Remote
