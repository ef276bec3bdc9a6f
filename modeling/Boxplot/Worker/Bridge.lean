import Boxplot.Lib.Calls
import Boxplot.Worker.Posted
/-!
# The worker and its client

`JmapWorkerClient` of `src/app/worker-client.ts` and `createIpcInvokeBridge` of
`src/workers/ipc-bridge.ts`, each at one end of two queues of messages with the
worker's runtime between them. The client asks the worker and waits for
responses; the worker asks the client for commands of the local engine and waits
for their results.
-/

namespace Boxplot.Worker

open Domain Lib Remote Outbox

/-! ## Messages -/

inductive InvokeErrorKind
  | unavailable | unexpected
  deriving DecidableEq, Repr

/-- What the client answers to `IPC_INVOKE`. The values pass through as they are. -/
abbrev InvokePayload (J : Type) := Except (InvokeErrorKind × String) J

/-- What the client posts. -/
inductive ToWorker (J : Type)
  | request (m : MainToWorkerMessage)
  | ipcInvokeResult (requestId : String) (payload : InvokePayload J)

/-- What the worker posts. -/
inductive ToMain (J : Type)
  | message (m : WorkerToMainMessage)
  | ipcInvoke (requestId command : String) (request : J)

def ipcReadCommands : List String :=
  ["local_read_account", "local_list_accounts", "local_read_mailbox", "local_list_mailboxes", "local_read_identity",
    "local_list_identities", "local_read_email", "local_read_emails", "local_read_email_memberships", "local_read_email_body",
    "local_read_attachment_refs", "local_read_mailbox_view", "local_read_collection_sync_cursor", "local_read_pending_mutation",
    "local_list_pending_mutations"]

def ipcWriteCommands : List String :=
  ["local_register_account", "local_apply_collection_sync", "local_cache_email_body", "local_replace_attachment_refs",
    "local_replace_mailbox_view", "local_stage_send_mutation", "local_apply_optimistic_keyword_mutation",
    "local_apply_optimistic_mailbox_membership_mutation", "local_replace_pending_mutation_if_current",
    "local_remove_confirmed_mutation"]

/-- The same set at both ends. -/
def allowedIpcCommands : List String := ipcReadCommands ++ ipcWriteCommands

/-! ## The client's methods -/

inductive Method
  | initSession (sessionUrl token : String) (expiresInSeconds : Option Rat)
  | teardownSession
  | syncAccount (accountKey : AccountKey) (jmapAccountId : String)
  | sendEmail (accountKey : AccountKey) (jmapAccountId : String) (mutationId : MutationId)

def Method.message (requestId : String) : Method → MainToWorkerMessage
  | .initSession sessionUrl token expiresInSeconds => .initSession requestId sessionUrl token expiresInSeconds
  | .teardownSession => .teardownSession requestId
  | .syncAccount accountKey jmapAccountId => .syncAccount requestId accountKey jmapAccountId
  | .sendEmail accountKey jmapAccountId mutationId => .sendEmail requestId accountKey jmapAccountId mutationId

@[simp] theorem Method.requestId_message (requestId : String) (method : Method) : (method.message requestId).requestId = requestId := by
  cases method <;> rfl

def typeName : MainToWorkerMessage → String
  | .initSession _ _ _ _ => "INIT_SESSION"
  | .teardownSession _ => "TEARDOWN_SESSION"
  | .syncAccount _ _ _ => "SYNC_ACCOUNT"
  | .sendEmail _ _ _ _ => "SEND_EMAIL"

/-- The payload of a response that its promise resolves with. -/
inductive Payload
  | session (primaryAccounts : List (String × String))
  | teardown (canary : String)
  | sync (accountKey : AccountKey)
  | send (mutationId : MutationId) (outcome : String)
  deriving DecidableEq

inductive Settlement
  | resolved (payload : Payload)
  | rejected (error : String)
  deriving DecidableEq

/-- What a response settles its request with. -/
def response : WorkerToMainMessage → Option (String × Settlement)
  | .sessionReady requestId primaryAccounts => some (requestId, .resolved (.session primaryAccounts))
  | .sessionError requestId error => some (requestId, .rejected error)
  | .teardownComplete requestId canary => some (requestId, .resolved (.teardown canary))
  | .syncSuccess requestId accountKey => some (requestId, .resolved (.sync accountKey))
  | .syncError requestId _ error => some (requestId, .rejected error)
  | .sendSuccess requestId mutationId outcome => some (requestId, .resolved (.send mutationId outcome))
  | .sendError requestId _ error => some (requestId, .rejected error)
  | .sessionTeardown _ => none
  | .connectionStatus _ => none

/-! ## The state -/

def mainRequestId (n : Nat) : String := "m:" ++ toString n

def workerRequestId (n : Nat) : String := "w:" ++ toString n

/-- `history` is what the worker has done so far. `running` are the commands that Tauri has not answered, `invoked` all that
it was asked, and `results` its answers. -/
structure Bridge (J : Type) where
  client : Calls String MainToWorkerMessage Settlement
  history : History
  bridge : Calls String (String × J) (Except String J)
  toWorker : List (ToWorker J)
  toMain : List (ToMain J)
  running : List (String × String × J)
  invoked : List String
  results : List ((String × String × J) × Except String J)
  terminated : Bool

namespace Bridge

variable {J : Type}

def initial : Bridge J := ⟨.empty, [], .empty, [], [], [], [], [], false⟩

def worker (s : Bridge J) : WorkerRuntime := last Worker.initial s.history

/-! ## Main -/

def request (method : Method) (s : Bridge J) : Bridge J :=
  let message := method.message (mainRequestId (s.client.counter + 1))
  { s with client := s.client.ask mainRequestId message, toWorker := s.toWorker ++ [.request message] }

/-- The timer of a request that is pending. -/
def timeout (requestId : String) (s : Bridge J) : Option (Bridge J) :=
  (s.client.pending.get? requestId).map fun message =>
    { s with client := s.client.settle requestId (.rejected ("JmapWorkerClient: \"" ++ typeName message ++ "\" timed out")) }

def dispose (s : Bridge J) : Bridge J :=
  { s with client := s.client.settleAll (.rejected "JmapWorkerClient disposed"), terminated := true }

def replyIpcInvoke (requestId : String) (payload : InvokePayload J) (s : Bridge J) : Bridge J :=
  { s with toWorker := s.toWorker ++ [.ipcInvokeResult requestId payload] }

def handleIpcInvoke (requestId command : String) (request : J) (s : Bridge J) : Bridge J :=
  if command ∉ allowedIpcCommands then
    s.replyIpcInvoke requestId (.error (.unexpected, "command \"" ++ command ++ "\" is not in the Local Engine allowlist"))
  else { s with running := s.running ++ [(requestId, command, request)], invoked := s.invoked ++ [command] }

/-- The listeners of the other messages settle nothing. -/
def handleMessage (s : Bridge J) : ToMain J → Bridge J
  | .ipcInvoke requestId command request => s.handleIpcInvoke requestId command request
  | .message m =>
    match response m with
    | some (requestId, settlement) => { s with client := s.client.settle requestId settlement }
    | none => s

/-- A command that was invoked comes back. -/
def invokeSettles [DecidableEq J] (call : String × String × J) (result : Except String J) (s : Bridge J) : Option (Bridge J) :=
  if call ∈ s.running then
    some ({ s with running := s.running.erase call, results := s.results ++ [(call, result)] }.replyIpcInvoke call.1
      (result.mapError ((.unavailable, ·))))
  else none

/-! ## The worker -/

/-- The promise of a command that is not allowed is rejected at once. -/
def invoke (command : String) (request : J) (s : Bridge J) : Bridge J :=
  if command ∉ allowedIpcCommands then s
  else
    { s with
      bridge := s.bridge.ask workerRequestId (command, request)
      toMain := s.toMain ++ [.ipcInvoke (workerRequestId (s.bridge.counter + 1)) command request] }

def resolveInvoke (requestId : String) (payload : InvokePayload J) (s : Bridge J) : Bridge J :=
  { s with bridge := s.bridge.settle requestId (payload.mapError (·.2)) }

def posts (acts : List Act) : List (ToMain J) :=
  acts.filterMap fun
    | .posted message => some (.message message)
    | _ => none

section
variable (createJmapClient : Nat → String → String → JmapClient)

def workerTurn (input : WorkerRuntime.Input) (s : Bridge J) : Option (Bridge J) :=
  (WorkerRuntime.turn createJmapClient s.worker input).map fun worker =>
    { s with history := s.history ++ [⟨s.worker, input, worker⟩], toMain := s.toMain ++ posts worker.acts }

def deliver (s : Bridge J) : ToWorker J → Option (Bridge J)
  | .request m => s.workerTurn createJmapClient (.message m)
  | .ipcInvokeResult requestId payload => some (s.resolveInvoke requestId payload)

/-! ## Events -/

inductive Event (J : Type)
  | call (method : Method)
  | timeout (requestId : String)
  | dispose
  | mainReceives
  | invokeSettles (call : String × String × J) (result : Except String J)
  | workerReceives
  | expiry
  | completion (operation : Operation) (result : Except JsError operation.Value)
  | invoke (command : String) (request : J)

/-- After `terminate()` the worker does nothing any more; what it has posted may still arrive. -/
def step [DecidableEq J] (s : Bridge J) : Event J → Option (Bridge J)
  | .call method => some (s.request method)
  | .timeout requestId => s.timeout requestId
  | .dispose => some s.dispose
  | .mainReceives =>
    match s.toMain with
    | [] => none
    | message :: rest => some ({ s with toMain := rest }.handleMessage message)
  | .invokeSettles call result => s.invokeSettles call result
  | .workerReceives =>
    match s.toWorker with
    | [] => none
    | message :: rest => if s.terminated then none else { s with toWorker := rest }.deliver createJmapClient message
  | .expiry => if s.terminated then none else s.workerTurn createJmapClient .expiry
  | .completion operation result => if s.terminated then none else s.workerTurn createJmapClient (.completion operation result)
  | .invoke command request => if s.terminated then none else some (s.invoke command request)

end

end Bridge

/-! ## What the worker's responses are to -/

/-- The worker's message is an answer to the request, and the request comes out as the message says. -/
inductive Answer : MainToWorkerMessage → WorkerToMainMessage → Settlement → Prop
  | ready {requestId sessionUrl token : String} {expiresInSeconds : Option Rat} (primaryAccounts : List (String × String)) :
      Answer (.initSession requestId sessionUrl token expiresInSeconds) (.sessionReady requestId primaryAccounts)
        (.resolved (.session primaryAccounts))
  | notReady {requestId sessionUrl token : String} {expiresInSeconds : Option Rat} (error : String) :
      Answer (.initSession requestId sessionUrl token expiresInSeconds) (.sessionError requestId error) (.rejected error)
  | tornDown {requestId : String} : Answer (.teardownSession requestId) (.teardownComplete requestId "TOKEN_CLEARED_OK")
      (.resolved (.teardown "TOKEN_CLEARED_OK"))
  | synced {requestId : String} {accountKey : AccountKey} {jmapAccountId : String} :
      Answer (.syncAccount requestId accountKey jmapAccountId) (.syncSuccess requestId accountKey) (.resolved (.sync accountKey))
  | notSynced {requestId : String} {accountKey : AccountKey} {jmapAccountId : String} (error : String) :
      Answer (.syncAccount requestId accountKey jmapAccountId) (.syncError requestId accountKey error) (.rejected error)
  | sent {requestId : String} {accountKey : AccountKey} {jmapAccountId : String} {mutationId : MutationId}
      (outcome : SendMutationOutcome) : Answer (.sendEmail requestId accountKey jmapAccountId mutationId)
        (.sendSuccess requestId mutationId (WorkerRuntime.outcomeKind outcome))
        (.resolved (.send mutationId (WorkerRuntime.outcomeKind outcome)))
  | notSent {requestId : String} {accountKey : AccountKey} {jmapAccountId : String} {mutationId : MutationId} (error : String) :
      Answer (.sendEmail requestId accountKey jmapAccountId mutationId) (.sendError requestId mutationId error) (.rejected error)

/-- The operation was begun for the request. -/
def Operation.BegunFor : Operation → MainToWorkerMessage → Prop
  | .opening _ _ _, .initSession _ _ _ _ => True
  | .sync _ accountKey _ _, .syncAccount _ accountKey' _ => accountKey = accountKey'
  | .send _ mutationId _ _, .sendEmail _ _ _ mutationId' => mutationId = mutationId'
  | _, _ => False

section
open WorkerRuntime

variable {createJmapClient : Nat → String → String → JmapClient} {w w' : WorkerRuntime} {i : WorkerRuntime.Input} {r : String}

theorem response_answers (message : WorkerToMainMessage) : (response message).map (·.1) = message.answers := by
  cases message <;> rfl

theorem mem_posts {J : Type} {message : WorkerToMainMessage} {acts : List Act} :
    (.message message : ToMain J) ∈ Bridge.posts acts ↔ .posted message ∈ acts := by
  unfold Bridge.posts
  rw [List.mem_filterMap]
  constructor
  · rintro ⟨act, hact, heq⟩
    cases act <;> cases heq
    exact hact
  · intro hmem
    exact ⟨_, hmem, rfl⟩

theorem begun_message {m : MainToWorkerMessage} {operation : Operation}
    (h : operation ∈ (w.handleMessage createJmapClient m).outstanding) :
    operation ∈ w.outstanding ∨ operation.requestId = m.requestId ∧ operation.BegunFor m := by
  cases m with
  | initSession requestId sessionUrl token expiresInSeconds =>
    change operation ∈ (w.initSession createJmapClient requestId sessionUrl token expiresInSeconds).outstanding at h
    unfold initSession at h
    dsimp only at h
    split at h
    · exact .inl h
    · rcases List.mem_append.1 h with h | h
      · exact .inl h
      · obtain rfl := List.mem_singleton.1 h
        exact .inr ⟨rfl, trivial⟩
  | teardownSession requestId =>
    refine .inl ?_
    have hsame := (invalidate_reset { w with explicitTeardownInFlight := true, invalidationStatus := .anonymous }).2.1
    change operation ∈ WorkerRuntime.outstanding (invalidate _) at h
    rw [hsame] at h
    exact h
  | syncAccount requestId accountKey jmapAccountId =>
    change operation ∈ (w.syncAccount requestId accountKey jmapAccountId).outstanding at h
    unfold syncAccount at h
    split at h
    · exact .inl h
    · split at h
      · exact .inl h
      · rcases List.mem_append.1 h with h | h
        · exact .inl h
        · obtain rfl := List.mem_singleton.1 h
          exact .inr ⟨rfl, rfl⟩
  | sendEmail requestId accountKey jmapAccountId mutationId =>
    change operation ∈ (w.sendEmail requestId jmapAccountId mutationId).outstanding at h
    unfold sendEmail at h
    split at h
    · exact .inl h
    · split at h
      · exact .inl h
      · rcases List.mem_append.1 h with h | h
        · exact .inl h
        · obtain rfl := List.mem_singleton.1 h
          exact .inr ⟨rfl, rfl⟩

/-- What a turn leaves outstanding was so before, or was begun for the message it took. -/
theorem begun_of_turn (h : turn createJmapClient w i = some w') {operation : Operation} (hmem : operation ∈ w'.outstanding) :
    operation ∈ w.outstanding ∨ ∃ m, i = .message m ∧ operation.requestId = m.requestId ∧ operation.BegunFor m := by
  cases i with
  | message m =>
    obtain rfl := Option.some.inj h
    exact (begun_message hmem).imp_right fun h => ⟨m, rfl, h⟩
  | expiry =>
    cases effect_of_turn h with
    | expired _ houtstanding _ => exact .inl (houtstanding ▸ hmem)
  | completion completed result =>
    refine .inl ?_
    cases effect_of_turn h with
    | installs _ _ _ houtstanding _ => exact mem_of_erase houtstanding hmem
    | dropped _ _ _ houtstanding _ => exact mem_of_erase houtstanding hmem
    | failed _ _ _ houtstanding _ => exact mem_of_erase houtstanding hmem
    | ended _ _ _ _ houtstanding _ => exact mem_of_erase houtstanding hmem
    | expires _ _ _ houtstanding _ => exact mem_of_erase houtstanding hmem

variable {m : MainToWorkerMessage} {message : WorkerToMainMessage} {settlement : Settlement} {operation : Operation}

/-- What is posted at once answers the message of the turn. -/
theorem answer_message (hacts : w.acts = []) (hmem : .posted message ∈ (w.handleMessage createJmapClient m).acts)
    (hr : response message = some (r, settlement)) : m.requestId = r ∧ Answer m message settlement := by
  have hanswers : message.answers = some r := by
    rw [← response_answers, hr]
    rfl
  rcases posted_message hacts hmem hanswers with
    ⟨rfl, rfl⟩ | ⟨_, _, _, error, rfl, rfl⟩ | ⟨_, _, error, rfl, rfl⟩ | ⟨_, _, _, error, rfl, rfl⟩
  · cases hr
    exact ⟨rfl, .tornDown⟩
  · cases hr
    exact ⟨rfl, .notReady error⟩
  · cases hr
    exact ⟨rfl, .notSynced error⟩
  · cases hr
    exact ⟨rfl, .notSent error⟩

/-- An answer to an opening, a synchronisation or a sending is one to the message that it was begun for. -/
theorem answer_complete {result : Except JsError operation.Value} (hacts : w.acts = [])
    (hmem : .posted message ∈ (w.complete operation result).acts) (hr : response message = some (r, settlement)) :
    operation.requestId = r ∧ ∀ m, m.requestId = r → operation.BegunFor m → Answer m message settlement := by
  have hanswers : message.answers = some r := by
    rw [← response_answers, hr]
    rfl
  rcases posted_complete hacts hmem hanswers with
    ⟨_, _, _, primaryAccounts, rfl, rfl, -⟩ | ⟨_, _, error, rfl, rfl⟩ | ⟨_, _, _, rfl, rfl⟩ | ⟨_, _, _, error, rfl, rfl⟩ |
      ⟨_, _, _, outcome, rfl, rfl⟩ | ⟨_, _, _, error, rfl, rfl⟩
  all_goals
    cases hr
    refine ⟨rfl, fun m hid hbegun => ?_⟩
    -- it was begun for a message of its own kind
    cases m <;> cases hbegun
    cases hid
  · exact .ready primaryAccounts
  · exact .notReady error
  · exact .synced
  · exact .notSynced error
  · exact .sent outcome
  · exact .notSent error

/-- An answer comes to the message of the turn, or to that of the operation which it completes. -/
theorem answer_of_turn (h : turn createJmapClient w i = some w') (hmem : .posted message ∈ w'.acts)
    (hr : response message = some (r, settlement)) :
    (∃ m, i = .message m ∧ m.requestId = r ∧ Answer m message settlement) ∨
      ∃ operation ∈ w.outstanding, operation.requestId = r ∧
        ∀ m, m.requestId = r → operation.BegunFor m → Answer m message settlement := by
  cases i with
  | message m =>
    obtain rfl := Option.some.inj h
    exact .inl ⟨m, rfl, answer_message rfl hmem hr⟩
  | expiry =>
    have hnone := posted_expiry h hmem
    rw [← response_answers, hr] at hnone
    cases hnone
  | completion operation result =>
    simp only [turn, Option.ite_none_right_eq_some, Option.some.injEq] at h
    obtain ⟨hoperation, rfl⟩ := h
    exact .inr ⟨operation, hoperation, answer_complete rfl hmem hr⟩

end

end Boxplot.Worker
