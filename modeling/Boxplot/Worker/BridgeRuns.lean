import Boxplot.Remote.ImapIds
import Boxplot.Worker.Bridge
import Boxplot.Worker.Protocol
/-!
# Runs of the worker and its client

The two directions are independent but for the queues that they share. Requests
move from the client's queue into the worker's history and come back as
responses; commands move from the worker's queue to Tauri and come back as
results. `Requests` and `Commands` say where each of them can be, and every
event keeps both.
-/

namespace Boxplot.Worker

open Domain Lib Remote Outbox WorkerRuntime

/-! ## What a queue holds -/

section
variable {J : Type}

def requestsOf (queue : List (ToWorker J)) : List MainToWorkerMessage :=
  queue.filterMap fun
    | .request m => some m
    | _ => none

def resultsOf (queue : List (ToWorker J)) : List (String × InvokePayload J) :=
  queue.filterMap fun
    | .ipcInvokeResult requestId payload => some (requestId, payload)
    | _ => none

def responsesOf (queue : List (ToMain J)) : List WorkerToMainMessage :=
  queue.filterMap fun
    | .message m => some m
    | _ => none

def commandsOf (queue : List (ToMain J)) : List (String × String × J) :=
  queue.filterMap fun
    | .ipcInvoke requestId command request => some (requestId, command, request)
    | _ => none

@[simp] theorem requestsOf_append (a b : List (ToWorker J)) : requestsOf (a ++ b) = requestsOf a ++ requestsOf b := List.filterMap_append
@[simp] theorem resultsOf_append (a b : List (ToWorker J)) : resultsOf (a ++ b) = resultsOf a ++ resultsOf b := List.filterMap_append
@[simp] theorem responsesOf_append (a b : List (ToMain J)) : responsesOf (a ++ b) = responsesOf a ++ responsesOf b := List.filterMap_append
@[simp] theorem commandsOf_append (a b : List (ToMain J)) : commandsOf (a ++ b) = commandsOf a ++ commandsOf b := List.filterMap_append

/-- What is of one kind is in the queue under that kind's constructor. -/
theorem mem_kind {α β : Type} {kind : α → Option β} (make : β → α) (hkind : ∀ x b, kind x = some b ↔ x = make b)
    {queue : List α} {b : β} :
    b ∈ queue.filterMap kind ↔ make b ∈ queue := by
  rw [List.mem_filterMap]
  constructor
  · rintro ⟨x, hx, heq⟩
    rw [← (hkind x b).1 heq]
    exact hx
  · intro hmem
    exact ⟨_, hmem, (hkind _ _).2 rfl⟩

theorem mem_requestsOf {queue : List (ToWorker J)} {m : MainToWorkerMessage} : m ∈ requestsOf queue ↔ .request m ∈ queue := by
  unfold requestsOf
  refine mem_kind ToWorker.request fun x b => ?_
  cases x <;> simp

theorem mem_resultsOf {queue : List (ToWorker J)} {result : String × InvokePayload J} :
    result ∈ resultsOf queue ↔ .ipcInvokeResult result.1 result.2 ∈ queue := by
  unfold resultsOf
  refine mem_kind (fun result : String × InvokePayload J => ToWorker.ipcInvokeResult result.1 result.2) fun x b => ?_
  cases x <;> cases b <;> simp

theorem mem_responsesOf {queue : List (ToMain J)} {m : WorkerToMainMessage} : m ∈ responsesOf queue ↔ .message m ∈ queue := by
  unfold responsesOf
  refine mem_kind ToMain.message fun x b => ?_
  cases x <;> simp

theorem mem_commandsOf {queue : List (ToMain J)} {call : String × String × J} :
    call ∈ commandsOf queue ↔ .ipcInvoke call.1 call.2.1 call.2.2 ∈ queue := by
  unfold commandsOf
  refine mem_kind (fun call : String × String × J => ToMain.ipcInvoke call.1 call.2.1 call.2.2) fun x b => ?_
  obtain ⟨requestId, command, request⟩ := b
  cases x <;> simp

/-- The worker itself posts no commands. -/
theorem commandsOf_posts (acts : List Act) : commandsOf (Bridge.posts acts : List (ToMain J)) = [] := by
  unfold commandsOf Bridge.posts
  rw [List.filterMap_filterMap, List.filterMap_eq_nil_iff]
  intro act _
  cases act <;> rfl

end

/-! ## Ids -/

theorem text_injective (tag : String) : Function.Injective fun n : Nat => tag ++ toString n := by
  intro m n h
  have htext := (String.append_right_inj tag).1 h
  exact Remote.toString_injective (congrArg String.toList htext)

theorem mainRequestId_injective : Function.Injective mainRequestId := text_injective "m:"

theorem workerRequestId_injective : Function.Injective workerRequestId := text_injective "w:"

/-- The ids that have been drawn, in their order. -/
def drawn (name : Nat → String) (counter : Nat) : List String := (List.range counter).map fun n => name (n + 1)

theorem drawn_succ (name : Nat → String) (counter : Nat) : drawn name (counter + 1) = drawn name counter ++ [name (counter + 1)] := by
  unfold drawn
  rw [List.range_succ, List.map_append, List.map_singleton]

theorem drawn_nodup {name : Nat → String} (hinj : Function.Injective name) (counter : Nat) : (drawn name counter).Nodup :=
  List.nodup_range.map fun _ _ h => Nat.succ_injective (hinj h)

theorem mem_drawn {name : Nat → String} {counter : Nat} {id : String} :
    id ∈ drawn name counter ↔ ∃ n, 1 ≤ n ∧ n ≤ counter ∧ id = name n := by
  unfold drawn
  rw [List.mem_map]
  constructor
  · rintro ⟨n, hn, rfl⟩
    exact ⟨n + 1, Nat.le_add_left _ _, List.mem_range.1 hn, rfl⟩
  · rintro ⟨n, h1, hle, rfl⟩
    exact ⟨n - 1, List.mem_range.2 (by omega), by rw [Nat.sub_add_cancel h1]⟩

/-! ## Requests -/

def broughtMessage : Input → Option MainToWorkerMessage
  | .message m => some m
  | .expiry => none
  | .completion _ _ => none

/-- The requests that the worker has taken. -/
def taken (h : History) : List MainToWorkerMessage := h.filterMap fun t => broughtMessage t.input

variable {createJmapClient : Nat → String → String → JmapClient} {h : History} {i : Input} {w' : WorkerRuntime} {r : String}

theorem brought_eq (i : Input) : brought i = (broughtMessage i).map (·.requestId) := by
  cases i <;> rfl

theorem received_eq (h : History) : received h = (taken h).map (·.requestId) := by
  unfold received taken
  rw [List.map_filterMap]
  exact List.filterMap_congr fun t _ => brought_eq t.input

theorem taken_snoc {s : WorkerRuntime} : taken (h ++ [⟨s, i, w'⟩]) = taken h ++ (broughtMessage i).toList := by
  unfold taken
  rw [List.filterMap_append]
  cases hi : broughtMessage i <;> simp [hi]

def timedOut (m : MainToWorkerMessage) : String := "JmapWorkerClient: \"" ++ typeName m ++ "\" timed out"

def disposed : String := "JmapWorkerClient disposed"

/-- The worker has posted the message in some turn. -/
def Posted (h : History) (message : WorkerToMainMessage) : Prop := ∃ t ∈ h, .posted message ∈ t.after.acts

theorem Posted.mono {t : Turn WorkerRuntime Input} {message : WorkerToMainMessage} (hposted : Posted h message) : Posted (h ++ [t]) message := by
  obtain ⟨t', hmem, hact⟩ := hposted
  exact ⟨t', List.mem_append_left _ hmem, hact⟩

/-- The worker has posted an answer to the request, which settles it so. -/
def Answered (h : History) (m : MainToWorkerMessage) (settlement : Settlement) : Prop :=
  ∃ message, Posted h message ∧ Answer m message settlement

theorem Answered.mono {t : Turn WorkerRuntime Input} {m : MainToWorkerMessage} {settlement : Settlement} (hanswered : Answered h m settlement) :
    Answered (h ++ [t]) m settlement := by
  obtain ⟨message, hposted, hanswer⟩ := hanswered
  exact ⟨message, hposted.mono, hanswer⟩

/-- Why a request settles as it does: an answer to it, its timer, or the end of the client. -/
def Explained (h : History) (m : MainToWorkerMessage) (settlement : Settlement) : Prop :=
  Answered h m settlement ∨ settlement = .rejected (timedOut m) ∨ settlement = .rejected disposed

/-- An answer is a message that was posted. -/
theorem posted_of_answers {acts : List Act} (hmem : r ∈ answersOf acts) : ∃ message, .posted message ∈ acts ∧ message.answers = some r := by
  obtain ⟨act, hact, hanswers⟩ := List.mem_filterMap.1 hmem
  cases act with
  | posted message => exact ⟨message, hact, hanswers⟩
  | started requestId session => cases hanswers
  | closed session => cases hanswers
  | threw requestId => cases hanswers

/-- Where the requests of the client are: in its queue, taken by the worker, answered in a response, settled. -/
structure Requests (createJmapClient : Nat → String → String → JmapClient) (client : Calls String MainToWorkerMessage Settlement)
    (h : History) (requests : List MainToWorkerMessage) (responses : List WorkerToMainMessage) : Prop where
  exact : client.Exact mainRequestId
  runs : Runs createJmapClient h
  order : (taken h ++ requests).map (·.requestId) = drawn mainRequestId client.counter
  asked : ∀ m ∈ taken h ++ requests, client.Asked m.requestId m
  begun : ∀ operation ∈ (last initial h).outstanding, ∃ m, client.Asked operation.requestId m ∧ operation.BegunFor m
  fits : ∀ message ∈ responses, ∀ r settlement, response message = some (r, settlement) →
    ∃ m, client.Asked r m ∧ Answered h m settlement
  arrives : ∀ r ∈ answered h, r ∈ client.settled.map (·.1) ∨ ∃ message ∈ responses, message.answers = some r
  explained : ∀ r m settlement, (r, m, settlement) ∈ client.settled → Explained h m settlement

namespace Requests

variable {client : Calls String MainToWorkerMessage Settlement} {requests : List MainToWorkerMessage} {responses : List WorkerToMainMessage}

theorem empty : Requests createJmapClient .empty [] [] [] where
  exact := .empty _
  runs := .nil
  order := rfl
  asked := by simp [taken]
  begun := by simp [initial]
  fits := by simp
  arrives := by simp [answered]
  explained := by simp [Calls.empty]

theorem mem_drawn_of_asked (hr : Requests createJmapClient client h requests responses) {m : MainToWorkerMessage} (hasked : client.Asked r m) :
    ∃ m' ∈ taken h ++ requests, m'.requestId = r ∧ m' = m := by
  have hdrawn : r ∈ drawn mainRequestId client.counter := mem_drawn.2 (hr.exact.drawn r m hasked)
  rw [← hr.order] at hdrawn
  obtain ⟨m', hm', rfl⟩ := List.mem_map.1 hdrawn
  exact ⟨m', hm', rfl, hr.exact.unique (hr.asked m' hm') hasked⟩

/-- A call's message has the call's id. -/
theorem requestId_of_asked (hr : Requests createJmapClient client h requests responses) {m : MainToWorkerMessage}
    (hasked : client.Asked r m) : m.requestId = r := by
  obtain ⟨m', -, hid, rfl⟩ := hr.mem_drawn_of_asked hasked
  exact hid

theorem ask (hr : Requests createJmapClient client h requests responses) {m : MainToWorkerMessage}
    (hid : m.requestId = mainRequestId (client.counter + 1)) :
    Requests createJmapClient (client.ask mainRequestId m) h (requests ++ [m]) responses := by
  have hkept : ∀ r m', client.Asked r m' → (client.ask mainRequestId m).Asked r m' := fun r m' hasked =>
    (Calls.asked_ask hr.exact mainRequestId_injective).2 (.inl hasked)
  constructor
  · exact hr.exact.ask mainRequestId_injective m
  · exact hr.runs
  · change _ = drawn mainRequestId (client.counter + 1)
    rw [← List.append_assoc, List.map_append, hr.order, List.map_singleton, hid, drawn_succ]
  · intro m' hmem
    rw [← List.append_assoc] at hmem
    rcases List.mem_append.1 hmem with hmem | hmem
    · exact hkept _ _ (hr.asked m' hmem)
    · obtain rfl := List.mem_singleton.1 hmem
      exact (Calls.asked_ask hr.exact mainRequestId_injective).2 (.inr ⟨hid, rfl⟩)
  · intro operation hmem
    obtain ⟨m', hasked, hbegun⟩ := hr.begun operation hmem
    exact ⟨m', hkept _ _ hasked, hbegun⟩
  · intro message hmem r settlement hresponse
    obtain ⟨m', hasked, hanswered⟩ := hr.fits message hmem r settlement hresponse
    exact ⟨m', hkept _ _ hasked, hanswered⟩
  · exact hr.arrives
  · exact hr.explained

/-- More has settled, each with a reason. -/
theorem settles (hr : Requests createJmapClient client h requests responses) {client' : Calls String MainToWorkerMessage Settlement}
    (hexact : client'.Exact mainRequestId) (hcounter : client'.counter = client.counter)
    (hasked : ∀ r m, client'.Asked r m ↔ client.Asked r m) (hold : ∀ x ∈ client.settled, x ∈ client'.settled)
    (hnew : ∀ x ∈ client'.settled, x ∈ client.settled ∨ Explained h x.2.1 x.2.2) :
    Requests createJmapClient client' h requests responses := by
  constructor
  · exact hexact
  · exact hr.runs
  · rw [hcounter]
    exact hr.order
  · intro m hmem
    exact (hasked _ _).2 (hr.asked m hmem)
  · intro operation hmem
    obtain ⟨m, hm, hbegun⟩ := hr.begun operation hmem
    exact ⟨m, (hasked _ _).2 hm, hbegun⟩
  · intro message hmem r settlement hresponse
    obtain ⟨m, hm, hanswered⟩ := hr.fits message hmem r settlement hresponse
    exact ⟨m, (hasked _ _).2 hm, hanswered⟩
  · intro r hmem
    refine (hr.arrives r hmem).imp_left fun hsettled => ?_
    obtain ⟨x, hx, rfl⟩ := List.mem_map.1 hsettled
    exact List.mem_map.2 ⟨x, hold x hx, rfl⟩
  · intro r m settlement hmem
    rcases hnew _ hmem with hmem | hexplained
    · exact hr.explained r m settlement hmem
    · exact hexplained

theorem timeout (hr : Requests createJmapClient client h requests responses) {m : MainToWorkerMessage}
    (hpending : client.pending.get? r = some m) :
    Requests createJmapClient (client.settle r (.rejected (timedOut m))) h requests responses := by
  refine hr.settles (hr.exact.settle r _) Calls.counter_settle (fun _ _ => Calls.asked_settle) ?_ ?_
  · intro x hx
    exact Calls.mem_settle.2 (.inl hx)
  · intro x hx
    refine (Calls.mem_settle.1 hx).imp_right ?_
    rintro ⟨m', hm', rfl⟩
    obtain rfl := Option.some.inj (hpending.symm.trans hm')
    exact .inr (.inl rfl)

theorem dispose (hr : Requests createJmapClient client h requests responses) :
    Requests createJmapClient (client.settleAll (.rejected disposed)) h requests responses := by
  refine hr.settles (hr.exact.settleAll _) rfl (fun _ _ => Calls.asked_settleAll) ?_ ?_
  · intro x hx
    exact Calls.mem_settleAll.2 (.inl hx)
  · intro x hx
    refine (Calls.mem_settleAll.1 hx).imp_right ?_
    rintro ⟨-, heq⟩
    rw [heq]
    exact .inr (.inr rfl)

/-- A response that comes settles its request, if it still waits. -/
theorem response_settles (hr : Requests createJmapClient client h requests responses) {message : WorkerToMainMessage}
    (hmem : message ∈ responses) {settlement : Settlement} (hresponse : response message = some (r, settlement)) :
    Requests createJmapClient (client.settle r settlement) h requests responses := by
  refine hr.settles (hr.exact.settle r _) Calls.counter_settle (fun _ _ => Calls.asked_settle) ?_ ?_
  · intro x hx
    exact Calls.mem_settle.2 (.inl hx)
  · intro x hx
    refine (Calls.mem_settle.1 hx).imp_right ?_
    rintro ⟨m', hm', rfl⟩
    obtain ⟨m, hm, hanswered⟩ := hr.fits message hmem r settlement hresponse
    obtain rfl := hr.exact.unique hm (.inl hm')
    exact .inl hanswered

/-- A response is dropped when its request has settled. -/
theorem drop {message : WorkerToMainMessage} (hr : Requests createJmapClient client h requests (message :: responses))
    (hsettled : ∀ r, message.answers = some r → r ∈ client.settled.map (·.1)) :
    Requests createJmapClient client h requests responses where
  exact := hr.exact
  runs := hr.runs
  order := hr.order
  asked := hr.asked
  begun := hr.begun
  fits message' hmem := hr.fits message' (List.mem_cons_of_mem _ hmem)
  arrives r hmem := by
    rcases hr.arrives r hmem with hold | ⟨message', hmem', hanswers⟩
    · exact .inl hold
    · rcases List.mem_cons.1 hmem' with rfl | hmem'
      · exact .inl (hsettled r hanswers)
      · exact .inr ⟨message', hmem', hanswers⟩
  explained := hr.explained

/-- The next request has an id that the worker has not seen. -/
theorem fresh {rest : List MainToWorkerMessage} (hr : Requests createJmapClient client h ((broughtMessage i).toList ++ rest) responses) :
    Fresh h i := by
  intro r hbrought hreceived
  -- all ids are apart, those taken and those in the queue
  have hnodup := drawn_nodup mainRequestId_injective client.counter
  rw [← hr.order, List.map_append, List.nodup_append] at hnodup
  rw [brought_eq] at hbrought
  obtain ⟨m, hm, rfl⟩ := Option.map_eq_some_iff.1 hbrought
  rw [received_eq] at hreceived
  refine hnodup.2.2 _ hreceived _ ?_ rfl
  rw [hm]
  exact List.mem_map.2 ⟨m, List.mem_cons_self, rfl⟩

/-- What a turn posts is an answer to a request. -/
theorem fits_of_turn {rest : List MainToWorkerMessage}
    (hr : Requests createJmapClient client h ((broughtMessage i).toList ++ rest) responses)
    (hturn : WorkerRuntime.turn createJmapClient (last initial h) i = some w') {message : WorkerToMainMessage} (hacts : .posted message ∈ w'.acts)
    {settlement : Settlement} (hresponse : response message = some (r, settlement)) :
    ∃ m, client.Asked r m ∧ Answered (h ++ [⟨last initial h, i, w'⟩]) m settlement := by
  have hposted : Posted (h ++ [⟨last initial h, i, w'⟩]) message := ⟨_, List.mem_append_right _ (List.mem_singleton_self _), hacts⟩
  -- the message of the turn, or that of the operation which it completes
  rcases answer_of_turn hturn hacts hresponse with ⟨m, rfl, rfl, hanswer⟩ | ⟨operation, hoperation, rfl, hanswer⟩
  · exact ⟨m, hr.asked m (List.mem_append_right _ List.mem_cons_self), message, hposted, hanswer⟩
  · obtain ⟨m, hm, hbegun⟩ := hr.begun operation hoperation
    exact ⟨m, hm, message, hposted, hanswer m (hr.requestId_of_asked hm) hbegun⟩

theorem turn {rest : List MainToWorkerMessage} {posted : List WorkerToMainMessage}
    (hr : Requests createJmapClient client h ((broughtMessage i).toList ++ rest) responses)
    (hturn : WorkerRuntime.turn createJmapClient (last initial h) i = some w') (hposted : ∀ message, message ∈ posted ↔ .posted message ∈ w'.acts) :
    Requests createJmapClient client (h ++ [⟨last initial h, i, w'⟩]) rest (responses ++ posted) := by
  have hflow : taken (h ++ [⟨last initial h, i, w'⟩]) ++ rest = taken h ++ ((broughtMessage i).toList ++ rest) := by
    rw [taken_snoc, List.append_assoc]
  constructor
  · exact hr.exact
  · exact hr.runs.snoc hr.fresh hturn
  · rw [hflow]
    exact hr.order
  · intro m hmem
    rw [hflow] at hmem
    exact hr.asked m hmem
  · intro operation hmem
    rw [last_snoc] at hmem
    rcases begun_of_turn hturn hmem with hold | ⟨m, rfl, hid, hbegun⟩
    · exact hr.begun operation hold
    · rw [hid]
      exact ⟨m, hr.asked m (List.mem_append_right _ List.mem_cons_self), hbegun⟩
  · intro message hmem r settlement hresponse
    rcases List.mem_append.1 hmem with hmem | hmem
    · obtain ⟨m, hasked, hanswered⟩ := hr.fits message hmem r settlement hresponse
      exact ⟨m, hasked, hanswered.mono⟩
    · exact hr.fits_of_turn hturn ((hposted message).1 hmem) hresponse
  · intro r hmem
    rw [answered_snoc] at hmem
    rcases List.mem_append.1 hmem with hmem | hmem
    · refine (hr.arrives r hmem).imp_right ?_
      rintro ⟨message, hmessage, hanswers⟩
      exact ⟨message, List.mem_append_left _ hmessage, hanswers⟩
    · obtain ⟨message, hacts, hanswers⟩ := posted_of_answers hmem
      exact .inr ⟨message, List.mem_append_right _ ((hposted message).2 hacts), hanswers⟩
  · intro r m settlement hmem
    exact (hr.explained r m settlement hmem).imp_left Answered.mono

end Requests

/-! ## Commands -/

/-- What `replyIpcInvoke` makes of a result. -/
abbrev replied {J : Type} (result : Except String J) : InvokePayload J := result.mapError ((.unavailable, ·))

/-- Where the commands of the worker are: in its queue, run by Tauri, with a result in the client's queue, settled. -/
structure Commands {J : Type} (bridge : Calls String (String × J) (Except String J)) (commands running : List (String × String × J))
    (invoked : List String) (results : List ((String × String × J) × Except String J)) (replies : List (String × InvokePayload J)) :
    Prop where
  exact : bridge.Exact workerRequestId
  allowed : ∀ r call, bridge.Asked r call → call.1 ∈ allowedIpcCommands
  invoked : ∀ command ∈ invoked, command ∈ allowedIpcCommands
  places : ((commands ++ running ++ results.map (·.1)).map (·.1)).Perm (drawn workerRequestId bridge.counter)
  asked : ∀ call ∈ commands ++ running ++ results.map (·.1), bridge.Asked call.1 call.2
  relayed : ∀ r payload, (r, payload) ∈ replies → ∃ call result, ((r, call), result) ∈ results ∧ payload = replied result
  returned : ∀ call result, (call, result) ∈ results → call.1 ∈ bridge.settled.map (·.1) ∨ (call.1, replied result) ∈ replies
  settled : ∀ r call result, (r, call, result) ∈ bridge.settled → ((r, call), result) ∈ results

namespace Commands

variable {J : Type} {bridge : Calls String (String × J) (Except String J)} {commands running : List (String × String × J)}
  {invoked : List String} {results : List ((String × String × J) × Except String J)} {replies : List (String × InvokePayload J)}

theorem empty : Commands (J := J) .empty [] [] [] [] [] where
  exact := .empty _
  allowed := by
    rintro r call (hget | ⟨o, hmem⟩)
    · cases hget
    · cases hmem
  invoked := by simp
  places := .refl _
  asked := by simp
  relayed := by simp
  returned := by simp
  settled := by simp [Calls.empty]

theorem invoke (hc : Commands bridge commands running invoked results replies) {command : String} (hallowed : command ∈ allowedIpcCommands)
    (request : J) :
    Commands (bridge.ask workerRequestId (command, request)) (commands ++ [(workerRequestId (bridge.counter + 1), command, request)])
      running invoked results replies := by
  have hkept : ∀ r call, bridge.Asked r call → (bridge.ask workerRequestId (command, request)).Asked r call := fun r call hasked =>
    (Calls.asked_ask hc.exact workerRequestId_injective).2 (.inl hasked)
  have hperm : (commands ++ [(workerRequestId (bridge.counter + 1), command, request)] ++ running ++ results.map (·.1)).Perm
      ((workerRequestId (bridge.counter + 1), command, request) :: (commands ++ running ++ results.map (·.1))) := by
    simp only [List.append_assoc, List.singleton_append]
    exact List.perm_middle
  constructor
  · exact hc.exact.ask workerRequestId_injective _
  · intro r call hasked
    rcases (Calls.asked_ask hc.exact workerRequestId_injective).1 hasked with hasked | ⟨-, rfl⟩
    · exact hc.allowed r call hasked
    · exact hallowed
  · exact hc.invoked
  · change List.Perm _ (drawn workerRequestId (bridge.counter + 1))
    rw [drawn_succ]
    exact (hperm.map _).trans ((hc.places.cons _).trans (List.perm_append_singleton _ _).symm)
  · intro call hmem
    rcases List.mem_cons.1 (hperm.mem_iff.1 hmem) with rfl | hmem
    · exact (Calls.asked_ask hc.exact workerRequestId_injective).2 (.inr ⟨rfl, rfl⟩)
    · exact hkept _ _ (hc.asked call hmem)
  · exact hc.relayed
  · exact hc.returned
  · exact hc.settled

/-- The client takes a command and runs it. -/
theorem starts {call : String × String × J} (hc : Commands bridge (call :: commands) running invoked results replies) :
    Commands bridge commands (running ++ [call]) (invoked ++ [call.2.1]) results replies := by
  have hperm : (commands ++ (running ++ [call]) ++ results.map (·.1)).Perm (call :: commands ++ running ++ results.map (·.1)) := by
    simp only [List.append_assoc, List.cons_append]
    rw [← List.append_assoc commands running, ← List.append_assoc commands running]
    exact List.perm_middle
  constructor
  · exact hc.exact
  · exact hc.allowed
  · intro command hmem
    rcases List.mem_append.1 hmem with hmem | hmem
    · exact hc.invoked command hmem
    · obtain rfl := List.mem_singleton.1 hmem
      exact hc.allowed _ _ (hc.asked call (by simp))
  · exact (hperm.map _).trans hc.places
  · intro call' hmem
    exact hc.asked call' (hperm.mem_iff.1 hmem)
  · exact hc.relayed
  · exact hc.returned
  · exact hc.settled

theorem ends [DecidableEq J] (hc : Commands bridge commands running invoked results replies) {call : String × String × J} (hrunning : call ∈ running)
    (result : Except String J) :
    Commands bridge commands (running.erase call) invoked (results ++ [(call, result)]) (replies ++ [(call.1, replied result)]) := by
  have hperm : (commands ++ running.erase call ++ (results ++ [(call, result)]).map (·.1)).Perm (commands ++ running ++ results.map (·.1)) := by
    rw [List.map_append, List.map_singleton, ← List.append_assoc]
    refine (List.perm_append_singleton _ _).trans (.trans ?_ (((List.perm_cons_erase hrunning).append_left commands).append_right _).symm)
    simp only [List.append_assoc, List.cons_append]
    exact List.perm_middle.symm
  constructor
  · exact hc.exact
  · exact hc.allowed
  · exact hc.invoked
  · exact (hperm.map _).trans hc.places
  · intro call' hmem
    exact hc.asked call' (hperm.mem_iff.1 hmem)
  · intro r payload hmem
    rcases List.mem_append.1 hmem with hmem | hmem
    · obtain ⟨call', result', hresult, heq⟩ := hc.relayed r payload hmem
      exact ⟨call', result', List.mem_append_left _ hresult, heq⟩
    · cases List.mem_singleton.1 hmem
      exact ⟨call.2, result, List.mem_append_right _ (List.mem_singleton_self _), rfl⟩
  · intro call' result' hmem
    rcases List.mem_append.1 hmem with hmem | hmem
    · exact (hc.returned call' result' hmem).imp_right (List.mem_append_left _)
    · cases List.mem_singleton.1 hmem
      exact .inr (List.mem_append_right _ (List.mem_singleton_self _))
  · intro r call' result' hmem
    exact List.mem_append_left _ (hc.settled r call' result' hmem)

/-- A result that comes settles its command. -/
theorem resolves {r : String} {payload : InvokePayload J} (hc : Commands bridge commands running invoked results ((r, payload) :: replies)) :
    Commands (bridge.settle r (payload.mapError (·.2))) commands running invoked results replies := by
  -- what settles is the result as Tauri gave it
  obtain ⟨call, result, hresult, rfl⟩ := hc.relayed r payload List.mem_cons_self
  have hsame : (replied result).mapError (·.2) = result := by
    cases result <;> rfl
  have hasked : bridge.Asked r call := hc.asked (r, call) (List.mem_append_right _ (List.mem_map.2 ⟨_, hresult, rfl⟩))
  rw [hsame]
  constructor
  · exact hc.exact.settle r result
  · intro r' call' hasked'
    exact hc.allowed r' call' (Calls.asked_settle.1 hasked')
  · exact hc.invoked
  · rw [Calls.counter_settle]
    exact hc.places
  · intro call' hmem
    exact Calls.asked_settle.2 (hc.asked call' hmem)
  · intro r' payload' hmem
    exact hc.relayed r' payload' (List.mem_cons_of_mem _ hmem)
  · intro call' result' hmem
    rcases hc.returned call' result' hmem with hsettled | hreply
    · obtain ⟨x, hx, hid⟩ := List.mem_map.1 hsettled
      exact .inl (List.mem_map.2 ⟨x, Calls.mem_settle.2 (.inl hx), hid⟩)
    · rcases List.mem_cons.1 hreply with heq | hreply
      · left
        rw [(Prod.mk.inj heq).1]
        rcases hasked with hpending | ⟨o, ho⟩
        · exact List.mem_map.2 ⟨_, Calls.mem_settle.2 (.inr ⟨call, hpending, rfl⟩), rfl⟩
        · exact List.mem_map.2 ⟨_, Calls.mem_settle.2 (.inl ho), rfl⟩
      · exact .inr hreply
  · intro r' call' result' hmem
    rcases Calls.mem_settle.1 hmem with hmem | ⟨q, hq, heq⟩
    · exact hc.settled r' call' result' hmem
    · cases heq
      obtain rfl := hc.exact.unique hasked (.inl hq)
      exact hresult

end Commands

/-! ## Both together -/

section
variable {J : Type} [DecidableEq J] {s s' : Bridge J}

/-- Everything that was asked, in either direction, has its place. -/
structure Placed (createJmapClient : Nat → String → String → JmapClient) (s : Bridge J) : Prop where
  requests : Requests createJmapClient s.client s.history (requestsOf s.toWorker) (responsesOf s.toMain)
  commands : Commands s.bridge (commandsOf s.toMain) s.running s.invoked s.results (resultsOf s.toWorker)

namespace Placed

omit [DecidableEq J] in
theorem initial : Placed createJmapClient (Bridge.initial : Bridge J) := ⟨.empty, .empty⟩

omit [DecidableEq J] in
/-- The worker takes a turn on what its queue gave, if anything. -/
theorem workerTurn
    (hr : Requests createJmapClient s.client s.history ((broughtMessage i).toList ++ requestsOf s.toWorker) (responsesOf s.toMain))
    (hc : Commands s.bridge (commandsOf s.toMain) s.running s.invoked s.results (resultsOf s.toWorker))
    (hstep : s.workerTurn createJmapClient i = some s') : Placed createJmapClient s' := by
  obtain ⟨w', hturn, rfl⟩ := Option.map_eq_some_iff.1 hstep
  constructor
  · change Requests _ _ _ _ (responsesOf (s.toMain ++ Bridge.posts w'.acts))
    rw [responsesOf_append]
    exact hr.turn hturn fun message => mem_responsesOf.trans mem_posts
  · change Commands _ (commandsOf (s.toMain ++ Bridge.posts w'.acts)) _ _ _ _
    rw [commandsOf_append, commandsOf_posts, List.append_nil]
    exact hc

omit [DecidableEq J] in
theorem handleMessage {message : ToMain J} {rest : List (ToMain J)} (hs : Placed createJmapClient s) (hqueue : s.toMain = message :: rest) :
    Placed createJmapClient ({ s with toMain := rest }.handleMessage message) := by
  obtain ⟨hr, hc⟩ := hs
  rw [hqueue] at hr hc
  cases message with
  | ipcInvoke requestId command request =>
    have hasked := hc.asked (requestId, command, request) (List.mem_append_left _ (List.mem_append_left _ List.mem_cons_self))
    -- the worker has checked it, so the client never refuses
    have hallowed : command ∈ allowedIpcCommands := hc.allowed _ _ hasked
    simp only [Bridge.handleMessage, Bridge.handleIpcInvoke]
    rw [if_neg (not_not_intro hallowed)]
    exact ⟨hr, hc.starts⟩
  | message m =>
    change Requests _ _ _ _ (m :: responsesOf rest) at hr
    simp only [Bridge.handleMessage]
    split
    · rename_i requestId settlement hresponse
      refine ⟨(hr.response_settles List.mem_cons_self hresponse).drop fun r hanswers => ?_, hc⟩
      obtain rfl : requestId = r := by
        rw [← response_answers, hresponse] at hanswers
        exact Option.some.inj hanswers
      obtain ⟨m', hasked, -⟩ := hr.fits m List.mem_cons_self requestId settlement hresponse
      rcases hasked with hpending | ⟨o, ho⟩
      · exact List.mem_map.2 ⟨_, Calls.mem_settle.2 (.inr ⟨m', hpending, rfl⟩), rfl⟩
      · exact List.mem_map.2 ⟨_, Calls.mem_settle.2 (.inl ho), rfl⟩
    · rename_i hresponse
      refine ⟨hr.drop fun r hanswers => ?_, hc⟩
      rw [← response_answers, hresponse] at hanswers
      cases hanswers

theorem step (hs : Placed createJmapClient s) {event : Bridge.Event J} (hstep : s.step createJmapClient event = some s') :
    Placed createJmapClient s' := by
  obtain ⟨hr, hc⟩ := hs
  cases event with
  | call method =>
    cases hstep
    constructor
    · change Requests _ _ _ (requestsOf (s.toWorker ++ [_])) _
      rw [requestsOf_append]
      exact hr.ask (Method.requestId_message _ method)
    · change Commands _ _ _ _ _ (resultsOf (s.toWorker ++ [_]))
      rw [resultsOf_append]
      exact (List.append_nil _).symm ▸ hc
  | timeout requestId =>
    obtain ⟨m, hpending, rfl⟩ := Option.map_eq_some_iff.1 hstep
    exact ⟨hr.timeout hpending, hc⟩
  | dispose =>
    cases hstep
    exact ⟨hr.dispose, hc⟩
  | mainReceives =>
    simp only [Bridge.step] at hstep
    split at hstep
    · cases hstep
    · rename_i message rest hqueue
      cases hstep
      exact handleMessage ⟨hr, hc⟩ hqueue
  | invokeSettles call result =>
    simp only [Bridge.step, Bridge.invokeSettles] at hstep
    split at hstep
    · rename_i hrunning
      cases hstep
      constructor
      · change Requests _ _ _ (requestsOf (s.toWorker ++ [_])) _
        rw [requestsOf_append]
        exact (List.append_nil _).symm ▸ hr
      · change Commands _ _ _ _ _ (resultsOf (s.toWorker ++ [_]))
        rw [resultsOf_append]
        exact hc.ends hrunning result
    · cases hstep
  | workerReceives =>
    simp only [Bridge.step] at hstep
    split at hstep
    · cases hstep
    · rename_i message rest hqueue
      rw [hqueue] at hr hc
      split at hstep
      · cases hstep
      · cases message with
        | request m => exact workerTurn hr hc hstep
        | ipcInvokeResult requestId payload =>
          cases hstep
          exact ⟨hr, hc.resolves⟩
  | expiry =>
    simp only [Bridge.step] at hstep
    split at hstep
    · cases hstep
    · exact workerTurn hr hc hstep
  | completion operation result =>
    simp only [Bridge.step] at hstep
    split at hstep
    · cases hstep
    · exact workerTurn hr hc hstep
  | invoke command request =>
    simp only [Bridge.step] at hstep
    split at hstep
    · cases hstep
    · cases hstep
      unfold Bridge.invoke
      split
      · exact ⟨hr, hc⟩
      · rename_i hallowed
        constructor
        · change Requests _ _ _ _ (responsesOf (s.toMain ++ [_]))
          rw [responsesOf_append]
          exact (List.append_nil _).symm ▸ hr
        · change Commands _ (commandsOf (s.toMain ++ [_])) _ _ _ _
          rw [commandsOf_append]
          exact hc.invoke (not_not.1 hallowed) request

end Placed

/-! ## The protocol of both -/

/-- The runs of a client and its worker: calls, messages, timers, completions and commands in any order. -/
abbrev BridgeRuns (createJmapClient : Nat → String → String → JmapClient) : List (Turn (Bridge J) (Bridge.Event J)) → Prop :=
  Turns .initial (Bridge.step createJmapClient) fun _ _ => True

omit [DecidableEq J] in
theorem waits_somewhere (hs : Placed createJmapClient s) {m : MainToWorkerMessage} (hpending : s.client.pending.get? r = some m) :
    .request m ∈ s.toWorker ∨
      m ∈ taken s.history ∧ (r ∈ answered s.history → ∃ message, .message message ∈ s.toMain ∧ message.answers = some r) := by
  obtain ⟨m', hm', hid, rfl⟩ := hs.requests.mem_drawn_of_asked (.inl hpending)
  rcases List.mem_append.1 hm' with htaken | hqueued
  · refine .inr ⟨htaken, fun hanswered => ?_⟩
    rcases hs.requests.arrives r hanswered with hsettled | ⟨message, hmessage, hanswers⟩
    · exact absurd hsettled (hs.requests.exact.apart r _ hpending)
    · exact ⟨message, mem_responsesOf.1 hmessage, hanswers⟩
  · exact .inl (mem_requestsOf.1 hqueued)

omit [DecidableEq J] in
theorem runs_somewhere (hs : Placed createJmapClient s) {call : String × J} (hpending : s.bridge.pending.get? r = some call) :
    .ipcInvoke r call.1 call.2 ∈ s.toMain ∨ (r, call) ∈ s.running ∨
      ∃ result, ((r, call), result) ∈ s.results ∧ .ipcInvokeResult r (replied result) ∈ s.toWorker := by
  have hc := hs.commands
  have hdrawn : r ∈ drawn workerRequestId s.bridge.counter := mem_drawn.2 (hc.exact.drawn r call (.inl hpending))
  obtain ⟨call', hplace, rfl⟩ := List.mem_map.1 (hc.places.mem_iff.2 hdrawn)
  obtain rfl : call'.2 = call := hc.exact.unique (hc.asked call' hplace) (.inl hpending)
  rcases List.mem_append.1 hplace with hplace | hplace
  · rcases List.mem_append.1 hplace with hqueued | hrunning
    · exact .inl (mem_commandsOf.1 hqueued)
    · exact .inr (.inl hrunning)
  · obtain ⟨⟨call'', result⟩, hresult, rfl⟩ := List.mem_map.1 hplace
    rcases hc.returned call'' result hresult with hsettled | hreply
    · exact absurd hsettled (hc.exact.apart _ _ hpending)
    · exact .inr (.inr ⟨result, hresult, mem_resultsOf.1 hreply⟩)

omit [DecidableEq J] in
/-- When nothing is under way and no turn has superseded an opening or thrown, nobody waits. -/
theorem nobody_waits (hs : Placed createJmapClient s) (hworker : s.toWorker = []) (hmain : s.toMain = []) (hidle : s.worker.outstanding = [])
    (hheeds : ∀ t ∈ s.history, Heeds t.before t.input) (r : String) : s.client.pending.get? r = none := by
  cases hpending : s.client.pending.get? r with
  | none => rfl
  | some m =>
    exfalso
    rcases waits_somewhere hs hpending with hqueued | ⟨htaken, harrives⟩
    · rw [hworker] at hqueued
      cases hqueued
    · obtain ⟨m', hm', hid, rfl⟩ := hs.requests.mem_drawn_of_asked (.inl hpending)
      have hreceived : r ∈ received s.history := by
        rw [received_eq, ← hid]
        exact List.mem_map.2 ⟨m', htaken, rfl⟩
      rcases (heeded_run hs.requests.runs hheeds).2 r hreceived with hanswered | hwaiting
      · obtain ⟨message, hmessage, -⟩ := harrives hanswered
        rw [hmain] at hmessage
        cases hmessage
      · change r ∈ waiting s.worker at hwaiting
        unfold waiting at hwaiting
        rw [hidle] at hwaiting
        cases hwaiting

/-- What holds of the client and its worker at any time. -/
structure Correct (createJmapClient : Nat → String → String → JmapClient) (s : Bridge J) : Prop where
  /-- Each call of a method has an id of its own and settles at most once. -/
  calls : s.client.Exact mainRequestId
  /-- With an answer to the call's own message, by its timer, or at the end of the client. -/
  settled : ∀ r m settlement, (r, m, settlement) ∈ s.client.settled → m.requestId = r ∧ Explained s.history m settlement
  /-- A call that waits has its request in the queue, or with the worker, or its response in the queue. -/
  waits : ∀ r m, s.client.pending.get? r = some m → .request m ∈ s.toWorker ∨
    m ∈ taken s.history ∧ (r ∈ answered s.history → ∃ message, .message message ∈ s.toMain ∧ message.answers = some r)
  quiet : s.toWorker = [] → s.toMain = [] → s.worker.outstanding = [] → (∀ t ∈ s.history, Heeds t.before t.input) →
    ∀ r, s.client.pending.get? r = none
  /-- The worker never sees an id twice. -/
  worker : Runs createJmapClient s.history
  commands : s.bridge.Exact workerRequestId
  /-- Tauri is asked for local commands only, for each at most once. -/
  allowed : ∀ command ∈ s.invoked, command ∈ allowedIpcCommands
  ran : (s.results.map (·.1.1)).Nodup
  /-- A command settles with the result that Tauri gave to it. -/
  relayed : ∀ r call result, (r, call, result) ∈ s.bridge.settled → ((r, call), result) ∈ s.results
  runs : ∀ r call, s.bridge.pending.get? r = some call → .ipcInvoke r call.1 call.2 ∈ s.toMain ∨ (r, call) ∈ s.running ∨
    ∃ result, ((r, call), result) ∈ s.results ∧ .ipcInvokeResult r (replied result) ∈ s.toWorker

omit [DecidableEq J] in
theorem Placed.correct (hs : Placed createJmapClient s) : Correct createJmapClient s where
  calls := hs.requests.exact
  settled r m settlement hmem := ⟨hs.requests.requestId_of_asked (.inr ⟨settlement, hmem⟩), hs.requests.explained r m settlement hmem⟩
  waits _ _ := waits_somewhere hs
  quiet := nobody_waits hs
  worker := hs.requests.runs
  commands := hs.commands.exact
  allowed := hs.commands.invoked
  ran := by
    -- the results are among the places
    have hnodup := hs.commands.places.nodup_iff.2 (drawn_nodup workerRequestId_injective _)
    rw [List.map_append, List.nodup_append, List.map_map] at hnodup
    exact hnodup.2.1
  relayed := hs.commands.settled
  runs _ _ := runs_somewhere hs

/-- Whatever the order of calls, messages, timers, completions and commands. -/
theorem bridge_protocol {h : List (Turn (Bridge J) (Bridge.Event J))} (hr : BridgeRuns createJmapClient h) :
    Correct createJmapClient (last .initial h) := by
  refine (hr.inv (P := fun h => Placed createJmapClient (last .initial h)) .initial ?_).correct
  intro h event s' _ hs _ hstep
  rw [last_snoc]
  exact hs.step hstep

end

/-! ## A session with one synchronisation -/

def syncedEvents : List (Bridge.Event Nat) :=
  [.call (.initSession "https://jmap.test" "token" (some 3600)), .workerReceives, .completion (.opening "m:1" 1 0) (.ok sampleAccounts),
    .mainReceives, .mainReceives, .mainReceives, .call (.syncAccount "a" "remote-a"), .workerReceives,
    .invoke "local_apply_collection_sync" 7, .mainReceives, .invokeSettles ("w:1", "local_apply_collection_sync", 7) (.ok 8),
    .workerReceives, .completion (.sync "m:2" "a" (some 0) ⟨"m:1", sampleAccounts⟩) (.ok ()), .mainReceives]

theorem bridge_protocol_synced : ∃ h, play .initial (Bridge.step newClient) (fun _ _ => True) [] syncedEvents = some h ∧
    (last .initial h).client.settled.map (fun x => (x.1, x.2.2)) =
      [("m:1", .resolved (.session [("urn:ietf:params:jmap:mail", "remote-a")])), ("m:2", .resolved (.sync "a"))] ∧
    Correct newClient (last .initial h) := by
  obtain ⟨h, hplay, hr, hsettled⟩ := exists_play .initial (Bridge.step newClient) (fun _ _ => True) syncedEvents
    (fun h => (last .initial h).client.settled.map (fun x => (x.1, x.2.2)) =
      [("m:1", .resolved (.session [("urn:ietf:params:jmap:mail", "remote-a")])), ("m:2", .resolved (.sync "a"))]) (by decide +kernel)
  exact ⟨h, hplay, hsettled, bridge_protocol hr⟩

end Boxplot.Worker
