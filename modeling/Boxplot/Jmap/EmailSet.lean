import Boxplot.Jmap.Mail
/-!
# A server that follows `Email/set`

The meaning the RFCs give an update: a patch names whole properties or paths
into them, a whole property replaces what was there, the values of a set are
`true`, and an email is in some mailbox. Which valid updates are refused, and
what becomes of the answer, is left open.
-/

namespace Boxplot.Jmap

open Lib

/-! ## Emails -/

/-- The two properties of an email that are sets. -/
inductive SetProperty
  | keywords
  | mailboxIds
  deriving DecidableEq, Repr

def SetProperty.name : SetProperty → String
  | .keywords => "keywords"
  | .mailboxIds => "mailboxIds"

/-- `rest` stands for the properties no update here touches. -/
structure EmailObject where
  keywords : Finset String
  mailboxIds : Finset String
  rest : List (String × String)
  filed : mailboxIds.Nonempty

namespace EmailObject

def members (email : EmailObject) : SetProperty → Finset String
  | .keywords => email.keywords
  | .mailboxIds => email.mailboxIds

def setMembers (email : EmailObject) (members : Finset String) : SetProperty → Option EmailObject
  | .keywords => some { email with keywords := members }
  | .mailboxIds => if filed : members.Nonempty then some { email with mailboxIds := members, filed } else none

end EmailObject

/-- Where an entry of a patch points: a whole property, or one member of it. -/
structure PatchPath where
  property : SetProperty
  «member» : Option String
  deriving DecidableEq, Repr

def SetProperty.ofName : String → Option SetProperty
  | "keywords" => some .keywords
  | "mailboxIds" => some .mailboxIds
  | _ => none

/-- A JSON pointer without its leading slash. -/
def PatchPath.parse (pointer : String) : Option PatchPath :=
  match (pointer.toList.splitOn '/').map String.ofList with
  | [name] => (SetProperty.ofName name).map (⟨·, none⟩)
  | [name, key] => (SetProperty.ofName name).map (⟨·, some ((key.replace "~1" "/").replace "~0" "~")⟩)
  | _ => none

def isTrue : JsValue → Bool
  | .bool true => true
  | _ => false

/-- The keys of an object whose values are all `true`. -/
def trueKeys : JsValue → Option (Finset String)
  | .obj fields => if fields.all fun field => isTrue field.2 then some (fields.map (·.1)).toFinset else none
  | _ => none

def EmailObject.patchEntry (email : EmailObject) (path : PatchPath) (value : JsValue) : Option EmailObject :=
  match path.member, value with
  | none, value => (trueKeys value).bind fun keys => email.setMembers keys path.property
  | some key, .bool true => email.setMembers (insert key (email.members path.property)) path.property
  | some key, .null => email.setMembers ((email.members path.property).erase key) path.property
  | some _, _ => none

/-- Nothing gives both a property and a path into it. -/
def PatchPath.compatible (paths : List PatchPath) : Bool :=
  paths.all fun path => path.member.isSome || paths.all fun other => other.property ≠ path.property || other.member.isNone

/-- Applies a whole patch, or nothing of it. -/
def EmailObject.patch (email : EmailObject) (entries : List (String × JsValue)) : Option EmailObject := do
  let parsed ← entries.mapM fun (pointer, value) => (PatchPath.parse pointer).map (·, value)
  if PatchPath.compatible (parsed.map (·.1)) then
    parsed.foldlM (fun email (path, value) => email.patchEntry path value) email
  else none

theorem PatchPath.parse_name (p : SetProperty) : PatchPath.parse p.name = some ⟨p, none⟩ := by
  cases p <;> decide +kernel

/-- A patch of one whole property. -/
theorem EmailObject.patch_whole (email : EmailObject) (p : SetProperty) (value : JsValue) :
    email.patch [(p.name, value)] = (trueKeys value).bind fun keys => email.setMembers keys p := by
  simp [EmailObject.patch, PatchPath.parse_name, PatchPath.compatible, EmailObject.patchEntry]

theorem EmailObject.setMembers_spec {email email' : EmailObject} {members : Finset String} {p : SetProperty}
    (h : email.setMembers members p = some email') :
    email'.members p = members ∧ (∀ q, q ≠ p → email'.members q = email.members q) ∧ email'.rest = email.rest := by
  cases p with
  | keywords =>
    cases h
    exact ⟨rfl, fun q hq => by cases q <;> first | rfl | exact absurd rfl hq, rfl⟩
  | mailboxIds =>
    simp only [EmailObject.setMembers] at h
    split at h
    · cases h
      exact ⟨rfl, fun q hq => by cases q <;> first | rfl | exact absurd rfl hq, rfl⟩
    · cases h

/-! ## The server -/

/-- The emails of each account, by their ids. -/
abbrev EmailStore := String → String → Option EmailObject

def EmailStore.put (emails : EmailStore) (accountId id : String) (email : EmailObject) : EmailStore :=
  fun a i => if a = accountId ∧ i = id then some email else emails a i

/-- What becomes of an answer: it arrives, it is lost, or something in between answers with a failure. -/
inductive Delivery
  | arrives
  | lost
  | failed (status : Nat) (failure : status < 200 ∨ 299 < status)

/-- The response to a call: a method-level error, or the updates that failed. -/
inductive MethodResponse
  | error (type : String)
  | set (accountId : String) (notUpdated : List (String × JsValue))

def MethodResponse.succeeded : MethodResponse → Bool
  | .error _ => false
  | .set _ notUpdated => notUpdated.isEmpty

/-- `notUpdated` is null where every update was made. -/
def MethodResponse.encode : String × MethodResponse → JsValue
  | (callId, .error type) => .arr [.str "error", .obj [("type", .str type)], .str callId]
  | (callId, .set accountId notUpdated) =>
    .arr [.str "Email/set",
      .obj [("accountId", .str accountId), ("notUpdated", if notUpdated.isEmpty then .null else .obj notUpdated)],
      .str callId]

/-- `refuses` is a reason of the server's own against a valid update, `fails` a failure of the whole method call. -/
structure EmailServer where
  emails : EmailStore
  refuses : String → String → Option String
  fails : Option String
  delivery : Delivery

namespace EmailServer

/-- One entry of `update`: the emails after it, or the type of its `SetError`. -/
def update (s : EmailServer) (accountId : String) (emails : EmailStore) (id : String) (patch : JsValue) :
    Except String EmailStore :=
  match emails accountId id, patch with
  | none, _ => .error "notFound"
  | some email, .obj entries =>
    match email.patch entries, s.refuses accountId id with
    | none, _ => .error "invalidProperties"
    | some _, some type => .error type
    | some email', none => .ok (emails.put accountId id email')
  | some _, _ => .error "invalidPatch"

/-- Each update succeeds or fails by itself. The second list is `notUpdated`. -/
def updates (s : EmailServer) (accountId : String) : EmailStore → List (String × JsValue) →
    EmailStore × List (String × JsValue)
  | emails, [] => (emails, [])
  | emails, (id, patch) :: rest =>
    match s.update accountId emails id patch with
    | .ok emails' => s.updates accountId emails' rest
    | .error type =>
      let (emails', notUpdated) := s.updates accountId emails rest
      (emails', (id, .obj [("type", .str type)]) :: notUpdated)

/-- One method call: the emails after it, and its response. -/
def call (s : EmailServer) (emails : EmailStore) (c : MethodCall) : EmailStore × MethodResponse :=
  match s.fails, c.name, c.args with
  | some type, _, _ => (emails, .error type)
  | none, "Email/set", .obj args =>
    match args.lookup "accountId", args.lookup "update" with
    | some (.str accountId), some (.obj updates) =>
      let (emails', notUpdated) := s.updates accountId emails updates
      (emails', .set accountId notUpdated)
    | _, _ => (emails, .error "invalidArguments")
  | none, _, _ => (emails, .error "unknownMethod")

/-- The calls in their order, each response with its call's id. -/
def calls (s : EmailServer) : EmailStore → List MethodCall → EmailStore × List (String × MethodResponse)
  | emails, [] => (emails, [])
  | emails, c :: rest =>
    let (emails', response) := s.call emails c
    let (emails'', responses) := s.calls emails' rest
    (emails'', (c.callId, response) :: responses)

/-- The emails after a request. -/
def after (s : EmailServer) (request : HttpRequest) : EmailStore := (s.calls s.emails request.methodCalls).1

def responses (s : EmailServer) (request : HttpRequest) : List (String × MethodResponse) :=
  (s.calls s.emails request.methodCalls).2

def reply (s : EmailServer) (request : HttpRequest) : HttpReply :=
  match s.delivery with
  | .arrives => .answered 200 (some (.obj [("methodResponses", .arr ((s.responses request).map MethodResponse.encode))]))
  | .lost => .lost
  | .failed status _ => .answered status none

def serve (s : EmailServer) : Server := fun request => ⟨(s.responses request).all (·.2.succeeded), s.reply request⟩

end EmailServer

end Boxplot.Jmap
