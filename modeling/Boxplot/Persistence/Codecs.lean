import Mathlib
import Boxplot.Lib.Serde
import Boxplot.Persistence.Model
/-!
# JSON columns

What the derived `Serialize` and `Deserialize` of
`src-tauri/src/persistence/model.rs` write into the JSON columns and read from
them, and `codecs.rs`. A column is its JSON document.
-/

namespace Boxplot.Persistence

open Lib

/-! ## Writing -/

def Address.serialize (v : Address) : JsValue :=
  serializeStruct .asIs [field "name" (.option .str v.name), field "email" (.str v.email)]

def addressListJson : AddressList → JsValue := .option (.vec Address.serialize)

def SendBody.serialize (v : SendBody) : JsValue :=
  serializeStruct .asIs [field "text" (.str v.text), field "html" (.option .str v.html)]

def SendSecurityMode.serialize : SendSecurityMode → JsValue
  | .plain => .str "plain"
  | .boxplotE2eeV1 => .str "boxplotE2eeV1"

def SendIntent.serialize (v : SendIntent) : JsValue :=
  serializeStruct .asIs
    [field "securityMode" v.securityMode.serialize, field "identity_jmap_id" (.str v.identityJmapId),
      field "from" v.from.serialize, field "reply_to" (.vec Address.serialize v.replyTo),
      field "to" (.vec Address.serialize v.to), field "cc" (.vec Address.serialize v.cc),
      field "bcc" (.vec Address.serialize v.bcc), field "subject" (.str v.subject), field "body" v.body.serialize]

/-- A `BTreeSet` is written in order. -/
def stringSetJson (v : Finset String) : JsValue := .vec .str (v.sort (· ≤ ·))

def KeywordChange.serialize (v : KeywordChange) : JsValue :=
  serializeStruct .asIs [field "add" (stringSetJson v.add), field "remove" (stringSetJson v.remove)]

def MembershipChange.serialize (v : MembershipChange) : JsValue :=
  serializeStruct .asIs [field "add" (.vec .str v.add), field "remove" (.vec .str v.remove)]

def MutationLifecycle.serialize : MutationLifecycle → JsValue
  | .pending n => serializeTagged "status" .camelCase "Pending" [field "attempt_count" (.integer n)]
  | .inFlight n => serializeTagged "status" .camelCase "InFlight" [field "attempt_count" (.integer n)]
  | .retrying n «at» =>
    serializeTagged "status" .camelCase "Retrying" [field "attempt_count" (.integer n), field "next_attempt_at" (.str «at»)]
  | .confirmed n id =>
    serializeTagged "status" .camelCase "Confirmed"
      [field "attempt_count" (.integer n), field "confirmation_email_jmap_id" (.option .str id)]
  | .failedTerminal n => serializeTagged "status" .camelCase "FailedTerminal" [field "attempt_count" (.integer n)]

/-! ## Reading -/

def Address.deserialize : Reader Address
  | some v => do
    let get ← deserializeStruct .asIs true ["name", "email"] v
    return { name := ← Reader.optional .string (get "name"), email := ← Reader.string (get "email") }
  | none => none

def readAddressList : Reader AddressList := .optional (.array Address.deserialize)

def SendBody.deserialize : Reader SendBody
  | some v => do
    let get ← deserializeStruct .asIs true ["text", "html"] v
    return { text := ← Reader.string (get "text"), html := ← Reader.optional .string (get "html") }
  | none => none

def SendSecurityMode.deserialize : Reader SendSecurityMode
  | some (.str "plain") => some .plain
  | some (.str "boxplotE2eeV1") => some .boxplotE2eeV1
  | _ => none

/-- A stored intent without a security mode is a plain one. -/
def SendIntent.deserialize : Reader SendIntent
  | some v => do
    let get ← deserializeStruct .asIs true
      ["securityMode", "identity_jmap_id", "from", "reply_to", "to", "cc", "bcc", "subject", "body"] v
    let mode ← Reader.absentOr SendSecurityMode.deserialize (get "securityMode")
    return { securityMode := mode.getD .plain, identityJmapId := ← Reader.string (get "identity_jmap_id"),
             «from» := ← Address.deserialize (get "from"), replyTo := ← Reader.array Address.deserialize (get "reply_to"),
             «to» := ← Reader.array Address.deserialize (get "to"), cc := ← Reader.array Address.deserialize (get "cc"),
             bcc := ← Reader.array Address.deserialize (get "bcc"), subject := ← Reader.string (get "subject"),
             body := ← SendBody.deserialize (get "body") }
  | none => none

def readStringSet : Reader (Finset String) := fun v => (Reader.array .string v).map List.toFinset

def KeywordChange.deserialize : Reader KeywordChange
  | some v => do
    let get ← deserializeStruct .asIs true ["add", "remove"] v
    return { add := ← readStringSet (get "add"), remove := ← readStringSet (get "remove") }
  | none => none

def MembershipChange.deserialize : Reader MembershipChange
  | some v => do
    let get ← deserializeStruct .asIs true ["add", "remove"] v
    return { add := ← Reader.array .string (get "add"), remove := ← Reader.array .string (get "remove") }
  | none => none

def MutationLifecycle.deserialize : Reader MutationLifecycle
  | some v => do
    let (variant, get) ← deserializeTaggedExact "status" .camelCase
      [("Pending", ["attempt_count"]), ("InFlight", ["attempt_count"]), ("Retrying", ["attempt_count", "next_attempt_at"]),
        ("Confirmed", ["attempt_count", "confirmation_email_jmap_id"]), ("FailedTerminal", ["attempt_count"])] v
    let n ← Reader.u64 (get "attempt_count")
    match variant with
    | "Pending" => return .pending n
    | "InFlight" => return .inFlight n
    | "Retrying" => return .retrying n (← Reader.string (get "next_attempt_at"))
    | "Confirmed" => return .confirmed n (← Reader.optional .string (get "confirmation_email_jmap_id"))
    | _ => return .failedTerminal n
  | none => none

/-- `decode`, without the text of the JSON error. -/
def decode {α : Type} (read : Reader α) (value : JsValue) (what : String) : PersistResult α :=
  match read (some value) with
  | some a => .ok a
  | none => .error (.corruptState ("invalid " ++ what))

/-! ## What is read of what is written -/

theorem decode_eq_ok {α : Type} {read : Reader α} {value : JsValue} {what : String} {a : α} :
    decode read value what = .ok a ↔ read (some value) = some a := by
  unfold decode
  split <;> simp_all

@[simp] theorem address_reads (v : Address) : Address.deserialize (some v.serialize) = some v := by
  simp [Address.deserialize, Address.serialize, List.lookup]

@[simp] theorem addresses_reads (v : List Address) :
    Reader.array Address.deserialize (some (.vec Address.serialize v)) = some v :=
  reads_array.2 fun a _ => address_reads a

@[simp] theorem addressList_reads (v : AddressList) : readAddressList (some (addressListJson v)) = some v := by
  cases v with
  | none => rfl
  | some l => exact congrArg (Option.map some) (addresses_reads l)

@[simp] theorem sendBody_reads (v : SendBody) : SendBody.deserialize (some v.serialize) = some v := by
  simp [SendBody.deserialize, SendBody.serialize, List.lookup]

@[simp] theorem securityMode_reads (v : SendSecurityMode) : SendSecurityMode.deserialize (some v.serialize) = some v := by
  cases v <;> rfl

@[simp] theorem sendIntent_reads (v : SendIntent) : SendIntent.deserialize (some v.serialize) = some v := by
  simp [SendIntent.deserialize, SendIntent.serialize, Reader.absentOr, List.lookup]

@[simp] theorem stringSet_reads (v : Finset String) : readStringSet (some (stringSetJson v)) = some v := by
  simp [readStringSet, stringSetJson]

@[simp] theorem keywordChange_reads (v : KeywordChange) : KeywordChange.deserialize (some v.serialize) = some v := by
  simp [KeywordChange.deserialize, KeywordChange.serialize, List.lookup]

@[simp] theorem membershipChange_reads (v : MembershipChange) : MembershipChange.deserialize (some v.serialize) = some v := by
  simp [MembershipChange.deserialize, MembershipChange.serialize, List.lookup]

@[simp] theorem lifecycle_reads (v : MutationLifecycle) : MutationLifecycle.deserialize (some v.serialize) = some v := by
  cases v <;> simp [MutationLifecycle.deserialize, MutationLifecycle.serialize, List.lookup]

end Boxplot.Persistence
