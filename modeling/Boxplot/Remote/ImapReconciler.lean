import Boxplot.Net.ImapCommand
import Boxplot.Net.Wire
import Boxplot.Remote.Native
/-!
# Evidence for a send over IMAP

`src/remote/imap/imap-mutation-reconciler.ts`: the sent mailbox is searched for
the message id of the send. The answer is used as it comes off the wire.
-/

namespace Boxplot.Remote

open Domain Lib Net

/-! ## The sent mailbox -/

/-- `toLowerCase`, as far as a comparison with an ASCII text goes. -/
def lowerCase (s : String) : List Char := s.toList.map Char.toLower

/-- `roleFor(specialUse, name) === 'sent'`. -/
def isSent (mailbox : NativeMailboxDto) : Bool :=
  match mailbox.specialUse.map lowerCase with
  | some ['\\', 'i', 'n', 'b', 'o', 'x'] => false
  | some ['\\', 's', 'e', 'n', 't'] => true
  | some ['\\', 't', 'r', 'a', 's', 'h'] => false
  | _ => lowerCase mailbox.name = ['s', 'e', 'n', 't']

/-! ## The answer -/

/-- `assertPositiveInteger` of whatever a property holds. -/
def positiveInteger : JsValue → Except JsError Nat
  | .num q => if q.den = 1 ∧ 0 < q.num ∧ q.num ≤ maxSafeInteger then .ok q.num.toNat else .error (.remote invalidId)
  | _ => .error (.remote invalidId)

/-- What `TextEncoder.encode` is given: nothing for `undefined`. -/
def encodedText (e : Engine) : JsValue → String
  | .undefined => ""
  | .str s => s
  | v => e.toKey v

/-- `imapEmailId` of a value that may be anything. -/
def imapEmailIdOf (e : Engine) (value : JsValue) : Except JsError String := do
  let uidValidity ← positiveInteger (← (value.get e "uidValidity").mapError .typeError)
  let uid ← positiveInteger (← (value.get e "uid").mapError .typeError)
  let mailbox ← (value.get e "mailbox").mapError .typeError
  .ok ("imap-email-v1:" ++ encode (encodedText e mailbox) ++ ":" ++ toString uidValidity ++ ":" ++ toString uid)

def evidence (e : Engine) (result : JsValue) : Except JsError RemoteMutationEvidence := do
  let kind ← (result.get e "kind").mapError .typeError
  if kind.isText "found" then do
    let emailId ← (result.get e "emailId").mapError .typeError
    let id ← imapEmailIdOf e emailId
    .ok (.applied id)
  else .ok .inconclusive

/-! ## The call -/

def labelField : JsValue → JsField
  | .str s => .string s
  | _ => .other ""

/-- A native error as the value a command rejects with. -/
def nativeRejection (v : NativeMailErrorDto) : JsError :=
  .thrown (.object (labelField v.kind.serialize) (labelField v.retry.serialize) (labelField v.session.serialize)
    (labelField v.outcome.serialize) (match v.code with
      | none => .falsy
      | some code => if code = "" then .falsy else .shown code))

/-- The promise of a command that answers `r`. -/
def settles {S α β : Type} (write : α → β) : EStateM.Result NativeMailErrorDto S α → Except JsError β
  | .ok v _ => .ok (write v)
  | .error v _ => .error (nativeRejection v)

/-- `replaceAll` of a character. -/
def replaceAll (target replacement : Char) (text : List Char) : List Char := text.map fun c => if c = target then replacement else c

def smtpMessageId (idempotencyKey : String) : String :=
  let binary := bytes idempotencyKey
  let encoded := replaceAll '/' '_' (replaceAll '+' '-' (standard.encode binary))
  "<boxplot." ++ String.ofList (encoded.reverse.dropWhile (· = '=')).reverse ++ "@boxplot.invalid>"

/-- The padding is the same before and after. -/
theorem replaceAll_strip {target replacement : Char} (ht : target ≠ '=') (hr : replacement ≠ '=') (text : List Char) :
    ((replaceAll target replacement text).reverse.dropWhile (· = '=')).reverse =
      replaceAll target replacement (text.reverse.dropWhile (· = '=')).reverse := by
  have hsign : ((fun c => decide (c = '=')) ∘ fun c => if c = target then replacement else c) = fun c => decide (c = '=') := by
    funext c
    refine decide_eq_decide.2 ?_
    dsimp only
    split
    · rename_i h
      exact iff_of_false hr (h ▸ ht)
    · rfl
  rw [replaceAll, ← List.map_reverse, List.dropWhile_map, hsign, ← List.map_reverse, replaceAll]

/-- `btoa` without its padding and with the two characters of the URL alphabet. -/
theorem replaceAll_encode (value : List UInt8) :
    ((replaceAll '/' '_' (replaceAll '+' '-' (standard.encode value))).reverse.dropWhile (· = '=')).reverse =
      urlSafeNoPad.encode value := by
  have hstrip := standard.strip_encode rfl standard_digit (by decide +kernel) value
  have hmap : replaceAll '/' '_' (replaceAll '+' '-' (standard.unpadded.encode value)) = urlSafeNoPad.encode value := by
    rw [replaceAll, replaceAll, List.map_map]
    exact Base64Engine.map_encode rfl rfl (by decide +kernel) _
  rw [replaceAll_strip (by decide) (by decide), replaceAll_strip (by decide) (by decide), hstrip, hmap]

/-- The key is encoded for URLs. -/
theorem smtpMessageId_eq (idempotencyKey : String) :
    smtpMessageId idempotencyKey = "<boxplot." ++ encode idempotencyKey ++ "@boxplot.invalid>" := by
  rw [smtpMessageId, replaceAll_encode, encode]

structure ImapMutationReconciler where
  sessionId : String
  accountId : String

/-- The native side: the mailboxes it lists, and the connection it searches, in the state it is in then. -/
structure NativeImap (S : Type) where
  listMailboxes : Except NativeMailErrorDto (List NativeMailboxDto)
  connection : ImapConnection S
  state : S

def reconcileSend {S : Type} (e : Engine) (self : ImapMutationReconciler) (native : NativeImap S) (remoteAccountId idempotencyKey : String) :
    Except JsError RemoteMutationEvidence :=
  if remoteAccountId ≠ self.accountId then .error (toNativeRemoteError (stateInvalidLabels "remote_account_mismatch"))
  else Except.mapError toNativeRemoteError (do
    let mailboxes ← native.listMailboxes.mapError nativeRejection
    match mailboxes.filter isSent with
    | [sent] => do
      let result ← settles NativeFindMessageIdResponse.serialize
        (native.connection.findMessageId sent.name (smtpMessageId idempotencyKey) native.state)
      evidence e result
    | _ => .ok .inconclusive)

end Boxplot.Remote
