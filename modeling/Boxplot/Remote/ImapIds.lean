import Boxplot.Domain.Mutation
import Boxplot.Lib.Base64
import Boxplot.Remote.Errors
/-!
# IMAP identities

`src/remote/imap/ids.ts`: the mailbox and email ids the IMAP adapter makes up.
-/

namespace Boxplot.Remote

open Domain Lib

structure DecodedImapEmailId where
  mailbox : String
  uidValidity : Nat
  uid : Nat
  deriving DecidableEq, Repr

def invalidId : RemoteError := ⟨"Malformed IMAP remote identity", .stateInvalid, .never, .keep, .knownNotApplied⟩

def encode (value : String) : String := String.ofList (urlSafeNoPad.encode (bytes value))

/-- `TextDecoder('utf-8', \x7b fatal: true \x7d)`: a byte order mark is dropped. -/
def decodeUtf8 (value : List UInt8) : Option String :=
  match value with
  | 0xEF :: 0xBB :: 0xBF :: rest => String.fromUTF8? ⟨rest.toArray⟩
  | _ => String.fromUTF8? ⟨value.toArray⟩

def decode (value : List Char) : Except RemoteError String :=
  match (urlSafeNoPad.decode value).bind decodeUtf8 with
  | none => .error invalidId
  | some text => .ok text

def isIdChar (c : Char) : Bool := c.isAlphanum || c = '_' || c = '-'

/-- The text after a scheme's name, for a pattern of one or more id characters. -/
def idText (scheme value : String) : Option (List Char) :=
  if scheme.toList.isPrefixOf value.toList then some (value.toList.drop scheme.length) else none

def imapMailboxId (mailbox : String) : String := "imap-mailbox-v1:" ++ encode mailbox

def decodeImapMailboxId (value : String) : Except RemoteError String :=
  match idText "imap-mailbox-v1:" value with
  | none => .error invalidId
  | some text => if text.isEmpty || !text.all isIdChar then .error invalidId else decode text

/-- A number past the safe integers rounds to one that is no safe integer either. -/
def assertPositiveInteger (value : Nat) : Except RemoteError Unit :=
  if maxSafeInteger < value ∨ value = 0 then .error invalidId else .ok ()

def imapEmailId (value : DecodedImapEmailId) : Except RemoteError String := do
  assertPositiveInteger value.uidValidity
  assertPositiveInteger value.uid
  .ok ("imap-email-v1:" ++ encode value.mailbox ++ ":" ++ toString value.uidValidity ++ ":" ++ toString value.uid)

/-- One or more ASCII digits as a number. -/
def digits (text : List Char) : Option Nat :=
  if text.isEmpty || !text.all Char.isDigit then none
  else some (text.foldl (fun n c => 10 * n + (c.toNat - '0'.toNat)) 0)

/-- The three parts of an email id. -/
def emailIdParts (value : String) : Option (List Char × Nat × Nat) := do
  let text ← idText "imap-email-v1:" value
  match text.splitOn ':' with
  | [mailbox, uidValidity, uid] =>
    if mailbox.isEmpty || !mailbox.all isIdChar then none
    else do
      let uidValidity ← digits uidValidity
      let uid ← digits uid
      some (mailbox, uidValidity, uid)
  | _ => none

def decodeImapEmailId (value : String) : Except RemoteError DecodedImapEmailId :=
  match emailIdParts value with
  | none => .error invalidId
  | some (mailbox, uidValidity, uid) => do
    assertPositiveInteger uidValidity
    assertPositiveInteger uid
    let mailbox ← decode mailbox
    .ok ⟨mailbox, uidValidity, uid⟩

/-! ## What an email id stands for -/

theorem encode_injective {s t : String} (h : encode s = encode t) : s = t := by
  have hlist := String.ofList_injective h
  have hdecode (l : List UInt8) := Base64Engine.decode_encode (e := urlSafeNoPad) rfl urlSafeNoPad_digit l
  have hbytes : some (bytes s) = some (bytes t) := by rw [← hdecode, ← hdecode, hlist]
  exact bytes_injective (Option.some.inj hbytes)

theorem colon_notMem_encode (s : String) : ':' ∉ (encode s).toList := by
  rw [encode, String.toList_ofList]
  intro h
  have hmem := mem_encode h
  revert hmem
  decide +kernel

theorem colon_notMem_toString (n : Nat) : ':' ∉ (toString n).toList := by
  rw [Nat.toString_eq_repr, Nat.toList_repr]
  intro h
  have hdigit := Nat.isDigit_of_mem_toDigits (by omega) (by omega) h
  revert hdigit
  decide

theorem toString_injective {m n : Nat} (h : (toString m).toList = (toString n).toList) : m = n := by
  rw [Nat.toString_eq_repr, Nat.toString_eq_repr, Nat.toList_repr, Nat.toList_repr] at h
  rw [← @Nat.ofDigitChars_ten_toDigits m, h, Nat.ofDigitChars_ten_toDigits]

/-- A text falls apart at its first colon. -/
theorem append_colon_injective {a a' r r' : List Char} (ha : ':' ∉ a) (ha' : ':' ∉ a') (h : a ++ ':' :: r = a' ++ ':' :: r') :
    a = a' ∧ r = r' := by
  induction a generalizing a' with
  | nil =>
    cases a' with
    | nil => exact ⟨rfl, (List.cons.inj h).2⟩
    | cons c rest =>
      rw [List.nil_append, List.cons_append] at h
      exact absurd ((List.cons.inj h).1 ▸ List.mem_cons_self) ha'
  | cons c rest ih =>
    cases a' with
    | nil =>
      rw [List.nil_append, List.cons_append] at h
      exact absurd ((List.cons.inj h).1 ▸ List.mem_cons_self) ha
    | cons c' rest' =>
      obtain ⟨hc, htail⟩ := List.cons.inj h
      obtain ⟨hrest, hr⟩ := ih (fun hm => ha (List.mem_cons_of_mem _ hm)) (fun hm => ha' (List.mem_cons_of_mem _ hm)) htail
      exact ⟨by rw [hc, hrest], hr⟩

/-- Different messages have different ids. -/
theorem imapEmailId_injective {x y : DecodedImapEmailId} {id : String} (hx : imapEmailId x = .ok id) (hy : imapEmailId y = .ok id) :
    x = y := by
  have htext (z : DecodedImapEmailId) (hz : imapEmailId z = .ok id) : id.toList = "imap-email-v1:".toList ++
      ((encode z.mailbox).toList ++ ':' :: ((toString z.uidValidity).toList ++ ':' :: (toString z.uid).toList)) := by
    unfold imapEmailId at hz
    cases hv : assertPositiveInteger z.uidValidity with
    | error e => rw [hv] at hz; cases hz
    | ok _ =>
    cases hu : assertPositiveInteger z.uid with
    | error e => rw [hv, hu] at hz; cases hz
    | ok _ =>
      rw [hv, hu] at hz
      cases hz
      simp only [String.toList_append, List.append_assoc]
      rfl
  have heq := (htext x hx).symm.trans (htext y hy)
  rw [List.append_cancel_left_eq] at heq
  obtain ⟨hmailbox, hrest⟩ := append_colon_injective (colon_notMem_encode _) (colon_notMem_encode _) heq
  obtain ⟨hvalidity, huid⟩ := append_colon_injective (colon_notMem_toString _) (colon_notMem_toString _) hrest
  cases x
  cases y
  dsimp only at hmailbox hvalidity huid
  rw [encode_injective (String.toList_inj.1 hmailbox), toString_injective hvalidity, toString_injective huid]

end Boxplot.Remote
