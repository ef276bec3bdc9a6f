import Boxplot.Domain.Factories
import Boxplot.E2ee.Transport
import Boxplot.Lib.MailPath
import Boxplot.Net.AddressFields
import Boxplot.Net.DotStuffing
/-!
# Whom a submission is for

The addresses of a request in its two other places: the paths of the commands
before the message, and with them all the bytes a submission sends. A server
and a reader find the addresses of the request exactly where both grammars
have them.
-/

namespace Boxplot.Net

open Lib

/-! ## Recipients -/

theorem mem_collectRecipients {values : List NativeAddressDto} {before recipients : List String}
    (h : collectRecipients values before = .ok recipients) :
    (before.Nodup → recipients.Nodup) ∧ ∀ email, email ∈ recipients ↔ email ∈ before ∨ email ∈ values.map (·.email) := by
  induction values generalizing before with
  | nil =>
    cases h
    simp
  | cons a rest ih =>
    obtain ⟨_, -, h⟩ := except_bind_eq_ok.1 h
    obtain ⟨hnodup, hmem⟩ := ih h
    by_cases hseen : a.email ∈ before
    · have hcontains : before.contains a.email = true := List.contains_iff_mem.2 hseen
      rw [if_pos hcontains] at hnodup
      refine ⟨hnodup, fun email => ?_⟩
      rw [hmem, if_pos hcontains, List.map_cons, List.mem_cons]
      constructor
      · exact Or.imp_right .inr
      · rintro (hbefore | rfl | hrest)
        · exact .inl hbefore
        · exact .inl hseen
        · exact .inr hrest
    · have hcontains : ¬ before.contains a.email = true := fun hc => hseen (List.contains_iff_mem.1 hc)
      rw [if_neg hcontains] at hnodup
      refine ⟨fun hbefore => hnodup (List.nodup_append'.2 ⟨hbefore, List.nodup_singleton _, by simpa using hseen⟩), fun email => ?_⟩
      rw [hmem, if_neg hcontains, List.map_cons, List.mem_cons, List.mem_append, List.mem_singleton, or_assoc]

/-! ## Commands -/

def mailCommand (sender : String) : String := "MAIL FROM:<" ++ sender ++ ">"

def rcptCommand (recipient : String) : String := "RCPT TO:<" ++ recipient ++ ">"

/-- The commands that say whom the message is from and for. -/
def envelopeCommands (sender : String) (recipients : List String) : List String := mailCommand sender :: recipients.map rcptCommand

/-- Whom a server takes a message from, and to whom it delivers it. -/
structure Envelope where
  sender : MailPath.Command
  recipients : List MailPath.Command
  deriving DecidableEq

def readEnvelope : List String → Option Envelope
  | [] => none
  | mail :: rcpts => do
    let sender ← MailPath.readCommand "MAIL FROM:".toList mail.toList
    let recipients ← rcpts.mapM fun rcpt => MailPath.readCommand "RCPT TO:".toList rcpt.toList
    some ⟨sender, recipients⟩

/-- Addresses alone, without parameters. -/
def envelopeOf (sender : String) (recipients : List String) : Envelope := ⟨⟨sender, []⟩, recipients.map (⟨·, []⟩)⟩

theorem command_toList {verb command address : String} (h : command = verb ++ "<" ++ address ++ ">") :
    command.toList = verb.toList ++ '<' :: (address.toList ++ ['>']) := by
  have hopen : "<".toList = ['<'] := by decide
  have hclose : ">".toList = ['>'] := by decide
  rw [h, String.toList_append, String.toList_append, String.toList_append, hopen, hclose]
  simp only [List.append_assoc, List.cons_append, List.nil_append]

theorem read_mailCommand (sender : String) : MailPath.readCommand "MAIL FROM:".toList (mailCommand sender).toList = some ⟨sender, []⟩ ↔
    MailPath.IsMailbox sender.toList := by
  have hverb : "MAIL FROM:<" = "MAIL FROM:" ++ "<" := by decide
  have hcommand : mailCommand sender = "MAIL FROM:" ++ "<" ++ sender ++ ">" := by
    unfold mailCommand
    rw [hverb]
  rw [command_toList hcommand, MailPath.readCommand_path]

theorem read_rcptCommand (recipient : String) :
    MailPath.readCommand "RCPT TO:".toList (rcptCommand recipient).toList = some ⟨recipient, []⟩ ↔
      MailPath.IsMailbox recipient.toList := by
  have hverb : "RCPT TO:<" = "RCPT TO:" ++ "<" := by decide
  have hcommand : rcptCommand recipient = "RCPT TO:" ++ "<" ++ recipient ++ ">" := by
    unfold rcptCommand
    rw [hverb]
  rw [command_toList hcommand, MailPath.readCommand_path]

/-- A server finds the addresses in the commands where they are mailboxes, and only there. -/
theorem readEnvelope_iff (sender : String) (recipients : List String) :
    readEnvelope (envelopeCommands sender recipients) = some (envelopeOf sender recipients) ↔
      MailPath.IsMailbox sender.toList ∧ ∀ r ∈ recipients, MailPath.IsMailbox r.toList := by
  unfold envelopeCommands readEnvelope envelopeOf
  simp only [Option.bind_eq_bind, Option.bind_eq_some_iff]
  constructor
  · rintro ⟨_, hsender, _, hrecipients, ⟨⟩⟩
    rw [mapM_eq_some_iff, List.forall₂_map_left_iff, List.forall₂_map_right_iff, List.forall₂_same] at hrecipients
    exact ⟨(read_mailCommand sender).1 hsender, fun r hr => (read_rcptCommand r).1 (hrecipients r hr)⟩
  · rintro ⟨hsender, hrecipients⟩
    refine ⟨_, (read_mailCommand sender).2 hsender, _, ?_, rfl⟩
    rw [mapM_eq_some_iff, List.forall₂_map_left_iff, List.forall₂_map_right_iff, List.forall₂_same]
    exact fun r hr => (read_rcptCommand r).2 (hrecipients r hr)

/-! ## What is sent -/

/-- A command on the wire. -/
def wireLine (text : String) : List UInt8 := bytes text ++ crlf

/-- All that is sent up to the end of the message. -/
def sessionBytes (auth : List UInt8) (sender : String) (recipients : List String) (message : List UInt8) : List UInt8 :=
  wireLine "EHLO boxplot.invalid" ++ auth ++ (envelopeCommands sender recipients).flatMap wireLine ++ wireLine "DATA" ++ dataPhase message

/-- A step that goes well sends bytes of this kind. -/
def Sends {α : Type} (x : Smtp α) (out : List UInt8 → Prop) : Prop :=
  ∀ s a s', x s = .ok a s' → ∃ l, out l ∧ s'.conn.sent = s.conn.sent ++ l

theorem readLine_sent (c : Conn) : c.readLine.2.sent = c.sent := by
  unfold Conn.readLine
  split
  · rfl
  · split <;> rfl

theorem keeps_sent_replyCode (ambiguous : Bool) (fuel : Nat) : Keeps (·.conn.sent) (replyCode ambiguous fuel) := by
  intro s
  induction fuel generalizing s with
  | zero => rfl
  | succ fuel ih =>
    have hread := readLine_sent s.conn
    unfold replyCode
    split
    · rename_i hline
      rw [hline] at hread
      exact hread
    · rename_i hline
      rw [hline] at hread
      exact hread
    · rename_i hline
      rw [hline] at hread
      split
      · exact hread
      · split
        · exact (ih _).trans hread
        · exact hread

section
variable {s s' : SmtpConn}

theorem expectCode_sent {expected : Nat} {ambiguous : Bool} {u : Unit} (h : expectCode expected ambiguous s = .ok u s') :
    s'.conn.sent = s.conn.sent := by
  obtain ⟨code, t, hread, h⟩ := bind_eq_ok.1 h
  have hsent : t.conn.sent = s.conn.sent := (keeps_sent_replyCode ambiguous _).ok hread
  split at h <;> cases h
  exact hsent

theorem writeSmtpCommand_sent {text : String} {e : NativeMailErrorDto} {u : Unit} (h : writeSmtpCommand text e s = .ok u s') :
    s'.conn.sent = s.conn.sent ++ wireLine text := by
  obtain ⟨_, s₁, htext, h⟩ := bind_eq_ok.1 h
  obtain ⟨_, s₂, hbreak, hflush⟩ := bind_eq_ok.1 h
  rw [write_sent hflush, write_sent hbreak, write_sent htext, wireLine]
  simp [crlf]

theorem command_sent {text : String} {expected : Nat} {ambiguous : Bool} {u : Unit} (h : command text expected ambiguous s = .ok u s') :
    s'.conn.sent = s.conn.sent ++ wireLine text := by
  obtain ⟨_, s₁, hwrite, hcode⟩ := bind_eq_ok.1 h
  rw [expectCode_sent hcode, writeSmtpCommand_sent hwrite]

theorem rcptAll_sent {recipients : List String} {u : Unit} (h : rcptAll recipients s = .ok u s') :
    s'.conn.sent = s.conn.sent ++ (recipients.map rcptCommand).flatMap wireLine := by
  induction recipients generalizing s with
  | nil =>
    cases h
    simp
  | cons r rest ih =>
    obtain ⟨_, s₁, hrcpt, hrest⟩ := bind_eq_ok.1 h
    rw [ih hrest, command_sent hrcpt, List.map_cons, List.flatMap_cons, List.append_assoc]
    rfl

theorem orAuth_ok {x : Smtp Unit} {u : Unit} (h : orAuth x s = .ok u s') : x s = .ok u s' := by
  unfold orAuth at h
  rw [tryCatch_apply] at h
  cases hx : x s with
  | ok a t =>
    rw [hx] at h
    exact h
  | error e t =>
    rw [hx] at h
    cases h

theorem sends_command (text : String) (expected : Nat) (ambiguous : Bool) : Sends (command text expected ambiguous) (· = wireLine text) :=
  fun _ _ _ h => ⟨_, rfl, command_sent h⟩

/-- The token, and an empty line if the server challenges it. -/
theorem sends_xoauth2 (text : String) : Sends (authenticateXoauth2 text) fun l => l = wireLine text ∨ l = wireLine text ++ wireLine "" := by
  intro s u s' h
  obtain ⟨_, s₁, hwrite, h⟩ := bind_eq_ok.1 h
  obtain ⟨challenged, s₂, hchallenge, h⟩ := bind_eq_ok.1 h
  have hwrite := writeSmtpCommand_sent hwrite
  have hkeep : s₂.conn.sent = s₁.conn.sent := by
    obtain ⟨code, t, hread, hcode⟩ := bind_eq_ok.1 hchallenge
    have hsent : t.conn.sent = s₁.conn.sent := (keeps_sent_replyCode false _).ok hread
    split at hcode
    · cases hcode
      exact hsent
    · split at hcode <;> cases hcode
      exact hsent
  split at h
  · obtain ⟨_, s₃, hempty, hcode⟩ := bind_eq_ok.1 h
    refine ⟨_, .inr rfl, ?_⟩
    rw [expectCode_sent hcode, writeSmtpCommand_sent hempty, hkeep, hwrite, List.append_assoc]
  · cases h
    exact ⟨_, .inl rfl, hkeep.trans hwrite⟩

/-- Up to the end of the message, a submission sends its session. -/
theorem transmit_sent {connect authenticate : Smtp Unit} {out : List UInt8 → Prop} (hconnect : Keeps (·.conn.sent) connect)
    (hauth : Sends authenticate out) {user date : String} {request : NativeSmtpSubmitRequest} {built : BuiltMessage}
    (h : transmit connect authenticate user date request s = .ok built s') :
    ∃ recipients auth, prepare user date request = .ok (built, recipients) ∧ out auth ∧
      s'.conn.sent = s.conn.sent ++ sessionBytes auth request.from.email recipients built.message := by
  unfold transmit at h
  obtain ⟨⟨built', recipients⟩, s₁, hprepare, h⟩ := bind_eq_ok.1 h
  obtain ⟨_, s₂, hopen, h⟩ := bind_eq_ok.1 h
  obtain ⟨_, s₃, hconverse, h⟩ := bind_eq_ok.1 h
  obtain ⟨_, s₄, hpayload, h⟩ := bind_eq_ok.1 h
  cases h
  obtain ⟨hprepared, rfl⟩ : prepare user date request = .ok (built, recipients) ∧ s₁ = s := by
    cases hresult : prepare user date request with
    | ok r =>
      rw [hresult] at hprepare
      cases hprepare
      exact ⟨rfl, rfl⟩
    | error e =>
      rw [hresult] at hprepare
      cases hprepare
  unfold converse at hconverse
  obtain ⟨_, t₁, hgreeting, hconverse⟩ := bind_eq_ok.1 hconverse
  obtain ⟨_, t₂, hehlo, hconverse⟩ := bind_eq_ok.1 hconverse
  obtain ⟨_, t₃, hauthenticate, hconverse⟩ := bind_eq_ok.1 hconverse
  obtain ⟨_, t₄, hmail, hconverse⟩ := bind_eq_ok.1 hconverse
  obtain ⟨_, t₅, hrcpts, hdata⟩ := bind_eq_ok.1 hconverse
  obtain ⟨auth, hout, hsent⟩ := hauth _ _ _ (orAuth_ok hauthenticate)
  refine ⟨recipients, auth, hprepared, hout, ?_⟩
  have hopen : s₂.conn.sent = s₁.conn.sent := hconnect.ok hopen
  have hmail : t₄.conn.sent = t₃.conn.sent ++ wireLine (mailCommand request.from.email) := command_sent hmail
  rw [writePayload_sent hpayload, command_sent hdata, rcptAll_sent hrcpts, hmail, hsent, command_sent hehlo, expectCode_sent hgreeting,
    hopen, sessionBytes, envelopeCommands, List.flatMap_cons]
  simp only [List.append_assoc]

end

theorem keeps_sent_connectPlain : Keeps (·.conn.sent) connectPlain := by
  intro s
  unfold connectPlain
  split <;> rfl

theorem keeps_sent_connectTls : Keeps (·.conn.sent) connectTls := by
  intro s
  unfold connectTls
  split <;> rfl

/-! ## Addresses that mean what was entered -/

/-- Every reader of the message finds the mailboxes of the request, the server finds the recipients and nothing else in the
commands, and these are what every submission sends that gets to the end of the message. -/
structure Meant (date user : String) (request : NativeSmtpSubmitRequest) (built : BuiltMessage) (recipients : List String) : Prop where
  fields : FieldsMeant request built.message
  envelope : readEnvelope (envelopeCommands request.from.email recipients) = some (envelopeOf request.from.email recipients)
  everyone : ∀ email, email ∈ recipients ↔ email ∈ (request.to ++ request.cc ++ request.bcc).map (·.email)
  once : recipients.Nodup
  sent : ∀ password s built' s', submitPayload user password date request s = .ok built' s' →
    s'.conn.sent = s.conn.sent ++ sessionBytes (wireLine (authPlainCommand user password)) request.from.email recipients built.message
  sentGmail : ∀ token s built' s', submitGmailPayload user token date request s = .ok built' s' →
    ∃ answer ∈ [[], wireLine ""], s'.conn.sent =
      s.conn.sent ++ sessionBytes (wireLine (xoauth2Command user token) ++ answer) request.from.email recipients built.message

/-- There is someone to write to, and the addresses are as both grammars have them where they are written. -/
structure WellAddressed (request : NativeSmtpSubmitRequest) : Prop where
  «to» : request.to ≠ []
  fields : ∀ a ∈ request.to ++ request.cc ++ request.replyTo, Readable a
  paths : ∀ a ∈ request.from :: (request.to ++ request.cc ++ request.bcc), MailPath.IsMailbox a.email.toList

theorem prepare_ok {user date : String} {request : NativeSmtpSubmitRequest} {built : BuiltMessage} {recipients : List String}
    (h : prepare user date request = .ok (built, recipients)) : request.from.email = user ∧ buildMessage date request = .ok built ∧
      collectRecipients (request.to ++ request.cc ++ request.bcc) [] = .ok recipients := by
  unfold prepare at h
  split at h
  · cases h
  · rename_i hsender
    obtain ⟨built', hbuild, h⟩ := except_bind_eq_ok.1 h
    split at h
    · cases h
    · obtain ⟨recipients', hcollect, h⟩ := except_bind_eq_ok.1 h
      split at h <;> cases h
      exact ⟨not_not.1 hsender, hbuild, hcollect⟩

/-- An address the domain accepts passes the checks of the submission. -/
theorem validateAddress_usable {address : Domain.EmailAddress} (h : Domain.Usable address) :
    validateAddress (E2ee.nativeAddress address) = .ok () := by
  obtain ⟨i, hi, -, -, hemail, hname⟩ := h
  have hheader {value : String} (h : Domain.containsUnsafeHeaderCharacter value = false) : validateHeader value = .ok () := by
    refine if_neg ?_
    rw [Domain.containsUnsafeHeaderCharacter, List.any_eq_false] at h
    rw [List.any_eq_true]
    rintro ⟨c, hc, hbad⟩
    refine h c hc ?_
    simp only [Bool.or_eq_true, decide_eq_true_eq] at hbad ⊢
    rcases hbad with (rfl | rfl) | hzero
    · exact .inl rfl
    · exact .inr (.inl rfl)
    · refine .inr (.inr ?_)
      rw [← Char.ofNat_toNat c, hzero]
  have hat : '@' ∈ address.email.toList := by
    obtain ⟨hlt, hsome, -⟩ := List.findIdx?_eq_some_iff_getElem.1 hi
    have hchar : address.email.toList[i] = '@' := of_decide_eq_true hsome
    exact hchar ▸ List.getElem_mem hlt
  have hempty : address.email ≠ "" := by
    intro he
    rw [he] at hat
    cases hat
  unfold validateAddress E2ee.nativeAddress
  rw [hheader hemail]
  change (if _ then _ else _) = _
  rw [if_neg (by simpa [hempty] using hat)]
  cases hvalue : address.name with
  | none => rfl
  | some name =>
    rw [hvalue] at hname
    exact hheader hname

section
variable {date user : String} {request : NativeSmtpSubmitRequest} {built : BuiltMessage} {recipients : List String}

/-- The addresses of an accepted submission mean what was entered exactly where they are written as the grammars of the
header and of the commands have them. What the domain accepts goes through the same checks. -/
theorem addresses_meant (hdate : Unbroken date) (h : prepare user date request = .ok (built, recipients)) :
    (Meant date user request built recipients ↔ WellAddressed request) ∧
      ∀ input intent, Domain.sendIntent input = .ok intent →
        ∀ a ∈ intent.from :: (intent.replyTo ++ intent.to ++ intent.cc ++ intent.bcc), validateAddress (E2ee.nativeAddress a) = .ok () := by
  obtain ⟨-, hbuild, hcollect⟩ := prepare_ok h
  obtain ⟨hnodup, hmem⟩ := mem_collectRecipients hcollect
  have hrecipients : ∀ email, email ∈ recipients ↔ email ∈ (request.to ++ request.cc ++ request.bcc).map (·.email) := by
    intro email
    rw [hmem]
    exact or_iff_right (List.not_mem_nil)
  have hpaths : (∀ a ∈ request.from :: (request.to ++ request.cc ++ request.bcc), MailPath.IsMailbox a.email.toList) ↔
      readEnvelope (envelopeCommands request.from.email recipients) = some (envelopeOf request.from.email recipients) := by
    rw [readEnvelope_iff, List.forall_mem_cons]
    refine and_congr_right' ⟨fun hall r hr => ?_, fun hall a ha => hall _ ((hrecipients _).2 (List.mem_map_of_mem ha))⟩
    obtain ⟨a, ha, rfl⟩ := List.mem_map.1 ((hrecipients r).1 hr)
    exact hall a ha
  refine ⟨⟨fun hmeant => ?_, fun hwell => ?_⟩, fun input intent hintent a ha => ?_⟩
  · obtain ⟨hto, hfields⟩ := (fieldsMeant_iff hdate hbuild).1 hmeant.fields
    exact ⟨hto, hfields, hpaths.2 hmeant.envelope⟩
  · refine ⟨(fieldsMeant_iff hdate hbuild).2 ⟨hwell.to, hwell.fields⟩, hpaths.1 hwell.paths, hrecipients, hnodup List.nodup_nil, ?_, ?_⟩
    · intro password s built' s' hrun
      obtain ⟨recipients', auth, hprepare, rfl, hsent⟩ := transmit_sent keeps_sent_connectPlain (sends_command _ _ _) hrun
      rw [h] at hprepare
      cases hprepare
      exact hsent
    · intro token s built' s' hrun
      obtain ⟨recipients', auth, hprepare, hauth, hsent⟩ := transmit_sent keeps_sent_connectTls (sends_xoauth2 _) hrun
      rw [h] at hprepare
      cases hprepare
      rcases hauth with rfl | rfl
      · exact ⟨[], by simp, by rwa [List.append_nil]⟩
      · exact ⟨wireLine "", by simp, hsent⟩
  · exact validateAddress_usable ((Domain.sendIntent_ok.1 hintent).2.2.2 a ha)

end

theorem addresses_meant_letter : ∃ built recipients, prepare "a@b" "Thu, 1 Jan 1970 00:00:00 +0000" letter = .ok (built, recipients) ∧
    Meant "Thu, 1 Jan 1970 00:00:00 +0000" "a@b" letter built recipients := by
  have hspec {c d : Char} (hc : Address.isAtext c = true) (hd : Address.isAtext d = true) : Address.AddrSpec [c, '@', d] :=
    ⟨[.atom [c]], [.atom [d]], by simp [Address.Token.Valid, hc], by simp [Address.Token.Valid, hd], rfl, rfl, rfl⟩
  have hpath {c d : Char} (hc : MailPath.isDotString [c] = true) (hd : MailPath.isDomainName [d] = true) : MailPath.IsMailbox [c, '@', d] :=
    ⟨[c], [d], .inl hc, .inl hd, rfl⟩
  have hwell : WellAddressed letter := by
    refine ⟨by decide, ?_, ?_⟩
    · change ∀ a ∈ [(⟨none, "c@d"⟩ : NativeAddressDto), ⟨some "Carol", "e@f"⟩], Readable a
      rw [List.forall_mem_cons, List.forall_mem_singleton]
      refine ⟨⟨hspec (by decide) (by decide), by simp⟩, ⟨hspec (by decide) (by decide), ?_⟩⟩
      rintro name ⟨⟩ hascii
      exact absurd hascii (by decide)
    · change ∀ a ∈ [(⟨some "Álice", "a@b"⟩ : NativeAddressDto), ⟨none, "c@d"⟩, ⟨some "Carol", "e@f"⟩, ⟨none, "g@h"⟩],
        MailPath.IsMailbox a.email.toList
      rw [List.forall_mem_cons, List.forall_mem_cons, List.forall_mem_cons, List.forall_mem_singleton]
      exact ⟨hpath (by decide) (by decide), hpath (by decide) (by decide), hpath (by decide) (by decide), hpath (by decide) (by decide)⟩
  cases hprepare : prepare "a@b" "Thu, 1 Jan 1970 00:00:00 +0000" letter with
  | ok r => exact ⟨r.1, r.2, rfl, (addresses_meant (by decide) hprepare).1.2 hwell⟩
  | error e =>
    have hok : (prepare "a@b" "Thu, 1 Jan 1970 00:00:00 +0000" letter).isOk = true := by decide +kernel
    rw [hprepare] at hok
    cases hok

/-- An intent with two addresses in the place of one, and a parameter in the place of a blind copy. -/
def listInput (accountKey : Domain.AccountKey) : Domain.SendIntentInput :=
  { securityMode := .plain, identity := { id := ⟨accountKey, "i"⟩, name := "", email := "a@b", replyTo := none, bcc := none }
    «to» := [⟨none, "c@d, e@f"⟩], cc := [], bcc := [⟨none, "g@h> NOTIFY=NEVER"⟩], subject := "Hi", body := ⟨"Hello", none⟩ }

def listRequest : NativeSmtpSubmitRequest where
  sessionId := "s"
  «from» := ⟨some "", "a@b"⟩
  «to» := [⟨none, "c@d, e@f"⟩]
  cc := []
  bcc := [⟨none, "g@h> NOTIFY=NEVER"⟩]
  replyTo := []
  subject := "Hi"
  body := .plain "Hello" none
  idempotencyKey := "k"

def listIntent (accountKey : Domain.AccountKey) : Domain.SendIntent :=
  { securityMode := .plain, identityId := ⟨accountKey, "i"⟩, «from» := Domain.emailAddress (some "") "a@b", replyTo := []
    «to» := [⟨none, "c@d, e@f"⟩], cc := [], bcc := [⟨none, "g@h> NOTIFY=NEVER"⟩], subject := "Hi", body := ⟨"Hello", none⟩ }

/-- Both the domain and the submission accept them; a reader finds two mailboxes for the one, and a server takes part of the
other for a parameter. -/
theorem addresses_misread : (∀ accountKey, Domain.sendIntent (listInput accountKey) = .ok (listIntent accountKey) ∧
      listRequest.to = (listIntent accountKey).to.map E2ee.nativeAddress ∧
      listRequest.bcc = (listIntent accountKey).bcc.map E2ee.nativeAddress) ∧
    ∃ built recipients, prepare "a@b" "Thu, 1 Jan 1970 00:00:00 +0000" listRequest = .ok (built, recipients) ∧
      readAddresses built.message "To" = some [.mailbox ⟨none, "c@d"⟩, .mailbox ⟨none, "e@f"⟩] ∧
      MailPath.readCommand "RCPT TO:".toList (rcptCommand "g@h> NOTIFY=NEVER").toList = some ⟨"g@h", ["NOTIFY=NEVER>"]⟩ ∧
      ¬ Meant "Thu, 1 Jan 1970 00:00:00 +0000" "a@b" listRequest built recipients := by
  refine ⟨fun accountKey => ⟨?_, rfl, rfl⟩, ?_⟩
  · have hwild : Domain.isWildcardIdentity (listInput accountKey).identity = false := by
      change "*@".toList.isPrefixOf "a@b".toList = false
      decide
    have husable : ∀ a ∈ [Domain.emailAddress (some "") "a@b", ⟨none, "c@d, e@f"⟩, ⟨none, "g@h> NOTIFY=NEVER"⟩], Domain.Usable a := by
      simp only [List.forall_mem_cons, ← Domain.assertUsableOutboundAddress_ok (u := ())]
      exact ⟨by decide, by decide, by decide, by simp⟩
    exact Domain.sendIntent_ok.2 ⟨hwild, rfl, by simp [listIntent], husable⟩
  cases hprepare : prepare "a@b" "Thu, 1 Jan 1970 00:00:00 +0000" listRequest with
  | ok r =>
    have hread : readAddresses r.1.message "To" = some [.mailbox ⟨none, "c@d"⟩, .mailbox ⟨none, "e@f"⟩] := by
      obtain ⟨-, hbuild, -⟩ := prepare_ok hprepare
      obtain ⟨heq, hunbroken⟩ := buildMessage_render hbuild
      rw [heq, readAddresses_render (hunbroken (by decide)) (by decide), valueOf_to]
      decide
    refine ⟨r.1, r.2, rfl, hread, by decide, fun hmeant => ?_⟩
    have hto := hmeant.fields.to
    rw [hread] at hto
    exact absurd hto (by decide)
  | error e =>
    have hok : (prepare "a@b" "Thu, 1 Jan 1970 00:00:00 +0000" listRequest).isOk = true := by decide +kernel
    rw [hprepare] at hok
    cases hok

end Boxplot.Net
