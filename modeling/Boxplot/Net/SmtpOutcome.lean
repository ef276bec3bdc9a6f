import Boxplot.Net.Smtp
/-!
# What a failed submission says of the message

Before the message is begun no failure is ambiguous. From then on every failure
is, with one exception: a reply line that carries no code. `MalformedReply` is
that exception, and the only one.
-/

namespace Boxplot.Net

open Lib NativeMailErrorDto

/-! ## Replies -/

/-- The server's next reply comes, after continuation lines only, to a line without a code. -/
inductive MalformedReply : Conn → Prop
  | here {c c' : Conn} {line : List UInt8} : c.readLine = (.ok line, c') → line ≠ [] → lineCode line = none →
      MalformedReply c
  | later {c c' : Conn} {line : List UInt8} {code : Nat} : c.readLine = (.ok line, c') → lineCode line = some code →
      isContinuation line = true → MalformedReply c' → MalformedReply c

theorem lineCode_nil : lineCode [] = none := rfl

/-- A malformed reply is reported as a protocol error, whatever the caller's ambiguity. -/
theorem replyCode_malformed {c : Conn} (h : MalformedReply c) (ambiguous : Bool) : ∀ (fuel : Nat) (s : SmtpConn),
    s.conn = c → c.input.length < fuel → ∃ s', replyCode ambiguous fuel s = .error (protocol "smtp_response_invalid") s' := by
  induction h with
  | @here c c' line hr hne hcode =>
    rintro (- | fuel) s rfl hf
    · omega
    obtain ⟨b, bs, rfl⟩ : ∃ b bs, line = b :: bs := List.exists_cons_of_ne_nil hne
    refine ⟨{ s with conn := c' }, ?_⟩
    simp only [replyCode, hr, hcode]
  | @later c c' line code hr hcode hcont _ ih =>
    rintro (- | fuel) s rfl hf
    · omega
    obtain ⟨b, bs, rfl⟩ : ∃ b bs, line = b :: bs := by
      refine List.exists_cons_of_ne_nil ?_
      rintro rfl
      rw [lineCode_nil] at hcode; cases hcode
    have hlen := Conn.readLine_length hr
    simp only [List.length_cons] at hlen
    obtain ⟨s', hs'⟩ := ih fuel { s with conn := c' } rfl (by omega)
    refine ⟨s', ?_⟩
    simp only [replyCode, hr, hcode, hcont, if_true, hs']

/-- An ambiguous read fails ambiguously unless the reply is malformed. -/
theorem replyCode_error {fuel : Nat} {s s' : SmtpConn} {e : NativeMailErrorDto}
    (h : replyCode true fuel s = .error e s') : e.IsAmbiguous ∨ MalformedReply s.conn := by
  induction fuel generalizing s with
  | zero =>
    simp only [replyCode, EStateM.Result.error.injEq] at h
    exact .inl (h.1 ▸ ambiguous_isAmbiguous _)
  | succ fuel ih =>
    unfold replyCode at h
    split at h
    · simp only [EStateM.Result.error.injEq] at h
      exact .inl (h.1 ▸ ambiguous_isAmbiguous _)
    · simp only [EStateM.Result.error.injEq] at h
      exact .inl (h.1 ▸ ambiguous_isAmbiguous _)
    · rename_i b bs conn hr
      split at h
      · rename_i hcode
        exact .inr (.here hr (by simp) hcode)
      · rename_i code hcode
        split at h
        · rename_i hcont
          exact (ih h).imp id (.later hr hcode hcont)
        · cases h

/-- After the message, `expect_code` fails ambiguously exactly when the reply is not malformed. -/
theorem expectCode_ambiguous_iff (expected : Nat) (s : SmtpConn) :
    (∀ e s', expectCode expected true s = .error e s' → e.IsAmbiguous) ↔ ¬ MalformedReply s.conn := by
  constructor
  · intro h hm
    obtain ⟨s', hs'⟩ := replyCode_malformed hm true (s.conn.input.length + 1) s rfl (Nat.lt_succ_self _)
    have hread : readReply true s = .error (protocol "smtp_response_invalid") s' := hs'
    exact protocol_not_isAmbiguous _ (h _ s' (bind_error hread))
  · intro hm e s' h
    rcases bind_eq_error.1 h with h | ⟨code, t, -, h⟩
    · exact (replyCode_error h).resolve_right hm
    · split at h
      · cases h
      · simp only [if_true] at h
        cases h
        exact ambiguous_isAmbiguous _

/-! ## Before the message -/

theorem keeps_ofResult {α : Type} (r : NetResult α) : Keeps SmtpConn.payloadBegun (ofResult r) := by
  cases r with
  | ok a => exact keeps_pure a
  | error e => exact keeps_throw e

theorem keeps_connectPlain : Keeps SmtpConn.payloadBegun connectPlain := by
  intro s
  unfold connectPlain
  split <;> rfl

theorem keeps_connectTls : Keeps SmtpConn.payloadBegun connectTls := by
  intro s
  unfold connectTls
  split <;> rfl

theorem keeps_write (bytes : List UInt8) (e : NativeMailErrorDto) : Keeps SmtpConn.payloadBegun (write bytes e) := by
  intro s
  unfold write
  split <;> rfl

theorem keeps_writeSmtpCommand (text : String) (e : NativeMailErrorDto) :
    Keeps SmtpConn.payloadBegun (writeSmtpCommand text e) :=
  (keeps_write _ e).bind fun _ => (keeps_write _ e).bind fun _ => keeps_write _ e

theorem keeps_replyCode (ambiguous : Bool) (fuel : Nat) : Keeps SmtpConn.payloadBegun (replyCode ambiguous fuel) := by
  intro s
  induction fuel generalizing s with
  | zero => rfl
  | succ fuel ih =>
    unfold replyCode
    split
    · rfl
    · rfl
    · split
      · rfl
      · split
        · exact ih _
        · rfl

theorem keeps_expectCode (expected : Nat) (ambiguous : Bool) : Keeps SmtpConn.payloadBegun (expectCode expected ambiguous) := by
  refine Keeps.bind (fun s => keeps_replyCode _ _ s) fun code => ?_
  split
  · exact keeps_pure ()
  · exact keeps_throw _

theorem keeps_command (text : String) (expected : Nat) (ambiguous : Bool) :
    Keeps SmtpConn.payloadBegun (command text expected ambiguous) :=
  (keeps_writeSmtpCommand text _).bind fun _ => keeps_expectCode expected ambiguous

theorem keeps_authenticateXoauth2 (text : String) : Keeps SmtpConn.payloadBegun (authenticateXoauth2 text) := by
  refine (keeps_writeSmtpCommand text _).bind fun _ => Keeps.bind ?_ fun challenged => ?_
  · refine Keeps.bind (fun s => keeps_replyCode _ _ s) fun code => ?_
    split
    · exact keeps_pure true
    · split
      · exact keeps_pure false
      · exact keeps_throw _
  · split
    · exact (keeps_writeSmtpCommand "" _).bind fun _ => keeps_expectCode 235 false
    · exact keeps_pure ()

theorem keeps_rcptAll (recipients : List String) : Keeps SmtpConn.payloadBegun (rcptAll recipients) := by
  induction recipients with
  | nil => exact keeps_pure ()
  | cons recipient rest ih => exact (keeps_command _ 250 false).bind fun _ => ih

/-- Nothing before the message begins it. -/
theorem keeps_converse {authenticate : Smtp Unit} (h : Keeps SmtpConn.payloadBegun authenticate) (sender : String)
    (recipients : List String) : Keeps SmtpConn.payloadBegun (converse authenticate sender recipients) := by
  refine (keeps_expectCode 220 false).bind fun _ => (keeps_command _ 250 false).bind fun _ => ?_
  refine (Keeps.tryCatch h fun e => keeps_throw _).bind fun _ => (keeps_command _ 250 false).bind fun _ => ?_
  exact (keeps_rcptAll recipients).bind fun _ => keeps_command _ 354 false

/-! ## The message -/

theorem write_error {bytes : List UInt8} {e e' : NativeMailErrorDto} {s s' : SmtpConn}
    (h : write bytes e s = .error e' s') : e' = e := by
  unfold write at h
  split at h
  · cases h
  · cases h; rfl

theorem keeps_payloadWrites (wireMessage : List UInt8) : Keeps SmtpConn.payloadBegun (payloadWrites wireMessage) :=
  (keeps_write _ _).bind fun _ => (keeps_write _ _).bind fun _ => keeps_write _ _

/-- Writing the message fails ambiguously only. -/
theorem writePayload_error {wireMessage : List UInt8} {s s' : SmtpConn} {e : NativeMailErrorDto}
    (h : writePayload wireMessage s = .error e s') : e.IsAmbiguous := by
  unfold writePayload payloadWrites at h
  rcases bind_eq_error.1 h with h | ⟨-, t, -, h⟩
  · exact write_error h ▸ ambiguous_isAmbiguous _
  · rcases bind_eq_error.1 h with h | ⟨-, t, -, h⟩
    · exact write_error h ▸ ambiguous_isAmbiguous _
    · exact write_error h ▸ ambiguous_isAmbiguous _

/-! ## A whole submission -/

/-- If the message was begun, the error is ambiguous. -/
def PayloadErrorsAmbiguous {α : Type} : SmtpResult α → Prop
  | .ok _ _ => True
  | .error e s => s.payloadBegun = true → e.IsAmbiguous

instance {α : Type} (r : SmtpResult α) : Decidable (PayloadErrorsAmbiguous r) :=
  match r with
  | .ok _ _ => inferInstanceAs (Decidable True)
  | .error e s => inferInstanceAs (Decidable (s.payloadBegun = true → e.IsAmbiguous))

/-- Up to the end of the message, every failure once it was begun is ambiguous. -/
theorem transmit_error {connect authenticate : Smtp Unit} (hconnect : Keeps SmtpConn.payloadBegun connect)
    (hauth : Keeps SmtpConn.payloadBegun authenticate) {user date : String} {request : NativeSmtpSubmitRequest}
    {s s' : SmtpConn} {e : NativeMailErrorDto} (hs : s.payloadBegun = false)
    (h : transmit connect authenticate user date request s = .error e s') (hbegun : s'.payloadBegun = true) :
    e.IsAmbiguous := by
  have before : ∀ {t : SmtpConn}, t.payloadBegun = s.payloadBegun → t.payloadBegun = true → e.IsAmbiguous := by
    intro t ht hb
    rw [ht, hs] at hb; cases hb
  unfold transmit at h
  rcases bind_eq_error.1 h with h | ⟨⟨built, recipients⟩, t₁, h₁, h⟩
  · exact before ((keeps_ofResult _).error h) hbegun
  have k₁ := (keeps_ofResult _).ok h₁
  rcases bind_eq_error.1 h with h | ⟨_, t₂, h₂, h⟩
  · exact before ((hconnect.error h).trans k₁) hbegun
  have k₂ := (hconnect.ok h₂).trans k₁
  rcases bind_eq_error.1 h with h | ⟨_, t₃, h₃, h⟩
  · exact before (((keeps_converse hauth _ _).error h).trans k₂) hbegun
  rcases bind_eq_error.1 h with h | ⟨_, t₄, h₄, h⟩
  · exact writePayload_error h
  · cases h

/-- At the end of the message it was begun. -/
theorem transmit_ok {connect authenticate : Smtp Unit} {user date : String} {request : NativeSmtpSubmitRequest}
    {s s' : SmtpConn} {built : BuiltMessage} (h : transmit connect authenticate user date request s = .ok built s') :
    s'.payloadBegun = true := by
  unfold transmit at h
  obtain ⟨⟨built, recipients⟩, t₁, -, h⟩ := bind_eq_ok.1 h
  obtain ⟨-, t₂, -, h⟩ := bind_eq_ok.1 h
  obtain ⟨-, t₃, -, h⟩ := bind_eq_ok.1 h
  obtain ⟨_, t₄, h₄, h⟩ := bind_eq_ok.1 h
  cases h
  exact (keeps_payloadWrites (dotStuff built.message)).ok h₄

/-- Taking leave never fails: only the reply to the message does. -/
theorem concludes_error {built : BuiltMessage} {s s' : SmtpConn} {e : NativeMailErrorDto} :
    concludes built s = .error e s' ↔ expectCode 250 true s = .error e s' := by
  unfold concludes
  rw [bind_eq_error]
  refine or_iff_left ?_
  rintro ⟨-, t, -, h⟩
  rcases bind_eq_error.1 h with h | ⟨-, t', -, h⟩
  · rw [tryCatch_apply] at h
    split at h <;> cases h
  · cases h

/-- A submission in two parts: the failures of each are those of the whole. -/
theorem payload_iff {connect authenticate : Smtp Unit} (hconnect : Keeps SmtpConn.payloadBegun connect)
    (hauth : Keeps SmtpConn.payloadBegun authenticate) (user date : String) (request : NativeSmtpSubmitRequest)
    {s : SmtpConn} (hs : s.payloadBegun = false) :
    PayloadErrorsAmbiguous ((transmit connect authenticate user date request >>= concludes) s) ↔
      ∀ built s', transmit connect authenticate user date request s = .ok built s' → ¬ MalformedReply s'.conn := by
  rw [bind_apply]
  cases ht : transmit connect authenticate user date request s with
  | error e t => exact iff_of_true (fun hb => transmit_error hconnect hauth hs ht hb) (by simp)
  | ok built t =>
    have hbegun := transmit_ok ht
    have hiff : PayloadErrorsAmbiguous (concludes built t) ↔ ¬ MalformedReply t.conn := by
      rw [← expectCode_ambiguous_iff 250 t]
      constructor
      · intro h e s' he
        have hc : concludes built t = .error e s' := concludes_error.2 he
        rw [hc] at h
        exact h (by rw [(keeps_expectCode 250 true).error he, hbegun])
      · intro h
        cases hc : concludes built t with
        | ok a s' => trivial
        | error e s' => exact fun _ => h e s' (concludes_error.1 hc)
    simpa using hiff

/-- Once the message was begun, every failure of either way to submit is ambiguous, unless the
message was written and the reply to it is malformed. -/
theorem payload_errors_ambiguous_iff (user secret date : String) (request : NativeSmtpSubmitRequest)
    (connect : Option ConnectFailure) (conn : Conn) :
    (PayloadErrorsAmbiguous (submit user secret date request (.fresh connect conn)) ↔
      ∀ built s, submitPayload user secret date request (.fresh connect conn) = .ok built s → ¬ MalformedReply s.conn) ∧
    (PayloadErrorsAmbiguous (submitGmail user secret date request (.fresh connect conn)) ↔
      ∀ built s, submitGmailPayload user secret date request (.fresh connect conn) = .ok built s →
        ¬ MalformedReply s.conn) :=
  ⟨payload_iff keeps_connectPlain (keeps_command _ 235 false) user date request rfl,
    payload_iff keeps_connectTls (keeps_authenticateXoauth2 _) user date request rfl⟩

/-! ## The exception -/

def sampleRequest : NativeSmtpSubmitRequest where
  sessionId := "s"
  «from» := ⟨none, "a@b"⟩
  «to» := [⟨none, "c@d"⟩]
  cc := []
  bcc := []
  replyTo := []
  subject := "Hi"
  body := .plain "Hello" none
  idempotencyKey := "m1"

/-- A server that takes the message and answers it without a code. -/
def codelessServer : Conn where
  input := bytes "220 hi\r\n250 ok\r\n235 ok\r\n250 ok\r\n250 ok\r\n354 go\r\naccepted\r\n"
  tail := .closed
  faults := []
  sent := []

/-- The accepted message is reported as certainly not sent. -/
theorem codeless_reply_known_not_applied :
    ¬ PayloadErrorsAmbiguous (submit "a@b" "p" "Thu, 1 Jan 2026 00:00:00 +0000" sampleRequest (.fresh none codelessServer)) := by
  decide +kernel

end Boxplot.Net
