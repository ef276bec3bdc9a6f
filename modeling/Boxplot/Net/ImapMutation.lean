import Boxplot.Net.ImapFraming
/-!
# What a failed mutation did

`store_flags` and `move_message` against any server, with reads and writes that
may fail anywhere. An error whose outcome is not unknown is one from before the
first mutating byte, or the server's refusal of the first mutating command.
-/

namespace Boxplot.Net

open Lib

/-! ## What is written, and what is read -/

/-- A command on the wire. -/
def commandLine (tag command : List UInt8) : List UInt8 := tag ++ [32] ++ command ++ [13, 10]

/-- Lines were read, with their literals, none of them with the tag. -/
inductive ReadUntagged (tag : List UInt8) : ImapWire → ImapWire → Prop
  | refl (c : ImapWire) : ReadUntagged tag c c
  | line {c c₁ c₂ c₃ : ImapWire} {text : List UInt8} {a a' : Accounts} {literal : Option (List UInt8)} :
      readBoundedTextLine c = .ok text c₁ → taggedWord tag text = none → readLiteralOf a text c₁ = .ok (literal, a') c₂ →
      ReadUntagged tag c₂ c₃ → ReadUntagged tag c c₃

/-- The first line with the tag, in what the server sent, says `NO` or `BAD`. -/
def Refused (tag : List UInt8) (c : ImapWire) : Prop :=
  ∃ c₁ c₂ text, ReadUntagged tag c c₁ ∧ readBoundedTextLine c₁ = .ok text c₂ ∧
    (taggedWord tag text = some (some (bytes "NO")) ∨ taggedWord tag text = some (some (bytes "BAD")))

/-- Nobody knows whether the command was applied. -/
def Unknown (e : NativeMailErrorDto) : Prop := e.outcome = .unknown ∧ e.retry = .reconcile

/-- The error says that nothing was applied. -/
def KnownNotApplied (e : NativeMailErrorDto) : Prop := e.outcome = .knownNotApplied

theorem unknown_mutationOutcome (e : NativeMailErrorDto) : Unknown (mutationOutcome e true) := ⟨rfl, rfl⟩

theorem keeps_readBoundedTextLine : Keeps ImapWire.sent readBoundedTextLine := by
  intro c
  unfold readBoundedTextLine
  split
  · rfl
  · split <;> rfl

theorem keeps_readLiteral (n : Nat) : Keeps ImapWire.sent (readLiteral n) := by
  intro c
  unfold readLiteral
  split <;> rfl

theorem keeps_ofNetResult {α : Type} (x : NetResult α) : Keeps ImapWire.sent (ofNetResult x) := by
  intro c
  cases x <;> rfl

theorem keeps_orOutcome {α : Type} {mutation : Bool} {x : Imap α} (h : Keeps ImapWire.sent x) :
    Keeps ImapWire.sent (orOutcome mutation x) :=
  h.tryCatch fun _ _ => rfl

theorem keeps_readLiteralOf (a : Accounts) (text : List UInt8) : Keeps ImapWire.sent (readLiteralOf a text) := by
  refine (keeps_ofNetResult _).bind fun length? => ?_
  cases length? with
  | none => exact fun _ => rfl
  | some length =>
    refine (keeps_ofNetResult _).bind fun a₁ => (keeps_readLiteral length).bind fun value =>
      keeps_readBoundedTextLine.bind fun trailer => (keeps_ofNetResult _).bind fun a₂ => ?_
    split
    · exact fun _ => rfl
    · exact fun _ => rfl

theorem keeps_responseLines (tag : List UInt8) (mutation : Bool) (fuel : Nat) (a : Accounts) (lines : List ResponseLine) :
    Keeps ImapWire.sent (responseLines tag mutation fuel a lines) := by
  induction fuel generalizing a lines with
  | zero => exact fun _ => rfl
  | succ fuel ih =>
    refine (keeps_orOutcome keeps_readBoundedTextLine).bind fun text => (keeps_orOutcome (keeps_ofNetResult _)).bind fun a₁ =>
      (keeps_orOutcome (keeps_readLiteralOf a₁ text)).bind fun r => ?_
    obtain ⟨literal, a₂⟩ := r
    dsimp only
    split
    · exact ih a₂ _
    · split
      · exact fun _ => rfl
      · split
        · exact fun _ => rfl
        · exact fun _ => rfl

/-! ## One mutating command -/

theorem orOutcome_eq_error {α : Type} {x : Imap α} {c c' : ImapWire} {e : NativeMailErrorDto} (h : orOutcome true x c = .error e c') :
    Unknown e := by
  rw [orOutcome, tryCatch_apply] at h
  split at h
  · cases h
  · cases h
    exact unknown_mutationOutcome _

/-- A response ends in an error: it is unknown, or the server refused. -/
theorem responseLines_error {tag : List UInt8} {fuel : Nat} {a : Accounts} {lines : List ResponseLine} {c c' : ImapWire}
    {e : NativeMailErrorDto} (h : responseLines tag true fuel a lines c = .error e c') :
    Unknown e ∨ KnownNotApplied e ∧ Refused tag c := by
  induction fuel generalizing a lines c with
  | zero =>
    cases h
    exact .inl (unknown_mutationOutcome _)
  | succ fuel ih =>
    rcases bind_eq_error.1 h with hline | ⟨text, c₁, hline, hrun₁⟩
    · exact .inl (orOutcome_eq_error hline)
    rcases bind_eq_error.1 hrun₁ with haccount | ⟨a₁, t, haccount, hrun₂⟩
    · exact .inl (orOutcome_eq_error haccount)
    obtain ⟨-, rfl⟩ := ofNetResult_eq_ok (orOutcome_eq_ok haccount)
    rcases bind_eq_error.1 hrun₂ with hliteral | ⟨⟨literal, a₂⟩, c₂, hliteral, hrun₃⟩
    · exact .inl (orOutcome_eq_error hliteral)
    have hread := orOutcome_eq_ok hline
    have hreadLiteral := orOutcome_eq_ok hliteral
    cases htag : taggedWord tag text with
    | none =>
      simp only [htag] at hrun₃
      -- an untagged line, and the rest of the response
      rcases ih hrun₃ with hunknown | ⟨hknown, d₁, d₂, text', huntagged, hlast, hword⟩
      · exact .inl hunknown
      · exact .inr ⟨hknown, d₁, d₂, text', .line hread htag hreadLiteral huntagged, hlast, hword⟩
    | some word =>
      simp only [htag] at hrun₃
      split at hrun₃
      · cases hrun₃
      · split at hrun₃
        · rename_i hword
          cases hrun₃
          refine .inr ⟨rfl, c, _, text, .refl c, hread, ?_⟩
          rw [htag]
          exact hword.imp (congrArg some) (congrArg some)
        · cases hrun₃
          exact .inl (unknown_mutationOutcome _)

theorem imapWrite_error {data : List UInt8} {e e' : NativeMailErrorDto} {c c' : ImapWire}
    (h : ImapWire.write data e c = .error e' c') : ∃ part, part <+: data ∧ c'.sent = c.sent ++ part := by
  unfold ImapWire.write at h
  split at h
  · cases h
  · cases h
  · cases h
    exact ⟨_, List.take_prefix _ _, rfl⟩

theorem imapWrite_ok {data : List UInt8} {e : NativeMailErrorDto} {c c' : ImapWire} {u : Unit} (h : ImapWire.write data e c = .ok u c') :
    c'.sent = c.sent ++ data ∧ c'.reader = c.reader ∧ c'.nextTag = c.nextTag := by
  unfold ImapWire.write at h
  split at h
  · cases h
    exact ⟨rfl, rfl, rfl⟩
  · cases h
    exact ⟨rfl, rfl, rfl⟩
  · cases h

/-- A command that cannot be written leaves a first part of it. -/
theorem writeImapCommand_error {tag command : List UInt8} {e e' : NativeMailErrorDto} {c c' : ImapWire}
    (h : writeImapCommand tag command e c = .error e' c') : ∃ part, part <+: commandLine tag command ∧ c'.sent = c.sent ++ part := by
  have hpart (done rest data part : List UInt8) (hline : commandLine tag command = done ++ data ++ rest) (hp : part <+: data) :
      done ++ part <+: commandLine tag command := by
    rw [hline]
    exact ((List.prefix_append_right_inj done).2 hp).trans (List.prefix_append _ _)
  rcases bind_eq_error.1 h with h₁ | ⟨u, c₁, h₁, hrun₁⟩
  · obtain ⟨part, hp, hsent⟩ := imapWrite_error h₁
    exact ⟨part, hpart [] ([32] ++ command ++ [13, 10]) tag part (by simp [commandLine]) hp, hsent⟩
  obtain ⟨hs₁, -, -⟩ := imapWrite_ok h₁
  rcases bind_eq_error.1 hrun₁ with h₂ | ⟨u, c₂, h₂, hrun₂⟩
  · obtain ⟨part, hp, hsent⟩ := imapWrite_error h₂
    exact ⟨tag ++ part, hpart tag (command ++ [13, 10]) [32] part (by simp [commandLine]) hp, by rw [hsent, hs₁, List.append_assoc]⟩
  obtain ⟨hs₂, -, -⟩ := imapWrite_ok h₂
  rcases bind_eq_error.1 hrun₂ with h₃ | ⟨u, c₃, h₃, hrun₃⟩
  · obtain ⟨part, hp, hsent⟩ := imapWrite_error h₃
    exact ⟨tag ++ [32] ++ part, hpart (tag ++ [32]) [13, 10] command part rfl hp, by rw [hsent, hs₂, hs₁]; simp⟩
  obtain ⟨hs₃, -, -⟩ := imapWrite_ok h₃
  rcases bind_eq_error.1 hrun₃ with h₄ | ⟨u, c₄, h₄, hrun₄⟩
  · obtain ⟨part, hp, hsent⟩ := imapWrite_error h₄
    exact ⟨tag ++ [32] ++ command ++ part, hpart (tag ++ [32] ++ command) [] [13, 10] part (by simp [commandLine]) hp,
      by rw [hsent, hs₃, hs₂, hs₁]; simp⟩
  obtain ⟨hs₄, -, -⟩ := imapWrite_ok h₄
  -- the flush comes last, and writes nothing
  obtain ⟨part, hp, hsent⟩ := imapWrite_error hrun₄
  obtain rfl := List.prefix_nil.1 hp
  exact ⟨commandLine tag command, List.prefix_rfl, by rw [hsent, hs₄, hs₃, hs₂, hs₁]; simp [commandLine]⟩

theorem writeImapCommand_sent {tag command : List UInt8} {e : NativeMailErrorDto} {c c' : ImapWire} {u : Unit}
    (h : writeImapCommand tag command e c = .ok u c') :
    c'.sent = c.sent ++ commandLine tag command ∧ c'.reader = c.reader ∧ c'.nextTag = c.nextTag := by
  obtain ⟨u₁, c₁, h₁, hrun₁⟩ := bind_eq_ok.1 h
  obtain ⟨u₂, c₂, h₂, hrun₂⟩ := bind_eq_ok.1 hrun₁
  obtain ⟨u₃, c₃, h₃, hrun₃⟩ := bind_eq_ok.1 hrun₂
  obtain ⟨u₄, c₄, h₄, hrun₄⟩ := bind_eq_ok.1 hrun₃
  obtain ⟨hs₁, hr₁, hn₁⟩ := imapWrite_ok h₁
  obtain ⟨hs₂, hr₂, hn₂⟩ := imapWrite_ok h₂
  obtain ⟨hs₃, hr₃, hn₃⟩ := imapWrite_ok h₃
  obtain ⟨hs₄, hr₄, hn₄⟩ := imapWrite_ok h₄
  obtain ⟨hs₅, hr₅, hn₅⟩ := imapWrite_ok hrun₄
  refine ⟨?_, ?_, ?_⟩
  · rw [hs₅, hs₄, hs₃, hs₂, hs₁]
    simp [commandLine]
  · rw [hr₅, hr₄, hr₃, hr₂, hr₁]
  · rw [hn₅, hn₄, hn₃, hn₂, hn₁]

/-- What a command sends: a first part of its line, or, when it is answered, all of it. -/
theorem commandWithOutcome_sent {command : List UInt8} {mutation : Bool} {c : ImapWire} : ∃ part,
    part <+: commandLine (tagOf c.nextTag) command ∧ (finalState (commandWithOutcome command mutation c)).sent = c.sent ++ part ∧
      ∀ lines c', commandWithOutcome command mutation c = .ok lines c' → part = commandLine (tagOf c.nextTag) command := by
  obtain ⟨c₀, htake, hsent₀⟩ : ∃ c₀, takeTag c = .ok (tagOf c.nextTag) c₀ ∧ c₀.sent = c.sent := ⟨_, rfl, rfl⟩
  rw [commandWithOutcome, bind_ok htake]
  cases hwrite : writeImapCommand (tagOf c.nextTag) command (.unavailable "imap_write_failed") c₀ with
  | error e c₁ =>
    obtain ⟨part, hp, hsent⟩ := writeImapCommand_error hwrite
    rw [bind_error (orOutcome_error hwrite)]
    refine ⟨part, hp, by rw [finalState_error, hsent, hsent₀], fun lines c' h => by cases h⟩
  | ok u c₁ =>
    obtain ⟨hsent, -, -⟩ := writeImapCommand_sent hwrite
    rw [bind_ok (orOutcome_ok hwrite)]
    refine ⟨_, List.prefix_rfl, ?_, fun _ _ _ => rfl⟩
    rw [keeps_responseLines _ _ _ _ _ c₁, hsent, hsent₀]

/-- A mutating command that fails: it is unknown what it did, or all of it was sent and the server refused it. -/
theorem mutationCommand_error {command : List UInt8} {c c' : ImapWire} {e : NativeMailErrorDto}
    (h : mutationCommand command c = .error e c') :
    Unknown e ∨ KnownNotApplied e ∧ c'.sent = c.sent ++ commandLine (tagOf c.nextTag) command ∧
      ∃ c₁ : ImapWire, c₁.reader = c.reader ∧ Refused (tagOf c.nextTag) c₁ := by
  obtain ⟨c₀, htake, hsent₀, hreader₀⟩ : ∃ c₀, takeTag c = .ok (tagOf c.nextTag) c₀ ∧ c₀.sent = c.sent ∧ c₀.reader = c.reader :=
    ⟨_, rfl, rfl, rfl⟩
  rw [mutationCommand, commandWithOutcome, bind_ok htake] at h
  rcases bind_eq_error.1 h with hwrite | ⟨u, c₁, hwrite, hrun⟩
  · exact .inl (orOutcome_eq_error hwrite)
  obtain ⟨hsent, hreader, -⟩ := writeImapCommand_sent (orOutcome_eq_ok hwrite)
  rcases responseLines_error hrun with hunknown | ⟨hknown, hrefused⟩
  · exact .inl hunknown
  refine .inr ⟨hknown, ?_, c₁, hreader.trans hreader₀, hrefused⟩
  rw [(keeps_responseLines _ _ _ _ _).error hrun, hsent, hsent₀]

/-! ## Errors before the mutation -/

theorem failsWith_readBoundedTextLine : FailsWith KnownNotApplied readBoundedTextLine := by
  intro c e c' h
  unfold readBoundedTextLine at h
  split at h
  · rename_i failure reader hread
    cases h
    cases failure <;> rfl
  · split at h
    · cases h
    · cases h
      rfl

theorem failsWith_readLiteral (n : Nat) : FailsWith KnownNotApplied (readLiteral n) := by
  intro c e c' h
  unfold readLiteral at h
  split at h
  · cases h
    rfl
  · cases h

theorem failsWith_ofNetResult {α : Type} {x : NetResult α} (h : ∀ e, x = .error e → KnownNotApplied e) :
    FailsWith KnownNotApplied (ofNetResult x) := by
  cases x with
  | ok a => exact failsWith_pure a
  | error e => exact failsWith_throw (h e rfl)

theorem accountResponseText_error {a : Accounts} {text : List UInt8} {e : NativeMailErrorDto} (h : accountResponseText a text = .error e) :
    KnownNotApplied e := by
  unfold accountResponseText at h
  split at h
  · cases h; rfl
  · split at h <;> cases h
    rfl

theorem accountLiteral_error {a : Accounts} {length : Nat} {e : NativeMailErrorDto} (h : accountLiteral a length = .error e) :
    KnownNotApplied e := by
  unfold accountLiteral at h
  split at h <;> cases h
  rfl

theorem parseLiteralLength_error {text : List UInt8} {e : NativeMailErrorDto} (h : parseLiteralLength text = .error e) :
    KnownNotApplied e := by
  unfold parseLiteralLength at h
  split at h
  · cases h
  · split at h
    · cases h
    · dsimp only at h
      split at h
      · cases h; rfl
      · split at h <;> cases h
        rfl

theorem quote_error {value : String} {e : NativeMailErrorDto} (h : quote value = .error e) : KnownNotApplied e := by
  unfold quote at h
  split at h <;> cases h
  rfl

theorem failsWith_readLiteralOf (a : Accounts) (text : List UInt8) : FailsWith KnownNotApplied (readLiteralOf a text) := by
  refine (failsWith_ofNetResult fun _ => parseLiteralLength_error).bind fun length? => ?_
  cases length? with
  | none => exact failsWith_pure _
  | some length =>
    refine (failsWith_ofNetResult fun _ => accountLiteral_error).bind fun a₁ => (failsWith_readLiteral length).bind fun value =>
      failsWith_readBoundedTextLine.bind fun trailer => (failsWith_ofNetResult fun _ => accountResponseText_error).bind fun a₂ => ?_
    split
    · exact failsWith_pure _
    · exact failsWith_throw rfl

/-- Where nothing is mutated, errors stay as they are. -/
theorem failsWith_orOutcome {α : Type} {x : Imap α} (h : FailsWith KnownNotApplied x) : FailsWith KnownNotApplied (orOutcome false x) :=
  h.tryCatch fun _ he => failsWith_throw he

theorem failsWith_responseLines (tag : List UInt8) (fuel : Nat) (a : Accounts) (lines : List ResponseLine) :
    FailsWith KnownNotApplied (responseLines tag false fuel a lines) := by
  induction fuel generalizing a lines with
  | zero => exact failsWith_throw rfl
  | succ fuel ih =>
    refine (failsWith_orOutcome failsWith_readBoundedTextLine).bind fun text =>
      (failsWith_orOutcome (failsWith_ofNetResult fun _ => accountResponseText_error)).bind fun a₁ =>
      (failsWith_orOutcome (failsWith_readLiteralOf a₁ text)).bind fun r => ?_
    obtain ⟨literal, a₂⟩ := r
    dsimp only
    split
    · exact ih a₂ _
    · split
      · exact failsWith_pure _
      · split
        · exact failsWith_throw rfl
        · exact failsWith_throw rfl

theorem failsWith_write (data : List UInt8) {e : NativeMailErrorDto} (he : KnownNotApplied e) :
    FailsWith KnownNotApplied (ImapWire.write data e) := by
  intro c e' c' h
  unfold ImapWire.write at h
  split at h
  · cases h
  · cases h
  · cases h
    exact he

theorem failsWith_imapCommand (command : List UInt8) : FailsWith KnownNotApplied (imapCommand command) := by
  have hwrite (data : List UInt8) := failsWith_write data (e := .unavailable "imap_write_failed") rfl
  refine FailsWith.bind (fun c e c' h => by cases h) fun tag => ?_
  refine (failsWith_orOutcome ?_).bind fun _ => failsWith_responseLines tag _ _ _
  exact (hwrite tag).bind fun _ => (hwrite [32]).bind fun _ => (hwrite command).bind fun _ => (hwrite [13, 10]).bind fun _ => hwrite []

/-- All errors of selecting the mailbox say that nothing was applied. -/
theorem failsWith_selectChecked (mailbox : String) (expectedUidValidity : UInt32) :
    FailsWith KnownNotApplied (selectChecked mailbox expectedUidValidity) := by
  refine FailsWith.bind ?_ fun uidValidity => ?_
  · refine (failsWith_ofNetResult fun _ => quote_error).bind fun quoted => (failsWith_imapCommand _).bind fun lines => ?_
    split
    · exact failsWith_pure _
    · exact failsWith_throw rfl
  · split
    · exact failsWith_throw rfl
    · exact failsWith_pure _

/-! ## What is sent before the mutation -/

/-- A mailbox whose name cannot be quoted is not asked for. -/
theorem selectChecked_unquoted {mailbox : String} {e : NativeMailErrorDto} (hquote : quote mailbox = .error e)
    (expectedUidValidity : UInt32) (c : ImapWire) : selectChecked mailbox expectedUidValidity c = .error e c := by
  have hselect : imapSelect mailbox c = .error e c := by
    rw [imapSelect, hquote]
    rfl
  rw [selectChecked, bind_error hselect]

/-- What selecting the mailbox sends: a first part of the command, or all of it when it is answered. -/
theorem selectChecked_sent {mailbox : String} {quoted : List UInt8} (hquote : quote mailbox = .ok quoted)
    (expectedUidValidity : UInt32) (c : ImapWire) : ∃ part, part <+: commandLine (tagOf c.nextTag) (selectCommand quoted) ∧
      (finalState (selectChecked mailbox expectedUidValidity c)).sent = c.sent ++ part ∧
      ∀ u c', selectChecked mailbox expectedUidValidity c = .ok u c' → part = commandLine (tagOf c.nextTag) (selectCommand quoted) := by
  obtain ⟨part, hpart, hsent, hall⟩ := @commandWithOutcome_sent (selectCommand quoted) false c
  refine ⟨part, hpart, ?_⟩
  have hquoted : (ofNetResult (quote mailbox) : Imap (List UInt8)) c = .ok quoted c := by
    rw [hquote]
    rfl
  cases hrun : imapCommand (selectCommand quoted) c with
  | error e c₁ =>
    have hselect : imapSelect mailbox c = .error e c₁ := by rw [imapSelect, bind_ok hquoted, bind_error hrun]
    rw [imapCommand] at hrun
    rw [hrun] at hsent
    rw [selectChecked, bind_error hselect]
    exact ⟨hsent, fun _ _ h => by cases h⟩
  | ok lines c₁ =>
    have hdone := hall lines c₁ hrun
    cases hfind : lines.findSome? (uidValidityOf ·.text) with
    | none =>
      have hselect : imapSelect mailbox c = .error (.protocol "imap_uidvalidity_missing") c₁ := by
        rw [imapSelect, bind_ok hquoted, bind_ok hrun, hfind]
        rfl
      rw [imapCommand] at hrun
      rw [hrun] at hsent
      rw [selectChecked, bind_error hselect]
      exact ⟨hsent, fun _ _ _ => hdone⟩
    | some uidValidity =>
      have hselect : imapSelect mailbox c = .ok uidValidity c₁ := by
        rw [imapSelect, bind_ok hquoted, bind_ok hrun, hfind]
        rfl
      rw [imapCommand] at hrun
      rw [hrun] at hsent
      rw [selectChecked, bind_ok hselect]
      refine ⟨?_, fun _ _ _ => hdone⟩
      split <;> exact hsent

/-! ## The mutations -/

/-- No byte of a mutating command went out. -/
def OnlySelected (mailbox : String) (c c' : ImapWire) : Prop :=
  c'.sent = c.sent ∨ ∃ quoted part, quote mailbox = .ok quoted ∧ part <+: commandLine (tagOf c.nextTag) (selectCommand quoted) ∧
    c'.sent = c.sent ++ part

/-- After the mailbox was selected one command went out, and the server refused it. -/
def OnlyRefused (mailbox : String) (expectedUidValidity : UInt32) (command : List UInt8) (c c' : ImapWire) : Prop :=
  ∃ quoted c₁ c₂, quote mailbox = .ok quoted ∧ selectChecked mailbox expectedUidValidity c = .ok () c₁ ∧
    c₁.sent = c.sent ++ commandLine (tagOf c.nextTag) (selectCommand quoted) ∧
    c'.sent = c₁.sent ++ commandLine (tagOf c₁.nextTag) command ∧ c₂.reader = c₁.reader ∧ Refused (tagOf c₁.nextTag) c₂

/-- What a mutation may end with: an unknown outcome to be reconciled, or one known not to be applied, and then no mutating
byte went out or the server refused the only mutating command, one of `commands`. -/
def Classified (mailbox : String) (expectedUidValidity : UInt32) (commands : List (List UInt8)) (e : NativeMailErrorDto)
    (c c' : ImapWire) : Prop :=
  Unknown e ∨ KnownNotApplied e ∧
    (OnlySelected mailbox c c' ∨ ∃ command ∈ commands, OnlyRefused mailbox expectedUidValidity command c c')

section

variable {mailbox : String} {expectedUidValidity : UInt32}

theorem classified_select {commands : List (List UInt8)} {e : NativeMailErrorDto} {c c' : ImapWire}
    (h : selectChecked mailbox expectedUidValidity c = .error e c') :
    Classified mailbox expectedUidValidity commands e c c' := by
  refine .inr ⟨failsWith_selectChecked mailbox expectedUidValidity c e c' h, .inl ?_⟩
  cases hquote : quote mailbox with
  | error e₁ =>
    rw [selectChecked_unquoted hquote] at h
    cases h
    exact .inl rfl
  | ok quoted =>
    obtain ⟨part, hpart, hsent, -⟩ := selectChecked_sent hquote expectedUidValidity c
    rw [h, finalState_error] at hsent
    exact .inr ⟨quoted, part, hquote, hpart, hsent⟩

/-- The mailbox was selected: all of the command was sent. -/
theorem selectChecked_ok {c c₁ : ImapWire} (h : selectChecked mailbox expectedUidValidity c = .ok () c₁) :
    ∃ quoted, quote mailbox = .ok quoted ∧ c₁.sent = c.sent ++ commandLine (tagOf c.nextTag) (selectCommand quoted) := by
  cases hquote : quote mailbox with
  | error e =>
    rw [selectChecked_unquoted hquote] at h
    cases h
  | ok quoted =>
    obtain ⟨part, -, hsent, hall⟩ := selectChecked_sent hquote expectedUidValidity c
    have hpart := hall () c₁ h
    rw [h, finalState_ok, hpart] at hsent
    exact ⟨quoted, rfl, hsent⟩

/-- The first mutating command after the mailbox was selected fails. -/
theorem classified_mutation {commands : List (List UInt8)} {command : List UInt8} {e : NativeMailErrorDto} {c c₁ c' : ImapWire}
    (hselect : selectChecked mailbox expectedUidValidity c = .ok () c₁) (hcommand : command ∈ commands)
    (h : mutationCommand command c₁ = .error e c') : Classified mailbox expectedUidValidity commands e c c' := by
  obtain ⟨quoted, hquote, hsent₁⟩ := selectChecked_ok hselect
  refine (mutationCommand_error h).imp id fun ⟨hknown, hsent, c₂, hreader, hrefused⟩ => ⟨hknown, .inr ⟨command, hcommand, ?_⟩⟩
  exact ⟨quoted, c₁, c₂, hquote, hselect, hsent₁, hsent, hreader, hrefused⟩

/-- After an operation that was applied all errors are unknown. -/
theorem storeOperations_applied {uid : UInt32} {operations : List (Bool × String)} {e : NativeMailErrorDto} {c c' : ImapWire}
    (h : storeOperations uid true operations c = .error e c') : Unknown e := by
  induction operations generalizing c with
  | nil => cases h
  | cons operation rest ih =>
    rcases bind_eq_error.1 h with hfirst | ⟨lines, c₁, -, hrest⟩
    · rw [tryCatch_apply] at hfirst
      split at hfirst
      · cases hfirst
      · cases hfirst
        exact ⟨rfl, rfl⟩
    · exact ih hrest

theorem storeFlags_error {uid : UInt32} {operations : List (Bool × String)} {e : NativeMailErrorDto} {c c' : ImapWire}
    (h : storeFlags mailbox expectedUidValidity uid operations c = .error e c') :
    Classified mailbox expectedUidValidity (operations.map (storeCommand uid)) e c c' := by
  rcases bind_eq_error.1 h with hselect | ⟨u, c₁, hselect, hrun⟩
  · exact classified_select hselect
  cases operations with
  | nil => cases hrun
  | cons operation rest =>
    rcases bind_eq_error.1 hrun with hfirst | ⟨lines, c₂, -, hrest⟩
    · rw [tryCatch_apply] at hfirst
      split at hfirst
      · cases hfirst
      · rename_i e₁ c₂ hcommand
        cases hfirst
        exact classified_mutation hselect (List.mem_map_of_mem List.mem_cons_self) hcommand
    · exact .inl (storeOperations_applied hrest)

theorem moveMessage_error {uid : UInt32} {destination : String} {e : NativeMailErrorDto} {c c' : ImapWire}
    (h : moveMessage mailbox expectedUidValidity uid destination c = .error e c') :
    Classified mailbox expectedUidValidity ((quote destination).toOption.toList.map (moveCommand uid)) e c c' := by
  rcases bind_eq_error.1 h with hselect | ⟨u, c₁, hselect, hrun⟩
  · exact classified_select hselect
  cases hquote : quote destination with
  | error e₁ =>
    rw [hquote] at hrun
    cases hrun
    obtain ⟨quoted, hquoted, hsent⟩ := selectChecked_ok hselect
    exact .inr ⟨quote_error hquote, .inl (.inr ⟨quoted, _, hquoted, List.prefix_rfl, hsent⟩)⟩
  | ok quoted =>
    rw [hquote] at hrun
    rcases bind_eq_error.1 hrun with hbad | ⟨quoted', c₂, hgood, hrun₂⟩
    · cases hbad
    obtain ⟨hq, rfl⟩ := ofNetResult_eq_ok hgood
    cases hq
    rcases bind_eq_error.1 hrun₂ with hcommand | ⟨lines, c₃, -, hrun₃⟩
    · exact classified_mutation hselect (by simp [Except.toOption]) hcommand
    · -- the message was moved, and nobody knows its new uid
      cases hcopied : copiedUid lines with
      | some destinationUid =>
        simp only [hcopied] at hrun₃
        cases hrun₃
      | none =>
        simp only [hcopied] at hrun₃
        cases hrun₃
        exact .inl (unknown_mutationOutcome _)

/-- Whatever the server sends and wherever a read or a write fails: an error is an unknown outcome to be reconciled, or it is
known not to be applied, and it is not. -/
theorem mutation_error {uid : UInt32} {e : NativeMailErrorDto} {c c' : ImapWire} :
    (∀ operations, storeFlags mailbox expectedUidValidity uid operations c = .error e c' →
      Classified mailbox expectedUidValidity (operations.map (storeCommand uid)) e c c') ∧
    ∀ destination, moveMessage mailbox expectedUidValidity uid destination c = .error e c' →
      Classified mailbox expectedUidValidity ((quote destination).toOption.toList.map (moveCommand uid)) e c c' :=
  ⟨fun _ => storeFlags_error, fun _ => moveMessage_error⟩

end

/-- The server selects the mailbox, and refuses the store. -/
def refusingWire : ImapWire where
  reader := ⟨[], [bytes "* OK [UIDVALIDITY 7] ok\r\nB0001 OK\r\nB00", bytes "02 NO read only\r\n"], .failed⟩
  faults := []
  sent := []
  nextTag := 1

theorem mutation_error_refused : ∃ e c', storeFlags "INBOX" 7 12 [(true, "\\Seen")] refusingWire = .error e c' ∧
    Classified "INBOX" 7 [storeCommand 12 (true, "\\Seen")] e refusingWire c' := by
  cases h : storeFlags "INBOX" 7 12 [(true, "\\Seen")] refusingWire with
  | ok u c' =>
    have hrun : (match storeFlags "INBOX" 7 12 [(true, "\\Seen")] refusingWire with
        | .ok _ _ => false
        | .error _ _ => true) = true := by decide +kernel
    rw [h] at hrun
    cases hrun
  | error e c' => exact ⟨e, c', rfl, mutation_error.1 _ h⟩

end Boxplot.Net
