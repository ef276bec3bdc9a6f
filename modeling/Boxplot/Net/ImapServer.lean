import Boxplot.Net.ImapResponses
/-!
# A mail server shared with other clients

The mailboxes of an account as they change over time. UIDs are given in
increasing order and never again. Before each command of the connection the
other clients may change any mailboxes; the command is then answered truthfully,
as the mailboxes are at that instant, or goes wrong. The answer is lines of
text, and the connection gets what it reads of them.
-/

namespace Boxplot.Net

open Lib ImapText

/-! ## Mailboxes -/

structure ImapMessage where
  uid : UInt32
  flags : List String
  deriving DecidableEq, Repr

/-- New messages get uids from `uidNext` on. -/
structure ImapMailbox where
  uidValidity : UInt32
  uidNext : Nat
  messages : List ImapMessage
  deriving DecidableEq, Repr

namespace ImapMailbox

def uids (m : ImapMailbox) : List UInt32 := m.messages.map (·.uid)

def unseen (m : ImapMailbox) : Nat := (m.messages.filter fun x => "\\Seen" ∉ x.flags).length

inductive Change : ImapMailbox → ImapMailbox → Prop
  | append (m : ImapMailbox) (x : ImapMessage) (next : Nat) : m.uidNext ≤ x.uid.toNat → x.uid.toNat < next →
      Change m { m with messages := m.messages ++ [x], uidNext := next }
  | expunge (m : ImapMailbox) (kept : ImapMessage → Bool) : Change m { m with messages := m.messages.filter kept }
  | store (m : ImapMailbox) (flags : ImapMessage → List String) :
      Change m { m with messages := m.messages.map fun x => { x with flags := flags x } }

/-- Any number of changes. -/
abbrev Changes : ImapMailbox → ImapMailbox → Prop := Relation.ReflTransGen Change

/-- Uids are handed out once: if the next one is the same, messages were only removed. -/
theorem Changes.uids {m m' : ImapMailbox} (h : m.Changes m') : m'.uidValidity = m.uidValidity ∧ m.uidNext ≤ m'.uidNext ∧
    (m'.uidNext = m.uidNext → List.Sublist m'.uids m.uids) := by
  induction h with
  | refl => exact ⟨rfl, Nat.le_refl _, fun _ => List.Sublist.refl _⟩
  | @tail m₁ m₂ _ hc ih =>
    obtain ⟨hvalidity, hle, hsub⟩ := ih
    cases hc with
    | append x next hfresh hnext =>
      refine ⟨hvalidity, by dsimp only; omega, fun heq => ?_⟩
      dsimp only at heq
      omega
    | expunge kept => exact ⟨hvalidity, hle, fun heq => ((List.filter_sublist).map _).trans (hsub heq)⟩
    | store flags =>
      refine ⟨hvalidity, hle, fun heq => ?_⟩
      have huids : ImapMailbox.uids { m₁ with messages := m₁.messages.map fun x => { x with flags := flags x } } = m₁.uids := by
        simp [ImapMailbox.uids, Function.comp_def]
      rw [huids]
      exact hsub heq

/-- Between two instants with the same next uid and the same number of messages, the messages are the same. -/
theorem Changes.between {m₁ m m₂ : ImapMailbox} (h₁ : m₁.Changes m) (h₂ : m.Changes m₂) (hnext : m₂.uidNext = m₁.uidNext)
    (hcount : m₂.messages.length = m₁.messages.length) : m.uids = m₁.uids := by
  obtain ⟨-, hle₁, hsub₁⟩ := h₁.uids
  obtain ⟨-, hle₂, hsub₂⟩ := h₂.uids
  have hfirst := hsub₁ (by omega)
  have hsecond := hsub₂ (by omega)
  have hlen : m₂.uids.length = m₁.uids.length := by simpa [ImapMailbox.uids] using hcount
  exact hfirst.eq_of_length_le (hlen ▸ hsecond.length_le)

end ImapMailbox

/-- The mailboxes by name. -/
abbrev MailAccount := String → Option ImapMailbox

/-- At one instant any mailboxes change: a message that is moved is expunged here and appended there. -/
def MailAccount.Changes (a a' : MailAccount) : Prop := ∀ name, Option.Rel ImapMailbox.Changes (a name) (a' name)

theorem MailAccount.Changes.refl (a : MailAccount) : a.Changes a := by
  intro name
  cases a name with
  | none => exact .none
  | some m => exact .some .refl

theorem MailAccount.Changes.trans {a a' a'' : MailAccount} (h : a.Changes a') (h' : a'.Changes a'') : a.Changes a'' := by
  intro name
  have hn := h name
  have hn' := h' name
  revert hn hn'
  cases a name <;> cases a' name <;> cases a'' name <;> intro hn hn' <;> cases hn <;> cases hn'
  · exact .none
  · rename_i hc hc'
    exact .some (hc.trans hc')

theorem MailAccount.Changes.some {a a' : MailAccount} (h : a.Changes a') {name : String} {m : ImapMailbox} (hm : a name = some m) :
    ∃ m', a' name = some m' ∧ m.Changes m' := by
  have hn := h name
  rw [hm] at hn
  cases hn' : a' name with
  | none => rw [hn'] at hn; cases hn
  | some m' =>
    rw [hn'] at hn
    cases hn with
    | some hc => exact ⟨m', rfl, hc⟩

/-! ## Instants -/

/-- The mailboxes now and at all instants before, the mailbox the connection has selected, and the names that a listing
is to have. -/
structure ImapWorld where
  past : List MailAccount
  now : MailAccount
  selected : Option String
  listed : List String

namespace ImapWorld

def history (w : ImapWorld) : List MailAccount := w.past ++ [w.now]

/-- The number of the present instant. -/
def instant (w : ImapWorld) : Nat := w.past.length

/-- The mailboxes at an instant. -/
def At (w : ImapWorld) (i : Nat) (a : MailAccount) : Prop := w.history[i]? = some a

/-- The other clients change something. -/
inductive OthersStep : ImapWorld → ImapWorld → Prop
  | change (w : ImapWorld) (a : MailAccount) : w.now.Changes a → OthersStep w { w with past := w.history, now := a }

abbrev Others : ImapWorld → ImapWorld → Prop := Relation.ReflTransGen OthersStep

/-- Every instant follows from those before it by changes. -/
def Orderly (w : ImapWorld) : Prop := w.history.Pairwise MailAccount.Changes

/-- The later world has the same history, and more. -/
def Later (w w' : ImapWorld) : Prop := w.history <+: w'.history ∧ (w.Orderly → w'.Orderly) ∧ w'.listed = w.listed

variable {w w' w'' : ImapWorld}

theorem Later.refl (w : ImapWorld) : w.Later w := ⟨List.prefix_rfl, id, rfl⟩

theorem Later.trans (h : w.Later w') (h' : w'.Later w'') : w.Later w'' :=
  ⟨h.1.trans h'.1, fun ho => h'.2.1 (h.2.1 ho), h'.2.2.trans h.2.2⟩

theorem later_select (w : ImapWorld) (selected : Option String) : w.Later { w with selected } := ⟨List.prefix_rfl, id, rfl⟩

theorem Others.later (h : w.Others w') : w.Later w' := by
  induction h with
  | refl => exact .refl w
  | @tail w₁ w₂ _ hs ih =>
    refine ih.trans ?_
    cases hs with
    | change a hc =>
      refine ⟨List.prefix_append _ _, fun ho => ?_, rfl⟩
      refine List.pairwise_append.2 ⟨ho, List.pairwise_singleton _ _, fun b hb c hcmem => ?_⟩
      obtain rfl := List.mem_singleton.1 hcmem
      -- the last instant but one leads to the new one, and all before lead to that
      rcases List.mem_append.1 hb with hb | hb
      · exact ((List.pairwise_append.1 ho).2.2 b hb w₁.now (List.mem_singleton_self _)).trans hc
      · obtain rfl := List.mem_singleton.1 hb
        exact hc

theorem at_now (w : ImapWorld) : w.At w.instant w.now := by simp [At, history, instant]

theorem At.later {i : Nat} {a : MailAccount} (h : w.At i a) (hl : w.Later w') : w'.At i a := by
  obtain ⟨rest, hrest⟩ := hl.1
  unfold At at h ⊢
  rw [← hrest, List.getElem?_append_left (List.getElem?_eq_some_iff.1 h).1]
  exact h

theorem At.mailbox {i : Nat} {a : MailAccount} (h : w.At i a) (name : String) : (w.history.map (· name))[i]? = some (a name) := by
  rw [List.getElem?_map, show w.history[i]? = some a from h]
  rfl

theorem Later.instant_le (h : w.Later w') : w.instant ≤ w'.instant := by
  have hlen := h.1.length_le
  simp only [history, List.length_append, List.length_singleton] at hlen
  unfold instant
  omega

theorem At.le {i : Nat} {a : MailAccount} (h : w.At i a) : i ≤ w.instant := by
  have hlt := (List.getElem?_eq_some_iff.1 h).1
  simp only [history, List.length_append, List.length_singleton] at hlt
  unfold instant
  omega

theorem Orderly.changes (h : w.Orderly) {i j : Nat} {a b : MailAccount} (hij : i ≤ j) (ha : w.At i a) (hb : w.At j b) :
    a.Changes b := by
  obtain ⟨hi, rfl⟩ := List.getElem?_eq_some_iff.1 ha
  obtain ⟨hj, rfl⟩ := List.getElem?_eq_some_iff.1 hb
  rcases Nat.lt_or_eq_of_le hij with hlt | rfl
  · exact List.pairwise_iff_getElem.1 h i j hi hj hlt
  · exact .refl _

end ImapWorld

/-! ## Answers -/

/-- What the item says of the message is so. -/
def Tells (x : ImapMessage) : FetchItem → Prop
  | .uid n => n = x.uid
  | .flags flags _ => ∀ f, f ∈ flags ↔ f ∈ x.flags
  | .other _ => True

/-- The numbers are the mailbox's. -/
structure Counts (numbers : StatusNumbers) (m : ImapMailbox) : Prop where
  messages : numbers.messages.toNat = m.messages.length
  unseen : numbers.unseen.toNat = m.unseen
  uidNext : numbers.uidNext.toNat = m.uidNext
  uidValidity : numbers.uidValidity = m.uidValidity

/-- The lines tell how the mailbox is that the command is about. A listing has all names; any other line may be missing, and
lines may be of other messages than the command asks for. -/
def ImapWorld.Answers (w : ImapWorld) (lines : List ServerLine) : ImapCall → Prop
  | .select mailbox => ∃ m, w.now mailbox = some m
  | .list => ∀ mailbox ∈ w.listed, ∃ flags delimiter name written, .list flags delimiter mailbox name written ∈ lines
  | .status mailbox => ∃ m, w.now mailbox = some m ∧ ∀ name numbers order, .status name numbers order ∈ lines →
      order.Perm StatusItem.all ∧ Counts numbers m
  | .searchAll => ∃ m, w.selected.bind w.now = some m ∧ ∀ uids, .search uids ∈ lines → ∀ uid, uid ∈ uids ↔ uid ∈ m.uids
  | .fetch _ | .fetchFlags _ => ∃ m, w.selected.bind w.now = some m ∧ ∀ response, .fetch response ∈ lines →
      ∃ x ∈ m.messages, ∀ item ∈ response.items, Tells x item

/-- The mailbox that is selected after a command. -/
def ImapCall.selects (selected : Option String) : ImapCall → Option String
  | .select mailbox => some mailbox
  | _ => selected

/-- The other clients do something, and the command is answered or goes wrong. `allowed` restricts the answers. -/
def ImapWorld.perform (allowed : ImapCall → List ServerLine → Bool) (w : ImapWorld) (command : ImapCall) (r : ImapReply command)
    (w' : ImapWorld) : Prop :=
  ∃ w₁, w.Others w₁ ∧ ((∃ e, r = .error e) ∧ (w' = w₁ ∨ w' = { w₁ with selected := none }) ∨
    ∃ lines, r = .ok (lines.map fun line => readLine command line.line) ∧ w₁.Answers lines command ∧ allowed command lines = true ∧
      w' = { w₁ with selected := command.selects w₁.selected })

/-- Any truthful answer. -/
def anyAnswer (_ : ImapCall) (_ : List ServerLine) : Bool := true

theorem ImapWorld.Others.selected {w w' : ImapWorld} (h : w.Others w') : w'.selected = w.selected := by
  induction h with
  | refl => rfl
  | tail _ hs ih =>
    cases hs with
    | change a hc => exact ih

section

variable {allowed : ImapCall → List ServerLine → Bool}

/-- What is known after a command: the instants so far, and the answer to it. -/
theorem ImapWorld.perform_cases {w w' : ImapWorld} {command : ImapCall} {r : ImapReply command} (h : w.perform allowed command r w') :
    w.Later w' ∧ ((∃ e, r = .error e) ∨ ∃ lines, r = .ok (lines.map fun line => readLine command line.line) ∧
      w'.Answers lines command ∧ allowed command lines = true ∧ w'.selected = command.selects w.selected) := by
  obtain ⟨w₁, hothers, ⟨he, rfl | rfl⟩ | ⟨lines, hr, hanswers, hallowed, rfl⟩⟩ := h
  · exact ⟨hothers.later, .inl he⟩
  · exact ⟨hothers.later.trans (w₁.later_select none), .inl he⟩
  · refine ⟨hothers.later.trans (w₁.later_select _), .inr ⟨lines, hr, ?_, hallowed, ?_⟩⟩
    · cases command <;> exact hanswers
    · rw [← hothers.selected]

end

/-! ## A server that answers -/

namespace ImapWorld

/-- The numbers of the mailbox, if they are small enough. -/
def statusNumbers (m : ImapMailbox) : Option StatusNumbers :=
  if m.messages.length < 2 ^ 64 ∧ m.uidNext < 2 ^ 32 then
    some ⟨UInt64.ofNat m.messages.length, UInt64.ofNat m.unseen, UInt32.ofNat m.uidNext, m.uidValidity⟩
  else none

/-- The flags of a message, if they can be written. -/
def flagsItem (x : ImapMessage) : Option FetchItem :=
  if h : ∀ flag ∈ x.flags, IsFlagWord flag then some (.flags x.flags h) else none

/-- What is said of a message of the mailbox: its flags among other items. -/
def fetched (m : ImapMailbox) (literal : Option (List UInt8)) (before after : List FetchItem) (x : ImapMessage) : Option ServerLine :=
  (flagsItem x).map fun flags => .fetch ⟨UInt32.ofNat (m.messages.idxOf x + 1), before ++ flags :: after, literal⟩

def messageItems : List FetchItem :=
  [.other (bytes "INTERNALDATE \"01-Jan-2026 00:00:00 +0000\""), .other (bytes "RFC822.SIZE 0"), .other (bytes "BODY[] \x7b0\x7d")]

def announced (uidValidity : UInt32) : ServerLine :=
  .other ⟨bytes "* OK [UIDVALIDITY " ++ (decimalText uidValidity ++ bytes "]"), none⟩
    (startsWithBytes_false 3 (by decide_cbv) (by decide_cbv) (by decide_cbv) _)
    (startsWithBytes_false 3 (by decide_cbv) (by decide_cbv) (by decide_cbv) _)

/-- The lines for a command. Before the flags that are asked for come those of such other messages. -/
def lines (also : ImapMessage → Bool) (w : ImapWorld) : ImapCall → Option (List ServerLine)
  | .select mailbox => (w.now mailbox).map fun m => [announced m.uidValidity]
  | .list => some (w.listed.map fun mailbox => .list [] (some '/') mailbox (ImapText.quotedText mailbox) (.inl rfl))
  | .status mailbox => do
    let m ← w.now mailbox
    let numbers ← statusNumbers m
    some [.status (ImapText.quotedText mailbox) numbers StatusItem.all]
  | .searchAll => (w.selected.bind w.now).map fun m => [.search m.uids]
  | .fetch uid => do
    let m ← w.selected.bind w.now
    (m.messages.filter (·.uid = uid)).mapM fun x => fetched m (some []) [.uid x.uid] messageItems x
  | .fetchFlags uid => do
    let m ← w.selected.bind w.now
    let others ← (m.messages.filter fun x => x.uid ≠ uid && also x).mapM (fetched m none [] [])
    let asked ← (m.messages.filter (·.uid = uid)).mapM fun x => fetched m none [.uid x.uid] [] x
    some (others ++ asked)

/-- The command is answered, after the other clients did what they did. -/
def serve (allowed : ImapCall → List ServerLine → Bool) (also : ImapMessage → Bool) (others : ImapCall → ImapWorld → ImapWorld)
    (w : ImapWorld) (command : ImapCall) : Option (ImapReply command × ImapWorld) :=
  let w := others command w
  some (match w.lines also command with
    | none => (.error (.rejected "imap_command_rejected"), w)
    | some lines =>
      if allowed command lines then
        (.ok (lines.map fun line => readLine command line.line), { w with selected := command.selects w.selected })
      else (.error (.rejected "imap_command_rejected"), w))

theorem counts_statusNumbers {m : ImapMailbox} {numbers : StatusNumbers} (h : statusNumbers m = some numbers) : Counts numbers m := by
  unfold statusNumbers at h
  split at h
  · rename_i hsmall
    cases h
    have hunseen : m.unseen ≤ m.messages.length := List.length_filter_le _ _
    refine ⟨UInt64.toNat_ofNat_of_lt' hsmall.1, UInt64.toNat_ofNat_of_lt' ?_, UInt32.toNat_ofNat_of_lt' hsmall.2, rfl⟩
    exact Nat.lt_of_le_of_lt hunseen hsmall.1
  · cases h

theorem fetched_tells {m : ImapMailbox} {literal : Option (List UInt8)} {before after : List FetchItem} {x : ImapMessage}
    {line : ServerLine} (h : fetched m literal before after x = some line) (hbefore : ∀ item ∈ before, Tells x item)
    (hafter : ∀ item ∈ after, Tells x item) : ∀ response, line = .fetch response → ∀ item ∈ response.items, Tells x item := by
  obtain ⟨flags, hflags, rfl⟩ := Option.map_eq_some_iff.1 h
  rintro _ ⟨⟩ item hitem
  unfold flagsItem at hflags
  split at hflags
  · cases hflags
    rcases List.mem_append.1 hitem with hitem | hitem
    · exact hbefore item hitem
    · rcases List.mem_cons.1 hitem with rfl | hitem
      · exact fun _ => Iff.rfl
      · exact hafter item hitem
  · cases hflags

theorem lines_answer {also : ImapMessage → Bool} {w : ImapWorld} {command : ImapCall} {lines : List ServerLine}
    (h : w.lines also command = some lines) : w.Answers lines command := by
  -- each line is of one of the messages it is made for
  have hfetched (m : ImapMailbox) (literal : Option (List UInt8)) (before : ImapMessage → List FetchItem) (after : List FetchItem)
      (hbefore : ∀ x, ∀ item ∈ before x, Tells x item) (hafter : ∀ x, ∀ item ∈ after, Tells x item) (p : ImapMessage → Bool)
      (lines : List ServerLine) (hlines : ((m.messages.filter p).mapM fun x => fetched m literal (before x) after x) = some lines)
      (response : FetchResponse) (hresponse : .fetch response ∈ lines) : ∃ x ∈ m.messages, ∀ item ∈ response.items, Tells x item := by
    obtain ⟨x, hx, hline⟩ := exists_of_forall₂ (mapM_eq_some_iff.1 hlines).flip hresponse
    exact ⟨x, (List.mem_filter.1 hx).1, fetched_tells hline (hbefore x) (hafter x) response rfl⟩
  have huid (x : ImapMessage) : ∀ item ∈ [FetchItem.uid x.uid], Tells x item := by
    intro item hitem
    obtain rfl := List.mem_singleton.1 hitem
    rfl
  have hnone (x : ImapMessage) : ∀ item ∈ ([] : List FetchItem), Tells x item := fun _ hitem => absurd hitem List.not_mem_nil
  cases command with
  | select mailbox =>
    obtain ⟨m, hm, -⟩ := Option.map_eq_some_iff.1 h
    exact ⟨m, hm⟩
  | list =>
    obtain rfl := Option.some.inj h
    exact fun mailbox hmailbox => ⟨_, _, _, _, List.mem_map_of_mem hmailbox⟩
  | status mailbox =>
    obtain ⟨m, hm, h⟩ := Option.bind_eq_some_iff.1 h
    obtain ⟨numbers, hnumbers, h⟩ := Option.bind_eq_some_iff.1 h
    obtain rfl := Option.some.inj h
    refine ⟨m, hm, fun name numbers' order hline => ?_⟩
    cases List.mem_singleton.1 hline
    exact ⟨.refl _, counts_statusNumbers hnumbers⟩
  | searchAll =>
    obtain ⟨m, hm, rfl⟩ := Option.map_eq_some_iff.1 h
    refine ⟨m, hm, fun uids huids => ?_⟩
    cases List.mem_singleton.1 huids
    exact fun _ => Iff.rfl
  | fetch uid =>
    obtain ⟨m, hm, hlines⟩ := Option.bind_eq_some_iff.1 h
    have hitems : ∀ x, ∀ item ∈ messageItems, Tells x item := by
      simp [messageItems, Tells]
    exact ⟨m, hm, hfetched m (some []) (fun x => [.uid x.uid]) messageItems huid hitems _ lines hlines⟩
  | fetchFlags uid =>
    obtain ⟨m, hm, h⟩ := Option.bind_eq_some_iff.1 h
    obtain ⟨others, hothers, h⟩ := Option.bind_eq_some_iff.1 h
    obtain ⟨asked, hasked, h⟩ := Option.bind_eq_some_iff.1 h
    obtain rfl := Option.some.inj h
    refine ⟨m, hm, fun response hresponse => ?_⟩
    rcases List.mem_append.1 hresponse with hresponse | hresponse
    · exact hfetched m none (fun _ => []) [] hnone hnone _ others hothers response hresponse
    · exact hfetched m none (fun x => [.uid x.uid]) [] huid hnone _ asked hasked response hresponse

theorem serve_performs {allowed : ImapCall → List ServerLine → Bool} {also : ImapMessage → Bool}
    {others : ImapCall → ImapWorld → ImapWorld} (hothers : ∀ command, ∀ w : ImapWorld, w.Others (others command w)) (w : ImapWorld)
    (command : ImapCall) (r : ImapReply command) (w' : ImapWorld) (h : w.serve allowed also others command = some (r, w')) :
    w.perform allowed command r w' := by
  refine ⟨others command w, hothers command w, ?_⟩
  unfold serve at h
  cases hlines : (others command w).lines also command with
  | none =>
    simp only [hlines] at h
    cases h
    exact .inl ⟨⟨_, rfl⟩, .inl rfl⟩
  | some lines =>
    simp only [hlines] at h
    split at h
    · rename_i hallowed
      cases h
      exact .inr ⟨lines, rfl, lines_answer hlines, hallowed, rfl⟩
    · cases h
      exact .inl ⟨⟨_, rfl⟩, .inl rfl⟩

/-- The mailbox is changed. -/
def put (mailbox : String) (m : ImapMailbox) (w : ImapWorld) : ImapWorld :=
  { w with past := w.history, now := Function.update w.now mailbox (some m) }

theorem put_others {mailbox : String} {w : ImapWorld} {m m' : ImapMailbox} (hm : w.now mailbox = some m) (hc : m.Changes m') :
    w.Others (w.put mailbox m') := by
  refine .single (.change w _ fun name => ?_)
  by_cases hname : name = mailbox
  · subst hname
    rw [hm, Function.update_self]
    exact .some hc
  · rw [Function.update_of_ne hname]
    exact MailAccount.Changes.refl w.now name

/-- A message arrives in the mailbox, if there is such a mailbox and a uid for it. -/
def deliver (mailbox : String) (w : ImapWorld) : ImapWorld :=
  match w.now mailbox with
  | some m =>
    if m.uidNext < 2 ^ 32 then
      w.put mailbox { m with messages := m.messages ++ [⟨UInt32.ofNat m.uidNext, []⟩], uidNext := m.uidNext + 1 }
    else w
  | none => w

theorem deliver_others (mailbox : String) (w : ImapWorld) : w.Others (w.deliver mailbox) := by
  unfold deliver
  split
  · rename_i m hm
    split
    · rename_i hlt
      have huid : (UInt32.ofNat m.uidNext).toNat = m.uidNext := UInt32.toNat_ofNat_of_lt' hlt
      exact put_others hm (.single (.append m ⟨UInt32.ofNat m.uidNext, []⟩ _ (by rw [huid]) (by rw [huid]; omega)))
    · exact .refl
  · exact .refl

/-- The messages of the mailbox get other flags. -/
def store (mailbox : String) (flags : ImapMessage → List String) (w : ImapWorld) : ImapWorld :=
  match w.now mailbox with
  | some m => w.put mailbox { m with messages := m.messages.map fun x => { x with flags := flags x } }
  | none => w

theorem store_others (mailbox : String) (flags : ImapMessage → List String) (w : ImapWorld) : w.Others (w.store mailbox flags) := by
  unfold store
  split
  · rename_i m hm
    exact put_others hm (.single (.store m flags))
  · exact .refl

end ImapWorld

end Boxplot.Net
