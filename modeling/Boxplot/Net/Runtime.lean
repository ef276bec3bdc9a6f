import Boxplot.Lib.Async
import Boxplot.Net.Message
/-!
# Sessions and their connections

`with_session_or` and `close` of `src-tauri/src/net/runtime.rs` for one session
id. The registry and the session each have their lock, and a call takes them in
small steps that other calls may come between. What an operation does on the
connection is left open: it may write commands, and ends with a value, an error
or a panic.
-/

namespace Boxplot.Net

open Lib

/-! ## The calls -/

inductive RuntimeCall
  /-- The session of the id, cloned from the registry. -/
  | lookUp (imap : Bool)
  /-- The session of the id, removed from the registry. -/
  | take
  | lock
  /-- The operation, on the IMAP connection or not. -/
  | operate (imap : Bool)
  | logout
  | unlock
  /-- Removes the session from the registry after an operation. -/
  | expire
  deriving DecidableEq, Repr

/-- Whether it is there, or could be locked; how the operation ended, `none` being a panic. -/
@[reducible] def RuntimeReply : RuntimeCall → Type
  | .lookUp _ | .take | .lock => Bool
  | .operate _ => Option (NetResult Unit)
  | .logout | .unlock | .expire => Unit

def mustExpire : NetResult Unit → Bool
  | .ok _ => false
  | .error e => e.session = .expire

/-- What a call on the runtime gives, unless it panics. -/
abbrev RuntimeProg := Prog RuntimeCall RuntimeReply (Option (NetResult Unit))

def withSessionOr (absent : NativeMailErrorDto) (imap : Bool) : RuntimeProg := do
  let found : Bool ← Prog.call (RuntimeCall.lookUp imap)
  if !found then pure (some (.error absent))
  else
    let locked : Bool ← Prog.call RuntimeCall.lock
    if !locked then pure (some (.error (.unavailable "native_session_poisoned")))
    else
      let ended : Option (NetResult Unit) ← Prog.call (RuntimeCall.operate imap)
      match ended with
      | none => pure none
      | some result =>
        Prog.call RuntimeCall.unlock
        if mustExpire result then Prog.call RuntimeCall.expire
        pure (some result)

def close : RuntimeProg := do
  let present : Bool ← Prog.call RuntimeCall.take
  if !present then pure (some (.error (.stateInvalid "native_session_absent")))
  else
    let locked : Bool ← Prog.call RuntimeCall.lock
    if locked then
      Prog.call RuntimeCall.logout
      Prog.call RuntimeCall.unlock
    pure (some (.ok ()))

/-! ## What happens on the connection -/

inductive ConnEvent
  /-- An operation wrote commands. -/
  | commands
  /-- An operation ended with an error after which the session must expire. -/
  | expired
  /-- The session was logged out, with a command. -/
  | loggedOut
  deriving DecidableEq, Repr

namespace ConnEvent

def writes : ConnEvent → Bool
  | commands | loggedOut => true
  | expired => false

def breaks : ConnEvent → Bool
  | commands => false
  | expired | loggedOut => true

end ConnEvent

/-- Nothing is written after the connection was broken or logged out. -/
def NeverReused (log : List ConnEvent) : Prop := log.Pairwise fun e e' => e.breaks = true → e'.writes = false

def Broken (log : List ConnEvent) : Prop := ∃ e ∈ log, e.breaks = true

structure RuntimeWorld where
  /-- Whether the registry has the session. -/
  registered : Bool
  /-- The call that has locked the session. -/
  holder : Option Nat
  /-- A call panicked while it had the session locked. -/
  poisoned : Bool
  log : List ConnEvent
  /-- The calls that have the session and will write on its connection. -/
  users : List Nat
  /-- The calls that will remove the session from the registry. -/
  expiring : List Nat
  deriving DecidableEq, Repr

def RuntimeWorld.opened : RuntimeWorld := ⟨true, none, false, [], [], []⟩

namespace RuntimeWorld

/-- The call will write no more. -/
def leave (w : RuntimeWorld) (t : Nat) : RuntimeWorld := { w with users := w.users.filter (· ≠ t) }

/-- The world after an operation that wrote, or did not, and ended. -/
def operated (w : RuntimeWorld) (t : Nat) (wrote : Bool) : Option (NetResult Unit) → RuntimeWorld
  | none => { w.leave t with holder := none, poisoned := true, log := w.log ++ if wrote then [.commands] else [] }
  | some result =>
    { w.leave t with
      log := w.log ++ (if wrote then [.commands] else []) ++ if mustExpire result then [.expired] else []
      expiring := if mustExpire result then t :: w.expiring else w.expiring }

/-- A step of call `t`. -/
def perform (w : RuntimeWorld) (t : Nat) : (e : RuntimeCall) → RuntimeReply e → RuntimeWorld → Prop
  | .lookUp imap, found, w' => found = w.registered ∧ w' = if found && imap then { w with users := t :: w.users } else w
  | .take, present, w' => present = w.registered ∧
      w' = { w with registered := false, users := if present then t :: w.users else w.users }
  | .lock, locked, w' => w.holder = none ∧ locked = !w.poisoned ∧ w' = if locked then { w with holder := some t } else w.leave t
  | .operate imap, result, w' => ∃ wrote, (wrote = true → imap = true) ∧ w' = w.operated t wrote result
  | .logout, _, w' => w' = { w.leave t with log := w.log ++ [.loggedOut] }
  | .unlock, _, w' => w' = { w with holder := none }
  | .expire, _, w' => w' = { w with registered := false, expiring := w.expiring.filter (· ≠ t) }

/-- The session breaks or is logged out only while no other call is to write on it, and nobody gets it from the registry while
it is about to be removed. -/
def Orderly (w : RuntimeWorld) (t : Nat) : (e : RuntimeCall) → RuntimeReply e → Prop
  | .lookUp imap, found => found = true → imap = true → w.expiring = []
  | .take, present => present = true → w.expiring = []
  | .operate _, some result => mustExpire result = true → ∀ u ∈ w.users, u = t
  | .logout, _ => ∀ u ∈ w.users, u = t
  | _, _ => True

end RuntimeWorld

instance (w : RuntimeWorld) (t : Nat) : (e : RuntimeCall) → (r : RuntimeReply e) → Decidable (w.Orderly t e r)
  | .lookUp imap, found => inferInstanceAs (Decidable (found = true → imap = true → w.expiring = []))
  | .take, present => inferInstanceAs (Decidable (present = true → w.expiring = []))
  | .operate _, some result => inferInstanceAs (Decidable (mustExpire result = true → ∀ u ∈ w.users, u = t))
  | .logout, _ => inferInstanceAs (Decidable (∀ u ∈ w.users, u = t))
  | .operate _, none | .lock, _ | .unlock, _ | .expire, _ => inferInstanceAs (Decidable True)

/-- Any number of operations and closes, with the steps that are allowed. -/
def runtimeSystem (allowed : RuntimeWorld → Nat → (e : RuntimeCall) → RuntimeReply e → Prop) :
    System RuntimeCall RuntimeReply (Option (NetResult Unit)) RuntimeWorld where
  perform w t e r w' := allowed w t e r ∧ w.perform t e r w'
  starts p := (∃ absent imap, p = withSessionOr absent imap) ∨ p = close
  env _ _ := False

/-! ## What a call may do -/

/-- Where a call stands: it does not have the session to write on it, or it does, or it has taken it from the registry to close
it. -/
inductive SessionStage
  | outside
  | writing
  | closing
  deriving DecidableEq

/-- Only a call that has the session writes on its connection. -/
def sessionContract : Contract RuntimeCall RuntimeReply SessionStage where
  may
    | s, .operate imap => imap = true → s = .writing
    | s, .logout => s = .closing
    | s, .lookUp _ | s, .take => s = .outside
    | _, _ => True
  step
    | s, .lookUp imap, found, s' => s' = if found && imap then .writing else s
    | s, .take, present, s' => s' = if present then .closing else s
    | s, .lock, locked, s' => s' = if locked then s else .outside
    | _, .operate _, _, s' => s' = .outside
    | _, .logout, _, s' => s' = .outside
    | s, .unlock, _, s' => s' = s
    | s, .expire, _, s' => s' = s

theorem wp_withSessionOr (absent : NativeMailErrorDto) (imap : Bool) :
    sessionContract.wp (withSessionOr absent imap) (fun _ _ => True) .outside := by
  refine ⟨rfl, fun found s hs => ?_⟩
  cases found with
  | false => trivial
  | true =>
    refine ⟨trivial, fun locked s₁ hs₁ => ?_⟩
    cases locked with
    | false => trivial
    | true =>
      obtain rfl : s₁ = s := hs₁
      -- a call that is to write has the session
      have hwriting : imap = true → s₁ = .writing := by
        rintro rfl
        exact hs
      refine ⟨hwriting, fun ended s₂ _ => ?_⟩
      cases ended with
      | none => trivial
      | some result =>
        refine ⟨trivial, fun _ s₃ _ => ?_⟩
        cases mustExpire result with
        | false => trivial
        | true => exact ⟨trivial, fun _ _ _ => trivial⟩

theorem wp_close : sessionContract.wp close (fun _ _ => True) .outside := by
  refine ⟨rfl, fun present s hs => ?_⟩
  cases present with
  | false => trivial
  | true =>
    refine ⟨trivial, fun locked s₁ hs₁ => ?_⟩
    cases locked with
    | false => trivial
    | true =>
      obtain rfl : s₁ = s := hs₁
      exact ⟨hs, fun _ s₂ _ => ⟨trivial, fun _ s₃ _ => trivial⟩⟩

/-! ## Orderly runs -/

theorem NeverReused.append {log log' : List ConnEvent} (h : NeverReused log) (h' : NeverReused log')
    (hlog : Broken log → ∀ e ∈ log', e.writes = false) : NeverReused (log ++ log') :=
  List.pairwise_append.2 ⟨h, h', fun e he e' he' hb => hlog ⟨e, he, hb⟩ e' he'⟩

theorem broken_append {log log' : List ConnEvent} : Broken (log ++ log') ↔ Broken log ∨ Broken log' := by
  simp only [Broken, List.mem_append]
  constructor
  · rintro ⟨e, he | he, hb⟩
    · exact .inl ⟨e, he, hb⟩
    · exact .inr ⟨e, he, hb⟩
  · rintro (⟨e, he, hb⟩ | ⟨e, he, hb⟩)
    · exact ⟨e, .inl he, hb⟩
    · exact ⟨e, .inr he, hb⟩

/-- A broken connection has no users, and comes to have none: whoever can still look it up sees that it is about to be
removed. -/
structure SessionInvariant (w : RuntimeWorld) (σ : Nat → Option SessionStage) : Prop where
  reused : NeverReused w.log
  broken : Broken w.log → w.users = [] ∧ (w.registered = true → w.expiring ≠ [])
  writing : ∀ t, σ t = some .writing → t ∈ w.users
  closing : ∀ t, σ t = some .closing → t ∈ w.users ∧ w.registered = false

theorem sessionInvariant_opened : SessionInvariant .opened fun _ => none where
  reused := .nil
  broken := by rintro ⟨e, he, -⟩; cases he
  writing := by rintro t ⟨⟩
  closing := by rintro t ⟨⟩

namespace SessionInvariant

variable {w w' : RuntimeWorld} {σ : Nat → Option SessionStage} {t : Nat} {s : SessionStage}

/-- A call that has the session is in a world where it works. -/
theorem not_broken (h : SessionInvariant w σ) (ht : t ∈ w.users) : ¬ Broken w.log := by
  intro hb
  rw [(h.broken hb).1] at ht
  cases ht

/-- A call moves to another stage; the others keep the session if they had it. -/
theorem move (h : SessionInvariant w σ) (o : Option SessionStage) (hreused : NeverReused w'.log)
    (hbroken : Broken w'.log → w'.users = [] ∧ (w'.registered = true → w'.expiring ≠ []))
    (hothers : ∀ u ∈ w.users, u ≠ t → u ∈ w'.users) (hregistered : w'.registered = true → w.registered = true)
    (hwriting : o = some .writing → t ∈ w'.users) (hclosing : o = some .closing → t ∈ w'.users ∧ w'.registered = false) :
    SessionInvariant w' (Function.update σ t o) where
  reused := hreused
  broken := hbroken
  writing u hu := by
    by_cases hut : u = t
    · subst hut
      rw [Function.update_self] at hu
      exact hwriting hu
    · rw [Function.update_of_ne hut] at hu
      exact hothers u (h.writing u hu) hut
  closing u hu := by
    by_cases hut : u = t
    · subst hut
      rw [Function.update_self] at hu
      exact hclosing hu
    · rw [Function.update_of_ne hut] at hu
      obtain ⟨hmem, hreg⟩ := h.closing u hu
      refine ⟨hothers u hmem hut, ?_⟩
      by_contra hne
      rw [hregistered (by simpa using hne)] at hreg
      cases hreg

/-- A call that does not have the session takes a step that changes neither the registry nor the connection. -/
theorem stay (h : SessionInvariant w σ) (o : Option SessionStage) (ho : o = some .outside ∨ o = none) :
    SessionInvariant w (Function.update σ t o) :=
  h.move o h.reused h.broken (fun _ hu _ => hu) id (by rcases ho with rfl | rfl <;> rintro ⟨⟩) (by rcases ho with rfl | rfl <;> rintro ⟨⟩)

/-- The others are still there when a call leaves. -/
theorem mem_leave {u : Nat} (hu : u ∈ w.users) (hne : u ≠ t) : u ∈ (w.leave t).users :=
  List.mem_filter.2 ⟨hu, by simpa using hne⟩

theorem leave_nil (h : ∀ u ∈ w.users, u = t) : (w.leave t).users = [] :=
  List.filter_eq_nil_iff.2 fun u hu => by simpa using h u hu

/-- What a step of call `t` leads to. -/
def Next (σ : Nat → Option SessionStage) (t : Nat) (s : SessionStage) (e : RuntimeCall) (r : RuntimeReply e) (w' : RuntimeWorld) :
    Prop :=
  ∃ s', sessionContract.step s e r s' ∧ SessionInvariant w' (Function.update σ t (some s'))

theorem lookUp (h : SessionInvariant w σ) {imap found : Bool} (ho : w.Orderly t (.lookUp imap) found)
    (hp : w.perform t (.lookUp imap) found w') : Next σ t .outside (.lookUp imap) found w' := by
  obtain ⟨rfl, rfl⟩ := hp
  by_cases hget : (w.registered && imap) = true
  · obtain ⟨hregistered, rfl⟩ := Bool.and_eq_true_iff.1 hget
    have hok : ¬ Broken w.log := fun hb => (h.broken hb).2 hregistered (ho hregistered rfl)
    refine ⟨.writing, by simp [sessionContract, hregistered], ?_⟩
    simp only [hregistered, Bool.and_self, if_true]
    exact h.move _ h.reused (fun hb => absurd hb hok) (fun u hu _ => List.mem_cons_of_mem _ hu) (fun _ => hregistered)
      (fun _ => List.mem_cons_self) (by rintro ⟨⟩)
  · refine ⟨.outside, (if_neg hget).symm, ?_⟩
    rw [if_neg hget]
    exact h.stay _ (.inl rfl)

theorem take (h : SessionInvariant w σ) {present : Bool} (ho : w.Orderly t .take present) (hp : w.perform t .take present w') :
    Next σ t .outside .take present w' := by
  obtain ⟨rfl, rfl⟩ := hp
  cases hregistered : w.registered with
  | true =>
    have hok : ¬ Broken w.log := fun hb => (h.broken hb).2 hregistered (ho hregistered)
    exact ⟨.closing, rfl, h.move _ h.reused (fun hb => absurd hb hok) (fun u hu _ => List.mem_cons_of_mem _ hu) (by rintro ⟨⟩)
      (by rintro ⟨⟩) fun _ => ⟨List.mem_cons_self, rfl⟩⟩
  | false =>
    refine ⟨.outside, rfl, h.move _ h.reused (fun hb => ⟨(h.broken hb).1, by rintro ⟨⟩⟩) (fun u hu _ => hu) (by rintro ⟨⟩)
      (by rintro ⟨⟩) (by rintro ⟨⟩)⟩

theorem lock (h : SessionInvariant w σ) {locked : Bool} (ht : σ t = some s) (hp : w.perform t .lock locked w') :
    Next σ t s .lock locked w' := by
  obtain ⟨-, -, rfl⟩ := hp
  cases locked with
  | true =>
    refine ⟨s, rfl, h.move _ h.reused h.broken (fun _ hu _ => hu) id ?_ ?_⟩
    · rintro ⟨⟩
      exact h.writing t ht
    · rintro ⟨⟩
      exact h.closing t ht
  | false =>
    have hbroken : Broken w.log → (w.leave t).users = [] := by
      intro hb
      rw [RuntimeWorld.leave, (h.broken hb).1]
      rfl
    exact ⟨.outside, rfl, h.move _ h.reused (fun hb => ⟨hbroken hb, (h.broken hb).2⟩) (fun _ hu hne => mem_leave hu hne) id
      (by rintro ⟨⟩) (by rintro ⟨⟩)⟩

/-- An operation writes on a connection that works, and if it breaks it, nobody else is to write on it. -/
theorem operate (h : SessionInvariant w σ) {imap : Bool} {result : Option (NetResult Unit)} (ht : σ t = some s)
    (hmay : sessionContract.may s (.operate imap)) (ho : w.Orderly t (.operate imap) result)
    (hp : w.perform t (.operate imap) result w') : Next σ t s (.operate imap) result w' := by
  obtain ⟨wrote, hwrote, rfl⟩ := hp
  refine ⟨.outside, rfl, ?_⟩
  have hworks : wrote = true → ¬ Broken w.log := by
    intro hw
    obtain rfl := hmay (hwrote hw)
    exact h.not_broken (h.writing t ht)
  -- what was written before it ended
  have hreused : NeverReused (w.log ++ if wrote then [.commands] else []) := by
    cases wrote with
    | false => simpa using h.reused
    | true => exact h.reused.append (List.pairwise_singleton _ _) fun hb => absurd hb (hworks rfl)
  have hsame : Broken (w.log ++ if wrote then [.commands] else []) → Broken w.log := by
    intro hb
    rcases broken_append.1 hb with hb | ⟨e, he, hbreaks⟩
    · exact hb
    · cases wrote with
      | false => cases he
      | true =>
        obtain rfl : e = .commands := List.mem_singleton.1 he
        cases hbreaks
  have hleave : Broken w.log → (w.leave t).users = [] := by
    intro hb
    rw [RuntimeWorld.leave, (h.broken hb).1]
    rfl
  cases result with
  | none =>
    exact h.move _ hreused (fun hb => ⟨hleave (hsame hb), (h.broken (hsame hb)).2⟩) (fun _ hu hne => mem_leave hu hne) id
      (by rintro ⟨⟩) (by rintro ⟨⟩)
  | some result =>
    cases hexpire : mustExpire result with
    | false =>
      simp only [RuntimeWorld.operated, hexpire, Bool.false_eq_true, if_false, List.append_nil]
      exact h.move _ hreused (fun hb => ⟨hleave (hsame hb), (h.broken (hsame hb)).2⟩) (fun _ hu hne => mem_leave hu hne) id
        (by rintro ⟨⟩) (by rintro ⟨⟩)
    | true =>
      have halone : (w.leave t).users = [] := leave_nil (ho hexpire)
      simp only [RuntimeWorld.operated, hexpire, if_true]
      refine h.move _ (hreused.append (List.pairwise_singleton _ _) ?_) (fun _ => ⟨halone, fun _ => List.cons_ne_nil _ _⟩)
        (fun _ hu hne => mem_leave hu hne) id (by rintro ⟨⟩) (by rintro ⟨⟩)
      intro _ e he
      rw [List.mem_singleton.1 he]
      rfl

theorem logout (h : SessionInvariant w σ) {u : Unit} (ht : σ t = some .closing) (ho : w.Orderly t .logout u)
    (hp : w.perform t .logout u w') : Next σ t .closing .logout u w' := by
  obtain rfl := hp
  obtain ⟨hmem, hregistered⟩ := h.closing t ht
  have halone : (w.leave t).users = [] := leave_nil ho
  refine ⟨.outside, rfl, h.move _ ?_ (fun _ => ⟨halone, fun hr => ?_⟩) (fun _ hu hne => mem_leave hu hne) id (by rintro ⟨⟩)
    (by rintro ⟨⟩)⟩
  · exact h.reused.append (List.pairwise_singleton _ _) fun hb => absurd hb (h.not_broken hmem)
  · -- it was taken from the registry
    change w.registered = true at hr
    rw [hregistered] at hr
    cases hr

theorem unlock (h : SessionInvariant w σ) {u : Unit} (ht : σ t = some s) (hp : w.perform t .unlock u w') :
    Next σ t s .unlock u w' := by
  obtain rfl := hp
  refine ⟨s, rfl, h.move _ h.reused h.broken (fun _ hu _ => hu) id ?_ ?_⟩
  · rintro ⟨⟩
    exact h.writing t ht
  · rintro ⟨⟩
    exact h.closing t ht

theorem expire (h : SessionInvariant w σ) {u : Unit} (ht : σ t = some s) (hp : w.perform t .expire u w') :
    Next σ t s .expire u w' := by
  obtain rfl := hp
  refine ⟨s, rfl, h.move _ h.reused (fun hb => ⟨(h.broken hb).1, by rintro ⟨⟩⟩) (fun _ hu _ => hu) (by rintro ⟨⟩) ?_ ?_⟩
  · rintro ⟨⟩
    exact h.writing t ht
  · rintro ⟨⟩
    exact ⟨(h.closing t ht).1, rfl⟩

/-- Every step keeps the invariant. -/
theorem call (h : SessionInvariant w σ) {e : RuntimeCall} {r : RuntimeReply e} (ht : σ t = some s) (hmay : sessionContract.may s e)
    (ho : w.Orderly t e r) (hp : w.perform t e r w') : Next σ t s e r w' := by
  cases e with
  | lookUp imap =>
    obtain rfl : s = .outside := hmay
    exact h.lookUp ho hp
  | take =>
    obtain rfl : s = .outside := hmay
    exact h.take ho hp
  | lock => exact h.lock ht hp
  | operate imap => exact h.operate ht hmay ho hp
  | logout =>
    obtain rfl : s = .closing := hmay
    exact h.logout ht ho hp
  | unlock => exact h.unlock ht hp
  | expire => exact h.expire ht hp

end SessionInvariant

/-- However operations and closes come between each other: where the session breaks only while no other call is to write on it,
and nobody gets it before it is removed, nothing is written on a broken connection. -/
theorem runtime_neverReused {c : Pool RuntimeCall RuntimeReply (Option (NetResult Unit)) RuntimeWorld}
    (h : (runtimeSystem RuntimeWorld.Orderly).Run (System.idle .opened) c) : NeverReused c.world.log := by
  have hI : (runtimeSystem RuntimeWorld.Orderly).Invariant sessionContract .outside .opened fun w _ σ => SessionInvariant w σ := by
    refine ⟨sessionInvariant_opened, ?_, ?_, ?_, ?_, ?_⟩
    · rintro p (⟨absent, imap, rfl⟩ | rfl)
      · exact wp_withSessionOr absent imap
      · exact wp_close
    · intro w w' n σ t s e r hw _ ht hmay hp
      exact hw.call ht hmay hp.1 hp.2
    · intro w n σ hw _
      exact hw.stay _ (.inl rfl)
    · intro w n σ t hw
      exact hw.stay _ (.inr rfl)
    · rintro w w' n σ _ ⟨⟩
  obtain ⟨σ, hσ, -⟩ := System.Run.sound hI h
  exact hσ.reused

/-! ## Two operations on one session -/

/-- An operation whose read timed out, and one that goes well. -/
def timedOut : Option (NetResult Unit) := some (.error (.unavailable "imap_read_failed"))

/-- The world answers; the operation of move `i` ends as `ends i` says, after writing a command. -/
def sampleAnswer (ends : Nat → Option (NetResult Unit)) (i : Nat) (w : RuntimeWorld) (t : Nat) :
    (e : RuntimeCall) → Option (RuntimeReply e × RuntimeWorld)
  | .lookUp imap => some (w.registered, if w.registered && imap then { w with users := t :: w.users } else w)
  | .take => some (w.registered, { w with registered := false, users := if w.registered then t :: w.users else w.users })
  | .lock => if w.holder = none then some (!w.poisoned, if !w.poisoned then { w with holder := some t } else w.leave t) else none
  | .operate imap => some (ends i, w.operated t imap (ends i))
  | .logout => some ((), { w.leave t with log := w.log ++ [.loggedOut] })
  | .unlock => some ((), { w with holder := none })
  | .expire => some ((), { w with registered := false, expiring := w.expiring.filter (· ≠ t) })

theorem sampleAnswer_performs (ends : Nat → Option (NetResult Unit)) {i : Nat} {w : RuntimeWorld} {t : Nat} {e : RuntimeCall}
    {r : RuntimeReply e} {w' : RuntimeWorld} (h : sampleAnswer ends i w t e = some (r, w')) : w.perform t e r w' := by
  cases e with
  | lock =>
    simp only [sampleAnswer] at h
    split at h
    · rename_i hfree
      cases h
      exact ⟨hfree, rfl, rfl⟩
    · cases h
  | operate imap =>
    cases h
    exact ⟨imap, id, rfl⟩
  | lookUp imap => cases h; exact ⟨rfl, rfl⟩
  | take => cases h; exact ⟨rfl, rfl⟩
  | logout | unlock | expire => cases h; rfl

/-- The same, where the step is orderly. -/
def orderlyAnswer (ends : Nat → Option (NetResult Unit)) (i : Nat) (w : RuntimeWorld) (t : Nat) (e : RuntimeCall) :
    Option (RuntimeReply e × RuntimeWorld) :=
  (sampleAnswer ends i w t e).filter fun rw => decide (w.Orderly t e rw.1)

/-- One operation times out, and its session is removed; another does not find it. -/
def oneAfterTheOther : List (System.Move RuntimeCall RuntimeReply (Option (NetResult Unit))) :=
  [.start (withSessionOr .sessionAbsent true), .start (withSessionOr .sessionAbsent true), .call 0, .call 0, .call 0, .call 0, .call 0,
    .call 1]

theorem runtime_neverReused_expired : ∃ c, (runtimeSystem RuntimeWorld.Orderly).Run (System.idle .opened) c ∧
    c.world.log = [.commands, .expired] ∧ NeverReused c.world.log := by
  have hplay : (System.playMoves (orderlyAnswer fun _ => timedOut) oneAfterTheOther 0 (System.idle .opened)).map (·.world.log) =
      some [.commands, .expired] := by decide +kernel
  obtain ⟨c, hc, hlog⟩ := Option.map_eq_some_iff.1 hplay
  have hstarts : ∀ p, .start p ∈ oneAfterTheOther → (runtimeSystem RuntimeWorld.Orderly).starts p := by
    intro p hp
    simp [oneAfterTheOther] at hp
    exact .inl ⟨_, _, hp⟩
  have hperforms : ∀ i w t e r w', orderlyAnswer (fun _ => timedOut) i w t e = some (r, w') →
      (runtimeSystem RuntimeWorld.Orderly).perform w t e r w' := by
    intro i w t e r w' h
    obtain ⟨hanswer, horderly⟩ := Option.filter_eq_some_iff.1 h
    exact ⟨of_decide_eq_true horderly, sampleAnswer_performs _ hanswer⟩
  have hrun := System.Run.of_moves hperforms hstarts hc
  exact ⟨c, hrun, hlog, runtime_neverReused hrun⟩

/-- The second operation has the session before the first ends. -/
def waitingMoves : List (System.Move RuntimeCall RuntimeReply (Option (NetResult Unit))) :=
  [.start (withSessionOr .sessionAbsent true), .start (withSessionOr .sessionAbsent true), .call 0, .call 1, .call 0, .call 0, .call 0,
    .call 1, .call 1]

/-- It writes on the connection that the first one left in the middle of a response. -/
theorem waiting_operation_reuses : ∃ c, (runtimeSystem fun _ _ _ _ => True).Run (System.idle .opened) c ∧
    c.world.log = [.commands, .expired, .commands] ∧ ¬ NeverReused c.world.log := by
  have hplay : (System.playMoves (sampleAnswer fun i => if i = 5 then timedOut else some (.ok ())) waitingMoves 0
      (System.idle .opened)).map (·.world.log) = some [.commands, .expired, .commands] := by decide +kernel
  obtain ⟨c, hc, hlog⟩ := Option.map_eq_some_iff.1 hplay
  have hstarts : ∀ p, .start p ∈ waitingMoves → (runtimeSystem fun _ _ _ _ => True).starts p := by
    intro p hp
    simp [waitingMoves] at hp
    exact .inl ⟨_, _, hp⟩
  have hperforms : ∀ i w t e r w', sampleAnswer (fun i => if i = 5 then timedOut else some (.ok ())) i w t e = some (r, w') →
      (runtimeSystem fun _ _ _ _ => True).perform w t e r w' := fun _ _ _ _ _ _ h => ⟨trivial, sampleAnswer_performs _ h⟩
  refine ⟨c, System.Run.of_moves hperforms hstarts hc, hlog, ?_⟩
  rw [hlog]
  simp [NeverReused, ConnEvent.breaks, ConnEvent.writes]

end Boxplot.Net
