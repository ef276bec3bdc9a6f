import Boxplot.Lib.Utf8
import Boxplot.E2ee.KeyStore
/-!
# Wiping the key store

A reset finds the slots to delete in the index, so a secret it can delete is one
whose slot is listed. A session of the store keeps to that exactly where no
operation that has written a secret to a slot not yet listed is stopped, by an
error or by a crash, before it has written the index.
-/

namespace Boxplot.E2ee

open Lib

/-! ## What the calls of an operation write -/

abbrev Calls := List (Sigma KeyringCall.Reply)

/-- The secret was written to the slot. -/
def Wrote (calls : Calls) (slot : String) (value : List UInt8) : Prop :=
  (⟨.setSecret slot value, .ok ()⟩ : Sigma KeyringCall.Reply) ∈ calls

theorem wrote_set {calls : Calls} {slot slot' : String} {value value' : List UInt8} :
    Wrote (calls ++ [⟨.setSecret slot value, .ok ()⟩]) slot' value' ↔ Wrote calls slot' value' ∨ slot' = slot ∧ value' = value := by
  unfold Wrote
  rw [List.mem_append, List.mem_singleton]
  refine or_congr Iff.rfl ⟨fun h => ?_, ?_⟩
  · cases h
    exact ⟨rfl, rfl⟩
  · rintro ⟨rfl, rfl⟩
    rfl

/-- The same secrets were written. -/
def SameWrites (calls calls' : Calls) : Prop := ∀ slot value, Wrote calls' slot value ↔ Wrote calls slot value

theorem SameWrites.refl (calls : Calls) : SameWrites calls calls := fun _ _ => Iff.rfl

theorem SameWrites.trans {a b c : Calls} (hab : SameWrites a b) (hbc : SameWrites b c) : SameWrites a c :=
  fun slot value => (hbc slot value).trans (hab slot value)

theorem sameWrites_snoc {calls : Calls} {c : Sigma KeyringCall.Reply} (h : ∀ slot value, c ≠ ⟨.setSecret slot value, .ok ()⟩) :
    SameWrites calls (calls ++ [c]) := by
  intro slot value
  unfold Wrote
  rw [List.mem_append, List.mem_singleton]
  exact or_iff_left fun heq => h slot value heq.symm

/-! ## One call -/

section

variable {I : Keyring × Calls → Prop} {w : Keyring} {calls : Calls}

theorem lock_wp {Q : Result Unit → Keyring × Calls → Prop} (hI : I (w, calls))
    (hQ : ∀ calls' r, SameWrites calls calls' → Q r (w, calls')) : (keeps (logged Keyring.Answers) I).wpA lock Q (w, calls) := by
  unfold lock
  rw [Contract.wpA_bind]
  refine ⟨hI, ?_⟩
  rintro r ⟨w', calls'⟩ ⟨hw, rfl⟩
  cases hw
  have hsame : SameWrites calls (calls ++ [⟨.lock, r⟩]) := sameWrites_snoc (by rintro _ _ ⟨⟩)
  cases r with
  | ok _ => exact hQ _ _ hsame
  | error _ => exact hQ _ _ hsame

theorem entry_wp {slot : String} {Q : Result Unit → Keyring × Calls → Prop} (hI : I (w, calls))
    (hQ : ∀ calls' r, SameWrites calls calls' → Q r (w, calls')) :
    (keeps (logged Keyring.Answers) I).wpA (entry slot) Q (w, calls) := by
  unfold entry
  rw [Contract.wpA_bind]
  refine ⟨hI, ?_⟩
  rintro r ⟨w', calls'⟩ ⟨hw, rfl⟩
  cases hw
  have hsame : SameWrites calls (calls ++ [⟨.build slot, r⟩]) := sameWrites_snoc (by rintro _ _ ⟨⟩)
  cases r with
  | ok _ => exact hQ _ _ hsame
  | error _ => exact hQ _ _ hsame

theorem setSecret_wp {slot : String} {value : List UInt8} {Q : Result Unit → Keyring × Calls → Prop} (hI : I (w, calls))
    (hok : ∀ calls', (∀ s v, Wrote calls' s v ↔ Wrote calls s v ∨ s = slot ∧ v = value) →
      Q (.ok ()) (Function.update w slot (some value), calls'))
    (herror : ∀ calls' error, SameWrites calls calls' → Q (.error error) (w, calls')) :
    (keeps (logged Keyring.Answers) I).wpA (setSecret slot value) Q (w, calls) := by
  unfold setSecret
  rw [Contract.wpA_bind]
  refine ⟨hI, ?_⟩
  rintro r ⟨w', calls'⟩ ⟨hw, rfl⟩
  cases r with
  | ok _ =>
    cases hw
    exact hok _ fun _ _ => wrote_set
  | error _ =>
    cases hw
    exact herror _ _ (sameWrites_snoc (by rintro _ _ ⟨⟩))

/-- What a slot is found to hold, it holds. -/
theorem loadSlot_wp {slot : String} {Q : Result (Option (List UInt8)) → Keyring × Calls → Prop}
    (hI : ∀ calls', SameWrites calls calls' → I (w, calls'))
    (hok : ∀ calls', SameWrites calls calls' → Q (.ok (w slot)) (w, calls'))
    (herror : ∀ calls' error, SameWrites calls calls' → Q (.error error) (w, calls')) :
    (keeps (logged Keyring.Answers) I).wpA (loadSlot slot) Q (w, calls) := by
  unfold loadSlot
  rw [Contract.wpA_bind]
  refine entry_wp (hI _ (.refl calls)) fun calls₁ r h₁ => ?_
  cases r with
  | error error => exact herror _ _ h₁
  | ok _ =>
    rw [Contract.andThen_ok, Contract.wpA_bind]
    refine ⟨hI _ h₁, ?_⟩
    rintro r ⟨w', calls'⟩ ⟨hw, rfl⟩
    have hsame : SameWrites calls (calls₁ ++ [⟨.getSecret slot, r⟩]) := h₁.trans (sameWrites_snoc (by rintro _ _ ⟨⟩))
    cases r with
    | ok value =>
      obtain ⟨hvalue, hw⟩ := hw
      cases hw
      have hQ := hok _ hsame
      rw [show w slot = some value from hvalue] at hQ
      exact hQ
    | error error =>
      cases error with
      | noEntry =>
        obtain ⟨hnone, hw⟩ := hw
        cases hw
        have hQ := hok _ hsame
        rw [show w slot = none from hnone] at hQ
        exact hQ
      | badEncoding => cases hw; exact herror _ _ hsame
      | badDataFormat => cases hw; exact herror _ _ hsame
      | other => cases hw; exact herror _ _ hsame

/-- A slot that is deleted without an error is empty. -/
theorem deleteSlot_wp {slot : String} {Q : Result Unit → Keyring × Calls → Prop}
    (hI : ∀ calls', SameWrites calls calls' → I (w, calls'))
    (hok : ∀ calls', SameWrites calls calls' → Q (.ok ()) (Function.update w slot none, calls'))
    (herror : ∀ calls' error, SameWrites calls calls' → Q (.error error) (w, calls')) :
    (keeps (logged Keyring.Answers) I).wpA (deleteSlot slot) Q (w, calls) := by
  unfold deleteSlot
  rw [Contract.wpA_bind]
  refine entry_wp (hI _ (.refl calls)) fun calls₁ r h₁ => ?_
  cases r with
  | error error => exact herror _ _ h₁
  | ok _ =>
    rw [Contract.andThen_ok, Contract.wpA_bind]
    refine ⟨hI _ h₁, ?_⟩
    rintro r ⟨w', calls'⟩ ⟨hw, rfl⟩
    have hsame : SameWrites calls (calls₁ ++ [⟨.deleteCredential slot, r⟩]) := h₁.trans (sameWrites_snoc (by rintro _ _ ⟨⟩))
    cases r with
    | ok _ =>
      cases hw
      exact hok _ hsame
    | error error =>
      cases error with
      | noEntry =>
        obtain ⟨hnone, hw⟩ := hw
        cases hw
        have hempty : Function.update w slot none = w := Function.update_eq_self_iff.2 (Eq.symm hnone)
        have hQ := hok _ hsame
        rw [hempty] at hQ
        exact hQ
      | badEncoding => cases hw; exact herror _ _ hsame
      | badDataFormat => cases hw; exact herror _ _ hsame
      | other => cases hw; exact herror _ _ hsame

end

/-! ## A secret that is stored -/

variable (json : SerdeJson)

/-- The slot is in the index. -/
def Listed (w : Keyring) (slot : String) : Prop := ∃ slots, slotsOf json (w indexSlot) = .ok slots ∧ slot ∈ slots

/-- How far a secret's way into a keyring has come. -/
inductive Storing (w₀ : Keyring) (slot : String) (value : List UInt8) : Keyring × Calls → Prop
  | untouched {calls} : (∀ s v, ¬Wrote calls s v) → Storing w₀ slot value (w₀, calls)
  | written {calls} : w₀ slot = none → (∀ s v, Wrote calls s v ↔ s = slot ∧ v = value) →
      Storing w₀ slot value (Function.update w₀ slot (some value), calls)
  | listed {calls slots} : w₀ slot = none → slotsOf json (w₀ indexSlot) = .ok slots →
      (∀ s v, Wrote calls s v ↔ s = slot ∧ v = value ∨ s = indexSlot ∧ v = indexOf json (slots ++ [slot])) →
      Storing w₀ slot value
        (Function.update (Function.update w₀ slot (some value)) indexSlot (some (indexOf json (slots ++ [slot]))), calls)

variable {json} {w₀ : Keyring} {slot : String} {value : List UInt8}

theorem Storing.same {w : Keyring} {calls calls' : Calls} (h : Storing json w₀ slot value (w, calls)) (hs : SameWrites calls calls') :
    Storing json w₀ slot value (w, calls') := by
  cases h with
  | untouched hw => exact .untouched fun s v hs' => hw s v ((hs s v).1 hs')
  | written hnone hw => exact .written hnone fun s v => (hs s v).trans (hw s v)
  | listed hnone hslots hw => exact .listed hnone hslots fun s v => (hs s v).trans (hw s v)

theorem rememberSlot_wp {calls : Calls} (hslot : slot ≠ indexSlot) (hnone : w₀ slot = none)
    (hcalls : ∀ s v, Wrote calls s v ↔ s = slot ∧ v = value) :
    (keeps (logged Keyring.Answers) (Storing json w₀ slot value)).wpA (rememberSlot json slot)
      (fun _ => Storing json w₀ slot value) (Function.update w₀ slot (some value), calls) := by
  have hwritten : ∀ calls', SameWrites calls calls' → Storing json w₀ slot value (Function.update w₀ slot (some value), calls') :=
    fun calls' hs => (Storing.written hnone hcalls).same hs
  unfold rememberSlot
  rw [Contract.wpA_bind]
  refine loadSlot_wp hwritten (fun calls₁ h₁ => ?_) fun calls₁ error h₁ => hwritten _ h₁
  rw [Contract.andThen_ok, Contract.wpA_bind, Contract.wpA_lift, Function.update_of_ne hslot.symm]
  cases hslots : slotsOf json (w₀ indexSlot) with
  | error error => exact hwritten _ h₁
  | ok slots =>
    rw [Contract.andThen_ok]
    by_cases hmem : slot ∈ slots
    · rw [if_pos hmem]
      exact hwritten _ h₁
    · rw [if_neg hmem, Contract.wpA_bind]
      refine entry_wp (hwritten _ h₁) fun calls₂ r h₂ => ?_
      have h₂ := h₁.trans h₂
      cases r with
      | error error => exact hwritten _ h₂
      | ok _ =>
        rw [Contract.andThen_ok]
        refine setSecret_wp (hwritten _ h₂) (fun calls₃ h₃ => ?_) fun calls₃ error h₃ => hwritten _ (h₂.trans h₃)
        refine .listed hnone hslots fun s v => ?_
        rw [h₃, h₂, hcalls]

theorem storeIfAbsent_wp {calls : Calls} (hslot : slot ≠ indexSlot) (hcalls : ∀ s v, ¬Wrote calls s v) :
    (keeps (logged Keyring.Answers) (Storing json w₀ slot value)).wpA (storeIfAbsent json slot value)
      (fun _ => Storing json w₀ slot value) (w₀, calls) := by
  have huntouched : ∀ calls', SameWrites calls calls' → Storing json w₀ slot value (w₀, calls') :=
    fun calls' hs => (Storing.untouched hcalls).same hs
  unfold storeIfAbsent
  rw [Contract.wpA_bind]
  refine loadSlot_wp huntouched (fun calls₁ h₁ => ?_) fun calls₁ error h₁ => huntouched _ h₁
  rw [Contract.andThen_ok]
  cases hnone : w₀ slot with
  | some existing =>
    by_cases heq : existing = value
    · simp only [heq, if_true]
      exact huntouched _ h₁
    · simp only [heq, if_false]
      exact huntouched _ h₁
  | none =>
    rw [Contract.wpA_bind]
    refine entry_wp (huntouched _ h₁) fun calls₂ r h₂ => ?_
    have h₂ := h₁.trans h₂
    cases r with
    | error error => exact huntouched _ h₂
    | ok _ =>
      rw [Contract.andThen_ok, Contract.wpA_bind]
      refine setSecret_wp (huntouched _ h₂) (fun calls₃ h₃ => ?_) fun calls₃ error h₃ => huntouched _ (h₂.trans h₃)
      have h₃ : ∀ s v, Wrote calls₃ s v ↔ s = slot ∧ v = value := by
        intro s v
        rw [h₃, h₂]
        exact or_iff_right (hcalls s v)
      rw [Contract.andThen_ok, Contract.wpA_bind]
      refine Contract.wpA_mono _ (fun r x hx => ?_) (rememberSlot_wp hslot hnone h₃)
      cases r with
      | ok _ => exact hx
      | error _ => exact hx

/-! ## A reset -/

variable (json) in
/-- Nothing is left of what the index lists, nor of the index. -/
def Cleared (w₀ w : Keyring) : Prop := ∃ slots, slotsOf json (w₀ indexSlot) = .ok slots ∧ ∀ s ∈ slots ++ [indexSlot], w s = none

variable (json) in
/-- Slots are emptied, the index after the others. -/
structure Clearing (w₀ : Keyring) (x : Keyring × Calls) : Prop where
  writes : ∀ s v, ¬Wrote x.2 s v
  emptied : ∀ s, x.1 s = w₀ s ∨ x.1 s = none
  index : x.1 indexSlot = w₀ indexSlot ∨ Cleared json w₀ x.1

/-- The slots before `rest` are empty, and the index is one of the last. -/
structure Deleting (w₀ : Keyring) (slots : List String) (rest : List String) (x : Keyring × Calls) : Prop where
  writes : ∀ s v, ¬Wrote x.2 s v
  emptied : ∀ s, x.1 s = w₀ s ∨ x.1 s = none
  done : ∃ before, slots ++ [indexSlot] = before ++ rest ∧ ∀ s ∈ before, x.1 s = none
  index : rest ≠ [] → x.1 indexSlot = w₀ indexSlot

theorem Deleting.cleared {slots : List String} (hslots : slotsOf json (w₀ indexSlot) = .ok slots) {x : Keyring × Calls}
    (h : Deleting w₀ slots [] x) : Cleared json w₀ x.1 := by
  obtain ⟨before, hbefore, hnone⟩ := h.done
  rw [List.append_nil] at hbefore
  exact ⟨slots, hslots, hbefore ▸ hnone⟩

theorem Deleting.clearing {slots rest : List String} (hslots : slotsOf json (w₀ indexSlot) = .ok slots) {x : Keyring × Calls}
    (h : Deleting w₀ slots rest x) : Clearing json w₀ x := by
  refine ⟨h.writes, h.emptied, ?_⟩
  cases rest with
  | nil => exact Or.inr (h.cleared hslots)
  | cons slot rest => exact Or.inl (h.index (List.cons_ne_nil _ _))

theorem Deleting.same {slots rest : List String} {w : Keyring} {calls calls' : Calls} (h : Deleting w₀ slots rest (w, calls))
    (hs : SameWrites calls calls') : Deleting w₀ slots rest (w, calls') :=
  ⟨fun s v hw => h.writes s v ((hs s v).1 hw), h.emptied, h.done, h.index⟩

theorem Deleting.step {slots rest : List String} {slot : String} (hindex : indexSlot ∉ slots) {w : Keyring} {calls : Calls}
    (h : Deleting w₀ slots (slot :: rest) (w, calls)) : Deleting w₀ slots rest (Function.update w slot none, calls) := by
  obtain ⟨before, hbefore, hnone⟩ := h.done
  refine ⟨h.writes, fun s => ?_, ⟨before ++ [slot], by simp [hbefore], fun s hs => ?_⟩, fun hrest => ?_⟩
  · by_cases hs : s = slot
    · exact Or.inr (by rw [hs]; exact Function.update_self ..)
    · have hw := h.emptied s
      simpa only [Function.update_of_ne hs] using hw
  · by_cases heq : s = slot
    · rw [heq]
      exact Function.update_self ..
    · have hmem : s ∈ before := (List.mem_append.1 hs).resolve_right fun hlast => heq (List.mem_singleton.1 hlast)
      exact (Function.update_of_ne heq _ _).trans (hnone s hmem)
  · -- the index is the last of the list and not among the others
    have hne : indexSlot ≠ slot := by
      rintro rfl
      have hlast := congrArg List.dropLast hbefore
      rw [List.dropLast_concat, List.dropLast_append_of_ne_nil (List.cons_ne_nil _ _),
        List.dropLast_cons_of_ne_nil hrest] at hlast
      exact hindex (hlast ▸ List.mem_append_right _ List.mem_cons_self)
    exact (Function.update_of_ne hne _ _).trans (h.index (List.cons_ne_nil _ _))

theorem reset_wp (hindex : ∀ slots, slotsOf json (w₀ indexSlot) = .ok slots → indexSlot ∉ slots) {calls : Calls}
    (hcalls : ∀ s v, ¬Wrote calls s v) :
    (keeps (logged Keyring.Answers) (Clearing json w₀)).wpA (reset json)
      (fun r x => Clearing json w₀ x ∧ ∀ a, r = .ok a → Cleared json w₀ x.1) (w₀, calls) := by
  have huntouched : ∀ calls', SameWrites calls calls' → Clearing json w₀ (w₀, calls') :=
    fun calls' hs => ⟨fun s v hw => hcalls s v ((hs s v).1 hw), fun s => Or.inl rfl, Or.inl rfl⟩
  unfold reset
  rw [Contract.wpA_bind]
  refine lock_wp (huntouched _ (.refl calls)) fun calls₁ r h₁ => ?_
  cases r with
  | error error => exact ⟨huntouched _ h₁, by rintro _ ⟨⟩⟩
  | ok _ =>
    rw [Contract.andThen_ok, Contract.wpA_bind]
    refine loadSlot_wp (fun calls₂ h₂ => huntouched _ (h₁.trans h₂)) (fun calls₂ h₂ => ?_)
      fun calls₂ error h₂ => ⟨huntouched _ (h₁.trans h₂), by rintro _ ⟨⟩⟩
    have h₂ := h₁.trans h₂
    rw [Contract.andThen_ok, Contract.wpA_bind, Contract.wpA_lift]
    cases hslots : slotsOf json (w₀ indexSlot) with
    | error error => exact ⟨huntouched _ h₂, by rintro _ ⟨⟩⟩
    | ok slots =>
      rw [Contract.andThen_ok]
      refine Contract.wpA_forM (J := Deleting w₀ slots) ?_ (fun x hx => ⟨hx.clearing hslots, fun _ _ => hx.cleared hslots⟩) ?_
      · rintro slot rest ⟨w, calls'⟩ hx
        refine deleteSlot_wp (fun calls₃ h₃ => (hx.same h₃).clearing hslots)
          (fun calls₃ h₃ => (hx.same h₃).step (hindex slots hslots)) fun calls₃ error h₃ => ?_
        exact ⟨(hx.same h₃).clearing hslots, by rintro _ ⟨⟩⟩
      · exact ⟨(huntouched _ h₂).writes, fun s => Or.inl rfl, ⟨[], rfl, fun s hs => by cases hs⟩, fun _ => rfl⟩

/-! ## One operation -/

abbrev Operated := Stretch Operation KeyringCall KeyringCall.Reply (Result Answer) Keyring

theorem slot_ne_index {slot : String} {c : Char} (hc : c ≠ 'i') (h : slot.toList.head? = some c) : slot ≠ indexSlot := by
  rintro rfl
  exact hc (Option.some.inj h).symm

theorem privateSlot_ne (localId : String) : privateSlot localId ≠ indexSlot := by
  refine slot_ne_index (c := 'p') (by decide) ?_
  rw [privateSlot, String.toList_append]
  rfl

theorem peerSlot_ne (localId peer : String) : peerSlot localId peer ≠ indexSlot := by
  refine slot_ne_index (c := 'p') (by decide) ?_
  rw [peerSlot, String.append_assoc, String.append_assoc, String.toList_append]
  rfl

theorem answer_wp {α : Type} {p : Store α} {f : α → Answer} {I P : Keyring × Calls → Prop} {x : Keyring × Calls}
    (h : (keeps (logged Keyring.Answers) I).wpA p (fun _ => P) x) :
    (keeps (logged Keyring.Answers) I).wpA (do return f (← p)) (fun _ => P) x := by
  rw [Contract.wpA_bind]
  refine Contract.wpA_mono _ (fun r x hx => ?_) h
  cases r with
  | ok _ => exact hx
  | error _ => exact hx

/-- A load writes nothing. -/
theorem load_wp {I : Keyring × Calls → Prop} {calls : Calls} {read : Option (List UInt8) → Result (Option Key)}
    (hI : ∀ calls', SameWrites calls calls' → I (w₀, calls')) :
    (keeps (logged Keyring.Answers) I).wpA (do lock; Async.lift (read (← loadSlot slot))) (fun _ => I) (w₀, calls) := by
  rw [Contract.wpA_bind]
  refine lock_wp (hI _ (.refl calls)) fun calls₁ r h₁ => ?_
  cases r with
  | error error => exact hI _ h₁
  | ok _ =>
    rw [Contract.andThen_ok, Contract.wpA_bind]
    exact loadSlot_wp (fun _ h₂ => hI _ (h₁.trans h₂)) (fun _ h₂ => hI _ (h₁.trans h₂)) fun _ _ h₂ => hI _ (h₁.trans h₂)

theorem store_wp {calls : Calls} (hslot : slot ≠ indexSlot) (hcalls : ∀ s v, ¬Wrote calls s v) :
    (keeps (logged Keyring.Answers) (Storing json w₀ slot value)).wpA (do lock; storeIfAbsent json slot value)
      (fun _ => Storing json w₀ slot value) (w₀, calls) := by
  have huntouched : ∀ calls', SameWrites calls calls' → ∀ s v, ¬Wrote calls' s v := fun _ hs s v hw => hcalls s v ((hs s v).1 hw)
  rw [Contract.wpA_bind]
  refine lock_wp (.untouched hcalls) fun calls₁ r h₁ => ?_
  cases r with
  | error error => exact .untouched (huntouched _ h₁)
  | ok _ => exact storeIfAbsent_wp hslot (huntouched _ h₁)

theorem not_wrote_nil (s : String) (v : List UInt8) : ¬Wrote [] s v := by
  intro h
  cases h

theorem ran_cases {t : Operated} (hrun : t.Runs Keyring.Answers (Operation.run json))
    (hindex : ∀ slots, slotsOf json (t.before indexSlot) = .ok slots → indexSlot ∉ slots) :
    (t.op ≠ .reset ∧ ∃ slot value, slot ≠ indexSlot ∧ Storing json t.before slot value (t.after, t.calls)) ∨
      t.op = .reset ∧ Clearing json t.before (t.after, t.calls) ∧
        ∀ a, t.outcome = some (.ok a) → Cleared json t.before t.after := by
  obtain ⟨op, before, calls, outcome, after⟩ := t
  have stores {slot : String} {value : List UInt8} {p : Store Answer} (hslot : slot ≠ indexSlot)
      (hp : (keeps (logged Keyring.Answers) (Storing json before slot value)).wpA p (fun _ => Storing json before slot value)
        (before, []))
      (hexec : Exec (logged Keyring.Answers) p.run (before, []) outcome (after, calls)) :
      ∃ slot value, slot ≠ indexSlot ∧ Storing json before slot value (after, calls) :=
    ⟨slot, value, hslot, (hexec.sound (.untouched not_wrote_nil) hp fun _ _ hw => hw).1⟩
  have loads {slot : String} (hs : slot ≠ indexSlot) : ∀ calls', SameWrites [] calls' → Storing json before slot [] (before, calls') :=
    fun _ hsame => (Storing.untouched not_wrote_nil).same hsame
  cases op with
  | loadPrivateKey localId =>
    exact Or.inl ⟨by rintro ⟨⟩, stores (privateSlot_ne localId) (answer_wp (load_wp (loads (privateSlot_ne localId)))) hrun⟩
  | storePrivateKeyIfAbsent localId value =>
    exact Or.inl ⟨by rintro ⟨⟩, stores (privateSlot_ne localId) (answer_wp (store_wp (privateSlot_ne localId) not_wrote_nil)) hrun⟩
  | loadPeerPublicKey localId peer =>
    exact Or.inl ⟨by rintro ⟨⟩, stores (peerSlot_ne localId peer) (answer_wp (load_wp (loads (peerSlot_ne localId peer)))) hrun⟩
  | storePeerPublicKeyIfAbsent localId peer value =>
    exact Or.inl ⟨by rintro ⟨⟩,
      stores (peerSlot_ne localId peer) (answer_wp (store_wp (peerSlot_ne localId peer) not_wrote_nil)) hrun⟩
  | reset =>
    have hwp : (keeps (logged Keyring.Answers) (Clearing json before)).wpA
        (do E2ee.reset json; return .reset : Store Answer)
        (fun r x => Clearing json before x ∧ ∀ a, r = .ok a → Cleared json before x.1) (before, []) := by
      rw [Contract.wpA_bind]
      refine Contract.wpA_mono _ (fun r x hx => ?_) (reset_wp hindex not_wrote_nil)
      cases r with
      | ok _ => exact ⟨hx.1, fun _ _ => hx.2 _ rfl⟩
      | error _ => exact ⟨hx.1, by rintro _ ⟨⟩⟩
    obtain ⟨hclearing, hdone⟩ := Exec.sound hrun ⟨not_wrote_nil, fun s => Or.inl rfl, Or.inl rfl⟩ hwp fun _ _ h => h.1
    exact Or.inr ⟨rfl, hclearing, fun a ha => (hdone _ ha).2 a rfl⟩

/-! ## Sessions -/

variable (json) in
/-- The list of slots is read back as it was written. -/
def SerdeJson.ReadsBackSlots (slots : List String) : Prop := json.fromSlice (indexOf json slots) = some (.vec .str slots)

theorem slotsOf_indexOf {slots : List String} (h : json.ReadsBackSlots slots) : slotsOf json (some (indexOf json slots)) = .ok slots := by
  have hread : Reader.array Reader.string (some (.vec .str slots)) = some slots := reads_array.2 fun s _ => string_str s
  rw [slotsOf, h, Option.bind_some, hread]
  rfl

variable (json) in
/-- Every slot that holds a secret is listed, a reset that is done leaves no secret, and what else is done replaces
none. -/
structure Wipeable (t : Operated) : Prop where
  listed : ∀ slot, slot ≠ indexSlot → t.after slot ≠ none → Listed json t.after slot
  wiped : t.op = .reset → ∀ a, t.outcome = some (.ok a) → ∀ slot, t.after slot = none
  kept : t.op ≠ .reset → ∀ slot value, slot ≠ indexSlot → t.before slot = some value → t.after slot = some value

variable (json) in
/-- An operation that has written a secret to a slot that was not listed has also written the index. -/
def Indexes (t : Operated) : Prop :=
  ∀ slot value, slot ≠ indexSlot → Wrote t.calls slot value → ¬Listed json t.before slot → ∃ index, Wrote t.calls indexSlot index

variable (json) in
/-- The index can be read and lists the slots that hold a secret. -/
structure Indexed (w : Keyring) (slots : List String) : Prop where
  reads : slotsOf json (w indexSlot) = .ok slots
  index : indexSlot ∉ slots
  listed : ∀ slot, slot ≠ indexSlot → w slot ≠ none → slot ∈ slots

theorem indexed_empty : Indexed json (fun _ => none) [] := ⟨rfl, List.not_mem_nil, fun _ _ h => absurd rfl h⟩

theorem Indexed.unique {w : Keyring} {slots slots' : List String} (h : Indexed json w slots) (h' : slotsOf json (w indexSlot) = .ok slots') :
    slots' = slots := Except.ok.inj (h'.symm.trans h.reads)

theorem Indexed.mem_of_listed {w : Keyring} {slots : List String} (h : Indexed json w slots) {slot : String} (hl : Listed json w slot) :
    slot ∈ slots := by
  obtain ⟨slots', hslots, hmem⟩ := hl
  exact h.unique hslots ▸ hmem

theorem Indexed.wipeable {t : Operated} {slots : List String} (h : Indexed json t.after slots)
    (hkept : ∀ slot value, slot ≠ indexSlot → t.before slot = some value → t.after slot = some value) (hop : t.op ≠ .reset) :
    Wipeable json t :=
  ⟨fun slot hslot hsome => ⟨slots, h.reads, h.listed slot hslot hsome⟩, fun hreset => absurd hreset hop, fun _ => hkept⟩

/-- A secret in a slot that was empty replaces none. -/
theorem update_kept {w : Keyring} {slot : String} {value : List UInt8} (hnone : w slot = none) {s : String} {v : List UInt8}
    (hs : w s = some v) : Function.update w slot (some value) s = some v := by
  rw [Function.update_of_ne ?_, hs]
  rintro rfl
  rw [hnone] at hs
  cases hs

theorem storing_wipeable {t : Operated} {slots : List String} (hop : t.op ≠ .reset) (h : Indexed json t.before slots)
    (hjson : ∀ slots, Wrote t.calls indexSlot (indexOf json slots) → json.ReadsBackSlots slots) (hslot : slot ≠ indexSlot)
    (hs : Storing json t.before slot value (t.after, t.calls)) :
    (Wipeable json t ↔ Indexes json t) ∧ (Indexes json t → ∃ slots, Indexed json t.after slots) := by
  obtain ⟨op, before, calls, outcome, after⟩ := t
  change Storing json before slot value (after, calls) at hs
  cases hs with
  | untouched hw =>
    have hindexes : Indexes json ⟨op, before, calls, outcome, before⟩ := fun s v _ hwrote => absurd hwrote (hw s v)
    exact ⟨iff_of_true (h.wipeable (fun _ _ _ hv => hv) hop) hindexes, fun _ => ⟨slots, h⟩⟩
  | written hnone hw =>
    have hindex : Function.update before slot (some value) indexSlot = before indexSlot := Function.update_of_ne hslot.symm _ _
    have hafter : slot ∈ slots → Indexed json (Function.update before slot (some value)) slots := by
      intro hmem
      refine ⟨hindex ▸ h.reads, h.index, fun s hs hsome => ?_⟩
      by_cases heq : s = slot
      · exact heq ▸ hmem
      · rw [Function.update_of_ne heq] at hsome
        exact h.listed s hs hsome
    have hmem : Indexes json ⟨op, before, calls, outcome, Function.update before slot (some value)⟩ → slot ∈ slots := by
      intro hindexes
      by_contra hmem
      obtain ⟨index, hwrote⟩ := hindexes slot value hslot ((hw slot value).2 ⟨rfl, rfl⟩) fun hl => hmem (h.mem_of_listed hl)
      exact hslot ((hw indexSlot index).1 hwrote).1.symm
    refine ⟨⟨fun hwipe => ?_, fun hindexes => ?_⟩, fun hindexes => ⟨slots, hafter (hmem hindexes)⟩⟩
    · intro s v hs hwrote hnot
      obtain ⟨rfl, rfl⟩ := (hw s v).1 hwrote
      obtain ⟨slots', hslots', hmem'⟩ := hwipe.listed s hslot (by
        change Function.update before s (some v) s ≠ none
        rw [Function.update_self]
        exact Option.some_ne_none v)
      exact absurd ⟨slots', (congrArg (slotsOf json) hindex).symm.trans hslots', hmem'⟩ hnot
    · exact (hafter (hmem hindexes)).wipeable (fun _ _ _ hv => update_kept hnone hv) hop
  | @listed _ slots' hnone hslots hw =>
    obtain rfl := h.unique hslots
    have hread := slotsOf_indexOf (hjson _ ((hw _ _).2 (Or.inr ⟨rfl, rfl⟩)))
    have hafter : Indexed json (Function.update (Function.update before slot (some value)) indexSlot
        (some (indexOf json (slots' ++ [slot])))) (slots' ++ [slot]) := by
      refine ⟨by rw [Function.update_self]; exact hread, fun hmem => ?_, fun s hs hsome => ?_⟩
      · rcases List.mem_append.1 hmem with hmem | hmem
        · exact h.index hmem
        · exact hslot (List.mem_singleton.1 hmem).symm
      · by_cases heq : s = slot
        · exact List.mem_append_right _ (List.mem_singleton.2 heq)
        · rw [Function.update_of_ne hs, Function.update_of_ne heq] at hsome
          exact List.mem_append_left _ (h.listed s hs hsome)
    refine ⟨iff_of_true (hafter.wipeable (fun s v hs hv => ?_) hop) fun _ _ _ _ _ => ⟨_, (hw _ _).2 (Or.inr ⟨rfl, rfl⟩)⟩,
      fun _ => ⟨_, hafter⟩⟩
    exact (Function.update_of_ne hs _ _).trans (update_kept hnone hv)

theorem clearing_wipeable {t : Operated} {slots : List String} (hop : t.op = .reset) (h : Indexed json t.before slots)
    (hc : Clearing json t.before (t.after, t.calls)) (hdone : ∀ a, t.outcome = some (.ok a) → Cleared json t.before t.after) :
    Wipeable json t ∧ Indexes json t ∧ ∃ slots, Indexed json t.after slots := by
  have hcleared : Cleared json t.before t.after → ∀ slot, t.after slot = none := by
    rintro ⟨slots', hslots, hnone⟩ slot
    obtain rfl := h.unique hslots
    rcases hc.emptied slot with hsame | hempty
    · by_contra hsome
      have hmem : slot ∈ slots' ++ [indexSlot] := by
        by_cases hindex : slot = indexSlot
        · exact List.mem_append_right _ (List.mem_singleton.2 hindex)
        · exact List.mem_append_left _ (h.listed slot hindex fun hn => hsome (hsame.trans hn))
      exact hsome (hnone slot hmem)
    · exact hempty
  have hafter : ∃ slots, Indexed json t.after slots := by
    rcases hc.index with hsame | hcl
    · refine ⟨slots, ⟨(congrArg (slotsOf json) hsame).trans h.reads, h.index, fun slot hslot hsome => ?_⟩⟩
      rcases hc.emptied slot with heq | hempty
      · exact h.listed slot hslot fun hn => hsome (heq.trans hn)
      · exact absurd hempty hsome
    · have hnone : t.after = fun _ => none := funext (hcleared hcl)
      exact ⟨[], hnone ▸ indexed_empty⟩
  refine ⟨⟨fun slot hslot hsome => ?_, fun _ a ha => hcleared (hdone a ha), fun hne => absurd hop hne⟩,
    fun slot value _ hwrote => absurd hwrote (hc.writes slot value), hafter⟩
  obtain ⟨slots', hi⟩ := hafter
  exact ⟨slots', hi.reads, hi.listed slot hslot hsome⟩

/-- In a session from an empty keyring, whose calls may fail and whose operations may crash anywhere, every secret is
listed after every operation, a reset that is done leaves none, and none is replaced, exactly where every operation
that has written a secret to a slot not listed has also written the index. -/
theorem always_wipeable_iff {h : List Operated} {w : Keyring}
    (hs : Session Keyring.Answers (Operation.run json) (fun _ => none) h w)
    (hjson : ∀ t ∈ h, ∀ slots, Wrote t.calls indexSlot (indexOf json slots) → json.ReadsBackSlots slots) :
    (∀ t ∈ h, Wipeable json t) ↔ ∀ t ∈ h, Indexes json t := by
  have hone : ∀ t ∈ h, t.Runs Keyring.Answers (Operation.run json) → (∃ slots, Indexed json t.before slots) →
      (Wipeable json t ↔ Indexes json t) ∧ (Indexes json t → ∃ slots, Indexed json t.after slots) := by
    rintro t ht hrun ⟨slots, hi⟩
    have hindex : ∀ slots, slotsOf json (t.before indexSlot) = .ok slots → indexSlot ∉ slots :=
      fun slots' hslots => hi.unique hslots ▸ hi.index
    rcases ran_cases hrun hindex with ⟨hop, slot, value, hslot, hstoring⟩ | ⟨hop, hclearing, hdone⟩
    · exact storing_wipeable hop hi (hjson t ht) hslot hstoring
    · obtain ⟨hwipe, hindexes, hafter⟩ := clearing_wipeable hop hi hclearing hdone
      exact ⟨iff_of_true hwipe hindexes, fun _ => hafter⟩
  refine hs.forall_iff (I := fun w => ∃ slots, Indexed json w slots) ⟨[], indexed_empty⟩ (fun t ht hrun hi => ?_) fun t ht hrun hi => ?_
  · exact (hone t ht hrun hi).1
  · exact (hone t ht hrun hi).2

/-! ### One key -/

/-- The text of a list of one slot, and the slot of such a text. -/
def slotJson : SerdeJson where
  toVec
    | .arr [.str slot] => bytes ("[\"" ++ slot ++ "\"]")
    | _ => []
  fromSlice data := (textOf data).bind fun text => match text.toList with
    | '[' :: '"' :: rest => match rest.reverse with
      | ']' :: '"' :: slot => some (.arr [.str (String.ofList slot.reverse)])
      | _ => none
    | _ => none

def adaSlot : String := privateSlot "ada@example.com"

def adaKey : Key := ⟨List.replicate 32 7, by decide⟩

def adaStored : Keyring := Function.update (fun _ => none) adaSlot (some adaKey.1)

theorem adaStored_index : adaStored indexSlot = none := Function.update_of_ne (privateSlot_ne _).symm _ _

def adaListed : Keyring := Function.update adaStored indexSlot (some (indexOf slotJson [adaSlot]))

/-- The key is stored and listed. -/
def storingAda : Operated where
  op := .storePrivateKeyIfAbsent "ada@example.com" adaKey
  before := fun _ => none
  calls := [⟨.lock, .ok ()⟩, ⟨.build adaSlot, .ok ()⟩, ⟨.getSecret adaSlot, .error .noEntry⟩, ⟨.build adaSlot, .ok ()⟩,
    ⟨.setSecret adaSlot adaKey.1, .ok ()⟩, ⟨.build indexSlot, .ok ()⟩, ⟨.getSecret indexSlot, .error .noEntry⟩,
    ⟨.build indexSlot, .ok ()⟩, ⟨.setSecret indexSlot (indexOf slotJson [adaSlot]), .ok ()⟩]
  outcome := some (.ok (.stored .stored))
  after := adaListed

theorem storingAda_runs : storingAda.Runs Keyring.Answers (Operation.run slotJson) := by
  refine .logged_step (.ok ()) (fun _ => none) rfl ?_
  refine .logged_step (.ok ()) (fun _ => none) rfl ?_
  refine .logged_step (.error .noEntry) (fun _ => none) ⟨rfl, rfl⟩ ?_
  refine .logged_step (.ok ()) (fun _ => none) rfl ?_
  refine .logged_step (.ok ()) adaStored rfl ?_
  refine .logged_step (.ok ()) adaStored rfl ?_
  refine .logged_step (.error .noEntry) adaStored ⟨adaStored_index, rfl⟩ ?_
  refine .logged_step (.ok ()) adaStored rfl ?_
  refine .logged_step (.ok ()) adaListed rfl ?_
  exact .done _ _

/-- The key is stored, and then the index cannot be opened. -/
def orphaningAda : Operated where
  op := .storePrivateKeyIfAbsent "ada@example.com" adaKey
  before := fun _ => none
  calls := [⟨.lock, .ok ()⟩, ⟨.build adaSlot, .ok ()⟩, ⟨.getSecret adaSlot, .error .noEntry⟩, ⟨.build adaSlot, .ok ()⟩,
    ⟨.setSecret adaSlot adaKey.1, .ok ()⟩, ⟨.build indexSlot, .error .other⟩]
  outcome := some (.error .unavailable)
  after := adaStored

/-- The key is found in its slot. -/
def retryingAda : Operated where
  op := .storePrivateKeyIfAbsent "ada@example.com" adaKey
  before := adaStored
  calls := [⟨.lock, .ok ()⟩, ⟨.build adaSlot, .ok ()⟩, ⟨.getSecret adaSlot, .ok adaKey.1⟩]
  outcome := some (.ok (.stored .alreadyPresent))
  after := adaStored

def resettingAda : Operated where
  op := .reset
  before := adaStored
  calls := [⟨.lock, .ok ()⟩, ⟨.build indexSlot, .ok ()⟩, ⟨.getSecret indexSlot, .error .noEntry⟩, ⟨.build indexSlot, .ok ()⟩,
    ⟨.deleteCredential indexSlot, .error .noEntry⟩]
  outcome := some (.ok .reset)
  after := adaStored

theorem orphaningAda_runs : orphaningAda.Runs Keyring.Answers (Operation.run slotJson) := by
  refine .logged_step (.ok ()) (fun _ => none) rfl ?_
  refine .logged_step (.ok ()) (fun _ => none) rfl ?_
  refine .logged_step (.error .noEntry) (fun _ => none) ⟨rfl, rfl⟩ ?_
  refine .logged_step (.ok ()) (fun _ => none) rfl ?_
  refine .logged_step (.ok ()) adaStored rfl ?_
  refine .logged_step (.error .other) adaStored rfl ?_
  exact .done _ _

theorem retryingAda_runs : retryingAda.Runs Keyring.Answers (Operation.run slotJson) := by
  refine .logged_step (.ok ()) adaStored rfl ?_
  refine .logged_step (.ok ()) adaStored rfl ?_
  refine .logged_step (.ok adaKey.1) adaStored ⟨Function.update_self .., rfl⟩ ?_
  exact .done _ _

theorem resettingAda_runs : resettingAda.Runs Keyring.Answers (Operation.run slotJson) := by
  refine .logged_step (.ok ()) adaStored rfl ?_
  refine .logged_step (.ok ()) adaStored rfl ?_
  refine .logged_step (.error .noEntry) adaStored ⟨adaStored_index, rfl⟩ ?_
  refine .logged_step (.ok ()) adaStored rfl ?_
  refine .logged_step (.error .noEntry) adaStored ⟨adaStored_index, rfl⟩ ?_
  exact .done _ _

theorem slotJson_reads (slot : String) : slotJson.ReadsBackSlots [slot] := by
  have htext : ("[\"" ++ slot ++ "\"]").toList = '[' :: '"' :: (slot.toList ++ "\"]".toList) := by
    rw [String.toList_append, String.toList_append]
    rfl
  have hend : (slot.toList ++ "\"]".toList).reverse = ']' :: '"' :: slot.toList.reverse := List.reverse_append
  change (textOf (bytes ("[\"" ++ slot ++ "\"]"))).bind _ = _
  rw [textOf_bytes, Option.bind_some]
  simp only [htext, hend, List.reverse_reverse, String.ofList_toList]
  rfl

theorem slotJson_index {slots : List String} (h : indexOf slotJson slots = indexOf slotJson [adaSlot]) : slots = [adaSlot] := by
  have hne : indexOf slotJson [adaSlot] ≠ [] := by
    intro hnil
    have hhead := head_bytes (s := "[\"" ++ adaSlot ++ "\"]") (c := '[') (by decide)
    change bytes ("[\"" ++ adaSlot ++ "\"]") = [] at hnil
    rw [hnil, String.append_assoc, String.toList_append] at hhead
    cases hhead.2 rfl
  match slots, h with
  | [], h => exact absurd h.symm hne
  | [slot], h =>
    have htext := bytes_injective h
    have hlist := congrArg String.toList htext
    rw [String.toList_append, String.toList_append, String.toList_append, String.toList_append] at hlist
    have hslot := List.append_cancel_left (List.append_cancel_right hlist)
    rw [String.toList_inj.1 hslot]
  | _ :: _ :: _, h => exact absurd h.symm hne

theorem always_wipeable_ada : Wipeable slotJson storingAda := by
  refine Iff.mpr (always_wipeable_iff (h := [storingAda]) (.snoc .nil storingAda_runs) ?_) ?_ storingAda (List.mem_singleton_self _)
  · intro t ht slots hwrote
    obtain rfl := List.mem_singleton.1 ht
    have hslots : indexOf slotJson slots = indexOf slotJson [adaSlot] := by
      simp only [Wrote, storingAda, List.mem_cons, List.not_mem_nil, or_false, Sigma.mk.injEq, reduceCtorEq, false_and, false_or,
        KeyringCall.setSecret.injEq] at hwrote
      rcases hwrote with ⟨⟨hslot, -⟩, -⟩ | ⟨⟨-, hindex⟩, -⟩
      · exact absurd hslot.symm (privateSlot_ne _)
      · exact hindex
    rw [slotJson_index hslots]
    exact slotJson_reads adaSlot
  · intro t ht slot value _ _ _
    obtain rfl := List.mem_singleton.1 ht
    exact ⟨indexOf slotJson [adaSlot], by simp [Wrote, storingAda]⟩

/-- The key is stored and not listed, a later attempt finds it and leaves the index as it is, and the reset ends well
and leaves it. -/
theorem orphaned_key : Session Keyring.Answers (Operation.run slotJson) (fun _ => none) [orphaningAda, retryingAda, resettingAda]
      adaStored ∧ adaStored adaSlot = some adaKey.1 ∧ ¬Listed slotJson adaStored adaSlot ∧
    resettingAda.op = .reset ∧ resettingAda.outcome = some (.ok .reset) ∧ resettingAda.after = adaStored := by
  refine ⟨.snoc (.snoc (.snoc .nil orphaningAda_runs) retryingAda_runs) resettingAda_runs, Function.update_self .., ?_,
    rfl, rfl, rfl⟩
  rintro ⟨slots, hslots, hmem⟩
  rw [adaStored_index] at hslots
  cases hslots
  cases hmem

end Boxplot.E2ee
