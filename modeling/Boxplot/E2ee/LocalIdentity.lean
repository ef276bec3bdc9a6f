import Boxplot.E2ee.Authenticity
import Boxplot.E2ee.Wiping
import Boxplot.Lib.Interleaving
/-!
# The local identity

`ensure_local_identity` of `src-tauri/src/e2ee/service.rs`: a read of the key
store, a new key where it holds none, the attempt to store it, and a second
read. Nothing holds the store between these, so several calls can find it empty.
They agree on one key exactly where none of them is overtaken: between its first
read and its attempt to store a key, no other call makes one.
-/

namespace Boxplot.E2ee

open Lib

structure PublicIdentity where
  localIdentity : String
  publicKey : String
  deriving DecidableEq, Repr

/-- What `ensure_local_identity` asks of the store and of libsodium's generator. -/
inductive IdentityCall
  | loadPrivateKey (localId : String)
  | generateKeypair
  | storePrivateKeyIfAbsent (localId : String) (value : Key)
  deriving DecidableEq

/-- A generated pair is the private key and the public one. -/
abbrev IdentityCall.Reply : IdentityCall → Type
  | .loadPrivateKey _ => Result (Option Key)
  | .generateKeypair => Result (Key × Key)
  | .storePrivateKeyIfAbsent _ _ => Result StoreOutcome

abbrev Ensuring (α : Type) := Async IdentityCall IdentityCall.Reply E2eeError α

abbrev Ensuring.call (e : IdentityCall) : Ensuring e.Reply := Async.call e

def ensureLocalIdentity (sodium : Sodium) (localId : String) : Ensuring PublicIdentity := do
  let privateKey ← match ← Async.lift (← Ensuring.call (.loadPrivateKey localId)) with
    | some value => pure value
    | none => do
      let (generated, _) ← Async.lift (← Ensuring.call .generateKeypair)
      let _ ← Async.lift (← Ensuring.call (.storePrivateKeyIfAbsent localId generated))
      Async.lift (okOr .keyUnavailable (← Async.lift (← Ensuring.call (.loadPrivateKey localId))))
  let publicKey ← Async.lift (publicFromPrivate sodium privateKey)
  return ⟨localId, encodeKey publicKey⟩

/-! ## The store -/

abbrev KeyMap := String → Option Key

/-- One operation at a time, and none fails: a key is stored where there is none, and kept otherwise. -/
def KeyMap.Answers (w : KeyMap) : (e : IdentityCall) → e.Reply → KeyMap → Prop
  | .loadPrivateKey localId, r, w' => r = .ok (w localId) ∧ w' = w
  | .generateKeypair, r, w' => (∃ pair, r = .ok pair) ∧ w' = w
  | .storePrivateKeyIfAbsent localId value, r, w' =>
    match w localId with
    | none => r = .ok .stored ∧ w' = Function.update w localId (some value)
    | some existing => r = (if existing = value then .ok .alreadyPresent else .error .keyMismatch) ∧ w' = w

theorem answers_absent {w w' : KeyMap} {localId : String} {value : Key} {r : Result StoreOutcome} (hw : w localId = none) :
    w.Answers (.storePrivateKeyIfAbsent localId value) r w' ↔
      r = .ok .stored ∧ w' = Function.update w localId (some value) := by
  simp only [KeyMap.Answers, hw]

theorem answers_present {w w' : KeyMap} {localId : String} {value existing : Key} {r : Result StoreOutcome}
    (hw : w localId = some existing) : w.Answers (.storePrivateKeyIfAbsent localId value) r w' ↔
      r = (if existing = value then .ok .alreadyPresent else .error .keyMismatch) ∧ w' = w := by
  simp only [KeyMap.Answers, hw]

/-! ## A call step by step -/

abbrev Calling := Prog IdentityCall IdentityCall.Reply (Result PublicIdentity)

variable (sodium : Sodium) (localId : String)

def identityOf (privateKey : Key) : Result PublicIdentity := do
  let publicKey ← publicFromPrivate sodium privateKey
  return ⟨localId, encodeKey publicKey⟩

def rereading : Calling := .await (.loadPrivateKey localId) fun r => .pure (do
  let stored ← r
  identityOf sodium localId (← okOr .keyUnavailable stored))

def attempting (generated : Key) : Calling := .await (.storePrivateKeyIfAbsent localId generated) fun
  | .ok _ => rereading sodium localId
  | .error error => .pure (.error error)

def generating : Calling := .await .generateKeypair fun
  | .ok pair => attempting sodium localId pair.1
  | .error error => .pure (.error error)

theorem ensureLocalIdentity_run : (ensureLocalIdentity sodium localId).run = .await (.loadPrivateKey localId) fun
    | .ok (some key) => .pure (identityOf sodium localId key)
    | .ok none => generating sodium localId
    | .error error => .pure (.error error) := by
  have hlift : ∀ r : Result Key, (do
      let publicKey ← Async.lift r
      return ⟨localId, encodeKey publicKey⟩ : Ensuring PublicIdentity).run =
      .pure (do let publicKey ← r; return ⟨localId, encodeKey publicKey⟩) := by
    intro r
    cases r <;> rfl
  refine congrArg (Prog.await _) (funext fun r => ?_)
  cases r with
  | error _ => rfl
  | ok found =>
    cases found with
    | some key => exact hlift _
    | none =>
      refine congrArg (Prog.await _) (funext fun r => ?_)
      cases r with
      | error _ => rfl
      | ok pair =>
        refine congrArg (Prog.await _) (funext fun r => ?_)
        cases r with
        | error _ => rfl
        | ok _ =>
          refine congrArg (Prog.await _) (funext fun r => ?_)
          cases r with
          | error _ => rfl
          | ok stored =>
            cases stored with
            | none => rfl
            | some key => exact hlift _

/-! ## Overtaken calls -/

abbrev IdentityEvent := Event IdentityCall IdentityCall.Reply

variable {sodium localId}

variable (localId) in
/-- Since the thread read the store, another has made its attempt. -/
def Passed (h : List IdentityEvent) (t : Nat) : Prop :=
  ∃ u r key r', u ≠ t ∧ List.Sublist [⟨t, .loadPrivateKey localId, r⟩, ⟨u, .storePrivateKeyIfAbsent localId key, r'⟩] h

variable (localId) in
/-- Between the read of the thread and its attempt, another has made one. -/
def Overtaken (h : List IdentityEvent) (t : Nat) : Prop :=
  ∃ u r key r' key' r'', u ≠ t ∧ List.Sublist [⟨t, .loadPrivateKey localId, r⟩, ⟨u, .storePrivateKeyIfAbsent localId key, r'⟩,
    ⟨t, .storePrivateKeyIfAbsent localId key', r''⟩] h

theorem passed_snoc {h : List IdentityEvent} {v : IdentityEvent} {t : Nat} : Passed localId (h ++ [v]) t ↔ Passed localId h t ∨
    (∃ u key r', u ≠ t ∧ ⟨u, .storePrivateKeyIfAbsent localId key, r'⟩ = v) ∧ ∃ r, ⟨t, .loadPrivateKey localId, r⟩ ∈ h := by
  constructor
  · rintro ⟨u, r, key, r', hu, hs⟩
    rcases (sublist_snoc (l := [_])).1 hs with hs | ⟨hv, hs⟩
    · exact Or.inl ⟨u, r, key, r', hu, hs⟩
    · exact Or.inr ⟨⟨u, key, r', hu, hv⟩, r, List.singleton_sublist.1 hs⟩
  · rintro (⟨u, r, key, r', hu, hs⟩ | ⟨⟨u, key, r', hu, hv⟩, r, hr⟩)
    · exact ⟨u, r, key, r', hu, (sublist_snoc (l := [_])).2 (Or.inl hs)⟩
    · exact ⟨u, r, key, r', hu, (sublist_snoc (l := [_])).2 (Or.inr ⟨hv, List.singleton_sublist.2 hr⟩)⟩

theorem overtaken_snoc {h : List IdentityEvent} {v : IdentityEvent} {t : Nat} : Overtaken localId (h ++ [v]) t ↔
    Overtaken localId h t ∨ (∃ key r, ⟨t, .storePrivateKeyIfAbsent localId key, r⟩ = v) ∧ Passed localId h t := by
  constructor
  · rintro ⟨u, r, key, r', key', r'', hu, hs⟩
    rcases (sublist_snoc (l := [_, _])).1 hs with hs | ⟨hv, hs⟩
    · exact Or.inl ⟨u, r, key, r', key', r'', hu, hs⟩
    · exact Or.inr ⟨⟨key', r'', hv⟩, u, r, key, r', hu, hs⟩
  · rintro (⟨u, r, key, r', key', r'', hu, hs⟩ | ⟨⟨key', r'', hv⟩, u, r, key, r', hu, hs⟩)
    · exact ⟨u, r, key, r', key', r'', hu, (sublist_snoc (l := [_, _])).2 (Or.inl hs)⟩
    · exact ⟨u, r, key, r', key', r'', hu, (sublist_snoc (l := [_, _])).2 (Or.inr ⟨hv, hs⟩)⟩

/-- A thread that has made no attempt is not overtaken yet. -/
theorem not_overtaken {h : List IdentityEvent} {t : Nat} (hquiet : ∀ key r, ⟨t, .storePrivateKeyIfAbsent localId key, r⟩ ∉ h) :
    ¬Overtaken localId h t := by
  rintro ⟨u, r, key, r', key', r'', -, hs⟩
  exact hquiet key' r'' (hs.subset (by simp))

theorem not_passed {h : List IdentityEvent} {t : Nat} (hnone : ∀ v ∈ h, v.thread ≠ t) : ¬Passed localId h t := by
  rintro ⟨u, r, key, r', -, hs⟩
  exact hnone _ (hs.subset List.mem_cons_self) rfl

/-! ## Where each call is -/

/-- Between its read, which found no key, and its attempt. -/
structure Waiting (localId : String) (w₀ w : KeyMap) (h : List IdentityEvent) (t : Nat) : Prop where
  empty : w₀ localId = none
  loaded : ∃ r, ⟨t, .loadPrivateKey localId, r⟩ ∈ h
  quiet : ∀ key r, ⟨t, .storePrivateKeyIfAbsent localId key, r⟩ ∉ h
  passed : w localId ≠ none ↔ Passed localId h t

variable (sodium localId) in
inductive Stage (w₀ w : KeyMap) (h : List IdentityEvent) (t : Nat) : Calling → Prop
  | starting : (∀ v ∈ h, v.thread ≠ t) → Stage w₀ w h t (ensureLocalIdentity sodium localId).run
  | absent : Waiting localId w₀ w h t → Stage w₀ w h t (generating sodium localId)
  | generated {pair} : Waiting localId w₀ w h t → ⟨t, .generateKeypair, .ok pair⟩ ∈ h →
      Stage w₀ w h t (attempting sodium localId pair.1)
  | stored {key} : w localId = some key → ¬Overtaken localId h t → Stage w₀ w h t (rereading sodium localId)
  | done {key} : w localId = some key → ¬Overtaken localId h t → Stage w₀ w h t (.pure (identityOf sodium localId key))
  | mismatch : Overtaken localId h t → Stage w₀ w h t (.pure (.error .keyMismatch))

/-- Where the key of the store is from. -/
structure Origin (localId : String) (w₀ w : KeyMap) (h : List IdentityEvent) : Prop where
  keeps : ∀ key, w₀ localId = some key → w localId = some key
  origin : ∀ key, w localId = some key → w₀ localId = some key ∨
    ∃ u pair r, pair.1 = key ∧ ⟨u, .generateKeypair, .ok pair⟩ ∈ h ∧ ⟨u, .storePrivateKeyIfAbsent localId key, r⟩ ∈ h

/-- What a request does to the key of an identity. -/
structure Effect (localId : String) (w w' : KeyMap) (e : IdentityCall) : Prop where
  keeps : ∀ key, w localId = some key → w' localId = some key
  attempt : ∀ key, e = .storePrivateKeyIfAbsent localId key → w' localId ≠ none
  other : (∀ key, e ≠ .storePrivateKeyIfAbsent localId key) → w' localId = w localId

theorem Effect.same {w : KeyMap} {e : IdentityCall} (h : ∀ key, e = .storePrivateKeyIfAbsent localId key → w localId ≠ none) :
    Effect localId w w e := ⟨fun _ hk => hk, h, fun _ => rfl⟩

theorem KeyMap.Answers.effect {w w' : KeyMap} {e : IdentityCall} {r : e.Reply} (h : w.Answers e r w') : Effect localId w w' e := by
  cases e with
  | loadPrivateKey _ =>
    obtain ⟨-, rfl⟩ := h
    exact .same (by rintro _ ⟨⟩)
  | generateKeypair =>
    obtain ⟨-, rfl⟩ := h
    exact .same (by rintro _ ⟨⟩)
  | storePrivateKeyIfAbsent localId' value =>
    cases hw : w localId' with
    | some existing =>
      rw [answers_present hw] at h
      obtain ⟨-, rfl⟩ := h
      refine .same ?_
      rintro key ⟨⟩
      rw [hw]
      exact Option.some_ne_none existing
    | none =>
      rw [answers_absent hw] at h
      obtain ⟨-, rfl⟩ := h
      refine ⟨fun key hk => ?_, ?_, fun hne => ?_⟩
      · rw [Function.update_of_ne ?_, hk]
        rintro rfl
        rw [hw] at hk
        cases hk
      · rintro key ⟨⟩
        rw [Function.update_self]
        exact Option.some_ne_none value
      · refine Function.update_of_ne ?_ _ _
        rintro rfl
        exact hne value rfl

/-- A thread stays where it is while another makes a request. -/
theorem Stage.other {w₀ w w' : KeyMap} {h : List IdentityEvent} {t : Nat} {p : Calling} {v : IdentityEvent}
    (hs : Stage sodium localId w₀ w h t p) (hv : v.thread ≠ t) (he : Effect localId w w' v.request) :
    Stage sodium localId w₀ w' (h ++ [v]) t p := by
  have hovertaken : Overtaken localId (h ++ [v]) t ↔ Overtaken localId h t := by
    refine overtaken_snoc.trans (or_iff_left ?_)
    rintro ⟨⟨key, r, rfl⟩, -⟩
    exact hv rfl
  have hwaiting : Waiting localId w₀ w h t → Waiting localId w₀ w' (h ++ [v]) t := by
    rintro ⟨hempty, ⟨r, hr⟩, hquiet, hpassed⟩
    refine ⟨hempty, ⟨r, List.mem_append_left _ hr⟩, fun key r hmem => ?_, ?_⟩
    · rcases List.mem_append.1 hmem with hmem | hmem
      · exact hquiet key r hmem
      · exact hv (List.mem_singleton.1 hmem ▸ rfl)
    · rw [passed_snoc]
      by_cases hattempt : ∃ key, v.request = .storePrivateKeyIfAbsent localId key
      · obtain ⟨key, hkey⟩ := hattempt
        obtain ⟨u, e, r'⟩ := v
        cases hkey
        exact iff_of_true (he.attempt key rfl) (Or.inr ⟨⟨u, key, r', hv, rfl⟩, r, hr⟩)
      · rw [he.other fun key hkey => hattempt ⟨key, hkey⟩, hpassed]
        refine (or_iff_left ?_).symm
        rintro ⟨⟨u, key, r', -, rfl⟩, -⟩
        exact hattempt ⟨key, rfl⟩
  cases hs with
  | starting hnone =>
    refine .starting fun u hu => ?_
    rcases List.mem_append.1 hu with hu | hu
    · exact hnone u hu
    · exact List.mem_singleton.1 hu ▸ hv
  | absent hw => exact .absent (hwaiting hw)
  | generated hw hpair => exact .generated (hwaiting hw) (List.mem_append_left _ hpair)
  | stored hkey ho => exact .stored (he.keeps _ hkey) fun h' => ho (hovertaken.1 h')
  | done hkey ho => exact .done (he.keeps _ hkey) fun h' => ho (hovertaken.1 h')
  | mismatch ho => exact .mismatch (hovertaken.2 ho)

theorem Origin.snoc {w₀ w w' : KeyMap} {h : List IdentityEvent} {v : IdentityEvent} (ho : Origin localId w₀ w h)
    (he : Effect localId w w' v.request)
    (hnew : ∀ key, w localId = none → w' localId = some key → ∃ u pair r, pair.1 = key ∧ ⟨u, .generateKeypair, .ok pair⟩ ∈ h ++ [v] ∧
      ⟨u, .storePrivateKeyIfAbsent localId key, r⟩ ∈ h ++ [v]) : Origin localId w₀ w' (h ++ [v]) := by
  refine ⟨fun key hk => he.keeps key (ho.keeps key hk), fun key hk => ?_⟩
  cases hw : w localId with
  | none => exact Or.inr (hnew key hw hk)
  | some key' =>
    obtain rfl : key' = key := Option.some.inj ((he.keeps key' hw).symm.trans hk)
    rcases ho.origin key' hw with hk | ⟨u, pair, r, hpair, hgen, hstore⟩
    · exact Or.inl hk
    · exact Or.inr ⟨u, pair, r, hpair, List.mem_append_left _ hgen, List.mem_append_left _ hstore⟩

/-- No two threads generate one key. -/
def Distinct (h : List IdentityEvent) : Prop :=
  ∀ t u pair pair', ⟨t, .generateKeypair, .ok pair⟩ ∈ h → ⟨u, .generateKeypair, .ok pair'⟩ ∈ h → pair.1 = pair'.1 → t = u

/-- What the thread that makes a request comes to. -/
theorem Stage.own {w₀ w w' : KeyMap} {h : List IdentityEvent} {t : Nat} {e : IdentityCall} {k : e.Reply → Calling} {r : e.Reply}
    (hs : Stage sodium localId w₀ w h t (.await e k)) (ho : Origin localId w₀ w h) (hdistinct : Distinct h)
    (ha : w.Answers e r w') : Stage sodium localId w₀ w' (h ++ [⟨t, e, r⟩]) t (k r) ∧ Origin localId w₀ w' (h ++ [⟨t, e, r⟩]) := by
  have he : Effect localId w w' e := ha.effect
  generalize hp : Prog.await e k = p at hs
  cases hs with
  | starting hnone =>
    rw [ensureLocalIdentity_run] at hp
    cases hp
    obtain ⟨rfl, rfl⟩ := ha
    have hquiet : ∀ key r, ⟨t, .storePrivateKeyIfAbsent localId key, r⟩ ∉ h ++ [⟨t, .loadPrivateKey localId, .ok (w' localId)⟩] := by
      intro key r hmem
      rcases List.mem_append.1 hmem with hmem | hmem
      · exact hnone _ hmem rfl
      · cases List.mem_singleton.1 hmem
    refine ⟨?_, ho.snoc he fun key hn hk => absurd (hn.symm.trans hk) (by simp)⟩
    cases hw : w' localId with
    | some key => exact .done hw (not_overtaken (hw ▸ hquiet))
    | none =>
      refine .absent ⟨?_, ⟨_, List.mem_append_right _ List.mem_cons_self⟩, hw ▸ hquiet, ?_⟩
      · cases hw₀ : w₀ localId with
        | none => rfl
        | some key => exact absurd (hw.symm.trans (ho.keeps key hw₀)) (by simp)
      · refine iff_of_false (not_not.2 hw) ?_
        rw [passed_snoc]
        rintro (hpassed | ⟨⟨u, key, r', hu, hv⟩, -⟩)
        · exact not_passed hnone hpassed
        · cases hv
  | absent hwait =>
    cases hp
    obtain ⟨⟨pair, rfl⟩, rfl⟩ := ha
    refine ⟨?_, ho.snoc he fun key hn hk => absurd (hn.symm.trans hk) (by simp)⟩
    refine .generated ⟨hwait.empty, ?_, fun key r hmem => ?_, ?_⟩ (List.mem_append_right _ List.mem_cons_self)
    · obtain ⟨r, hr⟩ := hwait.loaded
      exact ⟨r, List.mem_append_left _ hr⟩
    · rcases List.mem_append.1 hmem with hmem | hmem
      · exact hwait.quiet key r hmem
      · cases List.mem_singleton.1 hmem
    · rw [hwait.passed, passed_snoc]
      refine (or_iff_left ?_).symm
      rintro ⟨⟨u, key, r', -, hv⟩, -⟩
      cases hv
  | @generated pair hwait hgen =>
    cases hp
    cases hw : w localId with
    | none =>
      obtain ⟨rfl, rfl⟩ := (answers_absent hw).1 ha
      refine ⟨.stored (Function.update_self ..) ?_, ho.snoc he fun key _ hk => ?_⟩
      · -- nobody has made an attempt since the read, or the store would hold a key
        rw [overtaken_snoc]
        rintro (hover | ⟨-, hpassed⟩)
        · exact not_overtaken hwait.quiet hover
        · exact hwait.passed.2 hpassed hw
      · rw [Function.update_self] at hk
        cases hk
        exact ⟨t, pair, _, rfl, List.mem_append_left _ hgen, List.mem_append_right _ List.mem_cons_self⟩
    | some existing =>
      obtain ⟨rfl, rfl⟩ := (answers_present hw).1 ha
      have hne : existing ≠ pair.1 := by
        rintro rfl
        rcases ho.origin _ hw with hk | ⟨u, pair', r, hpair, hgen', hstore⟩
        · rw [hwait.empty] at hk
          cases hk
        · obtain rfl := hdistinct u t pair' pair hgen' hgen hpair
          exact hwait.quiet _ _ hstore
      rw [if_neg hne] at ha ⊢
      refine ⟨.mismatch ?_, ho.snoc he fun key hn hk => absurd (hn.symm.trans hk) (by simp)⟩
      exact overtaken_snoc.2 (Or.inr ⟨⟨pair.1, _, rfl⟩, hwait.passed.1 (by simp [hw])⟩)
  | @stored key hkey hover =>
    cases hp
    obtain ⟨rfl, rfl⟩ := ha
    refine ⟨?_, ho.snoc he fun key hn hk => absurd (hn.symm.trans hk) (by simp)⟩
    rw [hkey]
    refine .done hkey ?_
    rw [overtaken_snoc]
    rintro (hover' | ⟨⟨key', r, hv⟩, -⟩)
    · exact hover hover'
    · cases hv
  | done _ _ => cases hp
  | mismatch _ => cases hp

/-! ## All calls together -/

abbrev Ensured (sodium : Sodium) (localId : String) (w₀ : KeyMap) (h : List IdentityEvent) (P : Nat → Calling) (w : KeyMap) : Prop :=
  Serving KeyMap.Answers (fun _ => (ensureLocalIdentity sodium localId).run) w₀ h P w

theorem Distinct.of_snoc {h : List IdentityEvent} {v : IdentityEvent} (hd : Distinct (h ++ [v])) : Distinct h :=
  fun t u pair pair' ht hu heq => hd t u pair pair' (List.mem_append_left _ ht) (List.mem_append_left _ hu) heq

theorem stages {w₀ w : KeyMap} {h : List IdentityEvent} {P : Nat → Calling} (hs : Ensured sodium localId w₀ h P w)
    (hd : Distinct h) : (∀ t, Stage sodium localId w₀ w h t (P t)) ∧ Origin localId w₀ w h := by
  induction hs with
  | nil => exact ⟨fun t => .starting fun _ hv => (List.not_mem_nil hv).elim, ⟨fun _ hk => hk, fun _ hk => Or.inl hk⟩⟩
  | @snoc h P w w' t e k r hs hp ha ih =>
    obtain ⟨ih, ho⟩ := ih hd.of_snoc
    have hown := (hp ▸ ih t : Stage sodium localId w₀ w h t (.await e k)).own ho hd.of_snoc ha
    refine ⟨fun u => ?_, hown.2⟩
    by_cases hu : u = t
    · rw [hu, Function.update_self]
      exact hown.1
    · rw [Function.update_of_ne hu]
      exact (ih u).other (Ne.symm hu) ha.effect

theorem identityOf_ok (hinit : sodium.ensureInit = true) {key publicKey : Key} (hbase : sodium.scalarmultBase key = some publicKey) :
    identityOf sodium localId key = .ok ⟨localId, encodeKey publicKey⟩ := by
  have hpublic := (publicFromPrivate_eq_ok sodium).2 ⟨hinit, hbase⟩
  rw [identityOf, hpublic]
  rfl

/-- Of any number of calls for one identity, every call that returns does so with the public key of the stored private
key, exactly where no call was overtaken between its first read of the store and its attempt to store a key. -/
theorem ensure_agrees_iff {w₀ w : KeyMap} {h : List IdentityEvent} {P : Nat → Calling} (hs : Ensured sodium localId w₀ h P w)
    (hinit : sodium.ensureInit = true) (hbase : ∀ key, ∃ publicKey, sodium.scalarmultBase key = some publicKey)
    (hdistinct : Distinct h) :
    (∀ t result, P t = .pure result → ∃ key publicKey, w localId = some key ∧ sodium.scalarmultBase key = some publicKey ∧
      result = .ok ⟨localId, encodeKey publicKey⟩) ↔ ∀ t, ¬Overtaken localId h t := by
  obtain ⟨hstages, -⟩ := stages hs hdistinct
  constructor
  · intro hall t hover
    have hstage := hstages t
    generalize hp : P t = p at hstage
    cases hstage with
    | starting hnone => exact not_overtaken (fun key r hmem => hnone _ hmem rfl) hover
    | absent hwait => exact not_overtaken hwait.quiet hover
    | generated hwait _ => exact not_overtaken hwait.quiet hover
    | stored _ hnot => exact hnot hover
    | done _ hnot => exact hnot hover
    | mismatch _ =>
      obtain ⟨key, publicKey, -, -, herror⟩ := hall t _ hp
      cases herror
  · intro hnot t result hp
    have hstage := hstages t
    rw [hp] at hstage
    generalize hq : (Prog.pure result : Calling) = q at hstage
    cases hstage with
    | starting _ =>
      rw [ensureLocalIdentity_run] at hq
      cases hq
    | absent _ => cases hq
    | generated _ _ => cases hq
    | stored _ _ => cases hq
    | @done key hkey _ =>
      cases hq
      obtain ⟨publicKey, hpublic⟩ := hbase key
      exact ⟨key, publicKey, hkey, hpublic, identityOf_ok hinit hpublic⟩
    | mismatch hover => exact absurd hover (hnot t)

/-- A call that finds no key and makes one, then a call that finds it. -/
def calm : List IdentityEvent :=
  [⟨0, .loadPrivateKey "alice", .ok none⟩, ⟨0, .generateKeypair, .ok (alicePrivate, samplePublic alicePrivate)⟩,
    ⟨0, .storePrivateKeyIfAbsent "alice" alicePrivate, .ok .stored⟩, ⟨0, .loadPrivateKey "alice", .ok (some alicePrivate)⟩,
    ⟨1, .loadPrivateKey "alice", .ok (some alicePrivate)⟩]

def aliceStored : KeyMap := Function.update (fun _ => none) "alice" (some alicePrivate)

theorem calm_ensured : ∃ P, Ensured sampleSodium "alice" (fun _ => none) calm P aliceStored := by
  have h₀ : Ensured sampleSodium "alice" (fun _ => none) [] _ _ := .nil
  have h₁ := h₀.next 0 rfl (.ok none) (fun _ => none) ⟨rfl, rfl⟩
  have h₂ := h₁.next 0 rfl (.ok (alicePrivate, samplePublic alicePrivate)) (fun _ => none) ⟨⟨_, rfl⟩, rfl⟩
  have h₃ := h₂.next 0 rfl (.ok .stored) aliceStored ⟨rfl, rfl⟩
  have h₄ := h₃.next 0 rfl (.ok (some alicePrivate)) aliceStored ⟨rfl, rfl⟩
  have h₅ := h₄.next 1 rfl (.ok (some alicePrivate)) aliceStored ⟨rfl, rfl⟩
  exact ⟨_, h₅⟩

/-- Both calls return the public key of the stored key. -/
theorem ensure_agrees_calm : ∃ P, Ensured sampleSodium "alice" (fun _ => none) calm P aliceStored ∧
    ∀ t result, P t = .pure result → ∃ key publicKey, aliceStored "alice" = some key ∧
      sampleSodium.scalarmultBase key = some publicKey ∧ result = .ok ⟨"alice", encodeKey publicKey⟩ := by
  obtain ⟨P, hs⟩ := calm_ensured
  refine ⟨P, hs, (ensure_agrees_iff hs rfl (fun key => ⟨samplePublic key, rfl⟩) ?_).2 ?_⟩
  · intro t u pair pair' ht hu _
    simp [calm] at ht hu
    rw [ht.1, hu.1]
  · rintro t ⟨u, r, key, r', key', r'', hu, hsub⟩
    have hfirst := hsub.subset (List.mem_cons_of_mem _ List.mem_cons_self)
    have hsecond := hsub.subset (List.mem_cons_of_mem _ (List.mem_cons_of_mem _ List.mem_cons_self))
    simp [calm] at hfirst hsecond
    exact hu (hfirst.1.trans hsecond.1.symm)

/-- Two calls find no key, and each makes one. -/
def racing : List IdentityEvent :=
  [⟨0, .loadPrivateKey "alice", .ok none⟩, ⟨1, .loadPrivateKey "alice", .ok none⟩,
    ⟨0, .generateKeypair, .ok (alicePrivate, samplePublic alicePrivate)⟩, ⟨1, .generateKeypair, .ok (bobPrivate, samplePublic bobPrivate)⟩,
    ⟨0, .storePrivateKeyIfAbsent "alice" alicePrivate, .ok .stored⟩,
    ⟨1, .storePrivateKeyIfAbsent "alice" bobPrivate, .error .keyMismatch⟩]

/-- The second to store its key returns an error, though all operations of the store went well. -/
theorem racing_mismatch : ∃ P, Ensured sampleSodium "alice" (fun _ => none) racing P aliceStored ∧ Distinct racing ∧
    P 1 = .pure (.error .keyMismatch) := by
  have hne : alicePrivate ≠ bobPrivate := by decide
  have h₀ : Ensured sampleSodium "alice" (fun _ => none) [] _ _ := .nil
  have h₁ := h₀.next 0 rfl (.ok none) (fun _ => none) ⟨rfl, rfl⟩
  have h₂ := h₁.next 1 rfl (.ok none) (fun _ => none) ⟨rfl, rfl⟩
  have h₃ := h₂.next 0 rfl (.ok (alicePrivate, samplePublic alicePrivate)) (fun _ => none) ⟨⟨_, rfl⟩, rfl⟩
  have h₄ := h₃.next 1 rfl (.ok (bobPrivate, samplePublic bobPrivate)) (fun _ => none) ⟨⟨_, rfl⟩, rfl⟩
  have h₅ := h₄.next 0 rfl (.ok .stored) aliceStored ⟨rfl, rfl⟩
  have h₆ := h₅.next 1 rfl (.error .keyMismatch) aliceStored ((answers_present (Function.update_self ..)).2 ⟨by rw [if_neg hne], rfl⟩)
  refine ⟨_, h₆, ?_, rfl⟩
  intro t u pair pair' ht hu hkey
  simp [racing] at ht hu
  rcases ht with ⟨rfl, rfl⟩ | ⟨rfl, rfl⟩ <;> rcases hu with ⟨rfl, rfl⟩ | ⟨rfl, rfl⟩
  · rfl
  · exact absurd hkey hne
  · exact absurd hkey.symm hne
  · rfl

/-! ## Over a keyring that does not fail -/

/-- The call goes well; a slot may be empty. -/
def KeyringCall.Succeeds : (e : KeyringCall) → e.Reply → Prop
  | .lock, r => r = .ok ()
  | .build _, r => r = .ok ()
  | .getSecret _, r => r = .error .noEntry ∨ ∃ value, r = .ok value
  | .setSecret _ _, r => r = .ok ()
  | .deleteCredential _, r => r = .error .noEntry ∨ r = .ok ()

abbrev healthy : Contract KeyringCall KeyringCall.Reply Keyring :=
  keeps (fun w e r w' => w.Answers e r w' ∧ e.Succeeds r) fun _ => True

theorem lock_healthy {w : Keyring} {Q : Result Unit → Keyring → Prop} (h : Q (.ok ()) w) : healthy.wpA lock Q w := by
  unfold lock
  rw [Contract.wpA_bind]
  refine ⟨trivial, ?_⟩
  rintro r w' ⟨hw, rfl⟩
  cases hw
  exact h

theorem entry_healthy {w : Keyring} {slot : String} {Q : Result Unit → Keyring → Prop} (h : Q (.ok ()) w) :
    healthy.wpA (entry slot) Q w := by
  unfold entry
  rw [Contract.wpA_bind]
  refine ⟨trivial, ?_⟩
  rintro r w' ⟨hw, rfl⟩
  cases hw
  exact h

theorem setSecret_healthy {w : Keyring} {slot : String} {value : List UInt8} {Q : Result Unit → Keyring → Prop}
    (h : Q (.ok ()) (Function.update w slot (some value))) : healthy.wpA (setSecret slot value) Q w := by
  unfold setSecret
  rw [Contract.wpA_bind]
  refine ⟨trivial, ?_⟩
  rintro r w' ⟨hw, rfl⟩
  cases hw
  exact h

theorem loadSlot_healthy {w : Keyring} {slot : String} {Q : Result (Option (List UInt8)) → Keyring → Prop}
    (h : Q (.ok (w slot)) w) : healthy.wpA (loadSlot slot) Q w := by
  unfold loadSlot
  rw [Contract.wpA_bind]
  refine entry_healthy ?_
  rw [Contract.andThen_ok, Contract.wpA_bind]
  refine ⟨trivial, ?_⟩
  rintro r w' ⟨hw, rfl | ⟨value, rfl⟩⟩
  · obtain ⟨hnone, rfl⟩ := hw
    rw [hnone] at h
    exact h
  · obtain ⟨hsome, rfl⟩ := hw
    rw [hsome] at h
    exact h

/-- The private keys of a keyring. -/
def keysOf (w : Keyring) : KeyMap := fun localId =>
  (w (privateSlot localId)).bind fun value => if h : value.length = 32 then some ⟨value, h⟩ else none

/-- What the slots of private keys hold are keys, and the index can be read. -/
structure Sound (json : SerdeJson) (w : Keyring) : Prop where
  keys : ∀ localId value, w (privateSlot localId) = some value → value.length = 32
  index : ∃ slots, slotsOf json (w indexSlot) = .ok slots

theorem privateSlot_injective {a b : String} (h : privateSlot a = privateSlot b) : a = b := by
  have hlist := congrArg String.toList h
  rw [privateSlot, privateSlot, String.toList_append, String.toList_append] at hlist
  have htext : encodeBytes (bytes a) = encodeBytes (bytes b) := String.toList_inj.1 (List.append_cancel_left hlist)
  have ha := decodeExact_encodeBytes (bytes a)
  rw [htext, decodeExact_encodeBytes] at ha
  exact bytes_injective (Option.some.inj ha).symm

variable {json : SerdeJson}

theorem Sound.keyOf {w : Keyring} (h : Sound json w) (localId : String) :
    keyOf .keyUnavailable (w (privateSlot localId)) = .ok (keysOf w localId) := by
  unfold E2ee.keyOf keysOf
  cases hw : w (privateSlot localId) with
  | none => rfl
  | some value => simp [h.keys localId value hw]

theorem keysOf_eq_none {w : Keyring} (h : Sound json w) {localId : String} (hnone : keysOf w localId = none) :
    w (privateSlot localId) = none := by
  unfold keysOf at hnone
  cases hw : w (privateSlot localId) with
  | none => rfl
  | some value => simp [hw, h.keys localId value hw] at hnone

theorem keysOf_eq_some {w : Keyring} {localId : String} {key : Key} (hsome : keysOf w localId = some key) :
    w (privateSlot localId) = some key.1 := by
  unfold keysOf at hsome
  obtain ⟨value, hvalue, hkey⟩ := Option.bind_eq_some_iff.1 hsome
  by_cases hlength : value.length = 32
  · rw [dif_pos hlength] at hkey
    cases hkey
    exact hvalue
  · rw [dif_neg hlength] at hkey
    cases hkey

/-- A read of the store is a read of its private keys. -/
theorem loadPrivateKey_answers {w : Keyring} (h : Sound json w) (localId : String) :
    healthy.wpA (loadPrivateKey localId) (fun r w' => (keysOf w).Answers (.loadPrivateKey localId) r (keysOf w') ∧ Sound json w') w := by
  unfold loadPrivateKey
  rw [Contract.wpA_bind]
  refine lock_healthy ?_
  rw [Contract.andThen_ok, Contract.wpA_bind]
  refine loadSlot_healthy ?_
  rw [Contract.andThen_ok, Contract.wpA_lift, h.keyOf]
  exact ⟨⟨rfl, rfl⟩, h⟩

theorem keysOf_update {w : Keyring} {localId : String} {value : Key} : keysOf (Function.update w (privateSlot localId) (some value.1)) =
    Function.update (keysOf w) localId (some value) := by
  funext localId'
  by_cases hid : localId' = localId
  · rw [hid, Function.update_self]
    simp [keysOf, value.2]
  · have hslot : privateSlot localId' ≠ privateSlot localId := fun heq => hid (privateSlot_injective heq)
    rw [Function.update_of_ne hid]
    unfold keysOf
    rw [Function.update_of_ne hslot]

theorem keysOf_index {w : Keyring} {value : Option (List UInt8)} : keysOf (Function.update w indexSlot value) = keysOf w := by
  funext localId
  unfold keysOf
  rw [Function.update_of_ne (privateSlot_ne localId)]

theorem rememberSlot_healthy (hjson : ∀ slots, json.ReadsBackSlots slots) {w : Keyring} (h : Sound json w) (slot : String) :
    healthy.wpA (rememberSlot json slot) (fun r w' => r = .ok () ∧ keysOf w' = keysOf w ∧ Sound json w') w := by
  obtain ⟨slots, hslots⟩ := h.index
  unfold rememberSlot
  rw [Contract.wpA_bind]
  refine loadSlot_healthy ?_
  rw [Contract.andThen_ok, Contract.wpA_bind, Contract.wpA_lift, hslots, Contract.andThen_ok]
  by_cases hmem : slot ∈ slots
  · rw [if_pos hmem]
    exact ⟨rfl, rfl, h⟩
  · rw [if_neg hmem, Contract.wpA_bind]
    refine entry_healthy ?_
    rw [Contract.andThen_ok]
    refine setSecret_healthy ⟨rfl, keysOf_index, fun localId value hvalue => ?_, slots ++ [slot], ?_⟩
    · rw [Function.update_of_ne (privateSlot_ne localId)] at hvalue
      exact h.keys localId value hvalue
    · rw [Function.update_self]
      exact slotsOf_indexOf (hjson _)

/-- An attempt to store a key is one at its private keys. -/
theorem storePrivateKeyIfAbsent_answers (hjson : ∀ slots, json.ReadsBackSlots slots) {w : Keyring} (h : Sound json w)
    (localId : String) (value : Key) : healthy.wpA (storePrivateKeyIfAbsent json localId value)
      (fun r w' => (keysOf w).Answers (.storePrivateKeyIfAbsent localId value) r (keysOf w') ∧ Sound json w') w := by
  unfold storePrivateKeyIfAbsent
  rw [Contract.wpA_bind]
  refine lock_healthy ?_
  rw [Contract.andThen_ok, storeIfAbsent, Contract.wpA_bind]
  refine loadSlot_healthy ?_
  rw [Contract.andThen_ok]
  cases hkey : keysOf w localId with
  | some existing =>
    simp only [keysOf_eq_some hkey]
    by_cases heq : existing = value
    · rw [if_pos (congrArg Subtype.val heq)]
      exact ⟨(answers_present hkey).2 ⟨(if_pos heq).symm, rfl⟩, h⟩
    · rw [if_neg fun hval => heq (Subtype.ext hval)]
      exact ⟨(answers_present hkey).2 ⟨(if_neg heq).symm, rfl⟩, h⟩
  | none =>
    simp only [keysOf_eq_none h hkey]
    rw [Contract.wpA_bind]
    refine entry_healthy ?_
    rw [Contract.andThen_ok, Contract.wpA_bind]
    refine setSecret_healthy ?_
    have hstored : Sound json (Function.update w (privateSlot localId) (some value.1)) := by
      refine ⟨fun localId' value' hvalue => ?_, ?_⟩
      · by_cases hslot : privateSlot localId' = privateSlot localId
        · rw [hslot, Function.update_self] at hvalue
          exact Option.some.inj hvalue ▸ value.2
        · rw [Function.update_of_ne hslot] at hvalue
          exact h.keys localId' value' hvalue
      · obtain ⟨slots, hslots⟩ := h.index
        exact ⟨slots, by rwa [Function.update_of_ne (privateSlot_ne localId).symm]⟩
    rw [Contract.andThen_ok]
    refine Contract.wpA_bind_of (rememberSlot_healthy hjson hstored _) (fun _ w' hw => ?_) fun _ _ hw => by cases hw.1
    exact ⟨(answers_absent hkey).2 ⟨rfl, hw.2.1.trans keysOf_update⟩, hw.2.2⟩

end Boxplot.E2ee
