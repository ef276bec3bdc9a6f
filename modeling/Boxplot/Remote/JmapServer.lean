import Boxplot.Lib.State
import Boxplot.Remote.JmapRemoteMail
/-!
# What a JMAP server holds

A server's emails in each of its states `W`, what an honest answer to
`Email/get` is, and what `fetchExactEmails` makes of such answers. Between two
requests the server may be in any other state.
-/

namespace Boxplot.Jmap

open Domain Lib Remote

/-! ## Emails -/

/-- What every email of a server has. -/
structure RawJmapEmail.WellFormed (raw : RawJmapEmail) : Prop where
  id : ∃ id, raw.id = some id ∧ id ≠ ""
  blobId : ∃ id, raw.blobId = some id ∧ id ≠ ""
  threadId : ∃ id, raw.threadId = some id ∧ id ≠ ""
  receivedAt : ∃ text, raw.receivedAt = some text ∧ text ≠ ""
  mailboxIds : ∃ entries, raw.mailboxIds = some entries ∧ setKeys entries ≠ [] ∧ "" ∉ setKeys entries

/-- The mailbox is one of the email's. -/
def RawJmapEmail.isIn (raw : RawJmapEmail) (mailboxId : String) : Prop := mailboxId ∈ setKeys (raw.mailboxIds.getD [])

instance (raw : RawJmapEmail) (mailboxId : String) : Decidable (raw.isIn mailboxId) :=
  inferInstanceAs (Decidable (_ ∈ _))

/-- The email as it is returned. -/
def RawJmapEmail.ReadsAs (raw : RawJmapEmail) (email : RemoteEmail) : Prop :=
  ∃ value, validateAndMapEmail raw = some value ∧ mapJmapEmail value = .ok email

theorem mandatory_eq_some {value : Option String} {text : String} :
    mandatory value = some text ↔ value = some text ∧ text ≠ "" := by
  simp [mandatory, Option.filter_eq_some_iff]

theorem validateAndMapEmail_id {raw : RawJmapEmail} {value : JmapEmail} (h : validateAndMapEmail raw = some value) :
    raw.id = some value.id := by
  obtain ⟨id, hid, h⟩ := Option.bind_eq_some_iff.1 h
  obtain ⟨blobId, -, h⟩ := Option.bind_eq_some_iff.1 h
  obtain ⟨threadId, -, h⟩ := Option.bind_eq_some_iff.1 h
  obtain ⟨receivedAt, -, h⟩ := Option.bind_eq_some_iff.1 h
  dsimp only at h
  split at h
  · cases h
  · cases h
    exact (mandatory_eq_some.1 hid).1

theorem mapJmapEmail_id {value : JmapEmail} {email : RemoteEmail} (h : mapJmapEmail value = .ok email) :
    email.id = value.id := by
  obtain ⟨id, hid, h⟩ := except_bind_eq_ok.1 h
  obtain ⟨blobId, -, h⟩ := except_bind_eq_ok.1 h
  obtain ⟨threadId, -, h⟩ := except_bind_eq_ok.1 h
  obtain ⟨mailboxIds, -, h⟩ := except_bind_eq_ok.1 h
  cases h
  unfold remoteIdFromString at hid
  split at hid
  · cases hid
  · exact (Except.ok.inj hid).symm

theorem RawJmapEmail.ReadsAs.id {raw : RawJmapEmail} {email : RemoteEmail} (h : raw.ReadsAs email) : raw.id = some email.id := by
  obtain ⟨value, hv, he⟩ := h
  rw [validateAndMapEmail_id hv, mapJmapEmail_id he]

theorem remoteIdFromString_ok {value : String} (name : String) (h : value ≠ "") : remoteIdFromString value name = .ok value := by
  have hl : value.length ≠ 0 := by simpa [String.length_eq_zero_iff] using h
  rw [remoteIdFromString, if_neg hl]

/-- No email of a server is left out or refused. -/
theorem RawJmapEmail.WellFormed.reads {raw : RawJmapEmail} (h : raw.WellFormed) :
    ∃ value email, validateAndMapEmail raw = some value ∧ mapJmapEmail value = .ok email := by
  obtain ⟨id, hid, hid0⟩ := h.id
  obtain ⟨blobId, hblob, hblob0⟩ := h.blobId
  obtain ⟨threadId, hthread, hthread0⟩ := h.threadId
  obtain ⟨receivedAt, hrec, hrec0⟩ := h.receivedAt
  obtain ⟨entries, hent, hne, hempty⟩ := h.mailboxIds
  have hmap : ∀ l : List String, "" ∉ l → l.mapM (fun id => remoteIdFromString id "RemoteMailboxId") = .ok l := by
    intro l hl
    refine mapM_eq_ok.2 (List.forall₂_same.2 fun id hm => remoteIdFromString_ok _ ?_)
    rintro rfl
    exact hl hm
  obtain ⟨value, hv, rfl, rfl, rfl, hboxes⟩ : ∃ value, validateAndMapEmail raw = some value ∧ value.id = id ∧
      value.blobId = blobId ∧ value.threadId = threadId ∧ value.mailboxIds = setKeys entries := by
    simp only [validateAndMapEmail, mandatory_eq_some.2 ⟨hid, hid0⟩, mandatory_eq_some.2 ⟨hblob, hblob0⟩,
      mandatory_eq_some.2 ⟨hthread, hthread0⟩, mandatory_eq_some.2 ⟨hrec, hrec0⟩, hent, Option.getD_some, if_neg hne,
      Option.bind_eq_bind, Option.bind_some]
    exact ⟨_, rfl, rfl, rfl, rfl, rfl⟩
  refine ⟨value, ?_⟩
  simp only [mapJmapEmail, remoteIdFromString_ok _ hid0, remoteIdFromString_ok _ hblob0, remoteIdFromString_ok _ hthread0,
    hboxes, hmap _ hempty]
  exact ⟨_, hv, rfl⟩

/-! ## Sets in insertion order -/

theorem nodup_setAdd {set : List String} (value : String) (h : set.Nodup) : (setAdd set value).Nodup := by
  unfold setAdd
  split
  · exact h
  · rename_i hv
    exact List.nodup_append.2 ⟨h, List.nodup_singleton _, by rintro a ha b hb rfl; simp_all⟩

theorem nodup_foldl_setAdd {set : List String} (values : List String) (h : set.Nodup) : (values.foldl setAdd set).Nodup := by
  induction values generalizing set with
  | nil => exact h
  | cons value rest ih => exact ih (nodup_setAdd value h)

theorem foldl_setAdd_of_nodup {set values : List String} (h : (set ++ values).Nodup) : values.foldl setAdd set = set ++ values := by
  induction values generalizing set with
  | nil => simp
  | cons value rest ih =>
    have hv : value ∉ set := fun hm => (List.nodup_append.1 h).2.2 value hm value List.mem_cons_self rfl
    rw [List.foldl_cons, setAdd, if_neg hv, ih (by simpa using h), List.append_assoc, List.singleton_append]

/-! ## One batch -/

open JmapRemoteMail

theorem takeExpected_eq_ok {expected left : List String} {emails : List JmapEmail} :
    takeExpected expected emails = .ok left → (emails.map (·.id) ++ left).Perm expected := by
  induction emails generalizing expected with
  | nil =>
    intro h
    cases h
    exact .refl _
  | cons email rest ih =>
    intro h
    rw [takeExpected] at h
    split at h
    · rename_i hm
      exact ((ih h).cons email.id).trans (List.perm_cons_erase hm).symm
    · cases h

theorem takeExpected_of_perm {expected : List String} {emails : List JmapEmail} (h : (emails.map (·.id)).Perm expected) :
    takeExpected expected emails = .ok [] := by
  induction emails generalizing expected with
  | nil => rw [List.map_nil, List.nil_perm] at h; rw [h]; rfl
  | cons email rest ih =>
    have hm : email.id ∈ expected := h.subset (by simp)
    rw [takeExpected, if_pos hm]
    exact ih ((List.perm_cons _).1 (h.trans (List.perm_cons_erase hm)))

/-- The check passes for an answer that has each of the batch once. -/
theorem checkBatch_eq_ok {batch : List String} (hb : batch.Nodup) {emails : List JmapEmail} :
    checkBatch batch emails = .ok () ↔ (emails.map (·.id)).Perm batch := by
  have hset := foldl_setAdd_of_nodup (show ([] ++ batch).Nodup by simpa using hb)
  unfold checkBatch
  rw [hset, List.nil_append]
  constructor
  · intro h
    obtain ⟨left, hleft, h⟩ := except_bind_eq_ok.1 h
    split at h
    · rename_i he
      subst he
      simpa using takeExpected_eq_ok hleft
    · cases h
  · intro h
    simp only [takeExpected_of_perm h, bind, Except.bind, if_true]

/-! ## Batches -/

theorem flatten_slices {α : Type} {size fuel : Nat} (hsize : 0 < size) {values : List α} (h : values.length ≤ fuel) :
    (slices size fuel values).flatten = values := by
  induction fuel generalizing values with
  | zero => rw [List.length_eq_zero_iff.1 (Nat.le_zero.1 h)]; rfl
  | succ fuel ih =>
    unfold slices
    split
    · rename_i he
      rw [he]; rfl
    · rename_i he
      have hpos := List.length_pos_iff.2 he
      rw [List.flatten_cons, ih (by rw [List.length_drop]; omega), List.take_append_drop]

theorem flatten_chunks {α : Type} (values : List α) : (chunks values pageSize).flatten = values :=
  flatten_slices (by decide) le_rfl

/-! ## What a server holds -/

/-- The emails of an account in each state of its server. -/
structure MailStore (W : Type) where
  emails : W → List RawJmapEmail
  emailState : W → String
  nodup : ∀ w, ((emails w).map (·.id)).Nodup
  wellFormed : ∀ w, ∀ raw ∈ emails w, raw.WellFormed

abbrev Reply (e : JamRequest) : Type := Except JamRejection (RawResponse e)

/-- A request, the state it was answered in, and the answer. -/
structure Exchange (W : Type) where
  request : JamRequest
  state : W
  reply : Reply request

/-- A get that was answered, or rejected. -/
def Exchange.isGet {W : Type} (x : Exchange W) : Prop := ∃ accountId ids, x.request = .emailGet accountId ids

variable {W : Type}

/-- Each request is answered in some state of the server, as `answers` says. -/
def serve (answers : W → (e : JamRequest) → Reply e → Prop) (h : List (Exchange W)) (e : JamRequest) (r : Reply e)
    (h' : List (Exchange W)) : Prop :=
  ∃ w, answers w e r ∧ h' = h ++ [⟨e, w, r⟩]

/-- What a run adds to the exchanges was answered so. -/
theorem serve_answers {α : Type} {answers : W → (e : JamRequest) → Reply e → Prop} {p : Prog JamRequest Reply α}
    {h h' : List (Exchange W)} {o : Option α} (hrun : Exec (serve answers) p h o h')
    (hh : ∀ x ∈ h, answers x.state x.request x.reply) : ∀ x ∈ h', answers x.state x.request x.reply := by
  induction hrun with
  | done a h => exact hh
  | crash p h => exact hh
  | step hs _ ih =>
    obtain ⟨w, hw, rfl⟩ := hs
    refine ih fun x hx => ?_
    rcases List.mem_append.1 hx with hx | hx
    · exact hh x hx
    · obtain rfl := List.mem_singleton.1 hx
      exact hw

abbrev served (answers : W → (e : JamRequest) → Reply e → Prop) : Contract JamRequest Reply (List (Exchange W)) :=
  keeps (serve answers) fun _ => True

/-- A function ends with `P`, or throws if it may. -/
def Ends {S X α : Type} (fails : Prop) (P : α → S → Prop) : Except X α → S → Prop
  | .ok a, s => P a s
  | .error _, _ => fails

theorem ends_bind {α β S X : Type} {E : Type} {R : E → Type} {C : Contract E R S} {fails : Prop} {p : Async E R X α}
    {f : α → Async E R X β} {P : α → S → Prop} {Q : β → S → Prop} {s : S} (hp : C.wpA p (Ends fails P) s)
    (hf : ∀ a s', P a s' → C.wpA (f a) (Ends fails Q) s') : C.wpA (p >>= f) (Ends fails Q) s :=
  Contract.wpA_bind_of hp hf fun _ _ hx => hx

/-- A synchronous step that returns. -/
theorem ends_lift {α β S X : Type} {E : Type} {R : E → Type} {C : Contract E R S} {p : Async E R X α} {a : α}
    {f : α → Async E R X β} {Q : Except X β → S → Prop} {s : S} (hp : p = Async.lift (.ok a)) (hf : C.wpA (f a) Q s) :
    C.wpA (p >>= f) Q s := by
  subst hp
  exact hf

/-- A handler that only throws. -/
theorem ends_tryCatch {α S X : Type} {E : Type} {R : E → Type} {C : Contract E R S} {fails : Prop} {p : Async E R X α} {g : X → X}
    {P : α → S → Prop} {s : S} (hp : C.wpA p (Ends fails P) s) :
    C.wpA (tryCatch p fun x => throw (g x)) (Ends fails P) s := by
  rw [Contract.wpA_tryCatch]
  refine C.wpA_mono (fun r s' hr => ?_) hp
  cases r with
  | ok a => exact hr
  | error x => exact hr

theorem wp_jamRequest {answers : W → (e : JamRequest) → Reply e → Prop} {method : String} {e : JamRequest}
    {Q : Except JsError (RawResponse e) → List (Exchange W) → Prop} {h : List (Exchange W)}
    (hQ : ∀ w r, answers w e r → Q (r.mapError (jmapRequestError method)) (h ++ [⟨e, w, r⟩])) :
    (served answers).wpA (jamRequest method e) Q h := by
  refine ⟨trivial, ?_⟩
  rintro r h' ⟨w, hw, rfl⟩
  exact hQ w r hw

/-- A request that is answered with `G`, or else rejected if that may be. -/
theorem ends_jamRequest {answers : W → (e : JamRequest) → Reply e → Prop} {fails : Prop} {method : String} {e : JamRequest}
    {G : W → RawResponse e → Prop} {h : List (Exchange W)}
    (ha : ∀ w r, answers w e r → (∃ response, r = .ok response ∧ G w response) ∨ fails ∧ ∃ x, r = .error x) :
    (served answers).wpA (jamRequest method e)
      (Ends fails fun response h' => ∃ w, answers w e (.ok response) ∧ G w response ∧ h' = h ++ [⟨e, w, .ok response⟩]) h := by
  refine wp_jamRequest fun w r hr => ?_
  rcases ha w r hr with ⟨response, rfl, hG⟩ | ⟨hf, x, rfl⟩
  · exact ⟨w, hr, hG, rfl⟩
  · exact hf

namespace MailStore

variable (S : MailStore W)

def holds (w : W) (id : String) : Prop := ∃ raw ∈ S.emails w, raw.id = some id

/-- What the server holds of these ids. -/
def heldOf (w : W) (ids : List String) : List RawJmapEmail := (S.emails w).filter fun raw => raw.id.any (· ∈ ids)

/-- An answer to `Email/get`: what it holds of the ids, in any order. -/
def AnswersGet (w : W) (ids : List String) (response : RawGetResponse RawJmapEmail) : Prop :=
  ∃ list, response = ⟨some list, some (S.emailState w)⟩ ∧ list.Perm (S.heldOf w ids)

/-- All these ids are held, and the emails are what they stand for. -/
def Fetched (w : W) (ids : List String) (emails : List JmapEmail) : Prop :=
  (∀ id ∈ ids, S.holds w id) ∧
  ∃ raws, raws.Perm (S.heldOf w ids) ∧ List.Forall₂ (fun raw email => validateAndMapEmail raw = some email) raws emails

variable {S}

theorem mem_heldOf {w : W} {ids : List String} {raw : RawJmapEmail} :
    raw ∈ S.heldOf w ids ↔ raw ∈ S.emails w ∧ ∃ id ∈ ids, raw.id = some id := by
  simp only [heldOf, List.mem_filter, Option.any_eq_true, decide_eq_true_eq]
  exact and_congr_right fun _ => ⟨fun ⟨id, hid, hm⟩ => ⟨id, hm, hid⟩, fun ⟨id, hm, hid⟩ => ⟨id, hid, hm⟩⟩

theorem nodup_heldOf (w : W) (ids : List String) : ((S.heldOf w ids).map (·.id)).Nodup :=
  (List.filter_sublist.map _).nodup (S.nodup w)

/-- What is held of the ids has just these ids if all of them are held. -/
theorem ids_heldOf {w : W} {ids : List String} (hn : ids.Nodup) :
    ((S.heldOf w ids).map (·.id)).Perm (ids.map some) ↔ ∀ id ∈ ids, S.holds w id := by
  rw [List.perm_ext_iff_of_nodup (nodup_heldOf w ids) (hn.map (Option.some_injective _))]
  constructor
  · intro h id hid
    obtain ⟨raw, hraw, he⟩ := List.mem_map.1 ((h (some id)).2 (List.mem_map_of_mem hid))
    exact ⟨raw, (mem_heldOf.1 hraw).1, he⟩
  · intro h o
    simp only [List.mem_map, mem_heldOf]
    constructor
    · rintro ⟨raw, ⟨-, id, hid, he⟩, rfl⟩
      exact ⟨id, hid, he.symm⟩
    · rintro ⟨id, hid, rfl⟩
      obtain ⟨raw, hraw, he⟩ := h id hid
      exact ⟨raw, ⟨hraw, id, hid, he⟩, he⟩

/-- No email of an honest answer is left out. -/
theorem reads_all {w : W} {raws : List RawJmapEmail} (h : ∀ raw ∈ raws, raw ∈ S.emails w) :
    List.Forall₂ (fun raw email => validateAndMapEmail raw = some email) raws (raws.filterMap validateAndMapEmail) := by
  induction raws with
  | nil => exact .nil
  | cons raw rest ih =>
    obtain ⟨value, -, hv, -⟩ := (S.wellFormed w raw (h raw List.mem_cons_self)).reads
    rw [List.filterMap_cons_some hv]
    exact .cons hv (ih fun r hr => h r (List.mem_cons_of_mem _ hr))

theorem ids_of_reads {raws : List RawJmapEmail} {emails : List JmapEmail}
    (h : List.Forall₂ (fun raw email => validateAndMapEmail raw = some email) raws emails) :
    raws.map (·.id) = (emails.map (·.id)).map some := by
  induction h with
  | nil => rfl
  | cons hv _ ih => simp [validateAndMapEmail_id hv, ← ih]

/-- A batch passes the check just if the server holds all of it. -/
theorem checkBatch_answer {w : W} {ids : List String} (hn : ids.Nodup) {list : List RawJmapEmail}
    (hl : list.Perm (S.heldOf w ids)) :
    (checkBatch ids (list.filterMap validateAndMapEmail) = .ok () ↔ ∀ id ∈ ids, S.holds w id) ∧
      ((∀ id ∈ ids, S.holds w id) → S.Fetched w ids (list.filterMap validateAndMapEmail)) := by
  have hreads := reads_all (S := S) (w := w) fun raw hraw => (mem_heldOf.1 (hl.subset hraw)).1
  have hids : ((list.filterMap validateAndMapEmail).map (·.id)).Perm ids ↔ ∀ id ∈ ids, S.holds w id := by
    rw [← ids_heldOf hn, ← List.map_perm_map_iff (Option.some_injective String), ← ids_of_reads hreads]
    exact (hl.map _).congr_left _
  rw [checkBatch_eq_ok hn, hids]
  exact ⟨Iff.rfl, fun h => ⟨h, list, hl, hreads⟩⟩

/-- The same emails, in another state. -/
theorem Fetched.congr {w w' : W} {ids : List String} {emails : List JmapEmail} (h : S.Fetched w ids emails)
    (hw : (S.emails w).Perm (S.emails w')) : S.Fetched w' ids emails := by
  obtain ⟨hall, raws, hraws, hread⟩ := h
  refine ⟨fun id hid => ?_, raws, hraws.trans (hw.filter _), hread⟩
  obtain ⟨raw, hraw, he⟩ := hall id hid
  exact ⟨raw, hw.subset hraw, he⟩

theorem heldOf_append {w : W} {ids ids' : List String} (hd : ids.Disjoint ids') :
    (S.heldOf w (ids ++ ids')).Perm (S.heldOf w ids ++ S.heldOf w ids') := by
  have hnd : (S.heldOf w ids ++ S.heldOf w ids').Nodup := by
    refine List.nodup_append.2 ⟨(nodup_heldOf w ids).of_map, (nodup_heldOf w ids').of_map, ?_⟩
    rintro raw hraw _ hraw' rfl
    obtain ⟨-, id, hid, he⟩ := mem_heldOf.1 hraw
    obtain ⟨-, id', hid', he'⟩ := mem_heldOf.1 hraw'
    obtain rfl : id = id' := Option.some.inj (he.symm.trans he')
    exact hd hid hid'
  refine (List.perm_ext_iff_of_nodup (nodup_heldOf w _).of_map hnd).2 fun raw => ?_
  simp only [List.mem_append, mem_heldOf, or_and_right, exists_or, and_or_left]

/-- Two batches with no id in common. -/
theorem Fetched.append {w : W} {ids ids' : List String} {emails emails' : List JmapEmail} (h : S.Fetched w ids emails)
    (h' : S.Fetched w ids' emails') (hd : ids.Disjoint ids') : S.Fetched w (ids ++ ids') (emails ++ emails') := by
  obtain ⟨hall, raws, hraws, hread⟩ := h
  obtain ⟨hall', raws', hraws', hread'⟩ := h'
  refine ⟨fun id hid => ?_, raws ++ raws', (hraws.append hraws').trans (heldOf_append hd).symm, List.rel_append hread hread'⟩
  rcases List.mem_append.1 hid with hid | hid
  · exact hall id hid
  · exact hall' id hid

theorem fetched_nil (w : W) : S.Fetched w [] [] := by
  refine ⟨by simp, [], ?_, .nil⟩
  have hnil : S.heldOf w [] = [] := List.filter_eq_nil_iff.2 fun raw _ => by cases raw.id <;> simp
  rw [hnil]

/-! ## `fetchExactEmails` -/

/-- The gets are honest, and rejected only if the fetch may fail. -/
def HonestGets (S : MailStore W) (answers : W → (e : JamRequest) → Reply e → Prop) (fails : Prop) (accountId : String) : Prop :=
  ∀ w ids r, answers w (.emailGet accountId ids) r →
    (∃ response, r = .ok response ∧ S.AnswersGet w ids response) ∨ fails ∧ ∃ x, r = .error x

/-- Every get is answered in this state, which holds all of `ids`. -/
def Steady (S : MailStore W) (answers : W → (e : JamRequest) → Reply e → Prop) (accountId : String) (ids : List String)
    (state : String) : Prop :=
  ∀ w batch r, answers w (.emailGet accountId batch) r → S.emailState w = state ∧ ∀ id ∈ ids, S.holds w id

/-- What `batches` were read as, and in which state if that was looked at. -/
structure FetchedBy (S : MailStore W) (includeState : Bool) (batches : List (List String)) (h₀ : List (Exchange W))
    (emails : List JmapEmail) (state : Option String) (h : List (Exchange W)) : Prop where
  gets : ∃ gets, h = h₀ ++ gets ∧ (batches ≠ [] → gets ≠ []) ∧
    ∀ y ∈ gets, y.isGet ∧ (includeState = true → state = some (S.emailState y.state))
  fetched : ∀ w, (includeState = true → state = some (S.emailState w)) → S.Fetched w batches.flatten emails

variable {answers : W → (e : JamRequest) → Reply e → Prop} {fails : Prop} {accountId : String}

theorem ends_getEmails (hg : S.HonestGets answers fails accountId) (ids : List String) (h : List (Exchange W)) :
    (served answers).wpA (getEmails accountId ids) (Ends fails fun result h' => ∃ w, ∃ list : List RawJmapEmail, ∃ response,
      answers w (.emailGet accountId ids) (.ok response) ∧ list.Perm (S.heldOf w ids) ∧
      result = ⟨list.filterMap validateAndMapEmail, S.emailState w⟩ ∧ h' = h ++ [⟨.emailGet accountId ids, w, .ok response⟩]) h := by
  refine ends_bind (ends_jamRequest (G := fun w response => S.AnswersGet w ids response) (hg · ids ·)) ?_
  rintro response h' ⟨w, hw, ⟨list, rfl, hl⟩, rfl⟩
  exact ⟨w, list, _, hw, hl, rfl, rfl⟩

theorem ends_fetchBatches {includeState : Bool} {ids : List String} (hg : S.HonestGets answers fails accountId)
    (hsame : ∀ w w', (includeState = true → S.emailState w = S.emailState w') → (S.emails w).Perm (S.emails w'))
    (hsteady : fails ∨ ∃ state, S.Steady answers accountId ids state) {batches : List (List String)}
    (hn : batches.flatten.Nodup) (hsub : ∀ id ∈ batches.flatten, id ∈ ids) (first : Option String)
    (hfirst : fails ∨ ∀ s, first = some s → S.Steady answers accountId ids s) (emails : List JmapEmail) (h : List (Exchange W)) :
    (served answers).wpA (fetchBatches accountId includeState first emails batches) (Ends fails fun result h' =>
      ∃ read, result.1 = emails ++ read ∧ (first ≠ none → result.2 = first) ∧
        S.FetchedBy includeState batches h read result.2 h') h := by
  induction batches generalizing first emails h with
  | nil => exact ⟨[], by simp, fun _ => rfl, ⟨[], by simp⟩, fun w _ => fetched_nil w⟩
  | cons batch rest ih =>
    rw [List.flatten_cons, List.nodup_append'] at hn
    unfold fetchBatches
    refine ends_bind (ends_getEmails hg batch h) ?_
    rintro result h' ⟨w, list, response, hw, hl, rfl, rfl⟩
    dsimp only
    split
    · -- another state than the first: not if the server is steady
      rename_i hne
      rcases hsteady with hf | ⟨state, hs⟩
      · exact hf
      · refine hfirst.elim id fun hfirst => ?_
        cases first with
        | none => simp at hne
        | some s =>
          simp only [Option.getD_some, Bool.and_eq_true, decide_eq_true_eq] at hne
          exact absurd (hfirst s rfl w batch _ hw).1 hne.2
    · rename_i heq
      refine ends_bind (P := fun _ h' => h' = h ++ [⟨_, w, .ok response⟩] ∧ S.Fetched w batch (list.filterMap validateAndMapEmail)) ?_ ?_
      · obtain ⟨hcheck, hfetched⟩ := checkBatch_answer hn.1 hl
        cases hc : checkBatch batch (list.filterMap validateAndMapEmail) with
        | ok _ => exact ⟨rfl, hfetched (hcheck.1 hc)⟩
        | error x =>
          refine hsteady.elim id fun ⟨state, hs⟩ => ?_
          have hall := hcheck.2 fun id hid => (hs w batch _ hw).2 id (hsub id (by simp [hid]))
          rw [hc] at hall
          cases hall
      · rintro _ _ ⟨rfl, hread⟩
        have hfirst' : fails ∨ ∀ s, some (first.getD (S.emailState w)) = some s → S.Steady answers accountId ids s := by
          refine hsteady.elim .inl fun ⟨state, hs⟩ => hfirst.imp id fun hfirst => ?_
          rintro s ⟨⟩
          cases first with
          | none => rw [Option.getD_none, (hs w batch _ hw).1]; exact hs
          | some s => exact hfirst s rfl
        refine Contract.wpA_mono _ ?_ (ih hn.2.1 (fun id hid => hsub id (by simp [hid])) _ hfirst' _ _)
        rintro (x | ⟨out, state⟩) h' hr
        · exact hr
        obtain ⟨read, hout, hstate, ⟨gets, rfl, -, hgets⟩, hfetched⟩ := hr
        dsimp only at hout hstate hgets hfetched
        -- the state of this batch is the one all were read in
        have hstate' : state = some (first.getD (S.emailState w)) := hstate (by simp)
        have hthis : includeState = true → state = some (S.emailState w) := by
          rintro rfl
          simp only [Bool.true_and, decide_eq_true_eq, ne_eq, not_not] at heq
          rw [hstate', ← heq]
        refine ⟨list.filterMap validateAndMapEmail ++ read, by simp [hout], fun hf => ?_, ⟨_, List.append_assoc _ _ _, by simp, ?_⟩, ?_⟩
        · obtain ⟨s, rfl⟩ := Option.ne_none_iff_exists'.1 hf
          exact hstate'
        · intro y hy
          rcases List.mem_cons.1 hy with rfl | hy
          · exact ⟨⟨_, _, rfl⟩, hthis⟩
          · exact hgets y hy
        · intro w' hw'
          have hperm : (S.emails w).Perm (S.emails w') :=
            hsame w w' fun hi => Option.some.inj ((hthis hi).symm.trans (hw' hi))
          exact (hread.congr hperm).append (hfetched w' hw') hn.2.2

/-- All at once. -/
theorem ends_fetchExactEmails {includeState : Bool} {ids : List String} (hg : S.HonestGets answers fails accountId)
    (hsame : ∀ w w', (includeState = true → S.emailState w = S.emailState w') → (S.emails w).Perm (S.emails w'))
    (hsteady : fails ∨ ∃ state, S.Steady answers accountId ids state) (hn : ids.Nodup) (h : List (Exchange W)) :
    (served answers).wpA (fetchExactEmails accountId ids includeState) (Ends fails fun result h' =>
      (∃ gets, h' = h ++ gets ∧ gets ≠ [] ∧ ∀ y ∈ gets, y.isGet ∧ (includeState = true → S.emailState y.state = result.2)) ∧
      ∀ w, (includeState = true → S.emailState w = result.2) → S.Fetched w ids result.1) h := by
  have hb : (if ids = [] then [[]] else chunks ids pageSize).flatten = ids := by
    split
    · rename_i he; rw [he]; rfl
    · exact flatten_chunks ids
  have hne : (if ids = [] then [[]] else chunks ids pageSize) ≠ [] := by
    intro he
    split at he
    · cases he
    · rename_i hids
      rw [← flatten_chunks ids, he] at hids
      exact hids rfl
  unfold fetchExactEmails
  refine ends_bind (ends_fetchBatches hg hsame hsteady (by rwa [hb]) (by rw [hb]; exact fun _ => id) none
    (.inr fun s hs => by cases hs) [] h) ?_
  rintro ⟨out, state⟩ h' ⟨read, rfl, -, ⟨gets, rfl, hgets, hstate⟩, hfetched⟩
  have hfound : includeState = true → state = some (state.getD "") := by
    intro hi
    obtain ⟨y, hy⟩ := List.exists_mem_of_ne_nil _ (hgets hne)
    have hs : state = some _ := (hstate y hy).2 hi
    rw [hs, Option.getD_some]
  refine ⟨⟨gets, rfl, hgets hne, fun y hy => ⟨(hstate y hy).1, fun hi => ?_⟩⟩, fun w hw => ?_⟩
  · have hs : state = some _ := (hstate y hy).2 hi
    simp only [hs, Option.getD_some]
  · have hread := hfetched w fun hi => by rw [hw hi]; exact hfound hi
    rwa [hb] at hread

/-! ## Snapshots -/

/-- Each of these emails once, as it is returned. -/
def IsSnapshot (raws : List RawJmapEmail) (snapshot : List RemoteEmail) : Prop :=
  ∃ held, held.Perm raws ∧ List.Forall₂ RawJmapEmail.ReadsAs held snapshot

theorem IsSnapshot.ids {raws : List RawJmapEmail} {snapshot : List RemoteEmail} (h : IsSnapshot raws snapshot) :
    (raws.map (·.id)).Perm ((snapshot.map (·.id)).map some) := by
  obtain ⟨held, hperm, hreads⟩ := h
  refine (hperm.map _).symm.trans (.of_eq ?_)
  clear hperm
  induction hreads with
  | nil => rfl
  | cons hr _ ih => simp [hr.id, ih]

theorem IsSnapshot.nodup {raws : List RawJmapEmail} {snapshot : List RemoteEmail} (h : IsSnapshot raws snapshot)
    (hn : (raws.map (·.id)).Nodup) : (snapshot.map (·.id)).Nodup :=
  (h.ids.nodup_iff.1 hn).of_map

theorem IsSnapshot.mem {raws : List RawJmapEmail} {snapshot : List RemoteEmail} (h : IsSnapshot raws snapshot) {raw : RawJmapEmail}
    (hraw : raw ∈ raws) : ∃ email ∈ snapshot, raw.ReadsAs email := by
  obtain ⟨held, hperm, hreads⟩ := h
  have hm := hperm.symm.subset hraw
  clear hperm hraw
  induction hreads with
  | nil => cases hm
  | @cons _ email _ _ hr _ ih =>
    rcases List.mem_cons.1 hm with rfl | hm
    · exact ⟨email, List.mem_cons_self, hr⟩
    · obtain ⟨email', he, hr'⟩ := ih hm
      exact ⟨email', List.mem_cons_of_mem _ he, hr'⟩

theorem IsSnapshot.of_mem {raws : List RawJmapEmail} {snapshot : List RemoteEmail} (h : IsSnapshot raws snapshot) {email : RemoteEmail}
    (he : email ∈ snapshot) : ∃ raw ∈ raws, raw.ReadsAs email := by
  obtain ⟨held, hperm, hreads⟩ := h
  suffices hs : ∃ raw ∈ held, raw.ReadsAs email from hs.imp fun raw hraw => ⟨hperm.subset hraw.1, hraw.2⟩
  clear hperm
  induction hreads with
  | nil => cases he
  | @cons raw _ _ _ hr _ ih =>
    rcases List.mem_cons.1 he with rfl | he
    · exact ⟨raw, List.mem_cons_self, hr⟩
    · obtain ⟨raw', hraw, hr'⟩ := ih he
      exact ⟨raw', List.mem_cons_of_mem _ hraw, hr'⟩

/-- A snapshot of these ids, all held, has just these ids. -/
theorem IsSnapshot.perm_ids {w : W} {ids : List String} {snapshot : List RemoteEmail} (h : IsSnapshot (S.heldOf w ids) snapshot)
    (hn : ids.Nodup) (hall : ∀ id ∈ ids, S.holds w id) : (snapshot.map (·.id)).Perm ids :=
  (List.map_perm_map_iff (Option.some_injective _)).1 (h.ids.symm.trans ((ids_heldOf hn).2 hall))

/-- What is fetched is mapped as a whole, to a snapshot of what is held. -/
theorem Fetched.mapped {w : W} {ids : List String} {emails : List JmapEmail} (h : S.Fetched w ids emails) :
    ∃ snapshot, emails.mapM mapJmapEmail = .ok snapshot ∧ IsSnapshot (S.heldOf w ids) snapshot := by
  obtain ⟨-, raws, hraws, hread⟩ := h
  have hheld : ∀ raw ∈ raws, raw ∈ S.emails w := fun raw hraw => (mem_heldOf.1 (hraws.subset hraw)).1
  suffices hs : ∃ snapshot, emails.mapM mapJmapEmail = .ok snapshot ∧ List.Forall₂ RawJmapEmail.ReadsAs raws snapshot by
    obtain ⟨snapshot, hmap, hs⟩ := hs
    exact ⟨snapshot, hmap, raws, hraws, hs⟩
  clear hraws
  induction hread with
  | nil => exact ⟨[], rfl, .nil⟩
  | @cons raw value raws values hv _ ih =>
    obtain ⟨value', email, hv', he⟩ := (S.wellFormed w raw (hheld raw List.mem_cons_self)).reads
    obtain rfl : value = value' := Option.some.inj (hv.symm.trans hv')
    obtain ⟨snapshot, hmap, hs⟩ := ih fun raw hraw => hheld raw (List.mem_cons_of_mem _ hraw)
    exact ⟨email :: snapshot, mapM_eq_ok.2 (.cons he (mapM_eq_ok.1 hmap)), .cons ⟨value, hv, he⟩ hs⟩

theorem checkIdentities_of_nodup {identities ids : List String} (h : (identities ++ ids).Nodup) :
    checkIdentities identities ids = .ok (identities ++ ids) := by
  induction ids generalizing identities with
  | nil => simp [checkIdentities]
  | cons id rest ih =>
    have hid : id ∉ identities := fun hm => (List.nodup_append.1 h).2.2 id hm id List.mem_cons_self rfl
    rw [checkIdentities, if_neg hid, ih (by simpa using h), List.append_assoc, List.singleton_append]

end MailStore

/-! ## A small email -/

def sampleRaw (id : String) : RawJmapEmail where
  id := some id
  blobId := some "b"
  threadId := some "t"
  sender := none
  «from» := none
  replyTo := none
  «to» := none
  cc := none
  bcc := none
  subject := none
  sentAt := none
  receivedAt := some "2026-01-01T00:00:00Z"
  size := none
  preview := none
  hasAttachment := none
  keywords := none
  mailboxIds := some [("inbox", true)]

theorem sampleRaw_wellFormed {id : String} (h : id ≠ "") : (sampleRaw id).WellFormed :=
  ⟨⟨id, rfl, h⟩, ⟨"b", rfl, by decide⟩, ⟨"t", rfl, by decide⟩, ⟨_, rfl, by decide⟩, ⟨_, rfl, by decide, by decide⟩⟩

theorem sampleRaw_isIn {id mailboxId : String} : (sampleRaw id).isIn mailboxId ↔ mailboxId = "inbox" := by
  simp [sampleRaw, RawJmapEmail.isIn, setKeys]

theorem sampleRaw_id {id id' : String} : (sampleRaw id).id = some id' ↔ id' = id := by
  simp only [sampleRaw, Option.some.injEq, eq_comm]

end Boxplot.Jmap
