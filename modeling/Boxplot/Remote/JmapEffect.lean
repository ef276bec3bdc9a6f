import Mathlib
import Boxplot.Jmap.EmailSet
import Boxplot.Remote.JmapOutcome
/-!
# What a JMAP mutation does to the email

Against a server that follows `Email/set`, a change that resolves should leave
the email's set with what was added and without what was removed, and
everything else as it was. The patch gives the whole property instead of paths
into it, so the server keeps of the old set only what the change names again.
-/

namespace Boxplot.Remote

open Domain Lib Jmap

/-! ## The patch object -/

/-- What is added is given as `true`. -/
theorem trueKeys_add (add : List String) {patch : List (String × JsValue)} {keys : Finset String}
    (h : trueKeys (.obj patch) = some keys) :
    trueKeys (.obj (add.foldl (fun patch value => assign patch value (.bool true)) patch)) =
      some (keys ∪ add.toFinset.erase "__proto__") := by
  induction add generalizing patch keys with
  | nil => simpa using h
  | cons a rest ih =>
    simp only [trueKeys] at h
    split at h
    · rename_i hall
      cases h
      rw [List.foldl_cons]
      by_cases ha : a = "__proto__"
      · rw [ha, assign_proto, ih (by rw [trueKeys, if_pos hall])]
        simp
      · have hall' : (assign patch a (.bool true)).all (fun field => isTrue field.2) = true := by
          rw [List.all_eq_true] at hall ⊢
          intro field hf
          rcases of_mem_assign hf with rfl | hm
          · rfl
          · exact hall field hm
        rw [ih (by rw [trueKeys, if_pos hall']), keys_assign ha]
        congr 1
        ext k
        simp only [Finset.mem_union, Finset.mem_insert, Finset.mem_erase, List.toFinset_cons]
        constructor
        · rintro ((rfl | hk) | ⟨hk, hr⟩)
          · exact .inr ⟨ha, .inl rfl⟩
          · exact .inl hk
          · exact .inr ⟨hk, .inr hr⟩
        · rintro (hk | ⟨hk, rfl | hr⟩)
          · exact .inl (.inr hk)
          · exact .inl (.inl rfl)
          · exact .inr ⟨hk, hr⟩
    · cases h

theorem trueKeys_false {patch : List (String × JsValue)} {key : String} (h : (key, .bool false) ∈ patch) :
    trueKeys (.obj patch) = none := by
  rw [trueKeys, if_neg]
  intro hall
  exact absurd (List.all_eq_true.1 hall _ h) Bool.false_ne_true

/-- What is removed is given as `false`, and stays so. -/
theorem remove_false (remove : List String) (patch : List (String × JsValue))
    (h : (∃ key, (key, JsValue.bool false) ∈ patch) ∨ ∃ key ∈ remove, key ≠ "__proto__") :
    ∃ key, (key, JsValue.bool false) ∈ remove.foldl (fun patch value => assign patch value (.bool false)) patch := by
  induction remove generalizing patch with
  | nil => simpa using h
  | cons r rest ih =>
    rw [List.foldl_cons]
    apply ih
    by_cases hr : r = "__proto__"
    · rw [hr, assign_proto]
      refine h.imp_right fun ⟨key, hk, hne⟩ => ⟨key, ?_, hne⟩
      rcases List.mem_cons.1 hk with rfl | hm
      · exact absurd hr hne
      · exact hm
    · exact .inl ⟨r, mem_assign_self hr⟩

theorem remove_proto {remove : List String} {patch : List (String × JsValue)} (h : ∀ key ∈ remove, key = "__proto__") :
    remove.foldl (fun patch value => assign patch value (.bool false)) patch = patch := by
  induction remove with
  | nil => rfl
  | cons r rest ih =>
    rw [List.foldl_cons, h r List.mem_cons_self, assign_proto]
    exact ih fun key hk => h key (List.mem_cons_of_mem _ hk)

/-- The set a patch gives, if the server reads it as one: no key can be called `__proto__`. -/
theorem trueKeys_patchOf (add remove : List String) :
    trueKeys (.obj (patchOf add remove)) =
      if remove.toFinset ⊆ {"__proto__"} then some (add.toFinset.erase "__proto__") else none := by
  unfold patchOf
  split
  · rename_i h
    have hadd := trueKeys_add add (show trueKeys (.obj []) = some ∅ by rfl)
    rw [remove_proto (by simpa [Finset.subset_iff] using h), hadd, Finset.empty_union]
  · rename_i h
    obtain ⟨key, hk, hne⟩ := Finset.not_subset.1 h
    obtain ⟨k, hf⟩ := remove_false remove (add.foldl (fun patch value => assign patch value (.bool true)) [])
      (.inr ⟨key, by simpa using hk, by simpa using hne⟩)
    exact trueKeys_false hf

/-! ## The server's side of one update -/

/-- The email the server makes of the update, if it makes it. -/
def updatedEmail (s : EmailServer) (accountId emailId : String) (email : EmailObject) (p : SetProperty)
    (patch : List (String × JsValue)) : Option EmailObject :=
  if s.refuses accountId emailId = none then (trueKeys (.obj patch)).bind (email.setMembers · p) else none

section
variable {s : EmailServer} {accountId emailId : String} {email : EmailObject} {p : SetProperty}
  {patch : List (String × JsValue)} {r : HttpRequest}

variable (p patch) in
theorem updates_one (hemail : s.emails accountId emailId = some email) :
    (∃ email', updatedEmail s accountId emailId email p patch = some email' ∧
      s.updates accountId s.emails [(emailId, .obj [(p.name, .obj patch)])] = (s.emails.put accountId emailId email', [])) ∨
    updatedEmail s accountId emailId email p patch = none ∧
      ∃ type, s.updates accountId s.emails [(emailId, .obj [(p.name, .obj patch)])] =
        (s.emails, [(emailId, .obj [("type", .str type)])]) := by
  unfold updatedEmail
  simp only [EmailServer.updates, EmailServer.update, hemail, EmailObject.patch_whole]
  cases (trueKeys (.obj patch)).bind fun keys => email.setMembers keys p with
  | none => exact .inr ⟨by simp, _, rfl⟩
  | some email' =>
    cases s.refuses accountId emailId with
    | none => exact .inl ⟨email', by simp, rfl⟩
    | some type => exact .inr ⟨by simp, _, rfl⟩

variable (p patch) in
/-- What the server does with the request: it fails the call, makes the update, or refuses it. -/
theorem calls_update (hemail : s.emails accountId emailId = some email) :
    (∃ type, s.fails = some type ∧
      s.calls s.emails [updateCall p.name accountId emailId patch] = (s.emails, [("e1", .error type)])) ∨
    (∃ email', s.fails = none ∧ updatedEmail s accountId emailId email p patch = some email' ∧
      s.calls s.emails [updateCall p.name accountId emailId patch] =
        (s.emails.put accountId emailId email', [("e1", .set accountId [])])) ∨
    ∃ type, s.fails = none ∧ updatedEmail s accountId emailId email p patch = none ∧
      s.calls s.emails [updateCall p.name accountId emailId patch] =
        (s.emails, [("e1", .set accountId [(emailId, .obj [("type", .str type)])])]) := by
  cases hf : s.fails with
  | some type => exact .inl ⟨type, rfl, by simp [EmailServer.calls, EmailServer.call, updateCall, hf]⟩
  | none =>
    right
    rcases updates_one p patch hemail with ⟨email', hu, hs⟩ | ⟨hu, type, hs⟩
    · exact .inl ⟨email', rfl, hu, by simp [EmailServer.calls, EmailServer.call, updateCall, hf, List.lookup, hs]⟩
    · exact .inr ⟨type, rfl, hu, by simp [EmailServer.calls, EmailServer.call, updateCall, hf, List.lookup, hs]⟩

/-! ## What the client reads -/

variable {e : Engine}

theorem findResponse_one (response : MethodResponse) :
    findResponse e "e1" [MethodResponse.encode ("e1", response)] = .ok (some (MethodResponse.encode ("e1", response))) := by
  cases response <;> simp [findResponse, MethodResponse.encode, JsValue.get, JsValue.index_two, bind, Except.bind, JsValue.isText]

theorem notUpdatedEntry_one (response : MethodResponse) :
    notUpdatedEntry e emailId [MethodResponse.encode ("e1", response)] = (do
      let result ← (MethodResponse.encode ("e1", response)).get e "1"
      let notUpdated ← result.get e "notUpdated"
      if notUpdated.truthy then do
        let details ← notUpdated.get e emailId
        .ok (if details.truthy then some details else none)
      else .ok none) := by
  unfold notUpdatedEntry
  rw [findResponse_one]
  rfl

/-- A method-level error has no `notUpdated`, and is taken for success. -/
theorem entry_error (hproto : e.inherits .obj "notUpdated" = false) (type : String) :
    notUpdatedEntry e emailId [MethodResponse.encode ("e1", .error type)] = .ok none := by
  rw [notUpdatedEntry_one]
  simp [MethodResponse.encode, JsValue.get, JsValue.index_one, bind, Except.bind, JsValue.inherited, hproto, List.lookup, JsValue.truthy]

theorem entry_updated : notUpdatedEntry e emailId [MethodResponse.encode ("e1", .set accountId [])] = .ok none := by
  rw [notUpdatedEntry_one]
  simp [MethodResponse.encode, JsValue.get, JsValue.index_one, bind, Except.bind, List.lookup, JsValue.truthy]

theorem entry_notUpdated (details : List (String × JsValue)) :
    notUpdatedEntry e emailId [MethodResponse.encode ("e1", .set accountId [(emailId, .obj details)])] =
      .ok (some (.obj details)) := by
  rw [notUpdatedEntry_one]
  simp [MethodResponse.encode, JsValue.get, JsValue.index_one, bind, Except.bind, List.lookup, JsValue.truthy]

/-- Only an answer that arrives can acknowledge. -/
theorem acknowledges_serve : Acknowledges e emailId (s.serve r).reply ↔ s.delivery = .arrives ∧
    notUpdatedEntry e emailId ((s.responses r).map MethodResponse.encode) = .ok none := by
  unfold Acknowledges EmailServer.serve EmailServer.reply
  cases hd : s.delivery with
  | lost => simp [readReply]
  | failed status failure =>
    have hr : ∀ responses, readReply e (.answered status none) ≠ .ok responses := by
      intro responses h
      simp only [readReply] at h
      split at h
      · cases h
      · cases h
    simp [hr]
  | arrives => simp [readReply, JsValue.optGet, JsValue.get, List.lookup]

end

/-! ## The claim about one update -/

/-- The account's email has the set the change asks for, and nothing else is different. -/
def Changed (p : SetProperty) (add remove : List String) (accountId emailId : String) (email : EmailObject)
    (before after : EmailStore) : Prop :=
  ∃ email', after = before.put accountId emailId email' ∧
    email'.members p = (email.members p ∪ add.toFinset) \ remove.toFinset ∧
    (∀ q, q ≠ p → email'.members q = email.members q) ∧ email'.rest = email.rest

/-- The emails after the client sent these method calls, if it sent them. -/
def emailsAfter (client : JamClientAdapter) (s : EmailServer) (methodCalls : List MethodCall) : EmailStore :=
  match client.request methodCalls with
  | some r => s.after r
  | none => s.emails

/-- The update does not lose what the client did not name. Where the server fails the call, nothing may be left
to change; where it makes the update, the keys of the patch must be all that is to be there. -/
def Lossless (s : EmailServer) (p : SetProperty) (add remove : List String) (accountId emailId : String)
    (email : EmailObject) : Prop :=
  s.delivery = .arrives →
    (∀ type, s.fails = some type → email.members p = (email.members p ∪ add.toFinset) \ remove.toFinset) ∧
    (∀ email', s.fails = none → updatedEmail s accountId emailId email p (patchOf add remove) = some email' →
      add.toFinset.erase "__proto__" = (email.members p ∪ add.toFinset) \ remove.toFinset)

theorem put_inj {emails : EmailStore} {accountId id : String} {email email' : EmailObject}
    (h : emails.put accountId id email = emails.put accountId id email') : email = email' := by
  have := congrFun (congrFun h accountId) id
  simpa [EmailStore.put] using this

theorem put_self {emails : EmailStore} {accountId id : String} {email : EmailObject} (h : emails accountId id = some email) :
    emails.put accountId id email = emails := by
  funext a i
  unfold EmailStore.put
  split
  · rename_i hai; rw [hai.1, hai.2, h]
  · rfl

theorem changed_self {p : SetProperty} {add remove : List String} {accountId emailId : String} {email : EmailObject}
    {emails : EmailStore} (h : emails accountId emailId = some email) :
    Changed p add remove accountId emailId email emails emails ↔
      email.members p = (email.members p ∪ add.toFinset) \ remove.toFinset := by
  constructor
  · rintro ⟨email', hput, hm, -, -⟩
    rw [show email' = email from put_inj (by rw [← hput, put_self h])] at hm
    exact hm
  · intro hm
    exact ⟨email, (put_self h).symm, hm, fun _ _ => rfl, rfl⟩

theorem updatedEmail_spec {s : EmailServer} {p : SetProperty} {add remove : List String} {accountId emailId : String}
    {email email' : EmailObject} (h : updatedEmail s accountId emailId email p (patchOf add remove) = some email') :
    email'.members p = add.toFinset.erase "__proto__" ∧ (∀ q, q ≠ p → email'.members q = email.members q) ∧
      email'.rest = email.rest := by
  unfold updatedEmail at h
  split at h
  · rw [trueKeys_patchOf] at h
    split at h
    · exact EmailObject.setMembers_spec h
    · cases h
  · cases h

theorem changed_updated {s : EmailServer} {p : SetProperty} {add remove : List String} {accountId emailId : String}
    {email email' : EmailObject} (h : updatedEmail s accountId emailId email p (patchOf add remove) = some email') :
    Changed p add remove accountId emailId email s.emails (s.emails.put accountId emailId email') ↔
      add.toFinset.erase "__proto__" = (email.members p ∪ add.toFinset) \ remove.toFinset := by
  obtain ⟨hm, hq, hrest⟩ := updatedEmail_spec h
  constructor
  · rintro ⟨email'', hput, hm', -, -⟩
    rw [← hm, put_inj hput, hm']
  · intro heq
    exact ⟨email', rfl, by rw [hm, heq], hq, hrest⟩

theorem request_calls {client : JamClientAdapter} {calls : List MethodCall} {r : HttpRequest}
    (h : client.request calls = some r) : r.methodCalls = calls := by
  obtain ⟨apiUrl, -, hr⟩ := Option.bind_eq_some_iff.1 h
  obtain ⟨-, hr⟩ := Option.ite_none_left_eq_some.1 hr
  cases hr
  rfl

/-- A change that resolves is exact if and only if its update is lossless. -/
theorem changed_iff_lossless (s : EmailServer) (e : Engine) (auth : AuthConfig) (apiUrl : Option String)
    (p : SetProperty) (mismatch failure accountId emailId : String) (email : EmailObject) (add remove : List String)
    (hproto : e.inherits .obj "notUpdated" = false) (hemail : s.emails accountId emailId = some email) :
    ((answerOr (JamClientAdapter.patchEmail ⟨e, s.serve, auth, apiUrl⟩ p.name mismatch failure accountId emailId
        (patchOf add remove)) notApplied .ok).outcome = .ok () →
      Changed p add remove accountId emailId email s.emails
        (emailsAfter ⟨e, s.serve, auth, apiUrl⟩ s [updateCall p.name accountId emailId (patchOf add remove)])) ↔
    ∀ r, JamClientAdapter.request ⟨e, s.serve, auth, apiUrl⟩ [updateCall p.name accountId emailId (patchOf add remove)] =
      some r → Lossless s p add remove accountId emailId email := by
  unfold emailsAfter
  cases hr : JamClientAdapter.request ⟨e, s.serve, auth, apiUrl⟩ [updateCall p.name accountId emailId (patchOf add remove)] with
  | none =>
    obtain ⟨x, hx⟩ := update_unsent mismatch failure hr
    exact iff_of_true (by rw [hx]; rintro ⟨⟩) (by simp)
  | some r =>
    simp only [Option.some.injEq, forall_eq']
    have hcalls := request_calls hr
    have hresolved : (answerOr (JamClientAdapter.patchEmail ⟨e, s.serve, auth, apiUrl⟩ p.name mismatch failure accountId
        emailId (patchOf add remove)) notApplied .ok).outcome = .ok () ↔ s.delivery = .arrives ∧
          notUpdatedEntry e emailId ((s.responses r).map MethodResponse.encode) = .ok none := by
      rw [← acknowledges_serve]
      rcases update_sent mismatch failure hr with ⟨h, hack⟩ | ⟨⟨x, h, -⟩, hack⟩
      · exact iff_of_true (by rw [h]) hack
      · exact iff_of_false (by rw [h]; rintro ⟨⟩) hack
    rw [hresolved]
    unfold EmailServer.responses EmailServer.after Lossless
    rw [hcalls]
    rcases calls_update p (patchOf add remove) hemail with
      ⟨type, hf, hc⟩ | ⟨email', hf, hu, hc⟩ | ⟨type, hf, hu, hc⟩
    · simp [hc, hf, entry_error hproto, changed_self hemail]
    · simp [hc, hf, hu, entry_updated, changed_updated hu]
    · simp [hc, hf, hu, entry_notUpdated]

/-- A keyword change that resolves adds and removes exactly what it says, if and only if its update is lossless;
a membership change likewise. -/
theorem jmap_changes_exact_iff (s : EmailServer) (e : Engine) (auth : AuthConfig) (apiUrl : Option String)
    (accountId emailId : String) (email : EmailObject) (keywords : RemoteKeywordChange) (mailboxes : RemoteMembershipChange)
    (hproto : e.inherits .obj "notUpdated" = false) (hemail : s.emails accountId emailId = some email) :
    (((JmapRemoteMail.applyKeywordChange ⟨e, s.serve, auth, apiUrl⟩ accountId emailId keywords).outcome = .ok () →
        Changed .keywords keywords.add keywords.remove accountId emailId email s.emails
          (emailsAfter ⟨e, s.serve, auth, apiUrl⟩ s
            [updateCall "keywords" accountId emailId (patchOf keywords.add keywords.remove)])) ↔
      ∀ r, JamClientAdapter.request ⟨e, s.serve, auth, apiUrl⟩
          [updateCall "keywords" accountId emailId (patchOf keywords.add keywords.remove)] = some r →
        Lossless s .keywords keywords.add keywords.remove accountId emailId email) ∧
    (((JmapRemoteMail.applyMembershipChange ⟨e, s.serve, auth, apiUrl⟩ accountId emailId mailboxes).outcome = .ok () →
        Changed .mailboxIds mailboxes.add mailboxes.remove accountId emailId email s.emails
          (emailsAfter ⟨e, s.serve, auth, apiUrl⟩ s
            [updateCall "mailboxIds" accountId emailId (patchOf mailboxes.add mailboxes.remove)])) ↔
      ∀ r, JamClientAdapter.request ⟨e, s.serve, auth, apiUrl⟩
          [updateCall "mailboxIds" accountId emailId (patchOf mailboxes.add mailboxes.remove)] = some r →
        Lossless s .mailboxIds mailboxes.add mailboxes.remove accountId emailId email) :=
  ⟨changed_iff_lossless s e auth apiUrl .keywords _ _ accountId emailId email _ _ hproto hemail,
    changed_iff_lossless s e auth apiUrl .mailboxIds _ _ accountId emailId email _ _ hproto hemail⟩

/-! ## A flag that is lost -/

def sampleEngine : Engine := ⟨fun _ _ => false, fun _ => ""⟩

/-- A message that was read, in one mailbox. -/
def sampleEmail : EmailObject := ⟨{"$seen"}, {"inbox"}, [], by decide⟩

def sampleServer : EmailServer where
  emails := fun _ _ => some sampleEmail
  refuses := fun _ _ => none
  fails := none
  delivery := .arrives

/-- Naming what is there again loses nothing. -/
theorem renamed_flags_kept :
    (JmapRemoteMail.applyKeywordChange ⟨sampleEngine, sampleServer.serve, .bearer "t", some "https://jmap.example/api"⟩ "a" "e"
        ⟨["$seen", "$flagged"], []⟩).outcome = .ok () ∧
      Changed .keywords ["$seen", "$flagged"] [] "a" "e" sampleEmail sampleServer.emails
        (emailsAfter ⟨sampleEngine, sampleServer.serve, .bearer "t", some "https://jmap.example/api"⟩ sampleServer
          [updateCall "keywords" "a" "e" (patchOf ["$seen", "$flagged"] [])]) := by
  have hresolves : (JmapRemoteMail.applyKeywordChange ⟨sampleEngine, sampleServer.serve, .bearer "t",
      some "https://jmap.example/api"⟩ "a" "e" ⟨["$seen", "$flagged"], []⟩).outcome = .ok () := by rfl
  refine ⟨hresolves, (jmap_changes_exact_iff sampleServer sampleEngine (.bearer "t") (some "https://jmap.example/api") "a" "e"
    sampleEmail ⟨["$seen", "$flagged"], []⟩ ⟨[], []⟩ rfl rfl).1.2 (fun r _ _ => ⟨?_, ?_⟩) hresolves⟩
  · rintro type ⟨⟩
  · intro email' _ _
    decide

/-- Flagging the message as well makes it unread again. -/
theorem flagging_loses_seen :
    ¬ ((JmapRemoteMail.applyKeywordChange ⟨sampleEngine, sampleServer.serve, .bearer "t", some "https://jmap.example/api"⟩
          "a" "e" ⟨["$flagged"], []⟩).outcome = .ok () →
        Changed .keywords ["$flagged"] [] "a" "e" sampleEmail sampleServer.emails
          (emailsAfter ⟨sampleEngine, sampleServer.serve, .bearer "t", some "https://jmap.example/api"⟩ sampleServer
            [updateCall "keywords" "a" "e" (patchOf ["$flagged"] [])])) := by
  intro h
  have lossless := (changed_iff_lossless sampleServer sampleEngine (.bearer "t") (some "https://jmap.example/api") .keywords
    "State mismatch when updating keywords" "Failed to update keywords" "a" "e" sampleEmail ["$flagged"] [] rfl rfl).1 h _ rfl
  have hsame := (lossless rfl).2 ⟨{"$flagged"}, {"inbox"}, [], by decide⟩ rfl (by
    unfold updatedEmail
    rw [trueKeys_patchOf]
    rfl)
  exact absurd hsame (by decide)

end Boxplot.Remote
