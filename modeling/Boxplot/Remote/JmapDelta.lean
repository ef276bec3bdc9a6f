import Boxplot.Remote.JmapServer
/-!
# Deltas over JMAP

`syncEmails` from a stored state, against an honest log of changes. An id may
be on several pages and in several lists of a page; the ids that are left to
fetch are those that are still there after the last page read.
-/

namespace Boxplot.Jmap

open Domain Lib Remote JmapRemoteMail

variable {W : Type}

/-! ## Logs of changes -/

/-- A page of changes, and the states it is between. -/
structure LogPage (W : Type) where
  before : W
  after : W
  created : List String
  updated : List String
  destroyed : List String

/-- The page lists the email as created or updated. -/
def LogPage.lists (p : LogPage W) (id : String) : Prop := id ∈ p.created ∨ id ∈ p.updated

/-- The answer with the page, and whether there are more. -/
def LogPage.response (S : MailStore W) (p : LogPage W) (hasMoreChanges : Bool) : RawJmapChangesResponse :=
  ⟨false, S.emailState p.before, S.emailState p.after, hasMoreChanges, some p.created, some p.updated, some p.destroyed⟩

/-- The page lists what happened between its states, and perhaps what came and went between them. -/
structure LogPage.Honest (S : MailStore W) (p : LogPage W) : Prop where
  created : ∀ id, S.holds p.after id → ¬ S.holds p.before id → id ∈ p.created
  updated : ∀ raw ∈ S.emails p.after, raw ∉ S.emails p.before → ∀ id, raw.id = some id → S.holds p.before id → id ∈ p.updated
  destroyed : ∀ id, S.holds p.before id → ¬ S.holds p.after id → id ∈ p.destroyed
  listed : ∀ id, p.lists id → S.holds p.after id ∨ id ∈ p.destroyed
  gone : ∀ id ∈ p.destroyed, ¬ S.holds p.after id
  ids : ∀ id ∈ p.destroyed, id ≠ ""

/-- Pages one after the other, each from a state of its own. An id that was destroyed is not used again. -/
structure ChangeLog (S : MailStore W) where
  pages : List (LogPage W)
  nonempty : pages ≠ []
  honest : ∀ p ∈ pages, p.Honest S
  chain : pages.IsChain fun p q => p.after = q.before
  states : (pages.map fun p => S.emailState p.before).Nodup
  unused : pages.Pairwise fun p q => ∀ id ∈ p.destroyed, ¬ q.lists id

/-- A store that stays in one state. -/
def MailStore.at (S : MailStore W) (w : W) : MailStore Unit where
  emails _ := S.emails w
  emailState _ := S.emailState w
  nodup _ := S.nodup w
  wellFormed _ := S.wellFormed w

namespace ChangeLog

variable {S : MailStore W} (log : ChangeLog S)

/-- The state the log starts at. -/
def first : W := (log.pages.head log.nonempty).before

/-- The state the log leads to. -/
def last : W := (log.pages.getLast log.nonempty).after

/-- The server answers with the page since a state, and fetches from the last one. -/
def answers (_ : Unit) : (e : JamRequest) → Reply e → Prop
  | .emailChanges _ since, r => ∃ l p rest, log.pages = l ++ p :: rest ∧ S.emailState p.before = since ∧
      r = .ok (p.response S !rest.isEmpty)
  | .emailGet _ ids, r => ∃ response, r = .ok response ∧ (S.at log.last).AnswersGet () ids response
  | .emailQuery _, _ => True
  | .mailboxGet _, _ => True

end ChangeLog

/-! ## What the pages so far add up to -/

theorem mem_changed_addPage {c : Changes} {delta : JmapDelta} {id : String} :
    id ∈ (c.addPage delta).changed ↔ (id ∈ c.changed ∨ id ∈ delta.created ∨ id ∈ delta.updated) ∧ id ∉ delta.destroyed := by
  have hfold : ∀ (destroyed changed : List String),
      id ∈ destroyed.foldl (fun changed id => changed.filter (· ≠ id)) changed ↔ id ∈ changed ∧ id ∉ destroyed := by
    intro destroyed
    induction destroyed with
    | nil => simp
    | cons d rest ih =>
      intro changed
      rw [List.foldl_cons, ih, List.mem_filter]
      simp [and_assoc]
  simp only [Changes.addPage, hfold, mem_foldl_setAdd, List.mem_append]

theorem mem_destroyed_addPage {c : Changes} {delta : JmapDelta} {id : String} :
    id ∈ (c.addPage delta).destroyed ↔ id ∈ c.destroyed ∨ id ∈ delta.destroyed := by
  simp only [Changes.addPage, mem_foldl_setAdd]

theorem nodup_addPage {c : Changes} (delta : JmapDelta) (h : c.changed.Nodup ∧ c.destroyed.Nodup) :
    (c.addPage delta).changed.Nodup ∧ (c.addPage delta).destroyed.Nodup := by
  have hfold : ∀ (destroyed changed : List String), changed.Nodup →
      (destroyed.foldl (fun changed id => changed.filter (· ≠ id)) changed).Nodup := by
    intro destroyed
    induction destroyed with
    | nil => exact fun _ hn => hn
    | cons d rest ih => exact fun _ hn => ih _ (hn.filter _)
  exact ⟨hfold _ _ (nodup_foldl_setAdd _ h.1), nodup_foldl_setAdd _ h.2⟩

/-- What the changes are, after the pages `done` that lead from `w₀` to `w`. -/
structure SumsUp (S : MailStore W) (w₀ : W) (done : List (LogPage W)) (w : W) (c : Changes) : Prop where
  nodup : c.changed.Nodup ∧ c.destroyed.Nodup
  held : ∀ id ∈ c.changed, S.holds w id
  gone : ∀ id ∈ c.destroyed, ¬ S.holds w id
  from' : ∀ id ∈ c.destroyed, ∃ p ∈ done, id ∈ p.destroyed
  new : ∀ id, S.holds w id → S.holds w₀ id ∨ id ∈ c.changed
  lost : ∀ id, S.holds w₀ id → ¬ S.holds w id → id ∈ c.destroyed
  touched : ∀ raw ∈ S.emails w, raw ∉ S.emails w₀ → ∀ id, raw.id = some id → id ∈ c.changed
  listed : ∀ p ∈ done, ∀ id, p.lists id → S.holds w id → id ∈ c.changed

/-- One page more. -/
theorem SumsUp.step {S : MailStore W} {w₀ : W} {done : List (LogPage W)} {c : Changes} {p : LogPage W}
    (h : SumsUp S w₀ done p.before c) (hp : p.Honest S) (hunused : ∀ q ∈ done, ∀ id ∈ q.destroyed, ¬ p.lists id) {delta : JmapDelta}
    (hcreated : delta.created = p.created) (hupdated : delta.updated = p.updated) (hdestroyed : delta.destroyed = p.destroyed) :
    SumsUp S w₀ (done ++ [p]) p.after (c.addPage delta) := by
  have hchanged : ∀ id, id ∈ (c.addPage delta).changed ↔ (id ∈ c.changed ∨ p.lists id) ∧ id ∉ p.destroyed := by
    intro id
    rw [mem_changed_addPage, hcreated, hupdated, hdestroyed]
    rfl
  have hgone : ∀ id, id ∈ (c.addPage delta).destroyed ↔ id ∈ c.destroyed ∨ id ∈ p.destroyed := by
    intro id
    rw [mem_destroyed_addPage, hdestroyed]
  -- an email that is held after the page was not destroyed by it
  have hkept : ∀ id, S.holds p.after id → id ∉ p.destroyed := fun id hid hd => hp.gone id hd hid
  refine ⟨nodup_addPage delta h.nodup, fun id hid => ?_, fun id hid => ?_, fun id hid => ?_, fun id hid => ?_,
    fun id hid hno => ?_, fun raw hraw hno id hid => ?_, fun q hq id hlist hid => ?_⟩
  · obtain ⟨hid, hnd⟩ := (hchanged id).1 hid
    rcases hid with hid | hid
    · by_contra hno
      exact hnd (hp.destroyed id (h.held id hid) hno)
    · exact (hp.listed id hid).resolve_right hnd
  · rcases (hgone id).1 hid with hid | hid
    · intro hnow
      obtain ⟨q, hq, hqd⟩ := h.from' id hid
      exact hunused q hq id hqd (.inl (hp.created id hnow (h.gone id hid)))
    · exact hp.gone id hid
  · rcases (hgone id).1 hid with hid | hid
    · obtain ⟨q, hq, hqd⟩ := h.from' id hid
      exact ⟨q, List.mem_append_left _ hq, hqd⟩
    · exact ⟨p, by simp, hid⟩
  · by_cases hb : S.holds p.before id
    · exact (h.new id hb).imp_right fun hc => (hchanged id).2 ⟨.inl hc, hkept id hid⟩
    · exact .inr ((hchanged id).2 ⟨.inr (.inl (hp.created id hid hb)), hkept id hid⟩)
  · by_cases hb : S.holds p.before id
    · exact (hgone id).2 (.inr (hp.destroyed id hb hno))
    · exact (hgone id).2 (.inl (h.lost id hid hb))
  · have hnow : S.holds p.after id := ⟨raw, hraw, hid⟩
    refine (hchanged id).2 ⟨?_, hkept id hnow⟩
    by_cases hb : raw ∈ S.emails p.before
    · exact .inl (h.touched raw hb hno id hid)
    · by_cases hheld : S.holds p.before id
      · exact .inr (.inr (hp.updated raw hraw hb id hid hheld))
      · exact .inr (.inl (hp.created id hnow hheld))
  · refine (hchanged id).2 ⟨?_, hkept id hid⟩
    rcases List.mem_append.1 hq with hq | hq
    · by_cases hb : S.holds p.before id
      · exact .inl (h.listed q hq id hlist hb)
      · exact .inr (.inl (hp.created id hid hb))
    · obtain rfl := List.mem_singleton.1 hq
      exact .inr hlist

/-! ## The delta -/

/-- The delta takes the emails of the first state to those of the last. -/
structure IsDelta {S : MailStore W} (log : ChangeLog S) (changed : List RemoteEmail) (destroyed : List String) : Prop where
  nodup_changed : (changed.map (·.id)).Nodup
  nodup_destroyed : destroyed.Nodup
  disjoint : ∀ id ∈ destroyed, id ∉ changed.map (·.id)
  ids : ∀ id, S.holds log.last id ↔ id ∈ changed.map (·.id) ∨ S.holds log.first id ∧ id ∉ destroyed
  current : ∀ email ∈ changed, ∃ raw ∈ S.emails log.last, raw.ReadsAs email
  all : ∀ raw ∈ S.emails log.last, (raw ∉ S.emails log.first ∨ ∃ p ∈ log.pages, ∃ id, raw.id = some id ∧ p.lists id) →
    ∃ email ∈ changed, raw.ReadsAs email

theorem checkDestroyed_of_nodup {identities destroyed rest : List String} (h : (destroyed ++ rest).Nodup)
    (hd : ∀ id ∈ rest, id ∉ identities) : checkDestroyed identities destroyed rest = .ok () := by
  induction rest generalizing destroyed with
  | nil => rfl
  | cons id rest ih =>
    have hid : id ∉ destroyed := fun hm => (List.nodup_append.1 h).2.2 id hm id List.mem_cons_self rfl
    rw [checkDestroyed, if_neg hid, if_neg (hd id List.mem_cons_self)]
    exact ih (by simpa using h) fun id' hm => hd id' (List.mem_cons_of_mem _ hm)

variable {S : MailStore W} {log : ChangeLog S} {accountId : String}

/-- What the pages add up to is fetched as a whole. -/
theorem ends_finishDelta {c : Changes} (hc : SumsUp S log.first log.pages log.last c) (state : String) (h : List (Exchange Unit)) :
    (served log.answers).wpA (finishDelta accountId state c)
      (Ends False fun result _ => ∃ changed, result = .delta state changed c.destroyed ∧ IsDelta log changed c.destroyed) h := by
  have hsteady : (S.at log.last).Steady log.answers accountId c.changed (S.emailState log.last) :=
    fun _ _ _ _ => ⟨rfl, hc.held⟩
  refine ends_bind (MailStore.ends_fetchExactEmails (S := S.at log.last) (fun _ ids r hr => .inl hr) (fun _ _ _ => .refl _)
    (.inr ⟨_, hsteady⟩) hc.nodup.1 h) ?_
  rintro ⟨emails, state'⟩ h' ⟨-, hfetched⟩
  obtain ⟨changed, hmap, hs⟩ := (hfetched () (by simp)).mapped
  have hn : (changed.map (·.id)).Nodup := hs.nodup (MailStore.nodup_heldOf _ _)
  have hids : ∀ id, id ∈ changed.map (·.id) ↔ id ∈ c.changed := fun id => (hs.perm_ids hc.nodup.1 hc.held).mem_iff
  have hdestroyed : c.destroyed.mapM (fun id => remoteIdFromString id "RemoteEmailId") = .ok c.destroyed := by
    refine mapM_eq_ok.2 (List.forall₂_same.2 fun id hid => ?_)
    obtain ⟨p, hp, hpd⟩ := hc.from' id hid
    exact remoteIdFromString_ok _ ((log.honest p hp).ids id hpd)
  have hdisjoint : ∀ id ∈ c.destroyed, id ∉ changed.map (·.id) := by
    intro id hid hm
    exact hc.gone id hid (hc.held id ((hids id).1 hm))
  have hcheck : validateRemoteCollectionSync (.delta state changed c.destroyed) (·.id) = .ok (.delta state changed c.destroyed) := by
    have h₁ := MailStore.checkIdentities_of_nodup (show ([] ++ _).Nodup from hn)
    have h₂ := checkDestroyed_of_nodup (show ([] ++ _).Nodup from hc.nodup.2) hdisjoint
    simp only [validateRemoteCollectionSync, h₁, List.nil_append, h₂, bind, Except.bind]
  refine ends_lift (a := changed) (by rw [checked, hmap]; rfl) (ends_lift (a := c.destroyed) (by rw [checked, hdestroyed]; rfl) ?_)
  rw [hcheck]
  refine ⟨changed, rfl, hn, hc.nodup.2, hdisjoint, fun id => ?_, fun email he => ?_, fun raw hraw htouched => ?_⟩
  · rw [hids]
    constructor
    · intro hid
      by_cases hch : id ∈ c.changed
      · exact .inl hch
      · exact .inr ⟨(hc.new id hid).resolve_right hch, fun hd => hc.gone id hd hid⟩
    · rintro (hid | ⟨hid, hnd⟩)
      · exact hc.held id hid
      · by_contra hno
        exact hnd (hc.lost id hid hno)
  · obtain ⟨raw, hraw, hr⟩ := hs.of_mem he
    exact ⟨raw, (MailStore.mem_heldOf.1 hraw).1, hr⟩
  · obtain ⟨id, hid, -⟩ := (S.wellFormed _ raw hraw).id
    have hch : id ∈ c.changed := by
      rcases htouched with hno | ⟨p, hp, id', hid', hlist⟩
      · exact hc.touched raw hraw hno id hid
      · obtain rfl : id = id' := Option.some.inj (hid.symm.trans hid')
        exact hc.listed p hp id hlist ⟨raw, hraw, hid⟩
    exact hs.mem (MailStore.mem_heldOf.2 ⟨hraw, id, hch, hid⟩)

/-- Where the pages are read to: the rest of the log, and what those before add up to. -/
structure Read (log : ChangeLog S) (done rest : List (LogPage W)) (w : W) (c : Changes) : Prop where
  split : log.pages = done ++ rest
  next : ∃ p tail, rest = p :: tail ∧ p.before = w
  sum : SumsUp S log.first done w c

/-- The page since a state is the next one. -/
theorem Read.page {done rest : List (LogPage W)} {w : W} {c : Changes} (h : Read log done rest w c) {l tail : List (LogPage W)}
    {p : LogPage W} (hp : log.pages = l ++ p :: tail) (hs : S.emailState p.before = S.emailState w) : rest = p :: tail := by
  obtain ⟨q, tail', rfl, rfl⟩ := h.next
  have hn := log.states
  have heq : done ++ q :: tail' = l ++ p :: tail := h.split.symm.trans hp
  rw [hp, List.map_append, List.map_cons, List.nodup_middle, List.nodup_cons, List.mem_append, not_or] at hn
  -- the two pages have the same state, so the same place
  have hmap := congrArg (List.map fun p => S.emailState p.before) heq
  rw [List.map_append, List.map_append, List.map_cons, List.map_cons, eq_comm, ← hs] at hmap
  have hlen := congrArg List.length ((List.append_cons_inj_of_notMem hn.1.1 hn.1.2).1 hmap).1
  rw [List.length_map, List.length_map] at hlen
  exact (List.append_inj heq hlen.symm).2

/-- After the page is read, the rest of the log is left. -/
theorem Read.step {done tail : List (LogPage W)} {w : W} {c : Changes} {p : LogPage W} (h : Read log done (p :: tail) w c)
    {delta : JmapDelta} (hcreated : delta.created = p.created) (hupdated : delta.updated = p.updated)
    (hdestroyed : delta.destroyed = p.destroyed) : SumsUp S log.first (done ++ [p]) p.after (c.addPage delta) := by
  obtain ⟨_, _, ⟨⟩, rfl⟩ := h.next
  have hmem : p ∈ log.pages := by rw [h.split]; simp
  refine h.sum.step (log.honest p hmem) (fun q hq id hid => ?_) hcreated hupdated hdestroyed
  have hunused := log.unused
  rw [h.split, List.pairwise_append] at hunused
  exact hunused.2.2 q hq p List.mem_cons_self id hid

/-- With more pages behind it, the next one is read from where this one leads to. -/
theorem Read.advance {done tail : List (LogPage W)} {w : W} {c : Changes} {p q : LogPage W} (h : Read log done (p :: q :: tail) w c)
    {delta : JmapDelta} (hcreated : delta.created = p.created) (hupdated : delta.updated = p.updated)
    (hdestroyed : delta.destroyed = p.destroyed) : Read log (done ++ [p]) (q :: tail) p.after (c.addPage delta) := by
  have hchain := log.chain
  rw [h.split, List.isChain_append] at hchain
  have hnext : p.after = q.before := (List.isChain_cons_cons.1 hchain.2.1).1
  have hsplit : log.pages = (done ++ [p]) ++ q :: tail := by rw [h.split, List.append_assoc, List.singleton_append]
  exact ⟨hsplit, ⟨q, tail, rfl, hnext.symm⟩, h.step hcreated hupdated hdestroyed⟩

theorem ends_getEmailChanges (since : String) (h : List (Exchange Unit)) :
    (served log.answers).wpA (getEmailChanges accountId since) (Ends False fun delta _ => ∃ l p tail, log.pages = l ++ p :: tail ∧
      S.emailState p.before = since ∧ delta.newState = S.emailState p.after ∧ delta.hasMoreChanges = !tail.isEmpty ∧
      delta.created = p.created ∧ delta.updated = p.updated ∧ delta.destroyed = p.destroyed) h := by
  refine ends_bind (ends_jamRequest (G := fun _ response => ∃ l p tail, log.pages = l ++ p :: tail ∧ S.emailState p.before = since ∧
    response = p.response S !tail.isEmpty) ?_) ?_
  · rintro w r ⟨l, p, tail, hp, hs, rfl⟩
    exact .inl ⟨_, rfl, l, p, tail, hp, hs, rfl⟩
  · rintro response h' ⟨-, -, ⟨l, p, tail, hp, hs, rfl⟩, rfl⟩
    exact ⟨l, p, tail, hp, hs, rfl, rfl, rfl, rfl, rfl⟩

theorem wp_deltaPages (left : Nat) {done rest : List (LogPage W)} {w : W} {c : Changes} (hr : Read log done rest w c)
    (h : List (Exchange Unit)) :
    (served log.answers).wpA (deltaPages accountId left (S.emailState w) c) (fun r _ => match r with
      | .ok result => rest.length ≤ left ∧
          ∃ changed destroyed, result = .delta (S.emailState log.last) changed destroyed ∧ IsDelta log changed destroyed
      | .error x => x = tooManyDeltaPages ∧ left < rest.length) h := by
  induction left generalizing done rest w c h with
  | zero =>
    obtain ⟨p, tail, rfl, -⟩ := hr.next
    exact ⟨rfl, Nat.succ_pos _⟩
  | succ left ih =>
    unfold deltaPages
    refine Contract.wpA_bind_of (ends_getEmailChanges _ h) ?_ fun x _ hx => hx.elim
    rintro delta h' ⟨l, p, tail, hp, hs, hnew, hmore, hcreated, hupdated, hdestroyed⟩
    obtain rfl := hr.page hp hs
    rw [hmore, hnew]
    cases tail with
    | nil =>
      have hsum := hr.step hcreated hupdated hdestroyed
      have hsplit : log.pages = done ++ [p] := hr.split
      have hlast : p.after = log.last := by simp [ChangeLog.last, hsplit]
      have hsum' : SumsUp S log.first log.pages log.last (c.addPage delta) := by
        rw [hlast] at hsum
        rwa [hsplit]
      refine Contract.wpA_mono _ (fun r _ hr => ?_) (ends_finishDelta hsum' (S.emailState p.after) h')
      cases r with
      | error x => exact hr.elim
      | ok result =>
        obtain ⟨changed, rfl, hd⟩ := hr
        exact ⟨by simp, changed, _, by rw [hlast], hd⟩
    | cons q tail =>
      refine Contract.wpA_mono _ (fun r _ hr => ?_) (ih (hr.advance hcreated hupdated hdestroyed) h')
      cases r with
      | error x => exact ⟨hr.1, Nat.succ_lt_succ hr.2⟩
      | ok result => exact ⟨Nat.succ_le_succ hr.1, hr.2⟩

theorem Read.start : Read log [] log.pages log.first ⟨[], []⟩ := by
  refine ⟨rfl, ?_, ⟨List.nodup_nil, List.nodup_nil⟩, by simp, by simp, by simp, fun id hid => .inl hid,
    fun id hid hno => absurd hid hno, fun raw hraw hno => absurd hraw hno, by simp⟩
  obtain ⟨p, tail, hp⟩ := List.exists_cons_of_ne_nil log.nonempty
  exact ⟨p, tail, hp, by simp [ChangeLog.first, hp]⟩

/-- A call ends with the delta, or with an error if the log has too many pages. -/
theorem wp_syncEmails : (served log.answers).wpA (syncEmails accountId (some (S.emailState log.first))) (fun r _ => match r with
    | .ok result => log.pages.length ≤ maxDeltaPages ∧
        ∃ changed destroyed, result = .delta (S.emailState log.last) changed destroyed ∧ IsDelta log changed destroyed
    | .error x => x = tooManyDeltaPages ∧ maxDeltaPages < log.pages.length) [] := by
  unfold syncEmails
  rw [Contract.wpA_tryCatch]
  refine Contract.wpA_mono _ (fun r _ hr => ?_) (wp_deltaPages maxDeltaPages Read.start [])
  cases r with
  | ok result => exact hr
  | error x =>
    obtain ⟨rfl, hlong⟩ := hr
    exact ⟨rfl, hlong⟩

/-- Against an honest log, `syncEmails` returns the delta from the stored state to the last, unless the log has more pages
than are read. -/
theorem syncEmails_delta {outcome : Except JsError (RemoteCollectionSync RemoteEmail String)} {h : List (Exchange Unit)}
    (hrun : Exec (serve log.answers) (syncEmails accountId (some (S.emailState log.first))).run [] (some outcome) h) :
    (∃ changed destroyed, outcome = .ok (.delta (S.emailState log.last) changed destroyed) ∧ IsDelta log changed destroyed) ∨
      outcome = .error tooManyDeltaPages ∧ maxDeltaPages < log.pages.length := by
  have hr := (hrun.sound trivial wp_syncEmails fun _ _ _ => trivial).2 _ rfl
  cases outcome with
  | ok result =>
    obtain ⟨-, changed, destroyed, rfl, hd⟩ := hr
    exact .inl ⟨changed, destroyed, rfl, hd⟩
  | error x =>
    obtain ⟨rfl, hlong⟩ := hr
    exact .inr ⟨rfl, hlong⟩

/-! ### One email replaced by another -/

def replacingStore : MailStore Bool where
  emails later := if later then [sampleRaw "e2"] else [sampleRaw "e1"]
  emailState later := if later then "s1" else "s0"
  nodup later := by cases later <;> decide
  wellFormed later raw h := by
    cases later <;> obtain rfl := List.mem_singleton.1 h <;> exact sampleRaw_wellFormed (by decide)

theorem replacingStore_holds {later : Bool} {id : String} : replacingStore.holds later id ↔ id = if later then "e2" else "e1" := by
  cases later <;> simp [MailStore.holds, replacingStore, sampleRaw_id]

def replacingPage : LogPage Bool := ⟨false, true, ["e2"], [], ["e1"]⟩

theorem replacingPage_honest : replacingPage.Honest replacingStore where
  created id hid _ := by simpa [replacingPage, replacingStore_holds] using hid
  updated raw hraw _ id hid hold := by
    obtain rfl := List.mem_singleton.1 hraw
    rw [sampleRaw_id] at hid
    subst hid
    exact absurd (replacingStore_holds.1 hold) (by decide)
  destroyed id hid _ := by simpa [replacingPage, replacingStore_holds] using hid
  listed id hid := by
    obtain rfl : id = "e2" := by simpa [LogPage.lists, replacingPage] using hid
    exact .inl (replacingStore_holds.2 rfl)
  gone id hid hold := by
    obtain rfl := List.mem_singleton.1 hid
    exact absurd (replacingStore_holds.1 hold) (by decide)
  ids id hid := by
    obtain rfl := List.mem_singleton.1 hid
    decide

def replacingLog : ChangeLog replacingStore where
  pages := [replacingPage]
  nonempty := by simp
  honest p hp := by
    obtain rfl := List.mem_singleton.1 hp
    exact replacingPage_honest
  chain := List.isChain_singleton _
  states := by simp
  unused := List.pairwise_singleton _ _

def replacingAnswer (h : List (Exchange Unit)) : (e : JamRequest) → Option (Reply e × List (Exchange Unit))
  | .emailChanges accountId since =>
    let r : Reply (.emailChanges accountId since) := .ok (replacingPage.response replacingStore false)
    if since = "s0" then some (r, h ++ [⟨.emailChanges accountId since, (), r⟩]) else none
  | .emailGet accountId ids =>
    let r : Reply (.emailGet accountId ids) := .ok ⟨some (replacingStore.heldOf true ids), some "s1"⟩
    some (r, h ++ [⟨.emailGet accountId ids, (), r⟩])
  | _ => none

theorem replacingAnswer_answers (h : List (Exchange Unit)) (e : JamRequest) (r : Reply e) (h' : List (Exchange Unit))
    (ha : replacingAnswer h e = some (r, h')) : serve replacingLog.answers h e r h' := by
  cases e with
  | mailboxGet accountId => cases ha
  | emailQuery query => cases ha
  | emailGet accountId ids =>
    cases ha
    exact ⟨(), ⟨_, rfl, _, rfl, .refl _⟩, rfl⟩
  | emailChanges accountId since =>
    simp only [replacingAnswer] at ha
    split at ha
    · rename_i hs
      cases ha
      exact ⟨(), ⟨[], replacingPage, [], rfl, hs.symm, rfl⟩, rfl⟩
    · cases ha

theorem replacingLog_run : Exec (serve replacingLog.answers) (syncEmails "a" (some "s0")).run []
    ((syncEmails "a" (some "s0")).run.play replacingAnswer []).1 ((syncEmails "a" (some "s0")).run.play replacingAnswer []).2 :=
  Exec.of_play replacingAnswer_answers _ []

theorem syncEmails_delta_replacing : ∃ outcome,
    ((syncEmails "a" (some "s0")).run.play replacingAnswer []).1 = some outcome ∧
    ((∃ changed destroyed, outcome = .ok (.delta "s1" changed destroyed) ∧ IsDelta replacingLog changed destroyed) ∨
      outcome = .error tooManyDeltaPages ∧ maxDeltaPages < replacingLog.pages.length) := by
  obtain ⟨outcome, ho⟩ : ∃ outcome, ((syncEmails "a" (some "s0")).run.play replacingAnswer []).1 = some outcome := ⟨_, rfl⟩
  have hrun := replacingLog_run
  rw [ho] at hrun
  exact ⟨outcome, ho, @syncEmails_delta Bool replacingStore replacingLog "a" outcome _ hrun⟩

end Boxplot.Jmap
