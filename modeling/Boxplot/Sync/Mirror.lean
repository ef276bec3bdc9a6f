import Boxplot.Memory.Effects
import Boxplot.Sync.ReconcileContract
/-!
# The store as a mirror

The store mirrors each server at the version its cursor names, as far as the
rows go that no optimistic write has changed since. Here: what that says of the
store and of a run's stage, and that commits keep it.
-/

namespace Boxplot.Sync

open Domain Remote Lib Outbox Memory MemoryState

namespace Reconcile

/-- The row has the keywords that the server's email had at the version. -/
def Agrees (H : Remotes) (v : Nat) (id : ScopedEmailId) (row : Email) : Prop :=
  ∃ e, (H.of id.accountKey).emails v id.jmapId = some e ∧ ∀ k, k ∈ row.keywords ↔ k ∈ e.keywords

/-- The account's rows are the server's at the version its cursor names. -/
structure Mirrors (H : Remotes) (w : MailWorld) (a : AccountKey) (cursor : CollectionSyncCursor) (v : Nat) : Prop where
  state : cursor.state = (H.of a).state v
  known : v ≤ w.version (H.accountOf a)
  rows : ∀ id row, id.accountKey = a → w.optimistic id = false → w.store.emails.get? id = some row → Agrees H v id row

structure StoreSound (H : Remotes) (w : MailWorld) : Prop where
  synced : ∀ a c, w.store.cursors.get? (a, .email) = some c → ∃ v, Mirrors H w a c v
  keyed : ∀ id row, w.store.emails.get? id = some row → row.id = id
  belongs : ∀ key m, w.store.mutations.get? key = some m → Scoped m
  confirmed : ∀ c ∈ w.confirmed, c.Sound H

/-- What the world says of a run's stage. -/
def StageSound (H : Remotes) (w : MailWorld) (t : Nat) : Stage → Prop
  | .free => True
  | .cursorRead a cursor => ∀ c, cursor = some c → ∃ u, c.state = (H.of a).state u ∧ u ≤ w.version (H.accountOf a)
  | .answered a cursor transition v =>
    SyncsEmails (H.of a) v (cursor.map (·.state)) transition ∧ v ≤ w.version (H.accountOf a) ∧
      (∀ c, cursor = some c → ∃ u, c.state = (H.of a).state u ∧ u ≤ v) ∧ w.basis t = .refreshed (H.accountOf a) v
  | .landed a v => w.basis t = .refreshed (H.accountOf a) v ∧
    ∃ c u, w.store.cursors.get? (a, .email) = some c ∧ c.state = (H.of a).state u ∧ v ≤ u
  | .seen a id read v => id.accountKey = a → ∃ u, v ≤ u ∧ w.basis t = .row id (some (H.accountOf a, v)) (some ((H.of a).state u)) ∧
    ∀ row, read = .present row → Agrees H u id row
  | .changed => w.basis t = .changed

variable {H : Remotes} {w w' : MailWorld}

/-! ## Other runs -/

/-- Versions and cursors only move forward. -/
structure Advances (H : Remotes) (w w' : MailWorld) : Prop where
  version : ∀ id, w.version id ≤ w'.version id
  cursor : ∀ a c u, w.store.cursors.get? (a, .email) = some c → c.state = (H.of a).state u →
    ∃ c' u', w'.store.cursors.get? (a, .email) = some c' ∧ c'.state = (H.of a).state u' ∧ u ≤ u'

theorem Advances.of_cursors (hv : ∀ id, w.version id ≤ w'.version id)
    (hc : ∀ a, w'.store.cursors.get? (a, .email) = w.store.cursors.get? (a, .email)) : Advances H w w' :=
  ⟨hv, fun a c u h hs => ⟨c, u, (hc a).trans h, hs, le_rfl⟩⟩

/-- A stage stays as it is while the world advances and the run learns nothing. -/
theorem StageSound.mono {t : Nat} {s : Stage} (h : StageSound H w t s) (ha : Advances H w w') (hb : w'.basis t = w.basis t) :
    StageSound H w' t s := by
  cases s with
  | free => trivial
  | cursorRead a cursor =>
    intro c hc
    obtain ⟨u, hu, hle⟩ := h c hc
    exact ⟨u, hu, hle.trans (ha.version _)⟩
  | answered a cursor transition v => exact ⟨h.1, h.2.1.trans (ha.version _), h.2.2.1, hb.trans h.2.2.2⟩
  | landed a v =>
    obtain ⟨hbasis, c, u, hc, hu, hle⟩ := h
    obtain ⟨c', u', hc', hu', hle'⟩ := ha.cursor a c u hc hu
    exact ⟨hb.trans hbasis, c', u', hc', hu', hle.trans hle'⟩
  | seen a id read v =>
    intro hid
    obtain ⟨u, hle, hbasis, hrow⟩ := h hid
    exact ⟨u, hle, hb.trans hbasis, hrow⟩
  | changed => exact hb.trans h

/-- What a step of run `t` comes to. -/
structure StepSound (H : Remotes) (w w' : MailWorld) (t : Nat) (s' : Stage) : Prop where
  store : StoreSound H w'
  advances : Advances H w w'
  others : ∀ u, u ≠ t → w'.basis u = w.basis u
  stage : StageSound H w' t s'

/-- A step that changes nothing. -/
theorem StepSound.same {t : Nat} {s' : Stage} (hw : StoreSound H w) (hs : StageSound H w t s') : StepSound H w w t s' :=
  ⟨hw, .of_cursors (fun _ => le_rfl) (fun _ => rfl), fun _ _ => rfl, hs⟩

theorem StoreSound.learn (hw : StoreSound H w) (t : Nat) (b : Basis) : StoreSound H (w.learn t b) :=
  ⟨fun a c hc => let ⟨v, hv⟩ := hw.synced a c hc; ⟨v, hv.state, hv.known, hv.rows⟩, hw.keyed, hw.belongs, hw.confirmed⟩

/-- A step in which the run only learns something. -/
theorem StepSound.learn {t : Nat} {b : Basis} {s' : Stage} (hw : StoreSound H w) (hs : StageSound H (w.learn t b) t s') :
    StepSound H w (w.learn t b) t s' :=
  ⟨hw.learn t b, .of_cursors (fun _ => le_rfl) (fun _ => rfl), fun _ hu => Function.update_of_ne hu _ _, hs⟩

/-! ## Commits -/

/-- What an email commit is made of. -/
theorem emailCommit_ok {a : AccountKey} {transition : RemoteCollectionSync RemoteEmail String}
    {cursor : Option CollectionSyncCursor} {commit : CollectionSyncCommit}
    (h : emailCommit a transition (precondition cursor) = .ok commit) :
    ∃ change, commit = .email ⟨a, .email, transition.state⟩ change ∧ change.expectedCursor = precondition cursor ∧
      match transition with
      | .replace _ snapshot => ∃ records, change = .replace (precondition cursor) records ∧
          ∀ r ∈ records, ∃ e ∈ snapshot, toDomainEmailRecord a e = some r
      | .delta _ changed destroyed => ∃ c records ids, cursor = some c ∧ change = .delta c records ids ∧
          (∀ r ∈ records, ∃ e ∈ changed, toDomainEmailRecord a e = some r) ∧
          (∀ e ∈ changed, ∃ r ∈ records, toDomainEmailRecord a e = some r) ∧ ∀ id ∈ destroyed, ⟨a, id⟩ ∈ ids := by
  have mapped : ∀ {e r}, mappedOr ("Remote Email " ++ e.id ++ " failed Domain validation") (toDomainEmailRecord a e) = .ok r →
      toDomainEmailRecord a e = some r := by
    intro e r h
    cases ho : toDomainEmailRecord a e with
    | none => rw [ho] at h; cases h
    | some v => rw [ho] at h; cases h; rfl
  obtain ⟨change, hchange, h⟩ := except_bind_eq_ok.1 h
  cases h
  refine ⟨change, rfl, ?_⟩
  cases transition with
  | replace state snapshot =>
    obtain ⟨records, hrecords, h⟩ := except_bind_eq_ok.1 hchange
    cases h
    refine ⟨rfl, records, rfl, fun r hr => ?_⟩
    obtain ⟨e, he, her⟩ := exists_of_mem_mapM hrecords hr
    exact ⟨e, he, mapped her⟩
  | delta state changed destroyed =>
    cases cursor with
    | none => cases hchange
    | some c =>
      obtain ⟨records, hrecords, hchange⟩ := except_bind_eq_ok.1 hchange
      obtain ⟨ids, hids, h⟩ := except_bind_eq_ok.1 hchange
      cases h
      refine ⟨rfl, c, records, ids, rfl, rfl, fun r hr => ?_, fun e he => ?_, fun id hid => ?_⟩
      · obtain ⟨e, he, her⟩ := exists_of_mem_mapM hrecords hr
        exact ⟨e, he, mapped her⟩
      · obtain ⟨r, hr, her⟩ := mem_mapM_of_mem hrecords he
        exact ⟨r, hr, mapped her⟩
      · obtain ⟨i, hi, hil⟩ := mem_mapM_of_mem (mapError_eq_ok.1 hids) hid
        rwa [← localEmailId_ok hil]

/-- A record shows the remote email it is made of. -/
theorem record_agrees {a : AccountKey} {e : RemoteEmail} {r : EmailSyncRecord} {v : Nat} (h : toDomainEmailRecord a e = some r)
    (he : (H.of a).emails v e.id = some e) : Agrees H v r.email.id r.email := by
  obtain ⟨hid, hk⟩ := toDomainEmailRecord_some h
  rw [hid]
  exact ⟨e, he, hk⟩

/-- The store's cursor is the one the server was asked with. -/
theorem precondition_holds {s : MemoryState} {cursor : Option CollectionSyncCursor} {next : CollectionSyncCursor}
    (h : s.cursorPreconditionHolds (precondition cursor) next = true) :
    s.cursors.get? (next.accountKey, next.dataType) = none ∨
      ∃ c current, cursor = some c ∧ s.cursors.get? (next.accountKey, next.dataType) = some current ∧ current.state = c.state := by
  cases cursor with
  | none => exact .inl (by simpa [cursorPreconditionHolds, precondition] using h)
  | some c =>
    cases hg : s.cursors.get? (next.accountKey, next.dataType) with
    | none => exact .inl rfl
    | some current =>
      simp only [cursorPreconditionHolds, precondition, hg, Bool.and_eq_true, decide_eq_true_eq] at h
      exact .inr ⟨c, current, rfl, rfl, h.2⟩

section
variable {t : Nat} {a : AccountKey} {cursor : Option CollectionSyncCursor} {v : Nat} {s' : MemoryState}
  {transition : RemoteCollectionSync RemoteEmail String} {change : CollectionChange EmailSyncRecord ScopedEmailId}

/-- After the server's answer is stored, the account's rows are the server's at that version. -/
theorem answered_rows (hw : StoreSound H w) (hs : SyncsEmails (H.of a) v (cursor.map (·.state)) transition)
    (hc : emailCommit a transition (precondition cursor) = .ok (.email ⟨a, .email, transition.state⟩ change))
    (hv : validateEmailCommit a change = true)
    (hcur : w.store.cursorPreconditionHolds (precondition cursor) ⟨a, .email, transition.state⟩ = true)
    {id : ScopedEmailId} {row : Email} (hid : id.accountKey = a)
    (ho : (w.optimistic id && !MailWorld.rewrites a change id) = false)
    (hrow : (w.store.commitEmails a change).emails.get? id = some row) : Agrees H v id row := by
  obtain ⟨change', heq, -, hmade⟩ := emailCommit_ok hc
  cases heq
  cases hs with
  | @replace snapshot hsnapshot =>
    obtain ⟨records, rfl, hrecords⟩ := hmade
    rcases commitEmails_row hv hrow with ⟨record, hr, rfl, rfl, -⟩ | ⟨-, hold, hother⟩
    · obtain ⟨e, he, her⟩ := hrecords record hr
      exact record_agrees her ((hsnapshot e).1 he)
    · exact absurd ((congrArg ScopedEmailId.accountKey (hw.keyed id row hold)).trans hid) hother
  | @delta u changed destroyed hprevious hle hchanged hdestroyed htotal =>
    obtain ⟨c, records, ids, rfl, rfl, hrecords, hmapped, hids⟩ := hmade
    rcases commitEmails_row hv hrow with ⟨record, hr, rfl, rfl, -⟩ | ⟨hnot, hold, hkept⟩
    · obtain ⟨e, he, her⟩ := hrecords record hr
      exact record_agrees her (hchanged e he).1
    · -- the delta left this row alone, so the server did too since the store's cursor
      obtain hnone | ⟨_, current, ⟨⟩, hcurrent, hstate⟩ := precondition_holds hcur
      · simp [cursorPreconditionHolds, precondition, hnone] at hcur
      obtain ⟨u', hm⟩ := hw.synced a current hcurrent
      obtain rfl : u' = u := (H.of a).distinct (by
        rw [← hm.state, hstate]; exact Option.some.inj hprevious)
      have hkeeps : MailWorld.rewrites a (.delta c records ids) id = false := by
        simp only [MailWorld.rewrites, Bool.or_false, decide_eq_false_iff_not]
        exact hnot
      have hfresh : w.optimistic id = false := by simpa only [hkeeps, Bool.not_false, Bool.and_true] using ho
      obtain ⟨e, he, hk⟩ := hm.rows id row hid hfresh hold
      refine ⟨e, ?_, hk⟩
      subst hid
      by_contra hne
      rcases htotal id.jmapId (by rw [he]; exact hne) with hin | hin
      · obtain ⟨raw, hraw, hrawid⟩ := List.mem_map.1 hin
        obtain ⟨r, hr, her⟩ := hmapped raw hraw
        refine hnot (List.mem_map.2 ⟨r, hr, ?_⟩)
        rw [(toDomainEmailRecord_some her).1, hrawid]
      · exact hkept (hids _ hin)

/-- Another account's rows are not touched. -/
theorem other_rows (hv : validateEmailCommit a change = true) {id : ScopedEmailId} {row : Email} (hid : id.accountKey ≠ a)
    (ho : (w.optimistic id && !MailWorld.rewrites a change id) = false)
    (hrow : (w.store.commitEmails a change).emails.get? id = some row) :
    w.optimistic id = false ∧ w.store.emails.get? id = some row := by
  rcases commitEmails_row hv hrow with ⟨_, _, _, _, h⟩ | ⟨hnot, hold, -⟩
  · exact absurd h hid
  · have hkeeps : MailWorld.rewrites a change id = false := by
      simp only [MailWorld.rewrites, Bool.or_eq_false_iff, decide_eq_false_iff_not]
      refine ⟨hnot, ?_⟩
      cases change <;> simp [hid]
    exact ⟨by simpa only [hkeeps, Bool.not_false, Bool.and_true] using ho, hold⟩

/-- The commit of an answer lands at its version. -/
theorem emailCommit_step (hw : StoreSound H w) (hs : StageSound H w t (.answered a cursor transition v))
    (hc : emailCommit a transition (precondition cursor) = .ok (.email ⟨a, .email, transition.state⟩ change))
    (h : w.store.applyCollectionSync (.email ⟨a, .email, transition.state⟩ change) = .ok s') :
    StepSound H w { w with store := s', optimistic := w.rewrittenBy (.email ⟨a, .email, transition.state⟩ change) } t
      (.landed a v) := by
  obtain ⟨hsync, hversion, hcursor, hbasis⟩ := hs
  obtain ⟨hmutations, hcursors⟩ := applyCollectionSync_cursors h
  obtain ⟨hv, hemails⟩ := applyCollectionSync_emails h
  have hexpected : w.store.cursorPreconditionHolds (precondition cursor) ⟨a, .email, transition.state⟩ = true := by
    have hpre := (applyCollectionSync_ok h).2.1
    obtain ⟨_, heq, hex, -⟩ := emailCommit_ok hc
    cases heq
    exact hex ▸ hpre
  have hset : ∀ b, s'.cursors.get? (b, .email) =
      if b = a then some ⟨a, .email, transition.state⟩ else w.store.cursors.get? (b, .email) := by
    intro b
    rw [hcursors]
    exact (OrderedMap.get?_set _ _ _ _).trans (by simp [CollectionSyncCommit.nextCursor, CollectionSyncCommit.kind])
  refine ⟨⟨fun b c hb => ?_, fun id row hrow => ?_, fun key m hm => ?_, hw.confirmed⟩,
    ⟨fun _ => le_rfl, fun b c u hb hu => ?_⟩, fun _ _ => rfl, hbasis, ?_⟩
  · rw [hset] at hb
    by_cases hba : b = a
    · subst hba
      rw [if_pos rfl] at hb
      cases hb
      refine ⟨v, hsync.state_eq, hversion, fun id row hid ho hrow => ?_⟩
      exact answered_rows hw hsync hc hv hexpected hid ho (hemails ▸ hrow)
    · rw [if_neg hba] at hb
      obtain ⟨u, hm⟩ := hw.synced b c hb
      refine ⟨u, hm.state, hm.known, fun id row hid ho hrow => ?_⟩
      obtain ⟨ho, hrow⟩ := other_rows hv (hid ▸ hba) ho (hemails ▸ hrow)
      exact hm.rows id row hid ho hrow
  · rcases commitEmails_row hv (hemails ▸ hrow) with ⟨_, _, _, hid, _⟩ | ⟨-, hold, -⟩
    · exact hid
    · exact hw.keyed id row hold
  · exact hw.belongs key m (hmutations ▸ hm)
  · by_cases hba : b = a
    · subst hba
      refine ⟨_, v, (hset b).trans (if_pos rfl), hsync.state_eq, ?_⟩
      rcases precondition_holds hexpected with hnone | ⟨c', current, rfl, hcurrent, hstate⟩
      · rw [hnone] at hb; cases hb
      · obtain rfl : current = c := Option.some.inj (hcurrent.symm.trans hb)
        obtain ⟨u', hu', hle⟩ := hcursor c' rfl
        obtain rfl : u = u' := (H.of b).distinct (by rw [← hu, ← hu', hstate])
        exact hle
    · exact ⟨c, u, (hset b).trans ((if_neg hba).trans hb), hu, le_rfl⟩
  · exact ⟨_, v, (hset a).trans (if_pos rfl), hsync.state_eq, le_rfl⟩

/-- The commit of another collection leaves the emails and their cursors. -/
theorem otherCommit_step {commit : CollectionSyncCommit} {s : Stage} (hw : StoreSound H w) (hs : StageSound H w t s)
    (hk : commit.kind ≠ .email) (h : w.store.applyCollectionSync commit = .ok s') :
    StepSound H w { w with store := s', optimistic := w.rewrittenBy commit } t s := by
  obtain ⟨hmutations, hcursors⟩ := applyCollectionSync_cursors h
  have hemails : s'.emails = w.store.emails ∧ w.rewrittenBy commit = w.optimistic := by
    have he := applyCollectionSync_emails h
    cases commit with
    | email next change => exact absurd rfl hk
    | mailbox next change => exact ⟨he, rfl⟩
    | identity next change => exact ⟨he, rfl⟩
  have hsame : ∀ b, s'.cursors.get? (b, .email) = w.store.cursors.get? (b, .email) := by
    intro b
    rw [hcursors]
    exact OrderedMap.get?_set_ne _ _ fun heq => hk (Prod.mk.inj heq).2.symm
  have hadv : Advances H w { w with store := s', optimistic := w.rewrittenBy commit } := .of_cursors (fun _ => le_rfl) hsame
  refine ⟨⟨fun b c hb => ?_, ?_, ?_, hw.confirmed⟩, hadv, fun _ _ => rfl, hs.mono hadv rfl⟩
  · obtain ⟨u, hm⟩ := hw.synced b c ((hsame b).symm.trans hb)
    refine ⟨u, hm.state, hm.known, ?_⟩
    simp only [hemails]
    exact hm.rows
  · simp only [hemails]
    exact hw.keyed
  · simp only [hmutations]
    exact hw.belongs

end

end Reconcile

end Boxplot.Sync
