import Boxplot.Domain.ViewShape
import Boxplot.Ipc.Codecs
import Boxplot.Persistence.ViewRules
/-!
# Views on the IPC boundary

A view is written to the wire by `encodeMailboxView`
(`src/adapters/tauri/domain-ipc-codecs.ts`), and Rust reads it, checks its scope
and stores it (`local_replace_mailbox_view`). Both sides accept the same views.
-/

namespace Boxplot.Ipc

open Lib
open Domain (maxSafeInteger)
open Persistence (PersistResult)

/-! ## DTOs -/

inductive IpcSortDirection
  | ascending | descending
  deriving DecidableEq, Repr

structure IpcMailboxViewSortSpec where
  property : String
  direction : IpcSortDirection
  deriving DecidableEq, Repr

/-- The filter is always `all`. -/
structure IpcMailboxViewSpec where
  mailboxId : IpcScopedMailboxId
  sort : IpcMailboxViewSortSpec
  deriving DecidableEq, Repr

/-- With numbers as JSON has them, or as `u64`. -/
structure IpcCoverageRange (N : Type) where
  start : N
  endExclusive : N
  deriving DecidableEq, Repr

structure IpcMailboxViewItem (N : Type) where
  position : N
  emailId : IpcScopedEmailId
  deriving DecidableEq, Repr

structure IpcMailboxView (N : Type) where
  spec : IpcMailboxViewSpec
  queryState : String
  total : N
  coverage : List (IpcCoverageRange N)
  items : List (IpcMailboxViewItem N)
  deriving DecidableEq, Repr

/-! ## TypeScript -/

def encodeDirection : Domain.SortDirection → IpcSortDirection
  | .ascending => .ascending
  | .descending => .descending

def encodeMailboxViewSpec (v : Domain.MailboxViewSpec) : IpcMailboxViewSpec :=
  { mailboxId := encodeScopedMailboxId v.mailboxId, sort := { property := "receivedAt", direction := encodeDirection v.direction } }

section
variable {N : Type} (number : Nat → N)

def encodeRange (range : Domain.MailboxViewCoverageRange) : IpcCoverageRange N :=
  { start := number range.start, endExclusive := number range.endExclusive }

def encodeItem (item : Domain.MailboxViewItem) : IpcMailboxViewItem N :=
  { position := number item.position, emailId := encodeScopedEmailId item.emailId }

/-- `number`: how a number is written. -/
def encodeViewWith (v : Domain.MailboxView) : IpcMailboxView N where
  spec := encodeMailboxViewSpec v.spec
  queryState := v.queryState
  total := number v.total
  coverage := v.coverage.map (encodeRange number)
  items := v.items.map (encodeItem number)

end

def encodeMailboxView (v : Domain.MailboxView) : IpcMailboxView Rat := encodeViewWith (↑) v

/-! ## Rust -/

def IpcCoverageRange.deserialize (r : IpcCoverageRange Rat) : Option (IpcCoverageRange UInt64) := do
  return { start := ← deserializeCount r.start, endExclusive := ← deserializeCount r.endExclusive }

def IpcMailboxViewItem.deserialize (i : IpcMailboxViewItem Rat) : Option (IpcMailboxViewItem UInt64) := do
  return { position := ← deserializeCount i.position, emailId := i.emailId }

def IpcMailboxView.deserialize (v : IpcMailboxView Rat) : Option (IpcMailboxView UInt64) := do
  let total ← deserializeCount v.total
  let coverage ← v.coverage.mapM (·.deserialize)
  let items ← v.items.mapM (·.deserialize)
  return { spec := v.spec, queryState := v.queryState, total, coverage, items }

def validateViewScope {N : Type} (v : IpcMailboxView N) : PersistResult Unit :=
  if v.items.any (·.emailId.accountKey ≠ v.spec.mailboxId.accountKey) then .error .conflict else .ok ()

def specToSemantic (v : IpcMailboxViewSpec) : Persistence.MailboxViewSpec where
  accountKey := v.mailboxId.accountKey
  mailboxJmapId := v.mailboxId.jmapMailboxId
  filterKind := "all"
  sortProperty := v.sort.property
  sortDirection := match v.sort.direction with
    | .ascending => "ascending"
    | .descending => "descending"

def viewToSemantic (v : IpcMailboxView UInt64) : Persistence.MailboxView where
  spec := specToSemantic v.spec
  queryState := v.queryState
  total := v.total
  coverage := v.coverage.map fun r => { start := r.start, endExclusive := r.endExclusive }
  items := v.items.map fun i => { position := i.position, emailJmapId := i.emailId.jmapEmailId }

/-- `local_replace_mailbox_view`, after the request is read. -/
def localReplaceMailboxView (view : IpcMailboxView UInt64) (db : Persistence.Db) : PersistResult Persistence.Db := do
  validateViewScope view
  db.replaceMailboxView (viewToSemantic view)

/-- The view is read, passes both checks, and no two of its rows break `UNIQUE (..., email_jmap_id)`. -/
def RustAccepts (v : IpcMailboxView Rat) : Prop :=
  ∃ view, v.deserialize = some view ∧ validateViewScope view = .ok () ∧ Persistence.validateView (viewToSemantic view) = .ok () ∧
    ((viewToSemantic view).items.map (·.emailJmapId)).Nodup

/-- The view is read and stored. -/
def RustStores (db : Persistence.Db) (v : IpcMailboxView Rat) : Prop :=
  ∃ view db', v.deserialize = some view ∧ localReplaceMailboxView view db = .ok db'

/-! ## What Rust reads -/

variable {v : Domain.MailboxView}

/-- All numbers are safe integers. -/
structure SafeNumbers (v : Domain.MailboxView) : Prop where
  total : v.total ≤ maxSafeInteger
  coverage : ∀ r ∈ v.coverage, r.start ≤ maxSafeInteger ∧ r.endExclusive ≤ maxSafeInteger
  items : ∀ i ∈ v.items, i.position ≤ maxSafeInteger

theorem toNat_safe {n : Nat} (h : n ≤ maxSafeInteger) : (UInt64.ofNat n).toNat = n := by
  have hsize : maxSafeInteger < UInt64.size := by decide
  exact UInt64.toNat_ofNat_of_lt' (lt_of_le_of_lt h hsize)

theorem deserializeCount_safe {n : Nat} (h : n ≤ maxSafeInteger) : deserializeCount (n : Rat) = some (UInt64.ofNat n) := by
  rw [deserializeCount_eq_some, toNat_safe h]

theorem deserialize_encode (h : SafeNumbers v) : (encodeMailboxView v).deserialize = some (encodeViewWith UInt64.ofNat v) := by
  have hcoverage : ∀ r ∈ v.coverage, (encodeRange (↑) r : IpcCoverageRange Rat).deserialize = some (encodeRange UInt64.ofNat r) := by
    intro r hr
    rw [IpcCoverageRange.deserialize, encodeRange, deserializeCount_safe (h.coverage r hr).1, deserializeCount_safe (h.coverage r hr).2]
    rfl
  have hitems : ∀ i ∈ v.items, (encodeItem (↑) i : IpcMailboxViewItem Rat).deserialize = some (encodeItem UInt64.ofNat i) := by
    intro i hi
    rw [IpcMailboxViewItem.deserialize, encodeItem, deserializeCount_safe (h.items i hi)]
    rfl
  simp only [IpcMailboxView.deserialize, encodeMailboxView, encodeViewWith, List.mapM_map, Function.comp_def]
  rw [deserializeCount_safe h.total, mapM_eq_some hcoverage, mapM_eq_some hitems]
  rfl

/-- The view as Rust has it. -/
def semanticView (v : Domain.MailboxView) : Persistence.MailboxView := viewToSemantic (encodeViewWith UInt64.ofNat v)

theorem known_semanticView (v : Domain.MailboxView) : (semanticView v).spec.Known := by
  refine ⟨rfl, rfl, ?_⟩
  cases hdirection : v.spec.direction <;>
    simp [semanticView, viewToSemantic, encodeViewWith, encodeMailboxViewSpec, specToSemantic, encodeDirection, hdirection]

/-- Rust compares the same numbers. -/
theorem covered_semanticView (h : SafeNumbers v) : (semanticView v).Covered ↔
    (Separated (v.coverage.map (·.bounds)) ∧ positions (v.coverage.map (·.bounds)) = v.items.map (·.position)) ∧
      ∀ i ∈ v.items, i.position < v.total := by
  have hbounds : (semanticView v).coverage.map (·.bounds) = v.coverage.map (·.bounds) := by
    rw [semanticView, viewToSemantic, encodeViewWith, List.map_map, List.map_map, List.map_congr_left]
    exact fun r hr => Prod.ext (toNat_safe (h.coverage r hr).1) (toNat_safe (h.coverage r hr).2)
  have hpositions : (semanticView v).items.map (·.position.toNat) = v.items.map (·.position) := by
    rw [semanticView, viewToSemantic, encodeViewWith, List.map_map, List.map_map, List.map_congr_left]
    exact fun i hi => toNat_safe (h.items i hi)
  have hbelow : (∀ i ∈ (semanticView v).items, i.position.toNat < (semanticView v).total.toNat) ↔ ∀ i ∈ v.items, i.position < v.total := by
    simp only [semanticView, viewToSemantic, encodeViewWith, encodeItem, List.forall_mem_map, toNat_safe h.total]
    exact forall₂_congr fun i hi => by rw [toNat_safe (h.items i hi)]
  rw [Persistence.MailboxView.Covered, hbounds, hpositions, hbelow]

theorem scope_encode {N : Type} (number : Nat → N) : validateViewScope (encodeViewWith number v) = .ok () ↔
    ∀ i ∈ v.items, i.emailId.accountKey = v.spec.mailboxId.accountKey := by
  have hany : (encodeViewWith number v).items.any (·.emailId.accountKey ≠ (encodeViewWith number v).spec.mailboxId.accountKey) = true ↔
      ∃ i ∈ v.items, i.emailId.accountKey ≠ v.spec.mailboxId.accountKey := by
    rw [encodeViewWith, List.any_map, List.any_eq_true]
    exact exists_congr fun i => and_congr_right fun _ => decide_eq_true_iff
  rw [validateViewScope]
  split
  · rename_i h
    obtain ⟨i, hi, hne⟩ := hany.1 h
    exact iff_of_false nofun fun hall => hne (hall i hi)
  · rename_i h
    exact iff_of_true rfl fun i hi => not_not.1 fun hne => h (hany.2 ⟨i, hi, hne⟩)

/-- In one account, emails are distinct if their ids are. -/
theorem distinct_emails (h : ∀ i ∈ v.items, i.emailId.accountKey = v.spec.mailboxId.accountKey) :
    ((semanticView v).items.map (·.emailJmapId)).Nodup ↔ (v.items.map (·.emailId)).Nodup := by
  have hids : v.items.map (·.emailId) =
      ((semanticView v).items.map (·.emailJmapId)).map fun id => ⟨v.spec.mailboxId.accountKey, id⟩ := by
    rw [semanticView, viewToSemantic, encodeViewWith, List.map_map, List.map_map, List.map_map, List.map_congr_left]
    intro i hi
    rw [← h i hi]
    rfl
  have hinjective : Function.Injective fun id => (⟨v.spec.mailboxId.accountKey, id⟩ : Domain.ScopedEmailId) := by
    intro id id' heq
    cases heq
    rfl
  rw [hids, List.nodup_map_iff hinjective]

/-! ## Agreement -/

theorem rustAccepts_encode (h : SafeNumbers v) : RustAccepts (encodeMailboxView v) ↔
    validateViewScope (encodeViewWith UInt64.ofNat v) = .ok () ∧ Persistence.validateView (semanticView v) = .ok () ∧
      ((semanticView v).items.map (·.emailJmapId)).Nodup := by
  simp only [RustAccepts, deserialize_encode h, Option.some.injEq, exists_eq_left']
  rfl

theorem rustAccepts_iff (h : SafeNumbers v) (hstate : v.queryState ≠ "") : RustAccepts (encodeMailboxView v) ↔ v.WellFormed := by
  rw [rustAccepts_encode h, scope_encode, Persistence.validateView_ok, covered_semanticView h, Domain.MailboxView.wellFormed_iff]
  constructor
  · rintro ⟨howned, ⟨-, hcovered, hbelow⟩, hdistinct⟩
    exact ⟨hcovered, hbelow, (distinct_emails howned).1 hdistinct, howned⟩
  · rintro ⟨hcovered, hbelow, hdistinct, howned⟩
    exact ⟨howned, ⟨⟨known_semanticView v, hstate⟩, hcovered, hbelow⟩, (distinct_emails howned).2 hdistinct⟩

/-- Where the mailbox is known, what is accepted is stored. -/
theorem rustStores_iff (h : SafeNumbers v) {db : Persistence.Db}
    (hmailbox : db.mailboxExists v.spec.mailboxId.accountKey v.spec.mailboxId.jmapId = true) (htext : (semanticView v).Textual) :
    RustStores db (encodeMailboxView v) ↔ RustAccepts (encodeMailboxView v) := by
  have htotal : (semanticView v).total.toNat ≤ Persistence.maxSafeInteger := (toNat_safe h.total).trans_le h.total
  have hstore : RustStores db (encodeMailboxView v) ↔ validateViewScope (encodeViewWith UInt64.ofNat v) = .ok () ∧
      ∃ db', db.replaceMailboxView (semanticView v) = .ok db' := by
    simp only [RustStores, deserialize_encode h, Option.some.injEq, exists_and_left, exists_eq_left', localReplaceMailboxView,
      except_bind_eq_ok]
    exact ⟨fun ⟨db', _, hscope, hreplace⟩ => ⟨hscope, db', hreplace⟩, fun ⟨hscope, db', hreplace⟩ => ⟨db', (), hscope, hreplace⟩⟩
  rw [hstore, rustAccepts_encode h, Persistence.replaceMailboxView_ok]
  exact and_congr_right fun _ => ⟨fun ⟨hvalid, _, _, _, hdistinct⟩ => ⟨hvalid, hdistinct⟩,
    fun ⟨hvalid, hdistinct⟩ => ⟨hvalid, htotal, hmailbox, htext, hdistinct⟩⟩

/-- The domain and Rust accept the same views of safe numbers: those whose items ascend below the total, each email once and
in the account of the view, and whose coverage is the maximal runs of their positions. Where the mailbox is known and the texts
are texts to the schema, these are the views that are stored. -/
theorem view_acceptance_agrees (h : SafeNumbers v) (hstate : v.queryState ≠ "") :
    ((∃ v', Domain.mailboxView v = .ok v') ↔ v.WellFormed) ∧ (RustAccepts (encodeMailboxView v) ↔ v.WellFormed) ∧
      ∀ db : Persistence.Db, db.mailboxExists v.spec.mailboxId.accountKey v.spec.mailboxId.jmapId = true → (semanticView v).Textual →
        (RustStores db (encodeMailboxView v) ↔ v.WellFormed) := by
  refine ⟨?_, rustAccepts_iff h hstate, fun db hmailbox htext => (rustStores_iff h hmailbox htext).trans (rustAccepts_iff h hstate)⟩
  simp only [Domain.mailboxView_ok, exists_eq_left]
  exact and_iff_right h.total

/-- Three of five emails, with a hole. -/
def holedView : Domain.MailboxView where
  spec := ⟨⟨"a", "inbox"⟩, .descending⟩
  queryState := "s"
  total := 5
  coverage := [⟨0, 2⟩, ⟨3, 4⟩]
  items := [⟨0, ⟨"a", "x"⟩⟩, ⟨1, ⟨"a", "y"⟩⟩, ⟨3, ⟨"a", "z"⟩⟩]

theorem view_acceptance_agrees_holed : holedView.WellFormed ∧ RustAccepts (encodeMailboxView holedView) := by
  obtain ⟨hdomain, hrust, -⟩ := view_acceptance_agrees (v := holedView) ⟨by decide, by decide, by decide⟩ (by decide)
  have hwellFormed := hdomain.1 ⟨holedView, by decide⟩
  exact ⟨hwellFormed, hrust.2 hwellFormed⟩

end Boxplot.Ipc
