import Boxplot.Domain.ViewShape
import Boxplot.Outbox.Calls
/-!
# Views of mailboxes

`Coordinator.syncQueryView` of `src/sync/coordinator.ts`, with the mapper of
`src/sync/mappers/to-mailbox-view.ts`: a page of a query becomes a view, unless
a check refuses it.
-/

namespace Boxplot.Sync

open Domain Remote Lib Outbox

/-! ## `toMailboxView` -/

/-- One range, from the position of the page on. -/
def pageCoverage (position : Int) (items : List MailboxViewItem) : Checked (List MailboxViewCoverageRange) :=
  if items = [] then .ok [] else do
    let range ← mailboxViewCoverageRange position (position + items.length)
    .ok [range]

def toMailboxView (spec : MailboxViewSpec) (accountKey : AccountKey) (result : RemoteMailboxQuery) : Option MailboxView := built do
  let items ← result.ids.zipIdx.mapM fun (id, index) => do
    let emailId ← localEmailId accountKey id
    mailboxViewItem (result.position + index) emailId
  let coverage ← pageCoverage result.position items
  let queryState ← mailboxViewQueryStateFromString result.queryState
  let total ← safeInteger result.total "MailboxView total"
  mailboxView { spec, queryState, total, coverage, items }

theorem safeInteger_ok {value : Int} {fieldName : String} {n : Nat} :
    safeInteger value fieldName = .ok n ↔ value = n ∧ n ≤ maxSafeInteger := by
  unfold safeInteger
  split
  · rename_i h
    rw [Except.ok.injEq]
    omega
  · rename_i h
    refine iff_of_false nofun ?_
    omega

/-- Nothing that is shown lies past the total. -/
theorem toMailboxView_within {spec : MailboxViewSpec} {accountKey : AccountKey} {result : RemoteMailboxQuery} {view : MailboxView}
    (h : toMailboxView spec accountKey result = some view) : result.position + result.ids.length ≤ result.total ∨ result.ids = [] := by
  obtain ⟨items, hitems, h⟩ := except_bind_eq_ok.1 (built_eq_some.1 h)
  obtain ⟨coverage, hcoverage, h⟩ := except_bind_eq_ok.1 h
  obtain ⟨queryState, -, h⟩ := except_bind_eq_ok.1 h
  obtain ⟨total, htotal, h⟩ := except_bind_eq_ok.1 h
  obtain ⟨rfl, -, hwell⟩ := mailboxView_ok.1 h
  have hlength : items.length = result.ids.length := by
    rw [← (mapM_eq_ok.1 hitems).length_eq, List.length_zipIdx]
  by_cases hnil : items = []
  · rw [hnil] at hlength
    exact .inr (List.length_eq_zero_iff.1 hlength.symm)
  · rw [pageCoverage, if_neg hnil] at hcoverage
    obtain ⟨range, hrange, hcoverage⟩ := except_bind_eq_ok.1 hcoverage
    cases hcoverage
    obtain ⟨start, hstart, hrange⟩ := except_bind_eq_ok.1 hrange
    obtain ⟨endExclusive, hend, hrange⟩ := except_bind_eq_ok.1 hrange
    obtain ⟨-, -, hrange⟩ := except_bind_eq_ok.1 hrange
    cases hrange
    have hle : endExclusive ≤ total := (hwell.within (List.mem_singleton_self _)).2
    have hendExclusive := (safeInteger_ok.1 hend).1
    have htotal := (safeInteger_ok.1 htotal).1
    rw [hlength] at hendExclusive
    exact .inl (by omega)

/-- A page without emails makes a view if it says that there are none. -/
theorem toMailboxView_empty {spec : MailboxViewSpec} {accountKey : AccountKey} {result : RemoteMailboxQuery} (hids : result.ids = [])
    (htotal : result.total = 0) : toMailboxView spec accountKey result =
      if result.queryState = "" then none else some ⟨spec, result.queryState, 0, [], []⟩ := by
  unfold toMailboxView
  rw [hids, htotal]
  by_cases hstate : result.queryState = ""
  · rw [if_pos hstate, hstate]
    rfl
  · have hlength : ¬ result.queryState.length = 0 := by simpa [String.length_eq_zero_iff] using hstate
    have hchecked : mailboxViewQueryStateFromString result.queryState = .ok result.queryState := by
      simp only [mailboxViewQueryStateFromString, typeErrorIf, hlength, bind, Except.bind, if_false]
    rw [if_neg hstate, hchecked]
    rfl

/-! ## `syncQueryView` -/

/-- What a synchronisation of a view asks of its ports. -/
inductive ViewCall
  | queryMailbox (remoteAccountId mailboxId : String) (options : Option RemoteQueryOptions)
  | replaceMailboxView (view : MailboxView)

@[reducible] def ViewReply : ViewCall → Type
  | .queryMailbox _ _ _ => Except JsError RemoteMailboxQuery
  | .replaceMailboxView _ => PortReply LocalWriteError Unit

def queryPageSize : Nat := 500

/-- A page that makes no view is left. -/
def storeView : Option MailboxView → Async ViewCall ViewReply JsError Unit
  | none => pure ()
  | some view => do
    let writeResult ← Async.call (ViewCall.replaceMailboxView view)
    match writeResult with
    | .ok _ => pure ()
    | .failed e => throw (.error ("replaceMailboxView failed: " ++ e.kind))
    | .rejected => throw (.error "port rejected")

def syncQueryView (accountKey : AccountKey) (remoteAccountId : String) (spec : MailboxViewSpec) : Async ViewCall ViewReply JsError Unit := do
  let mailboxId ← Async.lift ((remoteMailboxId spec.mailboxId).mapError .typeError)
  let reply ← Async.call (ViewCall.queryMailbox remoteAccountId mailboxId (some ⟨none, some queryPageSize, none, none⟩))
  let result ← Async.lift reply
  storeView (toMailboxView spec accountKey result)

end Boxplot.Sync
