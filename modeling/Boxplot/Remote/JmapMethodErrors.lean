import Boxplot.Outbox.Calls
import Boxplot.Remote.JmapRemoteMail
/-!
# What becomes of a method error

A request that the server answers with a method error rejects with that error.
`throwJmapRequestError` gives every such rejection the type
`networkOrServerFail`, unless it finds a refusal in its text. So the type is
lost before `toRemoteError` and `syncEmails` look at it.
-/

namespace Boxplot.Remote

open Lib Jmap JmapRemoteMail Outbox

/-! ## Failed requests -/

/-- What `jam.request` rejects with: the method error, or the HTTP status, in an object or a text. -/
inductive RequestFailure
  | methodError (type : String) (description : Option String)
  | http (status : Int) (detail : String)
  | httpText (status : Nat) (reason : String)
  deriving DecidableEq, Repr

/-- `JSON.stringify({ type, description })`. -/
def methodErrorJson (type : String) (description : Option String) : String :=
  "\x7b\"type\":" ++ jsonString type ++ (description.elim "" fun d => ",\"description\":" ++ jsonString d) ++ "\x7d"

namespace RequestFailure

/-- `status`, if the value is an object that has one. -/
def status : RequestFailure → Option Int
  | http status _ => some status
  | _ => none

/-- The text of the value. -/
def text : RequestFailure → String
  | methodError type description => methodErrorJson type description
  | http _ detail => detail
  | httpText status reason => toString status ++ " " ++ reason

def rejection (f : RequestFailure) : JamRejection := .other f.status f.text

/-- The type of a method error. -/
def type? : RequestFailure → Option String
  | methodError type _ => some type
  | _ => none

/-- The HTTP status is one that refuses the credentials. -/
def isRefusal : RequestFailure → Prop
  | methodError _ _ => False
  | http status _ => status = 401 ∨ status = 403
  | httpText status _ => status = 401 ∨ status = 403

end RequestFailure

/-- The pattern that `throwJmapRequestError` looks for. -/
def NamesAuth (text : String) : Prop := namesStatus false text.toList = true ∨ namesRefusal text.toList = true

instance (text : String) : Decidable (NamesAuth text) := inferInstanceAs (Decidable (_ ∨ _))

/-! ## What should become of them -/

/-- The program comes to a point where it goes on as the other. -/
inductive GoesOn {E : Type} {R : E → Type} {α : Type} : Prog E R α → Prog E R α → Prop
  | here (p : Prog E R α) : GoesOn p p
  | reply {e : E} {k : R e → Prog E R α} {q : Prog E R α} (r : R e) (h : GoesOn (k r) q) : GoesOn (.await e k) q

/-- Wherever a synchronisation asks for changes and the server cannot calculate them, it takes the whole snapshot. -/
def Resynchronizes (f : RequestFailure) : Prop :=
  f.type? = some "cannotCalculateChanges" → ∀ accountId previous sinceState k,
    GoesOn (syncEmails accountId previous).run (.await (.emailChanges accountId sinceState) k) →
      k (.error f.rejection) = (completeEmailSnapshot accountId).run

/-- A type that is not transient is not retried. -/
def NotRetried (f : RequestFailure) : Prop :=
  ∀ type, f.type? = some type → type ∉ retryableMethodErrorTypes → ∀ method outcome,
    (toRemoteError outcome (jmapRequestError method f.rejection)).retry.isSafe = false

/-- The session expires only if the credentials were refused. -/
def KeepsSession (f : RequestFailure) : Prop :=
  ∀ method outcome, let error := toRemoteError outcome (jmapRequestError method f.rejection)
    error.kind = .auth ∧ error.session = .expire → f.isRefusal

structure TypePreserved (f : RequestFailure) : Prop where
  resynchronizes : Resynchronizes f
  notRetried : NotRetried f
  keepsSession : KeepsSession f

/-! ## What becomes of them -/

section
variable {f : RequestFailure} {method : String} {outcome : OperationOutcome}

/-- A status that stands in front of the text is found in it. -/
theorem namesAuth_httpText {status : Nat} {reason : String} (h : status = 401 ∨ status = 403) :
    NamesAuth (toString status ++ " " ++ reason) := by
  left
  rcases h with rfl | rfl
  · rw [show (toString 401 : String) = "401" from rfl, String.toList_append, String.toList_append]
    rfl
  · rw [show (toString 403 : String) = "403" from rfl, String.toList_append, String.toList_append]
    rfl

theorem refused_iff : (f.status = some 401 ∨ f.status = some 403 ∨ NamesAuth f.text) ↔ f.isRefusal ∨ NamesAuth f.text := by
  cases f with
  | methodError type description => simp [RequestFailure.status, RequestFailure.isRefusal]
  | http status detail => simp [RequestFailure.status, RequestFailure.isRefusal, or_assoc]
  | httpText status reason =>
    simp only [RequestFailure.status, reduceCtorEq, false_or]
    exact ⟨.inr, fun h => h.elim namesAuth_httpText id⟩

theorem jmapRequestError_auth (h : f.isRefusal ∨ NamesAuth f.text) :
    jmapRequestError method f.rejection = .jmap (.auth ("Authentication failed during " ++ method)) :=
  if_pos (refused_iff.2 h)

/-- Without a refusal every type becomes this one. -/
theorem jmapRequestError_method (h : ¬ (f.isRefusal ∨ NamesAuth f.text)) :
    jmapRequestError method f.rejection = .jmap (.method method "networkOrServerFail" f.text) :=
  if_neg fun hrefused => h (refused_iff.1 hrefused)

theorem toRemoteError_networkOrServerFail {message : String} :
    toRemoteError outcome (.jmap (.method method "networkOrServerFail" message)) =
      ⟨"Remote protocol operation failed", .protocol, .safeBackoff, .keep, outcome⟩ := rfl

theorem notRetried_iff {type : String} (htype : f.type? = some type) (h : type ∉ retryableMethodErrorTypes) :
    NotRetried f ↔ NamesAuth f.text := by
  constructor
  · intro hn
    by_contra htext
    have hmethod : ¬ (f.isRefusal ∨ NamesAuth f.text) := by
      cases f with
      | methodError _ _ => exact fun h => h.elim id htext
      | _ => cases htype
    have hsafe := hn type htype h "" .knownNotApplied
    rw [jmapRequestError_method hmethod, toRemoteError_networkOrServerFail] at hsafe
    cases hsafe
  · intro htext type' _ _ method outcome
    rw [jmapRequestError_auth (.inr htext)]
    rfl

theorem keepsSession_iff : KeepsSession f ↔ f.isRefusal ∨ ¬ NamesAuth f.text := by
  constructor
  · intro hk
    by_contra h
    obtain ⟨hrefusal, htext⟩ := not_or.1 h
    apply hrefusal
    apply hk "" .knownNotApplied
    rw [jmapRequestError_auth (.inr (not_not.1 htext))]
    exact ⟨rfl, rfl⟩
  · intro h method outcome error herror
    by_contra hrefusal
    have hmethod : ¬ (f.isRefusal ∨ NamesAuth f.text) := not_or.2 ⟨hrefusal, h.resolve_left hrefusal⟩
    simp only [error, jmapRequestError_method hmethod, toRemoteError_networkOrServerFail] at herror
    exact absurd herror.1 (by decide)

end

/-- The first request for changes already ends the synchronisation. -/
theorem not_resynchronizes (description : Option String) : ¬ Resynchronizes (.methodError "cannotCalculateChanges" description) := by
  intro h
  let f := RequestFailure.methodError "cannotCalculateChanges" description
  have hk := h rfl "" (some "") "" _ (.here _)
  -- The handler finds neither outcome to be `cannotCalculateChanges`.
  have hrejects : ∃ x, deltaFailed "" (jmapRequestError "Email/changes" f.rejection) = throw x := by
    by_cases hrefused : f.isRefusal ∨ NamesAuth f.text
    · rw [jmapRequestError_auth hrefused]
      exact ⟨_, rfl⟩
    · rw [jmapRequestError_method hrefused]
      exact ⟨_, rfl⟩
  obtain ⟨x, hx⟩ := hrejects
  have hends : (deltaFailed "" (jmapRequestError "Email/changes" f.rejection)).run = (completeEmailSnapshot "").run := hk
  rw [hx] at hends
  cases hends

/-- Where the answer itself has the property, the synchronisation does go on. -/
theorem syncEmails_answer (accountId sinceState : String) (response : RawJmapChangesResponse)
    (h : response.cannotCalculateChanges = true) :
    ∃ k, (syncEmails accountId (some sinceState)).run = .await (.emailChanges accountId sinceState) k ∧
      k (.ok response) = (completeEmailSnapshot accountId).run := by
  refine ⟨_, rfl, ?_⟩
  simp only [Except.mapError, Async.lift, Prog.bind, h, if_true]
  rfl

/-- A failure that all is well with: no type but a transient one, and no refusal named that did not happen. -/
def RequestFailure.Harmless (f : RequestFailure) : Prop :=
  (∀ type, f.type? = some type → type ∈ retryableMethodErrorTypes) ∧ (f.isRefusal ∨ ¬ NamesAuth f.text)

theorem not_isRefusal_of_type {f : RequestFailure} {type : String} (h : f.type? = some type) : ¬ f.isRefusal := by
  cases f with
  | methodError _ _ => exact id
  | _ => cases h

/-- Exactly for these is all as it should be. -/
theorem typePreserved_iff (f : RequestFailure) : TypePreserved f ↔ f.Harmless := by
  constructor
  · intro h
    refine ⟨fun type htype => ?_, keepsSession_iff.1 h.keepsSession⟩
    by_contra hnot
    have htext := (notRetried_iff htype hnot).1 h.notRetried
    -- Not retried, it was taken for a refusal.
    rcases keepsSession_iff.1 h.keepsSession with hrefusal | hkept
    · exact not_isRefusal_of_type htype hrefusal
    · exact hkept htext
  · rintro ⟨htypes, hkeeps⟩
    refine { resynchronizes := fun htype => ?_, notRetried := fun type htype hnot => ?_, keepsSession := keepsSession_iff.2 hkeeps }
    · exact absurd (htypes _ htype) (by decide)
    · exact absurd (htypes type htype) hnot

/-- A server that has forgotten the state is never asked for everything. It is asked for the changes again, and a
description can end the session. -/
theorem forgottenState_notPreserved :
    (∀ description, ¬ Resynchronizes (.methodError "cannotCalculateChanges" description)) ∧
      ¬ NotRetried (.methodError "cannotCalculateChanges" none) ∧
      ¬ KeepsSession (.methodError "serverFail" (some "error 403")) := by
  refine ⟨not_resynchronizes, fun h => ?_, fun h => ?_⟩
  · have htext := (notRetried_iff (f := .methodError "cannotCalculateChanges" none) rfl (by decide)).1 h
    exact absurd htext (by decide +kernel)
  · rcases keepsSession_iff.1 h with hrefusal | htext
    · exact hrefusal
    · exact htext (by decide +kernel)

end Boxplot.Remote
