import Boxplot.Outbox.AtMostOnce
import Boxplot.Outbox.Twins
/-!
# An encrypted send stays encrypted

Runs of both runners over a send whose intent asks for encryption, interleaved
and abandoned anywhere, with any replies of the store, the encryption port and
the remote. Of one run: what is submitted is sealed. Of two: what the remote is
asked does not depend on the body.
-/

namespace Boxplot.Outbox

open Domain Remote Lib

/-- What the remote and its reconciler are asked. -/
inductive RemoteCall
  | submit (request : SubmitRequest)
  | reconcileSend (accountKey : AccountKey) (idempotencyKey : String)
  | reconcileMembership (accountKey : AccountKey) (idempotencyKey emailId : String) (add remove : List String)
  deriving DecidableEq, Repr

/-- The part of a request that leaves for the remote. The record a `submit` is called for stays. -/
def Call.remote : Call → Option RemoteCall
  | .submit _ request => some (.submit request)
  | .reconcileSend accountKey key => some (.reconcileSend accountKey key)
  | .reconcileMembership accountKey key emailId add remove => some (.reconcileMembership accountKey key emailId add remove)
  | _ => none

theorem SameRequest.remote {intent intent' : SendIntent} {e e' : Call} (h : SameRequest intent intent' e e') :
    e.remote = e'.remote := by
  unfold SameRequest at h
  split at h
  · rfl
  · rfl
  · rw [Call.remote, Call.remote, h.2]
  · rfl
  · rw [h]

theorem SameRequest.remotes {intent intent' : SendIntent} {h h' : List (Event Call Reply)}
    (hh : List.Forall₂ (fun v v' => SameRequest intent intent' v.request v'.request) h h') :
    h.filterMap (·.request.remote) = h'.filterMap (·.request.remote) := by
  induction hh with
  | nil => rfl
  | cons hv _ ih => rw [List.filterMap_cons, List.filterMap_cons, hv.remote, ih]

theorem SendRun.sealed {intent : SendIntent} (hmode : intent.securityMode = .boxplotE2eeV1) {accountKey : AccountKey}
    {mutationId : MutationId} {p : Prog Call Reply Unit} (hp : SendRun accountKey mutationId p) :
    (sealedContract intent).wp p (fun _ _ => True) [] := by
  cases hp with
  | runMutation deps =>
    rw [Contract.wp_bind]
    exact wp_runMutation_sealed hmode deps accountKey mutationId []
  | processSendMutation remoteAccountId =>
    rw [Contract.wp_bind]
    exact wp_processSendMutation_sealed hmode accountKey remoteAccountId mutationId []

theorem SendRun.twins {intent intent' : SendIntent} (h : SameButBody intent intent')
    (hmode : intent.securityMode = .boxplotE2eeV1) {accountKey : AccountKey} {mutationId : MutationId}
    {p : Prog Call Reply Unit} (hp : SendRun accountKey mutationId p) : Alike (twins intent intent') Eq p p := by
  have hmode' : intent'.securityMode = .boxplotE2eeV1 := by rw [h]; exact hmode
  cases hp with
  | runMutation deps => exact Alike.bind (twins_runMutation h hmode deps accountKey mutationId) fun _ _ _ => rfl
  | processSendMutation remoteAccountId =>
    exact Alike.bind (twins_processSendMutation hmode hmode' accountKey remoteAccountId mutationId) fun _ _ _ => rfl

/-- Any number of runs of both runners over an encrypted send, in any order and with any replies: a run
that calls `submit` hands over an envelope that the port returned to it for this intent; and with the same
replies the remote is asked the same, whatever the intent's body is. -/
theorem encrypted_send_leaves_sealed {intent : SendIntent} (hmode : intent.securityMode = .boxplotE2eeV1)
    {accountKey : AccountKey} {mutationId : MutationId} {P : Nat → Prog Call Reply Unit}
    (hP : ∀ t, SendRun accountKey mutationId (P t)) :
    (∀ h P', Interleaving P h P' → (∀ v ∈ h, Holds intent v.request v.reply) →
      ∀ t m request, (P' t).next = some (.submit m request) →
        ∃ recipient envelope, intent.to = [recipient] ∧
          ⟨t, .encryptFor (encryptForInput intent recipient), .ok envelope⟩ ∈ h ∧
          request.message.body = .boxplotE2ee (serializeBoxplotE2eeEnvelope envelope)) ∧
    ∀ intent', SameButBody intent intent' → ∀ h h' P₁ P₂, Interleaving P h P₁ → Interleaving P h' P₂ →
      List.Forall₂ (SameAnswer (twins intent intent')) h h' →
        h.filterMap (·.request.remote) = h'.filterMap (·.request.remote) ∧
        ∀ t, (P₁ t).next.bind Call.remote = (P₂ t).next.bind Call.remote := by
  refine ⟨fun h P' hi ha t m request ht => ?_, fun intent' hsame h h' P₁ P₂ hi₁ hi₂ hh => ?_⟩
  · have hsealed : Sealed intent (own t h) request.message.body :=
      hi.may_next (fun t => (hP t).sealed hmode) ha ht
    obtain ⟨recipient, envelope, hto, hmem, hbody⟩ := hsealed
    exact ⟨recipient, envelope, hto, mem_own.1 hmem, hbody⟩
  · obtain ⟨hrequests, hrest⟩ := Interleaving.alike (fun t => (hP t).twins hsame hmode) hi₁ hi₂ hh
    refine ⟨SameRequest.remotes hrequests, fun t => ?_⟩
    have hnext := (hrest t).next
    generalize (P₁ t).next = e at hnext ⊢
    generalize (P₂ t).next = e' at hnext ⊢
    cases hnext with
    | none => rfl
    | some hr => exact SameRequest.remote hr

/-- A staged send of an encrypted message. -/
def sampleIntent (text : String) : SendIntent where
  securityMode := .boxplotE2eeV1
  identityId := ⟨"a1", "i1"⟩
  «from» := ⟨none, "me@example.org"⟩
  replyTo := []
  «to» := [⟨none, "you@example.org"⟩]
  cc := []
  bcc := []
  subject := "Hello"
  body := ⟨text, none⟩

def sampleEncrypted (text : String) (lifecycle : Lifecycle) : PendingMutation :=
  ⟨"m1", "a1", "2026-01-01T00:00:00.000Z", .send (sampleIntent text), lifecycle⟩

def sampleEnvelope : BoxplotE2eeEnvelope := ⟨"me@example.org", "you@example.org", "k1", "k2", "n1", "c1"⟩

def sampleRunner : Prog Call Reply Unit :=
  (runMutation ⟨none, true, fun _ _ => none⟩ "a1" "m1").run.bind fun _ => .pure ()

/-- What a run is answered up to its `submit`. -/
def sampleAnswers (text : String) : List (Sigma Reply) :=
  [⟨.readPendingMutation "a1" "m1", .ok (.present (sampleEncrypted text (.pending 0)))⟩, ⟨.isConnected "a1", true⟩,
    ⟨.encryptFor ⟨"me@example.org", "you@example.org", "Hello", text, none⟩, .ok sampleEnvelope⟩,
    ⟨.replacePendingMutationIfCurrent (sampleEncrypted text (.pending 0)) (sampleEncrypted text (.inFlight 1)), .ok ()⟩]

def sampleHistory (text : String) : List (Event Call Reply) := (sampleAnswers text).map fun a => ⟨0, a.1, a.2⟩

def sampleSubmission : SubmitRequest :=
  .source "a1" ⟨some "i1", ⟨none, "me@example.org"⟩, [⟨none, "you@example.org"⟩], [], [], [], "Hello",
    .boxplotE2ee (serializeBoxplotE2eeEnvelope sampleEnvelope)⟩ "m1"

/-- The answers lead a run to its `submit`. -/
theorem sampleHistory_submits {text : String} {request : Call}
    (h : (sampleRunner.feed (sampleAnswers text)).bind Prog.next = some request) :
    ∃ P, Interleaving (fun _ => sampleRunner) (sampleHistory text) P ∧ (P 0).next = some request := by
  obtain ⟨p, hp, hnext⟩ := Option.bind_eq_some_iff.1 h
  have hi : Interleaving (fun _ : Nat => sampleRunner) [] (fun _ => sampleRunner) := .nil
  exact ⟨_, hi.fed (t := 0) hp, by simpa using hnext⟩

/-- Two bodies, one envelope: both runs submit the envelope, and the same request. -/
theorem sampleRunner_leaves_sealed : ∃ P₁ P₂, Interleaving (fun _ => sampleRunner) (sampleHistory "Hi") P₁ ∧
    Interleaving (fun _ => sampleRunner) (sampleHistory "Ho") P₂ ∧
    (P₁ 0).next = some (.submit (sampleEncrypted "Hi" (.inFlight 1)) sampleSubmission) ∧
    (∃ recipient envelope, (sampleIntent "Hi").to = [recipient] ∧
      ⟨0, .encryptFor (encryptForInput (sampleIntent "Hi") recipient), .ok envelope⟩ ∈ sampleHistory "Hi" ∧
      sampleSubmission.message.body = .boxplotE2ee (serializeBoxplotE2eeEnvelope envelope)) ∧
    (P₁ 0).next.bind Call.remote = (P₂ 0).next.bind Call.remote := by
  have hHi : (sampleRunner.feed (sampleAnswers "Hi")).bind Prog.next =
      some (.submit (sampleEncrypted "Hi" (.inFlight 1)) sampleSubmission) := by decide +kernel
  have hHo : (sampleRunner.feed (sampleAnswers "Ho")).bind Prog.next =
      some (.submit (sampleEncrypted "Ho" (.inFlight 1)) sampleSubmission) := by decide +kernel
  obtain ⟨P₁, hi₁, hnext₁⟩ := sampleHistory_submits hHi
  obtain ⟨P₂, hi₂, -⟩ := sampleHistory_submits hHo
  have hruns : ∀ t : Nat, SendRun "a1" "m1" ((fun _ => sampleRunner) t) := fun _ => .runMutation _
  have hholds : ∀ v ∈ sampleHistory "Hi", Holds (sampleIntent "Hi") v.request v.reply := by
    simp [sampleHistory, sampleAnswers, Holds, sampleEncrypted]
  have htwin : ∀ l, Twin (sampleIntent "Hi") (sampleIntent "Ho") (sampleEncrypted "Hi" l) (sampleEncrypted "Ho" l) :=
    fun _ => ⟨rfl, rfl⟩
  have hsame : List.Forall₂ (SameAnswer (twins (sampleIntent "Hi") (sampleIntent "Ho"))) (sampleHistory "Hi")
      (sampleHistory "Ho") :=
    .cons ⟨rfl, fun _ => .inl ⟨_, _, rfl, rfl, htwin _⟩⟩ (.cons ⟨rfl, fun _ => .rfl⟩
      (.cons ⟨rfl, fun _ => .rfl⟩ (.cons ⟨rfl, fun _ => .rfl⟩ .nil)))
  have hmode : (sampleIntent "Hi").securityMode = .boxplotE2eeV1 := rfl
  obtain ⟨hone, htwo⟩ := encrypted_send_leaves_sealed hmode hruns
  exact ⟨P₁, P₂, hi₁, hi₂, hnext₁, hone _ _ hi₁ hholds 0 _ _ hnext₁,
    (htwo (sampleIntent "Ho") rfl _ _ _ _ hi₁ hi₂ hsame).2 0⟩

end Boxplot.Outbox
