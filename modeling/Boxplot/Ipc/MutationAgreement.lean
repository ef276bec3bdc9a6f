import Boxplot.Ipc.MutationDecoding
/-!
# When both sides agree on a mutation

TypeScript and Rust agree on a mutation of the wire's shape if both refuse it,
or if both accept it and Rust stores what TypeScript makes of it just as it
stores the mutation itself. Their rules differ for sends.
-/

namespace Boxplot.Ipc

open Domain Lib

structure AgreesOn (v : IpcPendingMutation Rat) : Prop where
  accepts : (∃ m, decodePendingMutation v = .ok m) ↔ ∃ s, rustReads v = some s
  means : ∀ m s, decodePendingMutation v = .ok m → rustReads v = some s → (encodePendingMutation m).bind rustReads = some s

/-! ## What TypeScript writes back -/

def normalisedIntent (intent : IpcSendIntent) : IpcSendIntent :=
  { intent with bcc := (mergeBcc (intent.bcc.map decodeAddress) none).map encodeAddress }

/-- Each keyword and each Bcc email once. -/
def normalised : IpcPendingMutation Rat → IpcPendingMutation Rat
  | .send mutationId accountKey createdAt intent lifecycle =>
    .send mutationId accountKey createdAt (normalisedIntent intent) lifecycle
  | .keyword mutationId accountKey createdAt emailId change lifecycle =>
    .keyword mutationId accountKey createdAt emailId ⟨change.add.foldl setAdd [], change.remove.foldl setAdd []⟩ lifecycle
  | .mailboxMembership mutationId accountKey createdAt emailId change lifecycle =>
    .mailboxMembership mutationId accountKey createdAt emailId change lifecycle

@[simp] theorem encodeAddress_decodeAddress (a : IpcEmailAddress) : encodeAddress (decodeAddress a) = a := rfl

@[simp] theorem map_encodeAddress (l : List IpcEmailAddress) : (l.map decodeAddress).map encodeAddress = l := by
  rw [List.map_map]
  exact List.map_id l

theorem encode_readIntent (i : IpcSendIntent) : encodeSendIntent (readIntent i) = normalisedIntent i := by
  have hmode : encodeSecurityMode (decodeSecurityMode i.securityMode) = i.securityMode := by
    cases i.securityMode <;> rfl
  simp only [encodeSendIntent, readIntent, normalisedIntent, map_encodeAddress, encodeAddress_decodeAddress, hmode]
  rfl

/-- A lifecycle with a safe count is written as it was. -/
theorem encode_readLifecycle {C : Type} {confirmationOf : Option SendConfirmation → Option C} {l : IpcLifecycle Rat C}
    {confirmation : Option SendConfirmation} (h : SafeLifecycle l) (hc : ∀ c ∈ l.confirmation, confirmationOf confirmation = some c) :
    encodeLifecycle confirmationOf (readLifecycle l confirmation) = some l := by
  obtain ⟨n, hn, -, hphase⟩ := h
  cases l with
  | pending k =>
    obtain rfl : n = 0 := hphase
    obtain rfl : k = ((0 : Nat) : Rat) := hn
    rfl
  | inFlight k =>
    obtain rfl : k = n := hn
    simp [readLifecycle, encodeLifecycle]
  | retrying k t =>
    obtain rfl : k = n := hn
    simp [readLifecycle, encodeLifecycle]
  | confirmed k c =>
    obtain rfl : k = n := hn
    simp [readLifecycle, encodeLifecycle, hc c rfl]
  | failedTerminal k =>
    obtain rfl : k = n := hn
    simp [readLifecycle, encodeLifecycle]

theorem encode_readMutation {v : IpcPendingMutation Rat} (hv : Agreed v) (hts : TypeScriptRules v) :
    encodePendingMutation (readMutation v) = some (normalised v) := by
  obtain ⟨-, -, -, hpayload⟩ := hv
  cases v with
  | send mutationId accountKey createdAt intent lifecycle =>
    have hsafe : SafeLifecycle lifecycle := safeLifecycle_iff.2 ⟨hpayload.2.1, hts.1⟩
    simp only [encodePendingMutation, readMutation, encodeSendLifecycle, encode_readIntent]
    rw [encode_readLifecycle hsafe fun c hl => ?_]
    · rfl
    · rw [hl]
      rfl
  | keyword mutationId accountKey createdAt emailId change lifecycle =>
    have hsafe : SafeLifecycle lifecycle := safeLifecycle_iff.2 ⟨hpayload.2.2, hts.1⟩
    simp only [encodePendingMutation, readMutation, encodeUpdateLifecycle]
    rw [encode_readLifecycle hsafe fun c hl => rfl]
    rfl
  | mailboxMembership mutationId accountKey createdAt emailId change lifecycle =>
    have hsafe : SafeLifecycle lifecycle := safeLifecycle_iff.2 ⟨hpayload.2.2, hts.1⟩
    have hids : ∀ l : List IpcScopedMailboxId, (l.map readMailboxId).map encodeScopedMailboxId = l := fun l => by
      rw [List.map_map]
      exact List.map_id l
    simp only [encodePendingMutation, readMutation, encodeUpdateLifecycle, hids]
    rw [encode_readLifecycle hsafe fun c hl => rfl]
    rfl

/-! ## What Rust makes of it -/

theorem attemptCount_normalised (v : IpcPendingMutation Rat) : (normalised v).attemptCount = v.attemptCount := by
  cases v <;> rfl

theorem decodeAddress_map_encode (l : List EmailAddress) : (l.map encodeAddress).map decodeAddress = l := by
  rw [List.map_map]
  exact List.map_id l

/-- Merging again changes nothing. -/
theorem mergeBcc_idem (l : List EmailAddress) : mergeBcc (mergeBcc l none) none = mergeBcc l none :=
  mergeBcc_eq_self.2 nodup_mergeBcc

theorem agreed_normalised {v : IpcPendingMutation Rat} (hv : Agreed v) : Agreed (normalised v) ∧ RustRules (normalised v) := by
  obtain ⟨ha, hm, hc, hpayload⟩ := hv
  cases v with
  | send mutationId accountKey createdAt intent lifecycle =>
    obtain ⟨⟨howner, hid, hwild, hrecipient, hothers, hbcc⟩, hlifecycle, hconfirmed⟩ := hpayload
    refine ⟨⟨ha, hm, hc, ⟨howner, hid, hwild, ?_, hothers, ?_⟩, hlifecycle, hconfirmed⟩, ?_⟩
    · simpa only [normalisedIntent, List.length_map, length_eq_zero_mergeBcc] using hrecipient
    · simpa only [normalisedIntent, decodeAddress_map_encode, mergeBcc_idem] using hbcc
    · change ∀ address ∈ (normalisedIntent intent).bcc, Usable (decodeAddress address)
      simp only [normalisedIntent, List.forall_mem_map]
      exact hbcc
  | keyword mutationId accountKey createdAt emailId change lifecycle =>
    obtain ⟨hemail, ⟨hwords, hsome, hdisjoint⟩, hlifecycle⟩ := hpayload
    refine ⟨⟨ha, hm, hc, hemail, ⟨?_, ?_, ?_⟩, hlifecycle⟩, trivial⟩
    · simpa only [mem_foldl_setAdd, List.not_mem_nil, false_or] using hwords
    · simpa only [foldl_setAdd_eq_nil, true_and] using hsome
    · simpa only [mem_foldl_setAdd, List.not_mem_nil, false_or] using hdisjoint
  | mailboxMembership mutationId accountKey createdAt emailId change lifecycle => exact ⟨⟨ha, hm, hc, hpayload⟩, trivial⟩

/-- The meaning is the same exactly when no Bcc email is repeated. -/
theorem normalised_meaning (v : IpcPendingMutation Rat) (n : UInt64) :
    mutationToSemantic ((normalised v).withCount n) = mutationToSemantic (v.withCount n) ↔ DistinctBcc v := by
  cases v with
  | send mutationId accountKey createdAt intent lifecycle =>
    have hbcc : (normalisedIntent intent).bcc.map addressToSemantic = intent.bcc.map addressToSemantic ↔
        mergeBcc (intent.bcc.map decodeAddress) none = intent.bcc.map decodeAddress := by
      have hinjective : Function.Injective addressToSemantic := by
        rintro ⟨_, _⟩ ⟨_, _⟩ h
        cases h
        rfl
      rw [List.map_inj_right fun a b h => hinjective h]
      constructor
      · intro h
        have hmap := congrArg (List.map decodeAddress) h
        rwa [normalisedIntent, decodeAddress_map_encode] at hmap
      · intro h
        simp only [normalisedIntent, h, map_encodeAddress]
    have hemails : (intent.bcc.map decodeAddress).map (·.email) = intent.bcc.map (·.email) := by
      rw [List.map_map]
      rfl
    rw [DistinctBcc, ← hemails, ← mergeBcc_eq_self, ← hbcc]
    constructor
    · intro h
      have hpayload := congrArg Persistence.PendingMutation.payload h
      exact congrArg Persistence.SendIntent.bcc (Persistence.MutationPayload.send.inj hpayload)
    · intro h
      simp only [normalised, IpcPendingMutation.withCount, mutationToSemantic, intentToSemantic, h]
      rfl
  | keyword mutationId accountKey createdAt emailId change lifecycle =>
    have hset : ∀ l : List String, (l.foldl setAdd []).toFinset = l.toFinset := by
      intro l
      ext k
      simp [mem_foldl_setAdd]
    simp [normalised, IpcPendingMutation.withCount, mutationToSemantic, hset, DistinctBcc]
  | mailboxMembership mutationId accountKey createdAt emailId change lifecycle => simp [normalised, DistinctBcc]

/-! ## Agreement -/

/-- What both accept, Rust stores alike exactly when no Bcc email is repeated. -/
theorem means_iff {v : IpcPendingMutation Rat} (hv : Agreed v) (hts : TypeScriptRules v) (hrust : RustRules v) :
    (∀ m s, decodePendingMutation v = .ok m → rustReads v = some s → (encodePendingMutation m).bind rustReads = some s) ↔
      DistinctBcc v := by
  obtain ⟨s, hs⟩ := (rustReads_isSome v).2 ⟨hv, hrust⟩
  obtain ⟨s', hs'⟩ := (rustReads_isSome (normalised v)).2 (agreed_normalised hv)
  have hm : decodePendingMutation v = .ok (readMutation v) := decodePendingMutation_ok.2 ⟨⟨hv, hts⟩, rfl⟩
  have hback : (encodePendingMutation (readMutation v)).bind rustReads = some s' := by
    rw [encode_readMutation hv hts]
    exact hs'
  have hsame : s' = s ↔ DistinctBcc v := by
    obtain ⟨n, hn, -, -, rfl⟩ := rustReads_eq_some.1 hs
    obtain ⟨n', hn', -, -, rfl⟩ := rustReads_eq_some.1 hs'
    rw [attemptCount_normalised] at hn'
    obtain rfl := Option.some.inj (hn'.symm.trans hn)
    exact normalised_meaning v n'
  rw [← hsame]
  constructor
  · intro h
    exact Option.some.inj (hback.symm.trans (h _ _ hm hs))
  · rintro rfl m t hm' ht
    obtain rfl := Except.ok.inj (hm'.symm.trans hm)
    rw [hback, ← hs, ht]

/-- Both sides agree on a mutation exactly when, as far as it keeps the rules they share, neither has a rule of its own that it
breaks alone, and TypeScript keeps all of it. -/
theorem agreesOn_iff (v : IpcPendingMutation Rat) : AgreesOn v ↔
    (Agreed v → (TypeScriptRules v ↔ RustRules v) ∧ (TypeScriptRules v → DistinctBcc v)) := by
  have haccepts : ((∃ m, decodePendingMutation v = .ok m) ↔ ∃ s, rustReads v = some s) ↔
      (Agreed v → (TypeScriptRules v ↔ RustRules v)) := by
    simp only [decodePendingMutation_ok, exists_eq_right, rustReads_isSome]
    tauto
  constructor
  · rintro ⟨haccept, hmeans⟩ hv
    have hsides := haccepts.1 haccept hv
    exact ⟨hsides, fun hts => (means_iff hv hts (hsides.1 hts)).1 hmeans⟩
  · intro h
    refine ⟨haccepts.2 fun hv => (h hv).1, fun m s hm hs => ?_⟩
    obtain ⟨⟨hv, hts⟩, -⟩ := decodePendingMutation_ok.1 hm
    obtain ⟨-, hrust⟩ := (rustReads_isSome v).1 ⟨s, hs⟩
    exact (means_iff hv hts hrust).2 ((h hv).2 hts) m s hm hs

/-- A send whose sender has no name. -/
def unnamedSender : IpcPendingMutation Rat :=
  .send "m1" "a1" "2024-01-01T00:00:00Z"
    { securityMode := .plain, identityId := ⟨"a1", "i1"⟩, «from» := ⟨none, "me@example.org"⟩, replyTo := []
      «to» := [⟨none, "you@example.org"⟩], cc := [], bcc := [], subject := "", body := ⟨"", none⟩ }
    (.pending 0)

theorem unnamedSender_refused_by_one : ¬AgreesOn unnamedSender := by
  have hrust : (rustReads unnamedSender).isSome = true := by decide +kernel
  rintro ⟨haccepts, -⟩
  obtain ⟨m, hm⟩ := haccepts.2 (Option.isSome_iff_exists.1 hrust)
  exact (decodePendingMutation_ok.1 hm).1.2.2.1 rfl

end Boxplot.Ipc
