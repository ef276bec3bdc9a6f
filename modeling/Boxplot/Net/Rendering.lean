import Boxplot.Net.Mime
import Boxplot.Lib.State
/-!
# The outgoing message as header fields

A message that `build_message` accepts is its header fields and its body, and
no field is broken over lines.
-/

namespace Boxplot.Net

open Lib

/-! ## Unbroken values -/

section
variable {s t : String}

theorem unbroken_append : Unbroken (s ++ t) ↔ Unbroken s ∧ Unbroken t := by
  simp only [Unbroken, String.toList_append, List.mem_append, not_or]
  constructor
  · rintro ⟨⟨hs, ht⟩, hs', ht'⟩
    exact ⟨⟨hs, hs'⟩, ht, ht'⟩
  · rintro ⟨⟨hs, hs'⟩, ht, ht'⟩
    exact ⟨⟨hs, ht⟩, hs', ht'⟩

theorem unbroken_of_forall {p : Char → Prop} (hr : ¬ p '\r') (hn : ¬ p '\n') (h : ∀ c ∈ s.toList, p c) : Unbroken s :=
  ⟨fun hmem => hr (h _ hmem), fun hmem => hn (h _ hmem)⟩

theorem unbroken_encode {e : Base64Engine} (hr : '\r' ∉ '=' :: e.alphabet) (hn : '\n' ∉ '=' :: e.alphabet) (l : List UInt8) :
    Unbroken (String.ofList (e.encode l)) := by
  apply unbroken_of_forall hr hn
  intro c hc
  rw [String.toList_ofList] at hc
  exact mem_encode hc

theorem unbroken_intercalate {sep : String} (hsep : Unbroken sep) {l : List String} (h : ∀ s ∈ l, Unbroken s) :
    Unbroken (String.intercalate sep l) := by
  induction l with
  | nil => exact (by decide : Unbroken "")
  | cons s rest ih =>
    have hrest := ih fun t ht => h t (List.mem_cons_of_mem s ht)
    cases rest with
    | nil =>
      rw [String.intercalate_singleton]
      exact h s List.mem_cons_self
    | cons t rest =>
      rw [String.intercalate_cons_cons, unbroken_append, unbroken_append]
      exact ⟨⟨h s List.mem_cons_self, hsep⟩, hrest⟩

theorem validateHeader_ok {u : Unit} (h : validateHeader s = .ok u) : Unbroken s := by
  unfold validateHeader at h
  split at h
  · cases h
  · rename_i hany
    simp only [List.any_eq_true, not_exists, not_and, Bool.or_eq_true, decide_eq_true_eq, not_or] at hany
    exact ⟨fun hmem => (hany _ hmem).1.1 rfl, fun hmem => (hany _ hmem).1.2 rfl⟩

theorem unbroken_encodeHeader (h : Unbroken s) : Unbroken (encodeHeader s) := by
  unfold encodeHeader
  split
  · exact h
  · rw [unbroken_append, unbroken_append]
    refine ⟨⟨by decide, unbroken_encode (by decide) (by decide) _⟩, by decide⟩

theorem unbroken_quoted (h : Unbroken s) : Unbroken (quoted s) := by
  unfold quoted
  rw [unbroken_append, unbroken_append]
  refine ⟨⟨by decide, ?_⟩, by decide⟩
  apply @unbroken_of_forall _ fun c => c ≠ '\r' ∧ c ≠ '\n'
  · simp
  · simp
  · intro c hc
    rw [String.toList_ofList, List.mem_flatMap] at hc
    obtain ⟨d, hd, hc⟩ := hc
    -- what is written of a character is backslashes, quotes and the character
    have hd' : d ≠ '\r' ∧ d ≠ '\n' := ⟨fun he => h.1 (he ▸ hd), fun he => h.2 (he ▸ hd)⟩
    split at hc
    · simp only [List.mem_cons, List.not_mem_nil, or_false, or_self] at hc
      rw [hc]
      decide
    · split at hc
      · simp only [List.mem_cons, List.not_mem_nil, or_false] at hc
        rcases hc with rfl | rfl <;> decide
      · rw [List.mem_singleton.1 hc]
        exact hd'

end

/-! ## Addresses -/

/-- The text of an address. -/
def addressText (value : NativeAddressDto) : String :=
  match value.name with
  | none => value.email
  | some name => if name.isEmpty then value.email else encodeDisplayName name ++ " <" ++ value.email ++ ">"

theorem validateAddress_ok {value : NativeAddressDto} {u : Unit} (h : validateAddress value = .ok u) :
    Unbroken value.email ∧ ∀ name, value.name = some name → Unbroken name := by
  unfold validateAddress at h
  obtain ⟨_, hemail, hrest⟩ := except_bind_eq_ok.1 h
  refine ⟨validateHeader_ok hemail, ?_⟩
  intro name hname
  rw [hname] at hrest
  split at hrest
  · cases hrest
  · exact validateHeader_ok hrest

theorem formatAddress_ok {value : NativeAddressDto} {text : String} (h : formatAddress value = .ok text) :
    text = addressText value ∧ Unbroken text := by
  unfold formatAddress at h
  obtain ⟨_, hvalid, hrest⟩ := except_bind_eq_ok.1 h
  obtain ⟨hemail, hname⟩ := validateAddress_ok hvalid
  unfold addressText
  cases hn : value.name with
  | none =>
    rw [hn] at hrest
    cases hrest
    exact ⟨rfl, hemail⟩
  | some name =>
    rw [hn] at hrest
    cases hrest
    refine ⟨rfl, ?_⟩
    split
    · exact hemail
    · have hdisplay : Unbroken (encodeDisplayName name) := by
        unfold encodeDisplayName
        split
        · exact unbroken_quoted (hname name hn)
        · exact unbroken_encodeHeader (hname name hn)
      rw [unbroken_append, unbroken_append, unbroken_append]
      exact ⟨⟨⟨hdisplay, by decide⟩, hemail⟩, by decide⟩

theorem formatAddresses_ok {values : List NativeAddressDto} {text : String} (h : formatAddresses values = .ok text) :
    text = String.intercalate ", " (values.map addressText) ∧ Unbroken text := by
  unfold formatAddresses at h
  obtain ⟨formatted, hformatted, heq⟩ := except_bind_eq_ok.1 h
  cases heq
  have htexts : formatted = values.map addressText ∧ ∀ s ∈ formatted, Unbroken s := by
    rw [mapM_eq_ok] at hformatted
    clear h
    induction hformatted with
    | nil => exact ⟨rfl, by simp⟩
    | cons hfirst _ ih =>
      obtain ⟨rfl, hunbroken⟩ := formatAddress_ok hfirst
      obtain ⟨rfl, hrest⟩ := ih
      exact ⟨rfl, List.forall_mem_cons.2 ⟨hunbroken, hrest⟩⟩
  exact ⟨by rw [htexts.1], unbroken_intercalate (by decide) htexts.2⟩

/-! ## The fields of a message -/

def encodedKey (request : NativeSmtpSubmitRequest) : String := String.ofList (urlSafeNoPad.encode (bytes request.idempotencyKey))

/-- The text of an address list. -/
def addressesText (values : List NativeAddressDto) : String := String.intercalate ", " (values.map addressText)

/-- A field for addresses, if there are any. -/
def addressField (name : String) (values : List NativeAddressDto) : List HeaderField :=
  if values.isEmpty then [] else [⟨name, addressesText values⟩]

/-- The fields that describe the body. -/
def bodyFields (encodedKey : String) : NativeSubmissionBodyDto → List HeaderField
  | .plain _ none => [⟨"Content-Type", "text/plain; charset=utf-8"⟩, ⟨"Content-Transfer-Encoding", "base64"⟩]
  | .plain _ (some _) => [⟨"Content-Type", "multipart/alternative; boundary=\"" ++ ("boxplot-" ++ encodedKey) ++ "\""⟩]
  | .boxplotE2ee _ => [⟨"Content-Type", "application/vnd.boxplot.e2ee+json"⟩, ⟨"Content-Transfer-Encoding", "base64"⟩]

def messageFields (date : String) (request : NativeSmtpSubmitRequest) : List HeaderField :=
  [⟨"From", addressText request.from⟩, ⟨"To", addressesText request.to⟩] ++ addressField "Cc" request.cc ++
    addressField "Reply-To" request.replyTo ++
    [⟨"Subject", encodeHeader request.subject⟩, ⟨"Date", date⟩, ⟨"Message-ID", messageIdOf (encodedKey request)⟩,
      ⟨"MIME-Version", "1.0"⟩] ++ bodyFields (encodedKey request) request.body

theorem addressField_lines (name : String) (values : List NativeAddressDto) : (addressField name values).map HeaderField.line =
    if values.isEmpty then [] else [name ++ ": " ++ addressesText values] := by
  unfold addressField
  split <;> rfl

theorem bodyFields_lines (key : String) (body : NativeSubmissionBodyDto) :
    (bodyFields key body).map HeaderField.line = (buildBody key body).1 := by
  unfold bodyFields
  split <;> simp [buildBody, HeaderField.line, ← String.append_assoc]

/-- The header line for a list of addresses, where it is not empty. -/
def addressHeader (name : String) (values : List NativeAddressDto) : NetResult (List String) :=
  if values.isEmpty then .ok [] else (formatAddresses values).map fun v => [name ++ v]

theorem addressHeader_ok {name : String} {values : List NativeAddressDto} {lines : List String}
    (h : addressHeader name values = .ok lines) :
    lines = (if values.isEmpty then [] else [name ++ addressesText values]) ∧ Unbroken (addressesText values) := by
  unfold addressHeader at h
  split at h
  · rename_i hempty
    cases h
    rw [List.isEmpty_iff.1 hempty]
    exact ⟨rfl, (by decide : Unbroken "")⟩
  · rename_i hempty
    cases hformat : formatAddresses values with
    | error e =>
      rw [hformat] at h
      cases h
    | ok text =>
      rw [hformat] at h
      cases h
      obtain ⟨rfl, hunbroken⟩ := formatAddresses_ok hformat
      exact ⟨by rw [if_neg hempty]; rfl, hunbroken⟩

/-- The steps of `buildMessage`, one after the other. -/
theorem buildMessage_eq (date : String) (request : NativeSmtpSubmitRequest) : buildMessage date request = (do
    validateAddress request.from
    validateAddresses (request.to ++ request.cc ++ request.bcc ++ request.replyTo)
    validateHeader request.subject
    let «from» ← formatAddress request.from
    let «to» ← formatAddresses request.to
    let cc ← addressHeader "Cc: " request.cc
    let replyTo ← addressHeader "Reply-To: " request.replyTo
    .ok ⟨bytes (String.intercalate "\r\n" (["From: " ++ «from», "To: " ++ «to»] ++ cc ++ replyTo ++
      ["Subject: " ++ encodeHeader request.subject, "Date: " ++ date, "Message-ID: " ++ messageIdOf (encodedKey request),
        "MIME-Version: 1.0"] ++ (buildBody (encodedKey request) request.body).1) ++ "\r\n\r\n" ++
          (buildBody (encodedKey request) request.body).2), messageIdOf (encodedKey request)⟩) := by
  unfold buildMessage addressHeader
  split <;> split <;> rfl

theorem unbroken_encodedKey (request : NativeSmtpSubmitRequest) : Unbroken (encodedKey request) :=
  unbroken_encode (by decide) (by decide) _

theorem unbroken_messageId (request : NativeSmtpSubmitRequest) : Unbroken (messageIdOf (encodedKey request)) := by
  unfold messageIdOf
  rw [unbroken_append, unbroken_append]
  exact ⟨⟨by decide, unbroken_encodedKey request⟩, by decide⟩

theorem addressField_unbroken {name : String} {values : List NativeAddressDto} (h : Unbroken (addressesText values)) :
    ∀ f ∈ addressField name values, Unbroken f.value := by
  unfold addressField
  split <;> simp_all

theorem bodyFields_unbroken {key : String} (hkey : Unbroken key) (body : NativeSubmissionBodyDto) :
    ∀ f ∈ bodyFields key body, Unbroken f.value := by
  have htype : Unbroken "text/plain; charset=utf-8" := by decide
  have hsealed : Unbroken "application/vnd.boxplot.e2ee+json" := by decide
  have hencoding : Unbroken "base64" := by decide
  have hboundary : Unbroken ("multipart/alternative; boundary=\"" ++ ("boxplot-" ++ key) ++ "\"") := by
    rw [unbroken_append, unbroken_append, unbroken_append]
    exact ⟨⟨by decide, by decide, hkey⟩, by decide⟩
  unfold bodyFields
  split <;> simp_all

/-- An accepted message is its fields and its body, and but for the date no field can be broken over lines. -/
theorem buildMessage_render {date : String} {request : NativeSmtpSubmitRequest} {built : BuiltMessage}
    (h : buildMessage date request = .ok built) :
    built = ⟨render (messageFields date request) (buildBody (encodedKey request) request.body).2, messageIdOf (encodedKey request)⟩ ∧
      (Unbroken date → ∀ f ∈ messageFields date request, Unbroken f.value) := by
  rw [buildMessage_eq] at h
  simp only [except_bind_eq_ok] at h
  obtain ⟨_, -, _, -, _, hsubject, «from», hfrom, «to», hto, cc, hccLines, replyTo, hreplyTo, hbuilt⟩ := h
  obtain ⟨rfl, hfrom⟩ := formatAddress_ok hfrom
  obtain ⟨rfl, hto⟩ := formatAddresses_ok hto
  obtain ⟨rfl, hcc⟩ := addressHeader_ok hccLines
  obtain ⟨rfl, hreply⟩ := addressHeader_ok hreplyTo
  have hsubject := unbroken_encodeHeader (validateHeader_ok hsubject)
  cases hbuilt
  constructor
  · unfold render messageFields
    simp only [List.map_append, addressField_lines, bodyFields_lines]
    rfl
  · intro hdate
    have hversion : Unbroken "1.0" := by decide
    unfold messageFields
    simp only [List.forall_mem_append, List.forall_mem_cons]
    exact ⟨⟨⟨⟨⟨hfrom, hto, by simp⟩, addressField_unbroken hcc⟩, addressField_unbroken hreply⟩,
      hsubject, hdate, unbroken_messageId request, hversion, by simp⟩, bodyFields_unbroken (unbroken_encodedKey request) _⟩

/-! ## The fields of a sealed message -/

/-- Without `Cc`. -/
def sealedFields (date : String) (request : NativeSmtpSubmitRequest) : List HeaderField :=
  [⟨"From", addressText request.from⟩, ⟨"To", String.intercalate ", " (request.to.map addressText)⟩] ++
    (if request.replyTo.isEmpty then [] else [⟨"Reply-To", String.intercalate ", " (request.replyTo.map addressText)⟩]) ++
    [⟨"Subject", encodeHeader request.subject⟩, ⟨"Date", date⟩, ⟨"Message-ID", messageIdOf (encodedKey request)⟩,
      ⟨"MIME-Version", "1.0"⟩, ⟨"Content-Type", "application/vnd.boxplot.e2ee+json"⟩, ⟨"Content-Transfer-Encoding", "base64"⟩]

theorem messageFields_sealed {date payload : String} {request : NativeSmtpSubmitRequest} (hcc : request.cc = [])
    (hbody : request.body = .boxplotE2ee payload) : messageFields date request = sealedFields date request := by
  simp [messageFields, sealedFields, addressField, addressesText, bodyFields, hcc, hbody]

theorem buildMessage_sealed {date payload : String} {request : NativeSmtpSubmitRequest} {built : BuiltMessage}
    (h : buildMessage date request = .ok built) (hcc : request.cc = []) (hbody : request.body = .boxplotE2ee payload)
    (hdate : Unbroken date) :
    built.message = render (sealedFields date request) (encodeBody (bytes payload)) ∧
      ∀ f ∈ sealedFields date request, Unbroken f.value := by
  obtain ⟨rfl, hunbroken⟩ := buildMessage_render h
  rw [← messageFields_sealed hcc hbody]
  exact ⟨by rw [hbody]; rfl, hunbroken hdate⟩

end Boxplot.Net
