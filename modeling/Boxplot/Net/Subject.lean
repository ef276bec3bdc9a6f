import Mathlib
import Boxplot.Lib.HeaderText
import Boxplot.Net.AddressFields
/-!
# The subject read back

What a reader of the built message takes for its subject. A subject outside ASCII
is written as one encoded word and read back where that is not too long. An ASCII
subject is written as it is, so what a reader trims or decodes in it is lost.
-/

namespace Boxplot.Net

open Lib

/-- The text of the field, as a reader that knows these character sets decodes it. -/
def readSubject (charsets : HeaderText.Charsets) (message : List UInt8) : Option String :=
  ((fieldValue (readMessage message).fields "Subject").bind textOf).map fun body =>
    String.ofList (HeaderText.decodeBody charsets body.toList)

/-- The subject has no blanks around it and no encoded word in it, or it is outside ASCII and fits an encoded word. -/
structure ReadableSubject (charsets : HeaderText.Charsets) (subject : String) : Prop where
  first : isAscii subject = true → ∀ c ∈ subject.toList.head?, HeaderText.isBlank c = false
  last : isAscii subject = true → ∀ c ∈ subject.toList.getLast?, HeaderText.isBlank c = false
  words : isAscii subject = true → ∀ word ∈ HeaderText.runs subject.toList, HeaderText.decode charsets word = none
  short : isAscii subject = false → (bytes subject).length ≤ 45

section

variable {charsets : HeaderText.Charsets} {subject : String}

theorem decodeBody_ascii (h : isAscii subject = true) :
    HeaderText.decodeBody charsets (encodeHeader subject).toList = subject.toList ↔ ReadableSubject charsets subject := by
  have hplain : encodeHeader subject = subject := if_pos h
  rw [hplain, HeaderText.decodeBody_eq_self, HeaderText.trimBlanks_eq_self]
  constructor
  · rintro ⟨⟨hfirst, hlast⟩, hwords⟩
    exact ⟨fun _ => hfirst, fun _ => hlast, fun _ => hwords, fun hascii => by simp [h] at hascii⟩
  · intro hreadable
    exact ⟨⟨hreadable.first h, hreadable.last h⟩, hreadable.words h⟩

theorem decodeBody_encoded (h : isAscii subject = false) :
    HeaderText.decodeBody charsets (encodeHeader subject).toList = subject.toList ↔ ReadableSubject charsets subject := by
  have hne : subject ≠ "" := by
    rintro rfl
    exact absurd h (by decide)
  rw [encodeHeader_toList h, HeaderText.decodeBody_encodeWord hne]
  constructor
  · intro heq
    refine ⟨fun hascii => by simp [h] at hascii, fun hascii => by simp [h] at hascii, fun hascii => by simp [h] at hascii, fun _ => ?_⟩
    by_contra hlong
    rw [if_neg hlong] at heq
    -- the word is ASCII and the subject is not
    have hascii : isAscii subject = true := isAscii_iff.2 fun c hc => isAscii_encodeWord subject c (heq ▸ hc)
    rw [h] at hascii
    cases hascii
  · intro hreadable
    rw [if_pos (hreadable.short h)]

/-- The text is read from the body where the subject is readable, and only there. -/
theorem decodeBody_encodeHeader :
    HeaderText.decodeBody charsets (encodeHeader subject).toList = subject.toList ↔ ReadableSubject charsets subject := by
  cases h : isAscii subject with
  | true => exact decodeBody_ascii h
  | false => exact decodeBody_encoded h

end

theorem valueOf_subject {date : String} {request : NativeSmtpSubmitRequest} :
    valueOf (messageFields date request) "Subject" = some (encodeHeader request.subject) := by
  have hcc : "Subject" ∉ (addressField "Cc" request.cc).map (·.name) := by
    unfold addressField
    split <;> simp
  have hreplyTo : "Subject" ∉ (addressField "Reply-To" request.replyTo).map (·.name) := by
    unfold addressField
    split <;> simp
  unfold messageFields
  simp only [List.append_assoc]
  rw [valueOf_append (by simp), valueOf_append hcc, valueOf_append hreplyTo]
  rfl

theorem readSubject_built (charsets : HeaderText.Charsets) {date : String} {request : NativeSmtpSubmitRequest} {built : BuiltMessage}
    (hdate : Unbroken date) (h : buildMessage date request = .ok built) :
    readSubject charsets built.message = some (String.ofList (HeaderText.decodeBody charsets (encodeHeader request.subject).toList)) := by
  obtain ⟨rfl, hunbroken⟩ := buildMessage_render h
  have hfield := fieldValue_render (hunbroken hdate) (by decide : "Subject" ∈ allNames) (buildBody (encodedKey request) request.body).2
  rw [readSubject, hfield, valueOf_subject, Option.map_some, Option.bind_some, textOf_bytes, Option.map_some]

/-- A reader of the built message finds the subject of the request where it is readable, and only there. -/
theorem subject_reads_back_iff (charsets : HeaderText.Charsets) {date : String} {request : NativeSmtpSubmitRequest} {built : BuiltMessage}
    (hdate : Unbroken date) (h : buildMessage date request = .ok built) :
    readSubject charsets built.message = some request.subject ↔ ReadableSubject charsets request.subject := by
  rw [readSubject_built charsets hdate h, ← decodeBody_encodeHeader, Option.some.injEq]
  constructor
  · intro heq
    have htext := congrArg String.toList heq
    rwa [String.toList_ofList] at htext
  · intro heq
    rw [heq, String.ofList_toList]

theorem built_of_isOk {date : String} {request : NativeSmtpSubmitRequest} (h : (buildMessage date request).isOk = true) :
    ∃ built, buildMessage date request = .ok built := by
  cases hbuilt : buildMessage date request with
  | ok built => exact ⟨built, rfl⟩
  | error e =>
    rw [hbuilt] at h
    cases h

def greeting : NativeSmtpSubmitRequest := { letter with subject := "Grüße aus Köln" }

theorem greeting_reads_back : ∃ built, buildMessage "Thu, 1 Jan 1970 00:00:00 +0000" greeting = .ok built ∧
    readSubject HeaderText.western built.message = some greeting.subject := by
  obtain ⟨built, hbuilt⟩ := built_of_isOk (by decide : (buildMessage "Thu, 1 Jan 1970 00:00:00 +0000" greeting).isOk = true)
  have hascii : isAscii greeting.subject = false := by decide
  have hreadable : ReadableSubject HeaderText.western greeting.subject :=
    ⟨by simp [hascii], by simp [hascii], by simp [hascii], fun _ => by decide_cbv⟩
  exact ⟨built, hbuilt, (subject_reads_back_iff HeaderText.western (by decide) hbuilt).2 hreadable⟩

/-- A subject that looks like an encoded word. -/
def lookalike : NativeSmtpSubmitRequest := { letter with subject := "=?utf-8?b?aGk=?=" }

/-- It is written as it is, and says something else. -/
theorem subject_misread : ∃ built, buildMessage "Thu, 1 Jan 1970 00:00:00 +0000" lookalike = .ok built ∧
    readSubject HeaderText.western built.message = some "hi" ∧ lookalike.subject ≠ "hi" := by
  obtain ⟨built, hbuilt⟩ := built_of_isOk (by decide : (buildMessage "Thu, 1 Jan 1970 00:00:00 +0000" lookalike).isOk = true)
  refine ⟨built, hbuilt, ?_, by decide⟩
  have hdecoded : HeaderText.decodeBody HeaderText.western (encodeHeader lookalike.subject).toList = "hi".toList := by decide_cbv
  rw [readSubject_built HeaderText.western (by decide) hbuilt, hdecoded]
  rfl

end Boxplot.Net
