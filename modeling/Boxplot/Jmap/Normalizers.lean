import Mathlib.Tactic
/-!
# Bodies and attachments

`extractEmailBody` and `extractAttachments` of `src/jmap/normalizers`. Each walks
the body structure of a message by itself: one takes the first usable text of a
type, the other every part that is a file.
-/

namespace Boxplot.Jmap

/-! ## What the server answers -/

/-- A property that is missing or null is `none`, and no parts are the empty list. -/
structure RawJmapEmailBodyPart where
  partId : Option String
  blobId : Option String
  size : Option Nat
  name : Option String
  type : String
  disposition : Option String
  cid : Option String
  subParts : List RawJmapEmailBodyPart

/-- A value that is not a string is `none`. -/
structure RawJmapEmailBodyValue where
  value : Option String
  isEncodingProblem : Bool
  isTruncated : Bool
  deriving DecidableEq, Repr

/-- Each part's value, under the part's id once. -/
abbrev BodyValues := List (String × RawJmapEmailBodyValue)

/-- A string that counts as true. -/
def truthy (s : Option String) : Option String := s.filter (· ≠ "")

/-! ## The walks -/

section

variable {β : Type}

mutual

/-- A walk pushes something for each part, and then walks through its parts. -/
def walk (push : RawJmapEmailBodyPart → List β) : RawJmapEmailBodyPart → List β
  | ⟨partId, blobId, size, name, type, disposition, cid, subParts⟩ =>
    push ⟨partId, blobId, size, name, type, disposition, cid, subParts⟩ ++ walkAll push subParts

def walkAll (push : RawJmapEmailBodyPart → List β) : List RawJmapEmailBodyPart → List β
  | [] => []
  | part :: rest => walk push part ++ walkAll push rest

end

end

/-- The parts of a structure, each before its parts. -/
def nodes (bodyStructure : RawJmapEmailBodyPart) : List RawJmapEmailBodyPart := walk (fun part => [part]) bodyStructure

mutual

theorem walk_eq {β : Type} (push : RawJmapEmailBodyPart → List β) : ∀ part, walk push part = (nodes part).flatMap push
  | ⟨partId, blobId, size, name, type, disposition, cid, subParts⟩ => by
    rw [nodes, walk, walk, List.flatMap_append, List.flatMap_singleton, walkAll_eq push subParts]

theorem walkAll_eq {β : Type} (push : RawJmapEmailBodyPart → List β) :
    ∀ parts, walkAll push parts = (walkAll (fun part => [part]) parts).flatMap push
  | [] => rfl
  | part :: rest => by
    rw [walkAll, walkAll, List.flatMap_append, walk_eq push part, walkAll_eq push rest]
    rfl

end

/-! ## Bodies -/

structure JmapEmailBody where
  emailId : String
  html : Option String
  text : Option String
  deriving DecidableEq, Repr

def findPartIdsByType (part : RawJmapEmailBodyPart) (type : String) : List String :=
  walk (fun part => if part.type = type then (truthy part.partId).toList else []) part

/-- What was in the way of a body. -/
structure Problems where
  hasEncodingProblem : Bool
  hasTruncation : Bool
  deriving DecidableEq, Repr

def extractFromPartId (bodyValues : BodyValues) (partId : String) (problems : Problems) : Option String × Problems :=
  match bodyValues.lookup partId with
  | none => (none, problems)
  | some valueData =>
    if valueData.isEncodingProblem then (none, { problems with hasEncodingProblem := true })
    else if valueData.isTruncated then (none, { problems with hasTruncation := true })
    else match valueData.value with
      | none => (none, problems)
      | some value => if value.length = 0 then (none, problems) else (some value, problems)

/-- The loop over the parts of a type. -/
def firstContent (bodyValues : BodyValues) : List String → Problems → Option String × Problems
  | [], problems => (none, problems)
  | pid :: rest, problems =>
    match extractFromPartId bodyValues pid problems with
    | (some value, problems) => (some value, problems)
    | (none, problems) => firstContent bodyValues rest problems

def bodyWarning (emailId : String) (problems : Problems) : String :=
  "[body-normalizer] Email " ++ emailId ++ ": body extraction failed (encodingProblem=" ++ toString problems.hasEncodingProblem ++
    ", truncated=" ++ toString problems.hasTruncation ++ "). No EmailBody produced per D-09."

/-- The body, and what is written to the console. -/
def extractEmailBody (emailId : String) (bodyStructure : RawJmapEmailBodyPart) (bodyValues : BodyValues) :
    Option JmapEmailBody × Option String :=
  let htmlPartIds := findPartIdsByType bodyStructure "text/html"
  let textPartIds := findPartIdsByType bodyStructure "text/plain"
  let (html, problems) := firstContent bodyValues htmlPartIds ⟨false, false⟩
  let (text, problems) := firstContent bodyValues textPartIds problems
  if html = none ∧ text = none then
    (none, if problems.hasEncodingProblem || problems.hasTruncation then some (bodyWarning emailId problems) else none)
  else (some ⟨emailId, html, text⟩, none)

/-! ## Attachments -/

structure JmapAttachment where
  blobId : String
  partId : Option String
  name : Option String
  mediaType : String
  size : Nat
  cid : Option String
  disposition : Option String
  deriving DecidableEq, Repr

def attachmentOf (part : RawJmapEmailBodyPart) : Option JmapAttachment :=
  let isAttachmentDisposition := part.disposition = some "attachment"
  let isInlineDisposition := part.disposition = some "inline" ∨ (truthy part.cid).isSome
  let isMainBody := part.type = "text/html" ∨ part.type = "text/plain"
  (truthy part.blobId).bind fun blobId =>
    if isAttachmentDisposition ∨ isInlineDisposition ∨ ¬isMainBody then
      some ⟨blobId, part.partId, part.name, part.type, part.size.getD 0, part.cid, part.disposition⟩
    else none

def extractAttachments (bodyStructure : RawJmapEmailBodyPart) : List JmapAttachment :=
  walk (fun part => (attachmentOf part).toList) bodyStructure

theorem extractAttachments_eq (bodyStructure : RawJmapEmailBodyPart) :
    extractAttachments bodyStructure = (nodes bodyStructure).filterMap attachmentOf := by
  rw [extractAttachments, walk_eq, List.filterMap_eq_flatMap_toList]

theorem attachmentOf_eq_none {part : RawJmapEmailBodyPart} (htype : part.type = "text/html" ∨ part.type = "text/plain") :
    attachmentOf part = none ↔ ((truthy part.blobId).isSome →
      part.disposition ≠ some "attachment" ∧ part.disposition ≠ some "inline" ∧ (truthy part.cid).isSome = false) := by
  unfold attachmentOf
  cases truthy part.blobId with
  | none => simp
  | some blobId =>
    simp only [Option.bind_some, htype, not_true_eq_false, or_false, ite_eq_right_iff, reduceCtorEq, imp_false, not_or,
      Option.isSome_some, true_implies, Bool.not_eq_true]

theorem attachmentOf_file {part : RawJmapEmailBodyPart} (hblob : (truthy part.blobId).isSome) (htype : part.type ≠ "text/plain")
    (htype' : part.type ≠ "text/html") : ∃ attachment, attachmentOf part = some attachment := by
  obtain ⟨blobId, hblobId⟩ := Option.isSome_iff_exists.1 hblob
  unfold attachmentOf
  rw [hblobId, Option.bind_some, if_pos (Or.inr (Or.inr fun hmain => hmain.elim htype' htype))]
  exact ⟨_, rfl⟩

/-! ## The content of a part -/

/-- What a part's id stands for, if it is complete and not empty. -/
def contentOf (bodyValues : BodyValues) (partId : String) : Option String := (extractFromPartId bodyValues partId ⟨false, false⟩).1

theorem extractFromPartId_content (bodyValues : BodyValues) (partId : String) (problems : Problems) :
    (extractFromPartId bodyValues partId problems).1 = contentOf bodyValues partId := by
  unfold contentOf extractFromPartId
  split
  · rfl
  · split
    · rfl
    · split
      · rfl
      · split
        · rfl
        · split <;> rfl

theorem contentOf_eq_some {bodyValues : BodyValues} {partId content : String} (h : contentOf bodyValues partId = some content) :
    ∃ valueData, bodyValues.lookup partId = some valueData ∧ valueData.value = some content ∧
      valueData.isEncodingProblem = false ∧ valueData.isTruncated = false := by
  unfold contentOf extractFromPartId at h
  split at h
  · cases h
  · rename_i valueData hlookup
    split at h
    · cases h
    · rename_i hencoding
      split at h
      · cases h
      · rename_i htruncated
        split at h
        · cases h
        · rename_i value hvalue
          split at h
          · cases h
          · cases h
            exact ⟨valueData, hlookup, hvalue, Bool.eq_false_iff.2 hencoding, Bool.eq_false_iff.2 htruncated⟩

theorem firstContent_eq (bodyValues : BodyValues) (ids : List String) (problems : Problems) :
    (firstContent bodyValues ids problems).1 = ids.findSome? (contentOf bodyValues) := by
  induction ids generalizing problems with
  | nil => rfl
  | cons pid rest ih =>
    have hcontent := extractFromPartId_content bodyValues pid problems
    unfold firstContent
    rw [List.findSome?_cons, ← hcontent]
    split
    · rename_i h
      rw [h]
    · rename_i h
      rw [h]
      exact ih _

def RawJmapEmailBodyPart.content (bodyValues : BodyValues) (part : RawJmapEmailBodyPart) : Option String :=
  (truthy part.partId).bind (contentOf bodyValues)

/-- The part whose content is used for a type: the first one with any. -/
def usedPart (bodyValues : BodyValues) (type : String) (bodyStructure : RawJmapEmailBodyPart) : Option RawJmapEmailBodyPart :=
  (nodes bodyStructure).find? fun part => part.type = type ∧ (part.content bodyValues).isSome

theorem findSome_partIds (bodyValues : BodyValues) (type : String) (parts : List RawJmapEmailBodyPart) :
    (parts.flatMap fun part => if part.type = type then (truthy part.partId).toList else []).findSome? (contentOf bodyValues) =
      (parts.find? fun part => part.type = type ∧ (part.content bodyValues).isSome).bind (·.content bodyValues) := by
  induction parts with
  | nil => rfl
  | cons part rest ih =>
    rw [List.flatMap_cons, List.findSome?_append, ih, List.find?_cons]
    by_cases htype : part.type = type
    · cases hcontent : part.content bodyValues with
      | none =>
        have hnone : ((truthy part.partId).toList).findSome? (contentOf bodyValues) = none := by
          unfold RawJmapEmailBodyPart.content at hcontent
          cases hid : truthy part.partId with
          | none => rfl
          | some partId =>
            rw [hid, Option.bind_some] at hcontent
            simp [hcontent]
        simp [htype, hnone]
      | some content =>
        have hsome : ((truthy part.partId).toList).findSome? (contentOf bodyValues) = some content := by
          unfold RawJmapEmailBodyPart.content at hcontent
          obtain ⟨partId, hid, hcontent⟩ := Option.bind_eq_some_iff.1 hcontent
          simp [hid, hcontent]
        simp [htype, hsome, hcontent]
    · simp [htype]

theorem firstContent_usedPart (bodyValues : BodyValues) (type : String) (bodyStructure : RawJmapEmailBodyPart) (problems : Problems) :
    (firstContent bodyValues (findPartIdsByType bodyStructure type) problems).1 =
      (usedPart bodyValues type bodyStructure).bind (·.content bodyValues) := by
  rw [firstContent_eq, findPartIdsByType, walk_eq, findSome_partIds, usedPart]

/-! ## Both walks on one message -/

def mainTypes : List String := ["text/html", "text/plain"]

/-- A body is made of the content of the used parts. -/
theorem extractEmailBody_eq_some {emailId : String} {bodyStructure : RawJmapEmailBodyPart} {bodyValues : BodyValues}
    {body : JmapEmailBody} (h : (extractEmailBody emailId bodyStructure bodyValues).1 = some body) :
    body.html = (usedPart bodyValues "text/html" bodyStructure).bind (·.content bodyValues) ∧
      body.text = (usedPart bodyValues "text/plain" bodyStructure).bind (·.content bodyValues) := by
  unfold extractEmailBody at h
  simp only at h
  split at h
  · cases h
  · cases h
    exact ⟨firstContent_usedPart .., firstContent_usedPart ..⟩

/-- The content of a part is the whole of its value. -/
theorem content_eq_some {bodyValues : BodyValues} {part : RawJmapEmailBodyPart} {content : String}
    (h : part.content bodyValues = some content) : ∃ partId valueData, part.partId = some partId ∧
      bodyValues.lookup partId = some valueData ∧ valueData.value = some content ∧
      valueData.isEncodingProblem = false ∧ valueData.isTruncated = false := by
  obtain ⟨partId, hid, hcontent⟩ := Option.bind_eq_some_iff.1 h
  obtain ⟨valueData, hdata⟩ := contentOf_eq_some hcontent
  exact ⟨partId, valueData, (Option.filter_eq_some_iff.1 hid).1, hdata⟩

/-- What is used as the body is neither listed nor marked as an attachment, only whole contents are used, and every
leaf that is a file is listed once, in its place. -/
structure Partitioned (emailId : String) (bodyStructure : RawJmapEmailBodyPart) (bodyValues : BodyValues) : Prop where
  apart : ∀ type ∈ mainTypes, ∀ part, usedPart bodyValues type bodyStructure = some part →
    attachmentOf part = none ∧ part.disposition ≠ some "attachment"
  whole : ∀ body content, (extractEmailBody emailId bodyStructure bodyValues).1 = some body →
    body.html = some content ∨ body.text = some content →
    ∃ type ∈ mainTypes, ∃ part partId valueData, usedPart bodyValues type bodyStructure = some part ∧ part.partId = some partId ∧
      bodyValues.lookup partId = some valueData ∧ valueData.value = some content ∧
      valueData.isEncodingProblem = false ∧ valueData.isTruncated = false
  once : ∀ before part after, nodes bodyStructure = before ++ part :: after → part.subParts = [] → (truthy part.blobId).isSome →
    part.type ≠ "text/plain" → part.type ≠ "text/html" → ∃ attachment, attachmentOf part = some attachment ∧
      extractAttachments bodyStructure = before.filterMap attachmentOf ++ attachment :: after.filterMap attachmentOf

theorem usedPart_type {bodyValues : BodyValues} {type : String} {bodyStructure part : RawJmapEmailBodyPart}
    (h : usedPart bodyValues type bodyStructure = some part) : part.type = type := by
  unfold usedPart at h
  have hfound := List.find?_some h
  exact (of_decide_eq_true hfound).1

theorem content_whole {emailId : String} {bodyStructure : RawJmapEmailBodyPart} {bodyValues : BodyValues}
    {body : JmapEmailBody} {content : String} (h : (extractEmailBody emailId bodyStructure bodyValues).1 = some body)
    (hcontent : body.html = some content ∨ body.text = some content) :
    ∃ type ∈ mainTypes, ∃ part partId valueData, usedPart bodyValues type bodyStructure = some part ∧ part.partId = some partId ∧
      bodyValues.lookup partId = some valueData ∧ valueData.value = some content ∧
      valueData.isEncodingProblem = false ∧ valueData.isTruncated = false := by
  obtain ⟨hhtml, htext⟩ := extractEmailBody_eq_some h
  rcases hcontent with hc | hc
  · rw [hhtml] at hc
    obtain ⟨part, hused, hpart⟩ := Option.bind_eq_some_iff.1 hc
    obtain ⟨partId, valueData, hdata⟩ := content_eq_some hpart
    exact ⟨"text/html", by simp [mainTypes], part, partId, valueData, hused, hdata⟩
  · rw [htext] at hc
    obtain ⟨part, hused, hpart⟩ := Option.bind_eq_some_iff.1 hc
    obtain ⟨partId, valueData, hdata⟩ := content_eq_some hpart
    exact ⟨"text/plain", by simp [mainTypes], part, partId, valueData, hused, hdata⟩

theorem listed_once {bodyStructure part : RawJmapEmailBodyPart} {before after : List RawJmapEmailBodyPart}
    (hnodes : nodes bodyStructure = before ++ part :: after) (hblob : (truthy part.blobId).isSome) (htype : part.type ≠ "text/plain")
    (htype' : part.type ≠ "text/html") : ∃ attachment, attachmentOf part = some attachment ∧
      extractAttachments bodyStructure = before.filterMap attachmentOf ++ attachment :: after.filterMap attachmentOf := by
  obtain ⟨attachment, hattachment⟩ := attachmentOf_file hblob htype htype'
  refine ⟨attachment, hattachment, ?_⟩
  rw [extractAttachments_eq, hnodes, List.filterMap_append, List.filterMap_cons_some hattachment]

/-- Body and attachments part a message exactly where neither the first usable HTML part nor the first usable plain text
is marked as an attachment or, having a blob, as inline or by a content id. -/
theorem partitioned_iff (emailId : String) (bodyStructure : RawJmapEmailBodyPart) (bodyValues : BodyValues) :
    Partitioned emailId bodyStructure bodyValues ↔ ∀ type ∈ mainTypes, ∀ part, usedPart bodyValues type bodyStructure = some part →
      part.disposition ≠ some "attachment" ∧
        ((truthy part.blobId).isSome → part.disposition ≠ some "inline" ∧ (truthy part.cid).isSome = false) := by
  have hmain : ∀ type ∈ mainTypes, ∀ part : RawJmapEmailBodyPart, part.type = type → (part.type = "text/html" ∨ part.type = "text/plain") := by
    intro type htype part heq
    simpa [mainTypes, ← heq] using htype
  constructor
  · intro h type htype part hused
    obtain ⟨hnone, hdisposition⟩ := h.apart type htype part hused
    refine ⟨hdisposition, fun hblob => ?_⟩
    exact ((attachmentOf_eq_none (hmain type htype part (usedPart_type hused))).1 hnone hblob).2
  · intro h
    refine ⟨fun type htype part hused => ?_, fun body content => content_whole, fun before part after hnodes _ => listed_once hnodes⟩
    obtain ⟨hdisposition, hfile⟩ := h type htype part hused
    refine ⟨(attachmentOf_eq_none (hmain type htype part (usedPart_type hused))).2 fun hblob => ⟨hdisposition, hfile hblob⟩, hdisposition⟩

/-! ### Attached notes -/

def attachedNotes : RawJmapEmailBodyPart where
  partId := some "2"
  blobId := some "b2"
  size := some 11
  name := some "notes.txt"
  type := "text/plain"
  disposition := some "attachment"
  cid := none
  subParts := []

/-- A picture, and a text file attached. -/
def pictureWithNotes : RawJmapEmailBodyPart where
  partId := none
  blobId := none
  size := none
  name := none
  type := "multipart/mixed"
  disposition := none
  cid := none
  subParts := [⟨some "1", some "b1", some 2048, none, "image/png", some "inline", none, []⟩, attachedNotes]

def notesValues : BodyValues := [("2", ⟨some "Buy flowers", false, false⟩)]

/-- The attached text is shown as the body, and listed. -/
theorem notes_shown_and_listed :
    (extractEmailBody "e1" pictureWithNotes notesValues).1 = some ⟨"e1", none, some "Buy flowers"⟩ ∧
      (extractAttachments pictureWithNotes).map (·.partId) = [some "1", some "2"] ∧
      ¬Partitioned "e1" pictureWithNotes notesValues := by
  have hused : usedPart notesValues "text/plain" pictureWithNotes = some attachedNotes := by rfl
  refine ⟨by rfl, by rfl, fun h => ?_⟩
  exact (h.apart "text/plain" (by simp [mainTypes]) attachedNotes hused).2 rfl

end Boxplot.Jmap
