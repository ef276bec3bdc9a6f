import Boxplot.Net.MessageIdHeader
import Boxplot.Net.MimeStructure
import Boxplot.Remote.ImapReconciler
/-!
# The message id of a send

The message that is built, the reconciler and the search that reads the header
back mean the same message id, and no two sends share one.
-/

namespace Boxplot.Remote

open Lib Net

variable {date : String} {request : NativeSmtpSubmitRequest} {built : BuiltMessage}

/-! ## The header that is read back -/

/-- The header of a message, up to the empty line. -/
def headerBlock (message : List UInt8) : List UInt8 := joinLines (headerLines message) ++ crlf ++ crlf

/-- The part of it that `BODY.PEEK[HEADER.FIELDS (MESSAGE-ID)]` asks for. No field is folded. -/
def messageIdBlock (message : List UInt8) : List UInt8 := joinLines ((headerLines message).filter isMessageIdLine) ++ crlf ++ crlf

theorem isMessageIdLine_line {f : HeaderField} (h : f.Plain) : isMessageIdLine (bytes f.line) = sameName (bytes f.name) messageIdName := by
  rw [isMessageIdLine, h.read]
  rfl

theorem headerLines_render {fields : List HeaderField} (hne : fields ≠ []) (h : ∀ f ∈ fields, f.Plain) (body : String) :
    headerLines (render fields body) = fields.map (bytes ·.line) := by
  have hnil : [] ∉ fields.map (bytes ·.line) := fun hmem => by
    obtain ⟨f, -, hf⟩ := List.mem_map.1 hmem
    exact f.line_ne_nil hf
  have hsplit := splitEntity_append hnil (splitLines (bytes body))
  rw [← splitLines_render hne h] at hsplit
  exact congrArg Prod.fst hsplit

/-- Fields of which only one is a message id, with this value. -/
structure OneId (fields : List HeaderField) (value : String) : Prop where
  plain : ∀ f ∈ fields, f.Plain
  split : ∃ before after, fields = before ++ ⟨"Message-ID", value⟩ :: after ∧
    ∀ f ∈ before ++ after, isMessageIdLine (bytes f.line) = false

variable {fields : List HeaderField} {value : String}

theorem messageId_line (value : String) :
    bytes (HeaderField.line ⟨"Message-ID", value⟩) = messageIdName ++ 58 :: 32 :: bytes value := HeaderField.line_bytes _

theorem OneId.lines (h : OneId fields value) (body : String) : ∃ before after,
    headerLines (render fields body) = before ++ (messageIdName ++ 58 :: 32 :: bytes value) :: after ∧
      (∀ line ∈ before ++ after, isMessageIdLine line = false) ∧ ∀ line ∈ after, continuesField line = false := by
  obtain ⟨before, after, rfl, hothers⟩ := h.split
  refine ⟨before.map (bytes ·.line), after.map (bytes ·.line), ?_, ?_, ?_⟩
  · rw [headerLines_render (by simp) h.plain, List.map_append, List.map_cons, messageId_line]
  · rw [← List.map_append, List.forall_mem_map]
    exact hothers
  · rw [List.forall_mem_map]
    exact fun f hf => (h.plain f (List.mem_append_right _ (List.mem_cons_of_mem _ hf))).not_continues

/-- The one field is found, whatever follows the header. -/
theorem OneId.found (h : OneId fields value) (body : String) : exactMessageIdHeader (render fields body) = .ok (some value) := by
  obtain ⟨before, after, hlines, hothers, -⟩ := h.lines body
  exact (exactMessageIdHeader_onlyLine ⟨before, messageIdName, after, hlines, by decide_cbv, by decide_cbv, hothers⟩).2 ⟨_, rfl⟩

theorem OneId.messageIds (h : OneId fields value) (body : String) : messageIds (render fields body) = [bytes value] := by
  obtain ⟨before, after, hlines, hothers, hcontinues⟩ := h.lines body
  rw [List.forall_mem_append] at hothers
  have hline : messageIdOfLine (messageIdName ++ 58 :: 32 :: bytes value) = some (bytes value) :=
    messageIdOfLine_eq_some.2 ⟨messageIdName, by decide_cbv, rfl, by decide_cbv⟩
  have hnone : continuation after = [] := by
    refine (continues_iff after).1 ?_
    cases after with
    | nil => rfl
    | cons line rest => exact hcontinues line List.mem_cons_self
  rw [messageIds_eq, hlines, idsOf_single hothers.1 hothers.2 hline, hnone, List.append_nil]

/-- The header alone is the message without a body. -/
theorem OneId.headerBlock (h : OneId fields value) (body : String) : headerBlock (render fields body) = render fields "" := by
  have hne : fields ≠ [] := by
    obtain ⟨before, after, rfl, -⟩ := h.split
    simp
  have hbreak : bytes "\r\n\r\n" = crlf ++ crlf := by decide_cbv
  rw [Remote.headerBlock, headerLines_render hne h.plain, render, String.append_empty, bytes_append, hbreak, bytes_intercalate,
    List.map_map, List.append_assoc]
  rfl

/-- What is asked for is the field. -/
theorem OneId.messageIdBlock (h : OneId fields value) (body : String) :
    messageIdBlock (render fields body) = render [⟨"Message-ID", value⟩] "" := by
  obtain ⟨before, after, hlines, hothers, -⟩ := h.lines body
  rw [List.forall_mem_append] at hothers
  have hline : isMessageIdLine (messageIdName ++ 58 :: 32 :: bytes value) = true :=
    isMessageIdLine_iff.2 ⟨messageIdName, _, by decide_cbv, rfl, by decide_cbv⟩
  have hbreak : bytes "\r\n\r\n" = crlf ++ crlf := by decide_cbv
  rw [Remote.messageIdBlock, hlines, List.filter_append, List.filter_cons_of_pos hline, List.filter_eq_nil_iff.2 (by simpa using hothers.1),
    List.filter_eq_nil_iff.2 (by simpa using hothers.2), render, String.append_empty, bytes_append, hbreak, bytes_intercalate,
    List.map_map, List.append_assoc, ← messageId_line]
  rfl

theorem OneId.alone (h : OneId fields value) : OneId [⟨"Message-ID", value⟩] value := by
  obtain ⟨before, after, rfl, -⟩ := h.split
  refine ⟨fun f hf => h.plain f ?_, [], [], rfl, nofun⟩
  rw [List.mem_singleton.1 hf]
  exact List.mem_append_right before List.mem_cons_self

/-! ## The message that is built -/

theorem messageFields_oneId (h : ∀ f ∈ messageFields date request, Unbroken f.value) :
    OneId (messageFields date request) (messageIdOf (encodedKey request)) := by
  have hplain := messageFields_plain h
  have hother : ∀ name ∈ Net.allNames, name ≠ "Message-ID" → sameName (bytes name) messageIdName = false := by decide_cbv
  obtain ⟨before, after, hsplit⟩ := List.append_of_mem
    (show ⟨"Message-ID", messageIdOf (encodedKey request)⟩ ∈ messageFields date request by simp [messageFields])
  refine ⟨hplain, before, after, hsplit, fun f hf => ?_⟩
  have hmem : f ∈ messageFields date request := by
    rw [hsplit]
    exact (List.mem_append.1 hf).elim (List.mem_append_left _) fun hf => List.mem_append_right _ (List.mem_cons_of_mem _ hf)
  have hname : f.name ∈ expectedNames request := messageFields_names date request ▸ List.mem_map_of_mem hmem
  have hnodup := (expectedNames_nodup request).1
  rw [← messageFields_names date, hsplit, List.map_append, List.map_cons, List.nodup_middle, ← List.map_append, List.nodup_cons] at hnodup
  rw [isMessageIdLine_line (hplain f hmem), hother f.name (expectedNames_subset request hname)]
  exact fun heq => hnodup.1 (List.mem_map.2 ⟨f, hf, heq⟩)

theorem smtpMessageId_injective : Function.Injective smtpMessageId := by
  intro key key' h
  rw [smtpMessageId_eq, smtpMessageId_eq, String.append_left_inj, String.append_right_inj] at h
  exact encode_injective h

/-- The message has the id that the reconciler computes, and no other. It is what the search reads of the message, of its header
and of the field it asks for. No two keys share one. -/
theorem message_id_agrees (hdate : Unbroken date) (h : buildMessage date request = .ok built) :
    built.messageId = smtpMessageId request.idempotencyKey ∧
      messageIds built.message = [bytes (smtpMessageId request.idempotencyKey)] ∧
      (∀ block ∈ [built.message, headerBlock built.message, messageIdBlock built.message],
        exactMessageIdHeader block = .ok (some (smtpMessageId request.idempotencyKey))) ∧
      Function.Injective smtpMessageId := by
  obtain ⟨rfl, hunbroken⟩ := buildMessage_render h
  have hid : smtpMessageId request.idempotencyKey = messageIdOf (encodedKey request) := smtpMessageId_eq _
  have hone := messageFields_oneId (hunbroken hdate)
  refine ⟨hid.symm, ?_, ?_, smtpMessageId_injective⟩
  · rw [hid]
    exact hone.messageIds _
  · simp only [List.forall_mem_cons, hid, hone.headerBlock, hone.messageIdBlock]
    exact ⟨hone.found _, hone.found "", hone.alone.found "", nofun⟩

theorem message_id_agrees_letter : ∃ built, buildMessage "Thu, 1 Jan 1970 00:00:00 +0000" letter = .ok built ∧
    built.messageId = smtpMessageId "k" := by
  cases hbuilt : buildMessage "Thu, 1 Jan 1970 00:00:00 +0000" letter with
  | ok built => exact ⟨built, rfl, (message_id_agrees (by decide) hbuilt).1⟩
  | error e =>
    have hok : (buildMessage "Thu, 1 Jan 1970 00:00:00 +0000" letter).isOk = true := by decide
    rw [hbuilt] at hok
    cases hok

end Boxplot.Remote
