import Mathlib
import Boxplot.Net.MimeReader
import Boxplot.Net.Rendering
/-!
# The structure of an outgoing message

A message that `build_message` accepts reads as its header fields, each once,
and a body that gives back what was to be sent.
-/

namespace Boxplot.Net

open Lib

/-! ## Fields read back -/

/-- A field as it is read. -/
def HeaderField.raw (f : HeaderField) : RawField := ⟨bytes f.name, bytes f.value⟩

/-- A name of letters and hyphens. -/
def isFieldName (name : String) : Bool :=
  bytes name ≠ [] && (bytes name).all fun b => 65 ≤ b && b ≤ 90 || 97 ≤ b && b ≤ 122 || b = 45

/-- A field that is written on one line. -/
structure HeaderField.Plain (f : HeaderField) : Prop where
  name : isFieldName f.name = true
  value : Unbroken f.value

theorem HeaderField.line_bytes (f : HeaderField) : bytes f.line = bytes f.name ++ 58 :: 32 :: bytes f.value := by
  have hcolon : bytes ": " = [58, 32] := by decide_cbv
  rw [HeaderField.line, bytes_append, bytes_append, hcolon, List.append_assoc]
  rfl

/-- What a field name does not have in it. -/
theorem fieldName_bytes {name : String} (h : isFieldName name = true) :
    bytes name ≠ [] ∧ ∀ b ∈ bytes name, b ≠ 58 ∧ b ≠ 13 ∧ b ≠ 32 ∧ b ≠ 9 := by
  obtain ⟨hne, hall⟩ := Bool.and_eq_true_iff.1 h
  refine ⟨of_decide_eq_true hne, fun b hb => ?_⟩
  have hletter := List.all_eq_true.1 hall b hb
  refine ⟨?_, ?_, ?_, ?_⟩ <;> rintro rfl <;> exact absurd hletter (by decide)

theorem HeaderField.line_ne_nil (f : HeaderField) : bytes f.line ≠ [] := by
  rw [f.line_bytes]
  simp

section
variable {f : HeaderField} (h : f.Plain)
include h

theorem HeaderField.Plain.oneLine : OneLine (bytes f.line) := by
  refine oneLine_of_notMem (.inl ?_)
  rw [f.line_bytes, List.mem_append, List.mem_cons, List.mem_cons, not_or, not_or, not_or]
  refine ⟨fun hmem => ((fieldName_bytes h.name).2 13 hmem).2.1 rfl, by decide, by decide, fun hmem => ?_⟩
  exact h.value.1 ((mem_bytes (by decide)).1 hmem)

theorem HeaderField.Plain.not_continues : continuesField (bytes f.line) = false := by
  obtain ⟨hne, hall⟩ := fieldName_bytes h.name
  obtain ⟨b, rest, hname⟩ := List.exists_cons_of_ne_nil hne
  have hb := hall b (hname ▸ List.mem_cons_self)
  rw [f.line_bytes, hname]
  simp [continuesField, isBlank, hb.2.2]

theorem HeaderField.Plain.read : fieldOfLine (bytes f.line) = some f.raw := by
  have hcolon : ∀ b ∈ bytes f.name, decide (b ≠ 58) = true := fun b hb => decide_eq_true ((fieldName_bytes h.name).2 b hb).1
  have hspan : (bytes f.line).span (· ≠ 58) = (bytes f.name, 58 :: 32 :: bytes f.value) := by
    rw [f.line_bytes, List.span_eq_takeWhile_dropWhile, List.takeWhile_append_of_pos hcolon, List.dropWhile_append_of_pos hcolon]
    simp
  rw [fieldOfLine, hspan]
  rfl

end

theorem splitLines_render {fields : List HeaderField} (hne : fields ≠ []) (h : ∀ f ∈ fields, f.Plain) (body : String) :
    splitLines (render fields body) = fields.map (bytes ·.line) ++ [] :: splitLines (bytes body) := by
  have hbreak : bytes "\r\n\r\n" = crlf ++ crlf := by decide_cbv
  rw [render, bytes_append, bytes_append, hbreak, bytes_intercalate, List.map_map, List.append_assoc, List.append_assoc,
    ← List.append_assoc, splitLines_append, splitLines_joinLines (by simpa using hne)]
  · rfl
  · intro line hline
    obtain ⟨f, hf, rfl⟩ := List.mem_map.1 hline
    exact (h f hf).oneLine

/-- The header block ends at the empty line. -/
theorem splitEntity_append {block : List (List UInt8)} (h : [] ∉ block) (body : List (List UInt8)) :
    splitEntity (block ++ [] :: body) = (block, body) := by
  have hall : ∀ line ∈ block, decide (line ≠ []) = true := fun line hline => by
    simpa using fun heq : line = [] => h (heq ▸ hline)
  rw [splitEntity, List.takeWhile_append_of_pos hall, List.dropWhile_append_of_pos hall]
  simp

theorem unfoldLines_eq {lines : List (List UInt8)} (h : ∀ line ∈ lines, continuesField line = false) : unfoldLines lines = lines := by
  induction lines with
  | nil => rfl
  | cons line rest ih =>
    have hrest := fun l hl => h l (List.mem_cons_of_mem line hl)
    have hhead : rest.head?.any continuesField = false := by
      cases rest with
      | nil => rfl
      | cons next _ => exact hrest next List.mem_cons_self
    rw [unfoldLines, hhead, ih hrest]

theorem readFields_lines {fields : List HeaderField} (h : ∀ f ∈ fields, f.Plain) :
    readFields (fields.map (bytes ·.line)) = fields.map HeaderField.raw := by
  rw [readFields, unfoldLines_eq, List.filterMap_map]
  · induction fields with
    | nil => rfl
    | cons f rest ih =>
      rw [List.filterMap_cons, Function.comp_apply, (h f List.mem_cons_self).read, ih fun g hg => h g (List.mem_cons_of_mem f hg)]
      rfl
  · intro line hline
    obtain ⟨f, hf, rfl⟩ := List.mem_map.1 hline
    exact (h f hf).not_continues

/-- An entity that was written is read as its fields and the lines of its body. -/
theorem splitEntity_render {fields : List HeaderField} (hne : fields ≠ []) (h : ∀ f ∈ fields, f.Plain) (body : String) :
    splitEntity (splitLines (render fields body)) = (fields.map (bytes ·.line), splitLines (bytes body)) := by
  rw [splitLines_render hne h, splitEntity_append]
  intro hmem
  obtain ⟨f, hf, hnil⟩ := List.mem_map.1 hmem
  exact f.line_ne_nil hnil

/-! ## Base64 bodies -/

theorem flatten_chunks {α : Type} {n fuel : Nat} (hn : 0 < n) {l : List α} (h : l.length ≤ fuel) : (chunks n fuel l).flatten = l := by
  fun_induction chunks n fuel l with
  | case1 l => rw [List.eq_nil_of_length_eq_zero (Nat.le_zero.1 h), List.flatten_nil]
  | case2 => rfl
  | case3 fuel l hl ih =>
    have hpos : 0 < l.length := List.length_pos_iff.2 hl
    rw [List.flatten_cons, ih (by rw [List.length_drop]; omega), List.take_append_drop]

theorem ascii_encode {l : List UInt8} {c : Char} (h : c ∈ standard.encode l) : c.toNat < 128 := by
  have hall : ∀ c ∈ '=' :: standard.alphabet, c.toNat < 128 := List.all_iff_forall_prop.1 (by decide)
  exact hall c (mem_encode h)

theorem bytes_ofList_ascii {l : List Char} (h : ∀ c ∈ l, c.toNat < 128) : bytes (String.ofList l) = l.map asciiByte := by
  rw [bytes_ascii (by rwa [String.toList_ofList]), String.toList_ofList]

/-- Lines that are joined and split again have the same bytes. -/
theorem flatten_splitLines {lines : List (List UInt8)} (h : ∀ line ∈ lines, OneLine line) :
    (splitLines (joinLines lines)).flatten = lines.flatten := by
  by_cases hne : lines = []
  · rw [hne]
    rfl
  · rw [splitLines_joinLines hne h]

/-- The lines of an encoded body hold its characters. -/
theorem encodeBody_lines (value : List UInt8) :
    (splitLines (bytes (encodeBody value))).flatten = (standard.encode value).map asciiByte := by
  have hchunk : ∀ chunk ∈ chunks 76 (standard.encode value).length (standard.encode value), ∀ c ∈ chunk, c ∈ standard.encode value := by
    intro chunk hmem c hc
    rw [← flatten_chunks (n := 76) (by decide) (Nat.le_refl (standard.encode value).length)]
    exact List.mem_flatten.2 ⟨chunk, hmem, hc⟩
  have hbytes : ∀ chunk ∈ chunks 76 (standard.encode value).length (standard.encode value),
      bytes (String.ofList chunk) = chunk.map asciiByte :=
    fun chunk hmem => bytes_ofList_ascii fun c hc => ascii_encode (hchunk chunk hmem c hc)
  have hmap : ((chunks 76 (standard.encode value).length (standard.encode value)).map String.ofList).map bytes =
      (chunks 76 (standard.encode value).length (standard.encode value)).map (·.map asciiByte) := by
    rw [List.map_map]
    exact List.map_congr_left hbytes
  unfold encodeBody
  rw [bytes_intercalate, flatten_splitLines, hmap, ← List.map_flatten, flatten_chunks (by decide) (Nat.le_refl _)]
  intro line hline
  obtain ⟨text, htext, rfl⟩ := List.mem_map.1 hline
  obtain ⟨chunk, hmem, rfl⟩ := List.mem_map.1 htext
  refine oneLine_bytes ?_
  rw [String.toList_ofList]
  intro hr
  exact absurd (mem_encode (hchunk chunk hmem _ hr)) (by decide)

theorem decodeBody_encodeBody (text : String) : decodeBody (splitLines (bytes (encodeBody (bytes text)))) = some text := by
  have hback : ((standard.encode (bytes text)).map asciiByte).map asciiChar = standard.encode (bytes text) := by
    have hid : ∀ c ∈ standard.encode (bytes text), (asciiChar ∘ asciiByte) c = id c :=
      fun c hc => asciiChar_asciiByte (ascii_encode hc)
    rw [List.map_map, List.map_congr_left hid, List.map_id]
  rw [decodeBody, encodeBody_lines, hback, Base64Engine.decodePadded_encode rfl standard_digit (by decide)]
  exact textOf_bytes text

/-- No line of an encoded body begins with a hyphen. -/
theorem encodeBody_head {value line : List UInt8} (h : line ∈ splitLines (bytes (encodeBody value))) : line.head? ≠ some 45 := by
  intro hhead
  have hmem : 45 ∈ (standard.encode value).map asciiByte := by
    rw [← encodeBody_lines]
    exact List.mem_flatten.2 ⟨line, h, List.mem_of_head? hhead⟩
  obtain ⟨c, hc, hbyte⟩ := List.mem_map.1 hmem
  have hall : ∀ c ∈ '=' :: standard.alphabet, asciiByte c ≠ 45 := List.all_iff_forall_prop.1 (by decide)
  exact hall c (mem_encode hc) hbyte

/-! ## Parts -/

/-- The fields of a text in base64. -/
def textFields (mediaType : String) : List HeaderField := [⟨"Content-Type", mediaType⟩, ⟨"Content-Transfer-Encoding", "base64"⟩]

theorem fieldValue_append {fields others : List HeaderField} {name : String}
    (h : ∀ f ∈ fields, sameName (bytes f.name) (bytes name) = false) :
    fieldValue ((fields ++ others).map HeaderField.raw) name = fieldValue (others.map HeaderField.raw) name := by
  have hnone : (fields.map HeaderField.raw).find? (sameName ·.name (bytes name)) = none := by
    rw [List.find?_eq_none]
    intro field hfield
    obtain ⟨f, hf, rfl⟩ := List.mem_map.1 hfield
    simpa [HeaderField.raw] using h f hf
  rw [fieldValue, List.map_append, List.find?_append, hnone]
  rfl

theorem sameName_self (name : List UInt8) : sameName name name = true := decide_eq_true rfl

theorem fieldValue_textFields (mediaType : String) :
    fieldValue ((textFields mediaType).map HeaderField.raw) "Content-Type" = some (bytes mediaType) ∧
      fieldValue ((textFields mediaType).map HeaderField.raw) "Content-Transfer-Encoding" = some (bytes "base64") := by
  have hother : sameName (bytes "Content-Type") (bytes "Content-Transfer-Encoding") = false := by decide_cbv
  simp [fieldValue, textFields, HeaderField.raw, sameName_self, hother]

/-- A text that was written is read. -/
theorem readText_encodeBody {fields : List RawField} {mediaType text : String}
    (htype : fieldValue fields "Content-Type" = some (bytes mediaType))
    (hencoding : fieldValue fields "Content-Transfer-Encoding" = some (bytes "base64")) :
    readText fields (splitLines (bytes (encodeBody (bytes text)))) = some ⟨bytes mediaType, text⟩ := by
  rw [readText, htype, hencoding]
  change (if bytes "base64" = bytes "base64" then (decodeBody _).map _ else none) = _
  rw [if_pos rfl, decodeBody_encodeBody]
  rfl

section
variable {boundary line : List UInt8}

theorem not_isPrefixOf (hboundary : boundary.head? = some 45) (hline : line.head? ≠ some 45) : boundary.isPrefixOf line = false := by
  obtain ⟨rest, rfl⟩ := List.head?_eq_some_iff.1 hboundary
  cases line with
  | nil => rfl
  | cons b line =>
    have hb : (45 == b) = false := beq_false_of_ne fun heq => hline (by rw [← heq]; rfl)
    rw [List.isPrefixOf, hb, Bool.false_and]

/-- Lines that begin with no boundary go to the part they are in. -/
theorem readParts_lines {part rest : List (List UInt8)} (hboundary : boundary.head? = some 45) (h : ∀ line ∈ part, line.head? ≠ some 45)
    {lines : List (List UInt8)} {parts : List (List (List UInt8))} (hrest : readParts boundary rest = some (lines, parts)) :
    readParts boundary (part ++ rest) = some (part ++ lines, parts) := by
  induction part with
  | nil => exact hrest
  | cons line part ih =>
    have hline := h line List.mem_cons_self
    have hclose : (boundary ++ [45, 45]).head? = some 45 := by rw [List.head?_append, hboundary]; rfl
    rw [List.cons_append, readParts, not_isPrefixOf hclose hline, not_isPrefixOf hboundary hline,
      ih fun l hl => h l (List.mem_cons_of_mem line hl)]
    rfl

theorem readParts_boundary {rest part : List (List UInt8)} {parts : List (List (List UInt8))}
    (hrest : readParts boundary rest = some (part, parts)) : readParts boundary (boundary :: rest) = some ([], part :: parts) := by
  have hclose : (boundary ++ [45, 45]).isPrefixOf boundary = false := by
    rw [Bool.eq_false_iff, Ne, List.isPrefixOf_iff_prefix]
    intro h
    have hlen := h.length_le
    simp at hlen
  have hself : boundary.isPrefixOf boundary = true := List.isPrefixOf_iff_prefix.2 (List.prefix_refl _)
  rw [readParts, hclose, hrest, hself]
  rfl

theorem readParts_close (rest : List (List UInt8)) : readParts boundary ((boundary ++ [45, 45]) :: rest) = some ([], []) := by
  rw [readParts, List.isPrefixOf_iff_prefix.2 (List.prefix_refl _), if_pos rfl]

end

/-! ## The message that is built -/

/-- The names of the fields, in order. -/
def expectedNames (request : NativeSmtpSubmitRequest) : List String :=
  ["From", "To"] ++ (if request.cc = [] then [] else ["Cc"]) ++ (if request.replyTo = [] then [] else ["Reply-To"]) ++
    ["Subject", "Date", "Message-ID", "MIME-Version", "Content-Type"] ++
    match request.body with
    | .plain _ (some _) => []
    | _ => ["Content-Transfer-Encoding"]

/-- What the request has to say. -/
def requestContent : NativeSubmissionBodyDto → Content
  | .plain text none => .single ⟨bytes "text/plain; charset=utf-8", text⟩
  | .plain text (some html) =>
    .alternative [⟨bytes "text/plain; charset=utf-8", text⟩, ⟨bytes "text/html; charset=utf-8", html⟩]
  | .boxplotE2ee payload => .single ⟨bytes "application/vnd.boxplot.e2ee+json", payload⟩

section
variable {date : String} {request : NativeSmtpSubmitRequest} {built : BuiltMessage}

theorem messageFields_names (date : String) (request : NativeSmtpSubmitRequest) :
    (messageFields date request).map (·.name) = expectedNames request := by
  unfold messageFields addressField bodyFields expectedNames
  simp only [List.isEmpty_iff]
  split <;> split <;> split <;> simp_all

theorem expectedNames_nodup (request : NativeSmtpSubmitRequest) : (expectedNames request).Nodup ∧ "Bcc" ∉ expectedNames request := by
  unfold expectedNames
  split <;> split <;> split <;> decide

/-- The names a message may have. -/
def allNames : List String :=
  ["From", "To", "Cc", "Reply-To", "Subject", "Date", "Message-ID", "MIME-Version", "Content-Type", "Content-Transfer-Encoding"]

theorem expectedNames_subset (request : NativeSmtpSubmitRequest) : expectedNames request ⊆ allNames := by
  unfold expectedNames allNames
  split <;> split <;> split <;> decide

theorem messageFields_plain (h : ∀ f ∈ messageFields date request, Unbroken f.value) : ∀ f ∈ messageFields date request, f.Plain := by
  have hall : ∀ name ∈ allNames, isFieldName name = true := by decide_cbv
  intro f hf
  refine ⟨hall _ (expectedNames_subset request ?_), h f hf⟩
  rw [← messageFields_names date]
  exact List.mem_map_of_mem hf

/-- The fields before those of the body are no content fields. -/
theorem fieldValue_messageFields {name : String} (hname : name = "Content-Type" ∨ name = "Content-Transfer-Encoding") :
    fieldValue ((messageFields date request).map HeaderField.raw) name =
      fieldValue ((bodyFields (encodedKey request) request.body).map HeaderField.raw) name := by
  have hall : ∀ n ∈ ["From", "To", "Cc", "Reply-To", "Subject", "Date", "Message-ID", "MIME-Version"],
      sameName (bytes n) (bytes "Content-Type") = false ∧ sameName (bytes n) (bytes "Content-Transfer-Encoding") = false := by
    decide_cbv
  have hnames : ∀ f ∈ [⟨"From", addressText request.from⟩, ⟨"To", addressesText request.to⟩] ++ addressField "Cc" request.cc ++
      addressField "Reply-To" request.replyTo ++ [⟨"Subject", encodeHeader request.subject⟩, ⟨"Date", date⟩,
        ⟨"Message-ID", messageIdOf (encodedKey request)⟩, ⟨"MIME-Version", "1.0"⟩],
      f.name ∈ ["From", "To", "Cc", "Reply-To", "Subject", "Date", "Message-ID", "MIME-Version"] := by
    unfold addressField
    split <;> split <;> simp
  unfold messageFields
  refine fieldValue_append fun f hf => ?_
  rcases hname with rfl | rfl
  · exact (hall _ (hnames f hf)).1
  · exact (hall _ (hnames f hf)).2

/-- The key in a boundary has no quote in it. -/
theorem quote_notMem_boundary (request : NativeSmtpSubmitRequest) : 34 ∉ bytes ("boxplot-" ++ encodedKey request) := by
  intro h
  have hmem : '"' ∈ ("boxplot-" ++ encodedKey request).toList := (mem_bytes (by decide)).1 h
  rw [String.toList_append, List.mem_append] at hmem
  rcases hmem with hmem | hmem
  · exact absurd hmem (by decide)
  · rw [encodedKey, String.toList_ofList] at hmem
    exact absurd (mem_encode hmem) (by decide)

theorem boundaryOf_multipart (request : NativeSmtpSubmitRequest) :
    boundaryOf (bytes ("multipart/alternative; boundary=\"" ++ ("boxplot-" ++ encodedKey request) ++ "\"")) =
      some (bytes ("--" ++ ("boxplot-" ++ encodedKey request))) := by
  have hquote : bytes "\"" = [34] := by decide_cbv
  have hdashes : bytes "--" = [45, 45] := by decide_cbv
  have hpos : ∀ b ∈ bytes ("boxplot-" ++ encodedKey request), decide (b ≠ 34) = true := fun b hb =>
    decide_eq_true fun heq => quote_notMem_boundary request (heq ▸ hb)
  rw [boundaryOf, bytes_append, bytes_append, List.append_assoc, List.isPrefixOf_iff_prefix.2 (List.prefix_append _ _), if_pos rfl,
    List.drop_left, List.takeWhile_append_of_pos hpos, hquote, bytes_append "--", hdashes]
  simp

/-- A type that announces no parts. -/
theorem boundaryOf_none {mediaType : String} (h : (bytes "multipart/alternative; boundary=\"").isPrefixOf (bytes mediaType) = false) :
    boundaryOf (bytes mediaType) = none := by
  rw [boundaryOf, h]
  rfl

/-- One text, without parts. -/
theorem readContent_single {fields : List RawField} {mediaType text : String}
    (hparts : (bytes "multipart/alternative; boundary=\"").isPrefixOf (bytes mediaType) = false)
    (htype : fieldValue fields "Content-Type" = some (bytes mediaType))
    (hencoding : fieldValue fields "Content-Transfer-Encoding" = some (bytes "base64")) :
    readContent fields (splitLines (bytes (encodeBody (bytes text)))) = some (.single ⟨bytes mediaType, text⟩) := by
  rw [readContent, htype, Option.bind_some, boundaryOf_none hparts, readText_encodeBody htype hencoding]
  rfl

theorem textFields_plain {mediaType : String} (h : Unbroken mediaType) : ∀ f ∈ textFields mediaType, f.Plain := by
  have htype : isFieldName "Content-Type" = true := by decide_cbv
  have hencoding : isFieldName "Content-Transfer-Encoding" = true := by decide_cbv
  unfold textFields
  simp only [List.forall_mem_cons]
  exact ⟨⟨htype, h⟩, ⟨hencoding, by decide⟩, by simp⟩

/-- No line of a part begins with a hyphen. -/
theorem part_head {mediaType : String} (h : Unbroken mediaType) {value line : List UInt8}
    (hline : line ∈ splitLines (render (textFields mediaType) (encodeBody value))) : line.head? ≠ some 45 := by
  have hfield : ∀ name ∈ ["Content-Type", "Content-Transfer-Encoding"], (bytes name).head? = some 67 := by decide_cbv
  rw [splitLines_render (by simp [textFields]) (textFields_plain h), List.mem_append, List.mem_cons] at hline
  rcases hline with hline | rfl | hline
  · obtain ⟨f, hf, rfl⟩ := List.mem_map.1 hline
    have hname : f.name ∈ ["Content-Type", "Content-Transfer-Encoding"] := by
      revert f
      simp [textFields]
    rw [f.line_bytes, List.head?_append, hfield _ hname, Option.some_or]
    decide
  · simp
  · exact encodeBody_head hline

/-- A part is read as its text. -/
theorem readPart_render {mediaType : String} (h : Unbroken mediaType) (text : String) :
    readPart (splitLines (render (textFields mediaType) (encodeBody (bytes text)))) = some ⟨bytes mediaType, text⟩ := by
  obtain ⟨htype, hencoding⟩ := fieldValue_textFields mediaType
  rw [readPart, splitEntity_render (by simp [textFields]) (textFields_plain h), readFields_lines (textFields_plain h)]
  exact readText_encodeBody htype hencoding

/-- Two parts between boundaries. -/
theorem buildBody_alternative (key text html : String) : bytes (buildBody key (.plain text (some html))).2 =
    bytes ("--" ++ ("boxplot-" ++ key)) ++ crlf ++ (render (textFields "text/plain; charset=utf-8") (encodeBody (bytes text)) ++ crlf ++
      (bytes ("--" ++ ("boxplot-" ++ key)) ++ crlf ++ (render (textFields "text/html; charset=utf-8") (encodeBody (bytes html)) ++ crlf ++
        (bytes ("--" ++ ("boxplot-" ++ key)) ++ [45, 45])))) := by
  have hplain : "\r\nContent-Type: text/plain; charset=utf-8\r\nContent-Transfer-Encoding: base64\r\n\r\n" =
      "\r\n" ++ (String.intercalate "\r\n" ((textFields "text/plain; charset=utf-8").map HeaderField.line) ++ "\r\n\r\n") := by
    decide
  have hhtml : "\r\nContent-Type: text/html; charset=utf-8\r\nContent-Transfer-Encoding: base64\r\n\r\n" =
      "\r\n" ++ (String.intercalate "\r\n" ((textFields "text/html; charset=utf-8").map HeaderField.line) ++ "\r\n\r\n") := by
    decide
  have hbreak : "\r\n--" = "\r\n" ++ "--" := by decide
  have hdashes : bytes "--" = [45, 45] := by decide_cbv
  rw [buildBody, hplain, hhtml, hbreak]
  simp only [render, bytes_append, bytes_crlf, hdashes, List.append_assoc]

/-- Both texts are read from between their boundaries. -/
theorem readContent_alternative {fields : List RawField} {key text html : String} {boundary : List UInt8}
    (hboundary : (fieldValue fields "Content-Type").bind boundaryOf = some boundary)
    (heq : boundary = bytes ("--" ++ ("boxplot-" ++ key))) (hkey : Unbroken key) :
    readContent fields (splitLines (bytes (buildBody key (.plain text (some html))).2)) =
      some (.alternative [⟨bytes "text/plain; charset=utf-8", text⟩, ⟨bytes "text/html; charset=utf-8", html⟩]) := by
  have hplain : Unbroken "text/plain; charset=utf-8" := by decide
  have hhtml : Unbroken "text/html; charset=utf-8" := by decide
  have hunbroken : Unbroken ("--" ++ ("boxplot-" ++ key)) := by
    rw [unbroken_append, unbroken_append]
    exact ⟨by decide, by decide, hkey⟩
  have hdelimiter : OneLine boundary := heq ▸ oneLine_bytes hunbroken.1
  have hhead : boundary.head? = some 45 := by
    rw [heq, bytes_append, List.head?_append, show (bytes "--").head? = some 45 by decide_cbv]
    rfl
  have hclose : OneLine (boundary ++ [45, 45]) := by
    refine oneLine_of_notMem (.inl ?_)
    rw [heq, List.mem_append, not_or]
    exact ⟨fun h => hunbroken.1 ((mem_bytes (by decide)).1 h), by decide⟩
  have hplainPart : ∀ line ∈ splitLines (render (textFields "text/plain; charset=utf-8") (encodeBody (bytes text))), line.head? ≠ some 45 :=
    fun _ => part_head hplain
  have hhtmlPart : ∀ line ∈ splitLines (render (textFields "text/html; charset=utf-8") (encodeBody (bytes html))), line.head? ≠ some 45 :=
    fun _ => part_head hhtml
  have hparts := readParts_boundary (readParts_lines hhead hplainPart
    (readParts_boundary (readParts_lines hhead hhtmlPart (readParts_close []))))
  rw [buildBody_alternative, ← heq, hdelimiter.split, splitLines_append, hdelimiter.split, splitLines_append, hclose, readContent,
    hboundary]
  simp only [hparts, List.append_nil]
  change Option.map _ (List.mapM readPart [_, _]) = _
  simp only [List.mapM_cons, List.mapM_nil, readPart_render hplain, readPart_render hhtml]
  rfl

/-- The content is read back from the fields and the body that were written. -/
theorem readContent_messageFields (date : String) (request : NativeSmtpSubmitRequest) :
    readContent ((messageFields date request).map HeaderField.raw)
      (splitLines (bytes (buildBody (encodedKey request) request.body).2)) = some (requestContent request.body) := by
  have htype : fieldValue ((messageFields date request).map HeaderField.raw) "Content-Type" = _ := fieldValue_messageFields (.inl rfl)
  have hencoding : fieldValue ((messageFields date request).map HeaderField.raw) "Content-Transfer-Encoding" = _ :=
    fieldValue_messageFields (.inr rfl)
  cases hbody : request.body with
  | plain text html =>
    cases html with
    | none =>
      rw [hbody] at htype hencoding
      exact readContent_single (by decide_cbv) (htype.trans (fieldValue_textFields _).1)
        (hencoding.trans (fieldValue_textFields _).2)
    | some html =>
      refine readContent_alternative ?_ rfl (unbroken_encodedKey request)
      rw [htype, hbody]
      simp [fieldValue, bodyFields, HeaderField.raw, sameName_self, boundaryOf_multipart]
  | boxplotE2ee payload =>
    rw [hbody] at htype hencoding
    exact readContent_single (by decide_cbv) (htype.trans (fieldValue_textFields _).1)
      (hencoding.trans (fieldValue_textFields _).2)

end

/-- The message reads as the expected fields, once each, and as what was to be sent. -/
structure Structured (date : String) (request : NativeSmtpSubmitRequest) (message : List UInt8) : Prop where
  headerLines : (readMessage message).headerLines = (messageFields date request).map (bytes ·.line)
  fields : (readMessage message).fields = (messageFields date request).map HeaderField.raw
  names : (readMessage message).fields.map (·.name) = (expectedNames request).map bytes
  once : ((readMessage message).fields.map (·.name)).Pairwise fun n m => sameName n m = false
  noBcc : ∀ n ∈ (readMessage message).fields.map (·.name), sameName n (bytes "Bcc") = false
  content : (readMessage message).content = some (requestContent request.body)

theorem expectedNames_once (request : NativeSmtpSubmitRequest) :
    (expectedNames request).Pairwise fun n m => sameName (bytes n) (bytes m) = false := by
  have hall : allNames.Pairwise fun n m => sameName (bytes n) (bytes m) = false := by decide_cbv
  refine List.Pairwise.sublist ?_ hall
  unfold expectedNames allNames
  split <;> split <;> split <;> decide

theorem readMessage_render {fields : List HeaderField} (hne : fields ≠ []) (h : ∀ f ∈ fields, f.Plain) (body : String) :
    readMessage (render fields body) = ⟨fields.map (bytes ·.line), fields.map HeaderField.raw, splitLines (bytes body),
      readContent (fields.map HeaderField.raw) (splitLines (bytes body))⟩ := by
  rw [readMessage, splitEntity_render hne h]
  simp only [readFields_lines h]

theorem structured_render {date : String} {request : NativeSmtpSubmitRequest}
    (h : ∀ f ∈ messageFields date request, Unbroken f.value) :
    Structured date request (render (messageFields date request) (buildBody (encodedKey request) request.body).2) := by
  have hread := readMessage_render (by simp [messageFields]) (messageFields_plain h) (buildBody (encodedKey request) request.body).2
  have hnames : ((messageFields date request).map HeaderField.raw).map (·.name) = (expectedNames request).map bytes := by
    rw [← messageFields_names date, List.map_map, List.map_map]
    rfl
  have hbcc : ∀ name ∈ allNames, sameName (bytes name) (bytes "Bcc") = false := by decide_cbv
  have hread' : (readMessage (render (messageFields date request) (buildBody (encodedKey request) request.body).2)).fields.map
      (·.name) = (expectedNames request).map bytes := by
    rw [hread]
    exact hnames
  constructor
  · rw [hread]
  · rw [hread]
  · exact hread'
  · rw [hread', List.pairwise_map]
    exact expectedNames_once request
  · intro n hn
    rw [hread'] at hn
    obtain ⟨name, hmem, rfl⟩ := List.mem_map.1 hn
    exact hbcc name (expectedNames_subset request hmem)
  · rw [hread]
    exact readContent_messageFields date request

/-- The fields but for the date. -/
def withoutDate (fields : List RawField) : List RawField := fields.filter (¬ sameName ·.name (bytes "Date"))

theorem withoutDate_messageFields (date date' : String) (request : NativeSmtpSubmitRequest) :
    withoutDate ((messageFields date request).map HeaderField.raw) = withoutDate ((messageFields date' request).map HeaderField.raw) := by
  have hsplit (d : String) : messageFields d request =
      [⟨"From", addressText request.from⟩, ⟨"To", addressesText request.to⟩] ++ addressField "Cc" request.cc ++
        addressField "Reply-To" request.replyTo ++ [⟨"Subject", encodeHeader request.subject⟩] ++ ⟨"Date", d⟩ ::
        [⟨"Message-ID", messageIdOf (encodedKey request)⟩, ⟨"MIME-Version", "1.0"⟩] ++
          bodyFields (encodedKey request) request.body := by
    simp [messageFields]
  have hself : sameName (bytes "Date") (bytes "Date") = true := sameName_self _
  rw [hsplit date, hsplit date']
  simp only [withoutDate, List.append_assoc, List.map_append, List.filter_append, List.map_cons, List.cons_append, List.filter_cons,
    HeaderField.raw, hself, not_true_eq_false, decide_false, Bool.false_eq_true, if_false]

/-- Whatever the request holds, an accepted message has exactly the expected fields and says what it is to say; with other
blind copies, at another time, it is the same but for its date. -/
theorem message_structured {date : String} {request : NativeSmtpSubmitRequest} {built : BuiltMessage} (hdate : Unbroken date)
    (h : buildMessage date request = .ok built) :
    Structured date request built.message ∧
      ∀ date' bcc' built', Unbroken date' → buildMessage date' { request with bcc := bcc' } = .ok built' →
        withoutDate (readMessage built'.message).fields = withoutDate (readMessage built.message).fields ∧
          (readMessage built'.message).body = (readMessage built.message).body ∧ (date' = date → built' = built) := by
  obtain ⟨rfl, hunbroken⟩ := buildMessage_render h
  refine ⟨structured_render (hunbroken hdate), ?_⟩
  intro date' bcc' built' hdate' h'
  obtain ⟨rfl, hunbroken'⟩ := buildMessage_render h'
  have hread := readMessage_render (by simp [messageFields]) (messageFields_plain (hunbroken hdate))
    (buildBody (encodedKey request) request.body).2
  have hread' := readMessage_render (by simp [messageFields]) (messageFields_plain (hunbroken' hdate'))
    (buildBody (encodedKey request) request.body).2
  refine ⟨?_, ?_, ?_⟩
  · simp only [hread]
    refine (congrArg (fun m => withoutDate m.fields) hread').trans ?_
    exact withoutDate_messageFields date' date request
  · simp only [hread]
    exact congrArg (·.body) hread'
  · rintro rfl
    rfl

/-- A letter with two texts, a copy and a blind copy. -/
def letter : NativeSmtpSubmitRequest where
  sessionId := "s"
  «from» := ⟨some "Álice", "a@b"⟩
  «to» := [⟨none, "c@d"⟩]
  cc := [⟨some "Carol", "e@f"⟩]
  bcc := [⟨none, "g@h"⟩]
  replyTo := []
  subject := "Hi"
  body := .plain "Hello" (some "<p>Hello</p>")
  idempotencyKey := "k"

theorem letter_structured : ∃ built, buildMessage "Thu, 1 Jan 1970 00:00:00 +0000" letter = .ok built ∧
    Structured "Thu, 1 Jan 1970 00:00:00 +0000" letter built.message := by
  cases hbuilt : buildMessage "Thu, 1 Jan 1970 00:00:00 +0000" letter with
  | ok built => exact ⟨built, rfl, (message_structured (by decide) hbuilt).1⟩
  | error e =>
    have hok : (buildMessage "Thu, 1 Jan 1970 00:00:00 +0000" letter).isOk = true := by decide
    rw [hbuilt] at hok
    cases hok

end Boxplot.Net
