import Boxplot.Lib.AddressList
import Boxplot.Lib.Quoting
import Boxplot.Net.MimeStructure
import Mathlib.Data.Bool.AllAny
/-!
# Address fields read back

What a reader of the built message finds in its address fields. It finds the
mailboxes of the request where their emails are addresses of the grammar and
their names fit an encoded word, and nowhere else.
-/

namespace Boxplot.Net

open Lib

/-! ## Reading -/

/-- The addresses in a field. Without the field there are none. -/
def readAddresses (message : List UInt8) (name : String) : Option (List Address.Entry) :=
  match fieldValue (readMessage message).fields name with
  | none => some []
  | some value => (textOf value).bind Address.parseAddresses

/-- What an address of a request names. An empty name is none. -/
def mailboxOf (value : NativeAddressDto) : Address.Mailbox := ⟨value.name.filter (· ≠ ""), value.email⟩

/-! ## Names -/

/-- The character may be in a header. -/
def IsHeaderChar (c : Char) : Prop := c ≠ '\r' ∧ c ≠ '\n' ∧ c.toNat ≠ 0

theorem validateHeader_chars {s : String} {u : Unit} (h : validateHeader s = .ok u) : ∀ c ∈ s.toList, IsHeaderChar c := by
  unfold validateHeader at h
  split at h
  · cases h
  · rename_i hany
    simp only [List.any_eq_true, not_exists, not_and, Bool.or_eq_true, decide_eq_true_eq, not_or] at hany
    exact fun c hc => ⟨(hany c hc).1.1, (hany c hc).1.2, (hany c hc).2⟩

/-- An ASCII character of a header stands in a quoted string, by itself or behind a backslash. -/
theorem isQtext_of_ascii {c : Char} (hascii : c.toNat < 128) (h : IsHeaderChar c) (hslash : c ≠ '\\') (hquote : c ≠ '"') :
    Address.isQtext c = true := by
  obtain ⟨hr, hn, hzero⟩ := h
  have hr : c.toNat ≠ 13 := fun heq => hr (by rw [← Char.ofNat_toNat c, heq])
  have hn : c.toNat ≠ 10 := fun heq => hn (by rw [← Char.ofNat_toNat c, heq])
  by_cases hspace : c = ' '
  · rw [hspace]
    decide
  · have h32 : c.toNat ≠ 32 := fun heq => hspace (by rw [← Char.ofNat_toNat c, heq])
    have hclass : Address.isPrintable c = true ∨ Address.isControl c = true := by
      simp only [Address.isPrintable, Address.isControl, Bool.and_eq_true, Bool.or_eq_true, decide_eq_true_eq]
      omega
    rcases hclass with hclass | hclass <;> simp [Address.isQtext, hclass, hslash, hquote]

/-- The characters of a quoted name. -/
def quotedText (name : String) : List Char := escape '\\' '"' name.toList

theorem quoted_toList (name : String) : (quoted name).toList = (Address.Token.quoted (quotedText name)).text := by
  have hchar : (fun c : Char => if c = '\\' then ['\\', '\\'] else if c = '"' then ['\\', '"'] else [c]) =
      fun b => if b = '\\' ∨ b = '"' then ['\\', b] else [b] := by
    funext c
    by_cases hslash : c = '\\'
    · simp [hslash]
    · by_cases hquote : c = '"' <;> simp [hslash, hquote]
  have hmark : "\"".toList = ['"'] := by decide
  have htext (l : List Char) : (String.ofList l).toList = l := String.toList_ofList
  rw [quoted, String.toList_append, String.toList_append, hchar, hmark, htext]
  rfl

theorem escaped_quotedText {l : List Char} (hascii : ∀ c ∈ l, c.toNat < 128) (h : ∀ c ∈ l, IsHeaderChar c) :
    Address.Escaped Address.isQtext Address.isAscii (escape '\\' '"' l) := by
  induction l with
  | nil => exact .nil
  | cons c l ih =>
    rw [List.forall_mem_cons] at hascii h
    rw [escape_cons]
    refine Address.Escaped.append ?_ (ih hascii.2 h.2)
    split
    · exact Address.Escaped.nil.pair (by simpa [Address.isAscii] using hascii.1)
    · rename_i hc
      rw [not_or] at hc
      exact Address.Escaped.nil.char (isQtext_of_ascii hascii.1 h.1 hc.1 hc.2)

theorem unescape_escape (l : List Char) : Address.unescape (escape '\\' '"' l) = l := by
  induction l with
  | nil => rfl
  | cons c l ih =>
    rw [escape_cons]
    split
    · rw [List.cons_append, List.cons_append, List.nil_append, Address.unescape, ih]
    · rename_i hc
      rw [List.singleton_append, Address.unescape.eq_2 _ _ fun d rest hslash _ => hc (.inl hslash), ih]

/-- What a reader takes for a name that is not empty. -/
def readName (name : String) : String :=
  if isAscii name then name else if (bytes name).length ≤ 45 then name else encodeHeader name

/-- The word that is written for a name. -/
def nameWord (name : String) : Address.Token :=
  if isAscii name then .quoted (quotedText name) else .atom (encodeWord name)

theorem isAscii_iff {name : String} : isAscii name = true ↔ ∀ c ∈ name.toList, c.toNat < 128 := by
  simp [isAscii]

theorem encodeHeader_toList {name : String} (h : isAscii name = false) : (encodeHeader name).toList = encodeWord name := by
  have htext : (String.ofList (standard.encode (bytes name))).toList = standard.encode (bytes name) := String.toList_ofList
  unfold encodeHeader encodeWord
  rw [h, if_neg Bool.false_ne_true, String.toList_append, String.toList_append, htext, List.append_assoc]

theorem encodeDisplayName_toList (name : String) : (encodeDisplayName name).toList = (nameWord name).text := by
  unfold encodeDisplayName nameWord
  split
  · exact quoted_toList name
  · rename_i hascii
    exact encodeHeader_toList (by simpa using hascii)

theorem isAtext_encodeWord (name : String) : ∀ c ∈ encodeWord name, Address.isAtext c = true := by
  have halphabet : ∀ c ∈ '=' :: standard.alphabet, Address.isAtext c = true := List.all_iff_forall_prop.1 (by decide)
  unfold encodeWord
  rw [List.forall_mem_append, List.forall_mem_append]
  exact ⟨List.all_iff_forall_prop.1 (by decide), fun c hc => halphabet c (mem_encode hc), List.all_iff_forall_prop.1 (by decide)⟩

theorem isAscii_encodeWord (name : String) : ∀ c ∈ encodeWord name, c.toNat < 128 := by
  intro c hc
  have hatext := isAtext_encodeWord name c hc
  simp only [Address.isAtext, Bool.and_eq_true, decide_eq_true_eq] at hatext
  omega

theorem nameWord_valid {name : String} (h : ∀ c ∈ name.toList, IsHeaderChar c) : (nameWord name).Valid ∧ (nameWord name).isWord = true := by
  unfold nameWord
  split
  · rename_i hascii
    exact ⟨escaped_quotedText (isAscii_iff.1 hascii) h, rfl⟩
  · have hne : encodeWord name ≠ [] := List.ne_nil_of_length_pos (by rw [length_encodeWord]; omega)
    exact ⟨⟨hne, isAtext_encodeWord name⟩, rfl⟩

theorem wordText_nameWord {name : String} (hne : name ≠ "") : Address.wordText (nameWord name) = readName name := by
  unfold nameWord readName
  split
  · rw [Address.wordText, quotedText, unescape_escape, String.ofList_toList]
  · rename_i hascii
    change (decodeWord (encodeWord name)).getD (String.ofList (encodeWord name)) = _
    rw [decodeWord_encodeWord hne]
    split
    · rfl
    · rw [← encodeHeader_toList (by simpa using hascii), String.ofList_toList]
      rfl

/-- The name is read as it is. -/
def ReadableName (name : String) : Prop := isAscii name = false → (bytes name).length ≤ 45

theorem readName_eq {name : String} : readName name = name ↔ ReadableName name := by
  unfold readName ReadableName
  split
  · rename_i hascii
    simp [hascii]
  · rename_i hascii
    have hascii : isAscii name = false := by simpa using hascii
    split
    · rename_i hshort
      exact iff_of_true rfl fun _ => hshort
    · rename_i hlong
      refine iff_of_false (fun heq => ?_) fun h => hlong (h hascii)
      -- an encoded word is ASCII, the name is not
      have hall : isAscii name = true := by
        rw [← heq, isAscii_iff, encodeHeader_toList hascii]
        exact isAscii_encodeWord name
      rw [hascii] at hall
      cases hall

/-! ## Addresses -/

theorem filter_name {name : String} (h : name ≠ "") : (some name).filter (· ≠ "") = some name := by
  rw [Option.filter_some, if_pos (decide_eq_true h)]

/-- What a reader finds for an address. -/
def readBack (value : NativeAddressDto) : Address.Mailbox := ⟨(value.name.filter (· ≠ "")).map readName, value.email⟩

theorem written_addressText {value : NativeAddressDto} (hspec : Address.AddrSpec value.email.toList)
    (hname : ∀ name, value.name = some name → ∀ c ∈ name.toList, IsHeaderChar c) :
    Address.Written (addressText value).toList (.mailbox (readBack value)) := by
  have hplain : Address.Written value.email.toList (.mailbox ⟨none, value.email⟩) := by
    have hwritten := hspec.written
    rwa [String.ofList_toList] at hwritten
  unfold addressText readBack
  cases hvalue : value.name with
  | none => exact hplain
  | some name =>
    by_cases hempty : name = ""
    · subst hempty
      exact hplain
    · have hne : name.isEmpty = false := by simpa using hempty
      have hopen : " <".toList = [' ', '<'] := by decide
      have hclose : ">".toList = ['>'] := by decide
      obtain ⟨hvalid, hword⟩ := nameWord_valid (hname name hvalue)
      have hwritten := hspec.written_named hvalid hword
      rw [wordText_nameWord hempty, String.ofList_toList] at hwritten
      simp only [hne, Bool.false_eq_true, if_false, String.toList_append, encodeDisplayName_toList, hopen, hclose, List.append_assoc,
        filter_name hempty, Option.map_some]
      exact hwritten

section
variable {values : List NativeAddressDto}

/-- The emails that a reader can find are addresses. -/
theorem addrSpec_of_parse {f : NativeAddressDto → Option String}
    (h : Address.parseAddresses (addressesText values) = some (values.map fun a => .mailbox ⟨f a, a.email⟩)) :
    ∀ a ∈ values, Address.AddrSpec a.email.toList :=
  fun _ ha => Address.parseAddresses_sound h (List.mem_map_of_mem ha)

theorem parse_addressesText (hne : values ≠ []) (hspec : ∀ a ∈ values, Address.AddrSpec a.email.toList)
    (hname : ∀ a ∈ values, ∀ name, a.name = some name → ∀ c ∈ name.toList, IsHeaderChar c) :
    Address.parseAddresses (addressesText values) = some (values.map fun a => .mailbox (readBack a)) := by
  refine Address.parseAddresses_written ?_ (by simpa using hne)
  rw [List.map_map, List.forall₂_map_left_iff, List.forall₂_map_right_iff, List.forall₂_same]
  exact fun a ha => written_addressText (hspec a ha) (hname a ha)

/-- An address as both its grammar and an encoded word have it. -/
structure Readable (value : NativeAddressDto) : Prop where
  email : Address.AddrSpec value.email.toList
  name : ∀ name, value.name = some name → ReadableName name

theorem readBack_eq {value : NativeAddressDto} : readBack value = mailboxOf value ↔ ∀ name, value.name = some name → ReadableName name := by
  unfold readBack mailboxOf
  cases value.name with
  | none => simp
  | some name =>
    by_cases hempty : name = ""
    · subst hempty
      exact iff_of_true rfl fun name hname => Option.some.inj hname ▸ readName_eq.1 rfl
    · rw [filter_name hempty, Option.map_some]
      simp [readName_eq]

/-- A list of addresses is read as it was meant where each of them is readable, and only there. -/
theorem parse_addressesText_iff (hne : values ≠ [])
    (hname : ∀ a ∈ values, ∀ name, a.name = some name → ∀ c ∈ name.toList, IsHeaderChar c) :
    Address.parseAddresses (addressesText values) = some (values.map fun a => .mailbox (mailboxOf a)) ↔ ∀ a ∈ values, Readable a := by
  constructor
  · intro h a ha
    have hspec := addrSpec_of_parse h
    rw [parse_addressesText hne hspec hname, Option.some.injEq, List.map_inj_left] at h
    exact ⟨hspec a ha, readBack_eq.1 (Address.Entry.mailbox.inj (h a ha))⟩
  · intro h
    rw [parse_addressesText hne (fun a ha => (h a ha).email) hname]
    exact congrArg some (List.map_congr_left fun a ha => congrArg _ (readBack_eq.2 (h a ha).name))

end

/-! ## The fields of the message -/

theorem fieldValue_raw {fields : List HeaderField} {name : String}
    (h : ∀ f ∈ fields, sameName (bytes f.name) (bytes name) = decide (f.name = name)) :
    fieldValue (fields.map HeaderField.raw) name = (valueOf fields name).map bytes := by
  induction fields with
  | nil => rfl
  | cons f rest ih =>
    have hf := h f List.mem_cons_self
    have ih := ih fun g hg => h g (List.mem_cons_of_mem f hg)
    unfold fieldValue valueOf at ih ⊢
    rw [List.map_cons, List.find?_cons, List.find?_cons]
    change Option.map _ (match sameName (bytes f.name) (bytes name) with | true => _ | false => _) = _
    rw [hf]
    cases hname : decide (f.name = name) with
    | true => rfl
    | false => exact ih

theorem valueOf_append {fields others : List HeaderField} {name : String} (h : name ∉ fields.map (·.name)) :
    valueOf (fields ++ others) name = valueOf others name := by
  have hnone : fields.find? (·.name = name) = none := by
    rw [List.find?_eq_none]
    intro f hf hname
    exact h (List.mem_map.2 ⟨f, hf, of_decide_eq_true hname⟩)
  rw [valueOf, List.find?_append, hnone]
  rfl

theorem valueOf_addressField {name : String} {values : List NativeAddressDto} {others : List HeaderField}
    (h : name ∉ others.map (·.name)) :
    valueOf (addressField name values ++ others) name = if values.isEmpty then none else some (addressesText values) := by
  have hothers : valueOf others name = none := by
    have happend : valueOf (others ++ []) name = valueOf [] name := valueOf_append h
    rwa [List.append_nil] at happend
  unfold addressField
  split
  · exact hothers
  · simp [valueOf]

section
variable {date : String} {request : NativeSmtpSubmitRequest}

/-- The value of a field for a list of addresses. -/
def fieldText (values : List NativeAddressDto) : Option String := if values.isEmpty then none else some (addressesText values)

theorem valueOf_to : valueOf (messageFields date request) "To" = some (addressesText request.to) := by
  simp [messageFields, valueOf]

theorem valueOf_cc : valueOf (messageFields date request) "Cc" = fieldText request.cc := by
  unfold messageFields
  simp only [List.append_assoc]
  rw [valueOf_append (by simp), valueOf_addressField]
  · rfl
  · unfold addressField bodyFields
    split <;> split <;> simp

theorem valueOf_replyTo : valueOf (messageFields date request) "Reply-To" = fieldText request.replyTo := by
  have hcc : "Reply-To" ∉ (addressField "Cc" request.cc).map (·.name) := by
    unfold addressField
    split <;> simp
  unfold messageFields
  simp only [List.append_assoc]
  rw [valueOf_append (by simp), valueOf_append hcc, valueOf_addressField]
  · rfl
  · unfold bodyFields
    split <;> simp

/-- A field of the message is read as it was written. -/
theorem fieldValue_render (h : ∀ f ∈ messageFields date request, Unbroken f.value) {name : String} (hname : name ∈ allNames)
    (body : String) : fieldValue (readMessage (render (messageFields date request) body)).fields name =
      (valueOf (messageFields date request) name).map bytes := by
  have hnames : ∀ n ∈ allNames, ∀ m ∈ allNames, sameName (bytes n) (bytes m) = decide (n = m) := by decide_cbv
  have hsame : ∀ f ∈ messageFields date request, sameName (bytes f.name) (bytes name) = decide (f.name = name) := by
    intro f hf
    refine hnames _ (expectedNames_subset request ?_) _ hname
    rw [← messageFields_names date]
    exact List.mem_map_of_mem hf
  have hread := readMessage_render (by simp [messageFields]) (messageFields_plain h) body
  rw [hread]
  exact fieldValue_raw hsame

/-- What is read from a field of the message is what its value says. -/
theorem readAddresses_render (h : ∀ f ∈ messageFields date request, Unbroken f.value) {name : String} (hname : name ∈ allNames)
    (body : String) :
    readAddresses (render (messageFields date request) body) name =
      match valueOf (messageFields date request) name with
      | none => some []
      | some value => Address.parseAddresses value := by
  rw [readAddresses, fieldValue_render h hname body]
  cases valueOf (messageFields date request) name with
  | none => rfl
  | some value =>
    change (textOf (bytes value)).bind _ = _
    rw [textOf_bytes]
    rfl

end

/-- No address list is empty. -/
theorem parse_empty : Address.parseAddresses (addressesText []) = none := by decide

/-- The characters of the names may be in a header. -/
theorem validateAddress_name {value : NativeAddressDto} {u : Unit} (h : validateAddress value = .ok u) :
    ∀ name, value.name = some name → ∀ c ∈ name.toList, IsHeaderChar c := by
  unfold validateAddress at h
  obtain ⟨_, -, hrest⟩ := except_bind_eq_ok.1 h
  intro name hname
  rw [hname] at hrest
  split at hrest
  · cases hrest
  · exact validateHeader_chars hrest

theorem validateAddresses_ok {values : List NativeAddressDto} {u : Unit} (h : validateAddresses values = .ok u) :
    ∀ a ∈ values, validateAddress a = .ok () := by
  induction values with
  | nil => simp
  | cons a rest ih =>
    unfold validateAddresses at h
    obtain ⟨_, ha, hrest⟩ := except_bind_eq_ok.1 h
    rw [List.forall_mem_cons]
    exact ⟨ha, ih hrest⟩

/-- The address fields of a built message say what the request says. -/
structure FieldsMeant (request : NativeSmtpSubmitRequest) (message : List UInt8) : Prop where
  «to» : readAddresses message "To" = some (request.to.map fun a => .mailbox (mailboxOf a))
  cc : readAddresses message "Cc" = some (request.cc.map fun a => .mailbox (mailboxOf a))
  replyTo : readAddresses message "Reply-To" = some (request.replyTo.map fun a => .mailbox (mailboxOf a))

/-- They do where there is someone to write to and every address is readable, and only there. -/
theorem fieldsMeant_iff {date : String} {request : NativeSmtpSubmitRequest} {built : BuiltMessage} (hdate : Unbroken date)
    (h : buildMessage date request = .ok built) :
    FieldsMeant request built.message ↔ request.to ≠ [] ∧ ∀ a ∈ request.to ++ request.cc ++ request.replyTo, Readable a := by
  have hvalid : ∀ a ∈ request.to ++ request.cc ++ request.bcc ++ request.replyTo, validateAddress a = .ok () := by
    rw [buildMessage_eq] at h
    obtain ⟨_, -, h⟩ := except_bind_eq_ok.1 h
    obtain ⟨_, hall, -⟩ := except_bind_eq_ok.1 h
    exact validateAddresses_ok hall
  have hname {values : List NativeAddressDto} (hsub : values ⊆ request.to ++ request.cc ++ request.bcc ++ request.replyTo) :
      ∀ a ∈ values, ∀ name, a.name = some name → ∀ c ∈ name.toList, IsHeaderChar c :=
    fun a ha => validateAddress_name (hvalid a (hsub ha))
  obtain ⟨rfl, hunbroken⟩ := buildMessage_render h
  have hread {name : String} (hmem : name ∈ allNames) := readAddresses_render (hunbroken hdate) hmem (buildBody (encodedKey request) request.body).2
  -- a field that may be absent
  have hoptional {name : String} {values : List NativeAddressDto} (hmem : name ∈ allNames)
      (hvalue : valueOf (messageFields date request) name = fieldText values)
      (hsub : values ⊆ request.to ++ request.cc ++ request.bcc ++ request.replyTo) :
      readAddresses (render (messageFields date request) (buildBody (encodedKey request) request.body).2) name =
        some (values.map fun a => .mailbox (mailboxOf a)) ↔ ∀ a ∈ values, Readable a := by
    rw [hread hmem, hvalue, fieldText]
    cases values with
    | nil => simp
    | cons a rest => exact parse_addressesText_iff (List.cons_ne_nil _ _) (hname hsub)
  have hcc := hoptional (by decide) valueOf_cc fun a ha => by simp [ha]
  have hreplyTo := hoptional (by decide) valueOf_replyTo fun a ha => by simp [ha]
  have hto : readAddresses (render (messageFields date request) (buildBody (encodedKey request) request.body).2) "To" =
      some (request.to.map fun a => .mailbox (mailboxOf a)) ↔ request.to ≠ [] ∧ ∀ a ∈ request.to, Readable a := by
    rw [hread (by decide), valueOf_to]
    by_cases hne : request.to = []
    · simp [hne, parse_empty]
    · rw [and_iff_right hne]
      exact parse_addressesText_iff hne (hname fun a ha => by simp [ha])
  constructor
  · rintro ⟨h₁, h₂, h₃⟩
    simp only [List.forall_mem_append]
    exact ⟨(hto.1 h₁).1, ⟨(hto.1 h₁).2, hcc.1 h₂⟩, hreplyTo.1 h₃⟩
  · simp only [List.forall_mem_append]
    rintro ⟨hne, ⟨h₁, h₂⟩, h₃⟩
    exact ⟨hto.2 ⟨hne, h₁⟩, hcc.2 h₂, hreplyTo.2 h₃⟩

end Boxplot.Net
