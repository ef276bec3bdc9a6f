import Mathlib
import Boxplot.Lib.State
import Boxplot.Lib.Utf8
import Boxplot.Remote.ImapReconciler
/-!
# IMAP identities read back

`encode` and `decode` of `src/remote/imap/ids.ts` over `btoa`, `atob` and
`TextDecoder` as the web standards define them, and when the decoders of the ids
give back what the encoders were given.
-/

namespace Boxplot.Remote

open Domain Lib Net

/-! ## The encodings of the web -/

def btoa (data : List UInt8) : List Char := standard.encode data

def isAsciiWhitespace (c : Char) : Bool := c = ' ' || c = '\t' || c = '\n' || c.toNat = 12 || c = '\r'

/-- At most two signs at the end are dropped. -/
def dropSigns (data : List Char) : List Char :=
  match data.reverse with
  | '=' :: '=' :: rest => rest.reverse
  | '=' :: rest => rest.reverse
  | _ => data

/-- The forgiving decoder. -/
def atob (data : List Char) : Option (List UInt8) :=
  let data := data.filter (!isAsciiWhitespace ·)
  let data := if data.length % 4 = 0 then dropSigns data else data
  if data.length % 4 = 1 then none else standard.decode data

/-! ## The codec -/

def encodeText (value : String) : String :=
  String.ofList ((replaceAll '/' '_' (replaceAll '+' '-' (btoa (bytes value)))).reverse.dropWhile (· = '=')).reverse

def decodeText (value : List Char) : Except RemoteError String :=
  let padded := replaceAll '_' '/' (replaceAll '-' '+' value)
  match (atob (padded ++ List.replicate ((4 - padded.length % 4) % 4) '=')).bind decodeUtf8 with
  | none => .error invalidId
  | some text => .ok text

theorem encodeText_eq (value : String) : encodeText value = encode value := by
  rw [encodeText, btoa, replaceAll_encode, encode]

/-! ## Ids -/

/-- The id of a scheme. -/
def imapId (scheme value : String) : String := scheme ++ encodeText value

/-- One or more id characters after the scheme. -/
def decodeImapId (scheme value : String) : Except RemoteError String :=
  match idText scheme value with
  | none => .error invalidId
  | some text => if text.isEmpty || !text.all isIdChar then .error invalidId else decodeText text

def imapAccountId (username : String) : String := imapId "imap-account-v1:" username
def decodeImapAccountId (value : String) : Except RemoteError String := decodeImapId "imap-account-v1:" value

def imapIdentityId (username : String) : String := imapId "imap-identity-v1:" username
def decodeImapIdentityId (value : String) : Except RemoteError String := decodeImapId "imap-identity-v1:" value

/-! ## The decoder -/

/-- An id character as a character of the standard alphabet. -/
def standardChar (c : Char) : Char := if c = '-' then '+' else if c = '_' then '/' else c

theorem replaceAll_id (value : List Char) : replaceAll '_' '/' (replaceAll '-' '+' value) = value.map standardChar := by
  rw [replaceAll, replaceAll, List.map_map]
  refine List.map_congr_left fun c _ => ?_
  unfold standardChar
  by_cases h : c = '-'
  · simp [h]
  · simp [h]

theorem standardChar_id {c : Char} (h : isIdChar c = true) :
    standard.digit (standardChar c) = urlSafeNoPad.digit c ∧ isAsciiWhitespace (standardChar c) = false ∧ standardChar c ≠ '=' := by
  have hall : ∀ n < 128, isIdChar (Char.ofNat n) = true → standard.digit (standardChar (Char.ofNat n)) =
      urlSafeNoPad.digit (Char.ofNat n) ∧ isAsciiWhitespace (standardChar (Char.ofNat n)) = false ∧
      standardChar (Char.ofNat n) ≠ '=' := by decide +kernel
  have hascii : c.toNat < 128 := by
    simp only [isIdChar, Char.isAlphanum, Char.isAlpha, Char.isUpper, Char.isLower, Char.isDigit, Bool.or_eq_true,
      Bool.and_eq_true, decide_eq_true_eq, UInt32.le_iff_toNat_le] at h
    have hval : c.toNat = c.val.toNat := rfl
    rcases h with (((h | h) | h) | rfl) | rfl
    all_goals simp_all <;> omega
  have hc := hall c.toNat hascii
  rw [Char.ofNat_toNat] at hc
  exact hc h

theorem ofDigits_none {digits : List Nat} (h : digits.length % 4 = 1) : Base64Engine.ofDigits digits = none := by
  fun_induction Base64Engine.ofDigits digits with
  | case1 a b c d rest bits ih =>
    have hrest : rest.length % 4 = 1 := by simp only [List.length_cons] at h; omega
    rw [ih hrest]
    rfl
  | case4 => rfl
  | _ => simp at h

theorem decode_none {e : Base64Engine} {text : List Char} (h : text.length % 4 = 1) : e.decode text = none := by
  unfold Base64Engine.decode
  cases hdigits : text.mapM e.digit with
  | none => rfl
  | some digits =>
    have hlength := (mapM_eq_some_iff.1 hdigits).length_eq
    exact ofDigits_none (hlength ▸ h)

theorem decode_sign (text : List Char) : standard.decode (text ++ ['=']) = none := by
  have hsign : standard.digit '=' = none := by decide +kernel
  unfold Base64Engine.decode
  rw [List.mapM_append, List.mapM_cons, hsign]
  cases text.mapM standard.digit <;> rfl

theorem dropSigns_two (data : List Char) : dropSigns (data ++ ['=', '=']) = data := by
  simp [dropSigns]

theorem dropSigns_one {data : List Char} (h : '=' ∉ data) : dropSigns (data ++ ['=']) = data := by
  rw [← List.mem_reverse] at h
  unfold dropSigns
  rw [List.reverse_append, List.reverse_singleton, List.singleton_append]
  cases hlast : data.reverse with
  | nil =>
    rw [List.reverse_eq_nil_iff] at hlast
    rw [hlast]
    rfl
  | cons c rest =>
    have hc : c ≠ '=' := by
      rintro rfl
      rw [hlast] at h
      exact h List.mem_cons_self
    split
    · rename_i heq
      cases heq
      exact absurd rfl hc
    · rename_i heq
      cases heq
      rw [← hlast, List.reverse_reverse]
    · rename_i hnone
      exact (hnone _ rfl).elim

theorem dropSigns_none {data : List Char} (h : '=' ∉ data) : dropSigns data = data := by
  rw [← List.mem_reverse] at h
  unfold dropSigns
  split
  · rename_i heq
    rw [heq] at h
    exact absurd List.mem_cons_self h
  · rename_i heq
    rw [heq] at h
    exact absurd List.mem_cons_self h
  · rfl

theorem mapM_map_congr {α β γ : Type} {f : β → Option γ} {g : α → Option γ} {change : α → β} {l : List α}
    (h : ∀ a ∈ l, f (change a) = g a) : (l.map change).mapM f = l.mapM g := by
  induction l with
  | nil => rfl
  | cons a l ih =>
    rw [List.map_cons, List.mapM_cons, List.mapM_cons, h a List.mem_cons_self, ih fun b hb => h b (List.mem_cons_of_mem a hb)]

theorem decode_map {text : List Char} (h : ∀ c ∈ text, isIdChar c = true) :
    standard.decode (text.map standardChar) = urlSafeNoPad.decode text := by
  unfold Base64Engine.decode
  rw [mapM_map_congr fun c hc => (standardChar_id (h c hc)).1]

/-- The padding is right. -/
theorem atob_padded {text : List Char} (h : ∀ c ∈ text, isIdChar c = true) :
    atob (text.map standardChar ++ List.replicate ((4 - (text.map standardChar).length % 4) % 4) '=') = urlSafeNoPad.decode text := by
  have hdecode := decode_map h
  have hspace : ∀ c ∈ text.map standardChar, isAsciiWhitespace c = false := by
    simp only [List.forall_mem_map]
    exact fun c hc => (standardChar_id (h c hc)).2.1
  have hsign : '=' ∉ text.map standardChar := by
    simp only [List.mem_map, not_exists, not_and]
    exact fun c hc => (standardChar_id (h c hc)).2.2
  have hlength : (text.map standardChar).length = text.length := List.length_map _
  generalize text.map standardChar = data at *
  have hfilter : (data ++ List.replicate ((4 - data.length % 4) % 4) '=').filter (!isAsciiWhitespace ·) =
      data ++ List.replicate ((4 - data.length % 4) % 4) '=' := by
    refine List.filter_eq_self.2 fun c hc => ?_
    rcases List.mem_append.1 hc with hc | hc
    · rw [hspace c hc]
      rfl
    · rw [List.eq_of_mem_replicate hc]
      decide
  have hwhole : (data ++ List.replicate ((4 - data.length % 4) % 4) '=').length % 4 = 0 := by
    rw [List.length_append, List.length_replicate]
    omega
  unfold atob
  simp only [hfilter, hwhole, if_true]
  obtain hr | hr | hr | hr : data.length % 4 = 0 ∨ data.length % 4 = 1 ∨ data.length % 4 = 2 ∨ data.length % 4 = 3 := by omega
  · simp [hr, dropSigns_none hsign, hdecode]
  · -- one digit alone is no byte, and the third sign stays
    have hthree : data ++ List.replicate ((4 - data.length % 4) % 4) '=' = (data ++ ['=']) ++ ['=', '='] := by simp [hr]
    have hnone : urlSafeNoPad.decode text = none := decode_none (hlength ▸ hr)
    rw [hthree, dropSigns_two, decode_sign, hnone, ite_self]
  · have htwo : data ++ List.replicate ((4 - data.length % 4) % 4) '=' = data ++ ['=', '='] := by simp [hr]
    rw [htwo, dropSigns_two, hr, hdecode]
    rfl
  · have hone : data ++ List.replicate ((4 - data.length % 4) % 4) '=' = data ++ ['='] := by simp [hr]
    rw [hone, dropSigns_one hsign, hr, hdecode]
    rfl

theorem decodeText_eq {text : List Char} (h : ∀ c ∈ text, isIdChar c = true) : decodeText text = decode text := by
  have hpadded := atob_padded h
  rw [← replaceAll_id] at hpadded
  exact congrArg (fun found : Option (List UInt8) => (match found.bind decodeUtf8 with
    | none => .error invalidId
    | some text => .ok text : Except RemoteError String)) hpadded

/-! ## What is read back -/

/-- The byte order mark. -/
def byteOrderMark : Char := Char.ofNat 0xFEFF

theorem byteOrderMark_bytes : String.utf8EncodeChar byteOrderMark = [0xEF, 0xBB, 0xBF] := by decide_cbv

theorem decodeUtf8_bytes (text : String) : decodeUtf8 (bytes text) = some text ↔ text.toList.head? ≠ some byteOrderMark := by
  have hbytes := bytes_eq_flatMap text
  cases hlist : text.toList with
  | nil =>
    rw [hlist] at hbytes
    have hnil : bytes text = [] := hbytes
    refine iff_of_true ?_ (by simp)
    rw [hnil]
    exact textOf_eq_some.2 hnil.symm
  | cons c rest =>
    rw [hlist, List.flatMap_cons] at hbytes
    rw [List.head?_cons, Ne, Option.some.injEq]
    by_cases hc : c = byteOrderMark
    · subst hc
      refine iff_of_false ?_ (not_not.2 rfl)
      rw [byteOrderMark_bytes] at hbytes
      have htext : decodeUtf8 (bytes text) = textOf (rest.flatMap String.utf8EncodeChar) := by rw [hbytes]; rfl
      rw [htext, textOf_eq_some]
      intro heq
      have hlength := congrArg List.length (heq.trans hbytes)
      simp only [List.length_append, List.length_cons] at hlength
      omega
    · refine iff_of_true ?_ hc
      have htext : decodeUtf8 (bytes text) = textOf (bytes text) := by
        unfold decodeUtf8
        split
        · rename_i tail heq
          have hmark : String.utf8EncodeChar c ++ rest.flatMap String.utf8EncodeChar = String.utf8EncodeChar byteOrderMark ++ tail := by
            rw [← hbytes, heq, byteOrderMark_bytes]
            rfl
          exact (hc (charBytes_inj hmark)).elim
        · rfl
      rw [htext, textOf_bytes]

theorem urlSafe_decode_encode (value : String) : urlSafeNoPad.decode (encode value).toList = some (bytes value) := by
  have hlist : (encode value).toList = urlSafeNoPad.encode (bytes value) := by rw [encode, String.toList_ofList]
  rw [hlist]
  exact Base64Engine.decode_encode rfl urlSafeNoPad_digit (bytes value)

theorem decode_encode (value : String) : decode (encode value).toList = .ok value ↔ value.toList.head? ≠ some byteOrderMark := by
  rw [← decodeUtf8_bytes, decode, urlSafe_decode_encode, Option.bind_some]
  cases decodeUtf8 (bytes value) <;> simp

theorem encode_idChars (value : String) : (encode value).toList.all isIdChar = true := by
  have hall : ∀ d < 64, isIdChar (urlSafeNoPad.alphabet.getD d '=') = true := by decide +kernel
  refine List.all_eq_true.2 fun c hc => ?_
  rw [encode, String.toList_ofList] at hc
  obtain ⟨d, hd, rfl⟩ := Base64Engine.mem_encode_unpadded rfl hc
  exact hall d hd

theorem encode_isEmpty {value : String} (h : value ≠ "") : (encode value).toList.isEmpty = false := by
  rw [List.isEmpty_eq_false_iff]
  intro hnil
  refine h (encode_injective (String.toList_inj.1 ?_))
  rw [hnil]
  decide_cbv

theorem idText_append (scheme text : String) : idText scheme (scheme ++ text) = some text.toList := by
  have hprefix : scheme.toList.isPrefixOf (scheme.toList ++ text.toList) = true := List.isPrefixOf_iff_prefix.2 (List.prefix_append _ _)
  rw [idText, String.toList_append, hprefix, if_pos rfl, ← String.length_toList, List.drop_left]

theorem decodeImapId_imapId (scheme : String) {value : String} (h : value ≠ "") :
    decodeImapId scheme (imapId scheme value) = decode (encode value).toList := by
  rw [imapId, encodeText_eq, decodeImapId, idText_append]
  simp only [encode_isEmpty h, encode_idChars, Bool.not_true, Bool.or_false, Bool.false_eq_true, if_false]
  exact decodeText_eq (List.all_eq_true.1 (encode_idChars value))

/-- The mailbox ids are those of a scheme too. -/
theorem imapMailboxId_eq (mailbox : String) : imapMailboxId mailbox = imapId "imap-mailbox-v1:" mailbox := by
  rw [imapMailboxId, imapId, encodeText_eq]

theorem decodeImapMailboxId_eq (value : String) : decodeImapMailboxId value = decodeImapId "imap-mailbox-v1:" value := by
  unfold decodeImapMailboxId decodeImapId
  cases idText "imap-mailbox-v1:" value with
  | none => rfl
  | some text =>
    cases hall : text.all isIdChar with
    | false => simp only [hall, Bool.not_false, Bool.or_true, if_true]
    | true => simp only [hall, decodeText_eq (List.all_eq_true.1 hall)]

/-! ## Email ids -/

theorem digits_toString (n : Nat) : digits (toString n).toList = some n := by
  have hlist : (toString n).toList = Nat.toDigits 10 n := by rw [Nat.toString_eq_repr, Nat.toList_repr]
  have hall : (Nat.toDigits 10 n).all Char.isDigit = true :=
    List.all_eq_true.2 fun c hc => Nat.isDigit_of_mem_toDigits (by omega) (by omega) hc
  have hne : (Nat.toDigits 10 n).isEmpty = false := List.isEmpty_eq_false_iff.2 Nat.toDigits_ne_nil
  rw [digits, hlist, hall, hne]
  simp only [Bool.not_true, Bool.or_false, Bool.false_eq_true, if_false, Option.some.injEq]
  exact Nat.ofDigitChars_ten_toDigits

theorem emailIdParts_text {mailbox : String} (h : mailbox ≠ "") (uidValidity uid : Nat) :
    emailIdParts ("imap-email-v1:" ++ encode mailbox ++ ":" ++ toString uidValidity ++ ":" ++ toString uid) =
      some ((encode mailbox).toList, uidValidity, uid) := by
  have hsplit : (encode mailbox ++ ":" ++ toString uidValidity ++ ":" ++ toString uid).toList.splitOn ':' =
      [(encode mailbox).toList, (toString uidValidity).toList, (toString uid).toList] := by
    have hlist : (encode mailbox ++ ":" ++ toString uidValidity ++ ":" ++ toString uid).toList =
        (encode mailbox).toList ++ ':' :: ((toString uidValidity).toList ++ ':' :: (toString uid).toList) := by
      simp only [String.toList_append, List.append_assoc]
      rfl
    rw [hlist, List.splitOn_append_cons_self_of_not_mem (colon_notMem_encode mailbox),
      List.splitOn_append_cons_self_of_not_mem (colon_notMem_toString uidValidity), List.splitOn_eq_singleton (colon_notMem_toString uid)]
  have hassoc : "imap-email-v1:" ++ encode mailbox ++ ":" ++ toString uidValidity ++ ":" ++ toString uid =
      "imap-email-v1:" ++ (encode mailbox ++ ":" ++ toString uidValidity ++ ":" ++ toString uid) := by
    simp only [String.append_assoc]
  rw [hassoc, emailIdParts, idText_append]
  simp only [Option.bind_eq_bind, Option.bind_some, hsplit, encode_isEmpty h, encode_idChars, digits_toString]
  rfl

theorem assertPositiveInteger_ok {n : Nat} (hpos : 0 < n) (hsafe : n ≤ maxSafeInteger) : assertPositiveInteger n = .ok () := by
  refine if_neg ?_
  omega

theorem imapEmailId_ok {value : DecodedImapEmailId} (hvalidity : 0 < value.uidValidity ∧ value.uidValidity ≤ maxSafeInteger)
    (huid : 0 < value.uid ∧ value.uid ≤ maxSafeInteger) : imapEmailId value =
      .ok ("imap-email-v1:" ++ encode value.mailbox ++ ":" ++ toString value.uidValidity ++ ":" ++ toString value.uid) := by
  rw [imapEmailId, assertPositiveInteger_ok hvalidity.1 hvalidity.2, assertPositiveInteger_ok huid.1 huid.2]
  rfl

/-- An email id is read back as far as its mailbox is. -/
theorem decodeImapEmailId_imapEmailId (value : DecodedImapEmailId) (hname : value.mailbox ≠ "")
    (hvalidity : 0 < value.uidValidity ∧ value.uidValidity ≤ maxSafeInteger) (huid : 0 < value.uid ∧ value.uid ≤ maxSafeInteger) :
    (imapEmailId value).bind decodeImapEmailId =
      (decode (encode value.mailbox).toList).map fun mailbox => ⟨mailbox, value.uidValidity, value.uid⟩ := by
  rw [imapEmailId_ok hvalidity huid]
  simp only [Except.bind, decodeImapEmailId, emailIdParts_text hname, assertPositiveInteger_ok hvalidity.1 hvalidity.2,
    assertPositiveInteger_ok huid.1 huid.2]
  cases decode (encode value.mailbox).toList <;> rfl

/-! ## Round trips -/

/-- The decoders undo the encoders, and no other mailbox or message has the id. -/
structure IdsRoundTrip (name : String) (uidValidity uid : Nat) : Prop where
  email : (imapEmailId ⟨name, uidValidity, uid⟩).bind decodeImapEmailId = .ok ⟨name, uidValidity, uid⟩
  mailbox : decodeImapMailboxId (imapMailboxId name) = .ok name
  account : decodeImapAccountId (imapAccountId name) = .ok name
  identity : decodeImapIdentityId (imapIdentityId name) = .ok name
  only_mailbox : ∀ other, imapMailboxId other = imapMailboxId name → other = name
  only_message : ∀ other id, imapEmailId ⟨name, uidValidity, uid⟩ = .ok id → imapEmailId other = .ok id → other = ⟨name, uidValidity, uid⟩

/-- Ids are read back if and only if the name does not begin with a byte order mark. -/
theorem ids_round_trip_iff (name : String) (uidValidity uid : Nat) (hname : name ≠ "")
    (hvalidity : 0 < uidValidity ∧ uidValidity ≤ maxSafeInteger) (huid : 0 < uid ∧ uid ≤ maxSafeInteger) :
    IdsRoundTrip name uidValidity uid ↔ name.toList.head? ≠ some byteOrderMark := by
  have hemail := decodeImapEmailId_imapEmailId ⟨name, uidValidity, uid⟩ hname hvalidity huid
  rw [← decode_encode]
  constructor
  · intro h
    rw [← decodeImapId_imapId "imap-mailbox-v1:" hname, ← imapMailboxId_eq, ← decodeImapMailboxId_eq]
    exact h.mailbox
  · intro h
    refine ⟨?_, ?_, ?_, ?_, fun other heq => ?_, fun other id hid hother => imapEmailId_injective hother hid⟩
    · rw [hemail, h]
      rfl
    · rw [decodeImapMailboxId_eq, imapMailboxId_eq, decodeImapId_imapId _ hname, h]
    · exact (decodeImapId_imapId _ hname).trans h
    · exact (decodeImapId_imapId _ hname).trans h
    · refine encode_injective (String.append_right_inj "imap-mailbox-v1:" |>.1 heq)

theorem ids_round_trip_inbox : IdsRoundTrip "INBOX" 71 42 :=
  (ids_round_trip_iff "INBOX" 71 42 (by decide) (by decide) (by decide)).2 (by decide)

/-- A mailbox whose name begins with a byte order mark is taken for the one without it. -/
theorem ids_lose_mark : ¬IdsRoundTrip "\uFEFFwork" 71 42 ∧ decodeImapMailboxId (imapMailboxId "\uFEFFwork") = .ok "work" ∧
    (imapEmailId ⟨"\uFEFFwork", 71, 42⟩).bind decodeImapEmailId = .ok ⟨"work", 71, 42⟩ := by
  have hmailbox : decodeImapMailboxId (imapMailboxId "\uFEFFwork") = .ok "work" := by decide_cbv
  refine ⟨fun h => ?_, hmailbox, by decide_cbv⟩
  have heq := h.mailbox
  rw [hmailbox] at heq
  exact absurd (Except.ok.inj heq) (by decide)

end Boxplot.Remote
