import Boxplot.Lib.Utf8
/-!
# Encoded words

Text outside ASCII in a header field: `=?`, the character set, the encoding,
the text and `?=`, in at most 75 characters. The reader knows UTF-8 in base64
and leaves anything else as it is.
-/

namespace Boxplot.Lib

/-- What an encoded word begins with, in any case. -/
def encodedWordStart : List Char := "=?utf-8?b?".toList

def encodedWordLimit : Nat := 75

/-- What an encoded word encloses. -/
def encodedText (word : List Char) : Option (List Char) :=
  if word.length ≤ encodedWordLimit ∧ (word.take 10).map Char.toLower = encodedWordStart then
    match (word.drop 10).reverse with
    | '=' :: '?' :: text => some text.reverse
    | _ => none
  else none

def decodeWord (word : List Char) : Option String :=
  (encodedText word).bind fun text => if text = [] then none else (standard.decodePadded text).bind textOf

/-- The text as an encoded word. -/
def encodeWord (text : String) : List Char := "=?UTF-8?B?".toList ++ (standard.encode (bytes text) ++ "?=".toList)

theorem length_encodeWord (text : String) : (encodeWord text).length = 12 + 4 * (((bytes text).length + 2) / 3) := by
  have hstart : "=?UTF-8?B?".toList.length = 10 := by decide
  have hend : "?=".toList.length = 2 := by decide
  unfold encodeWord
  rw [List.length_append, List.length_append, Base64Engine.length_encode rfl, hstart, hend]
  omega

theorem encode_ne_nil {text : String} (hne : text ≠ "") : standard.encode (bytes text) ≠ [] := by
  have hbytes : 0 < (bytes text).length := by
    refine List.length_pos_iff.2 fun hnil => hne (bytes_injective (hnil.trans ?_))
    decide +kernel
  refine List.length_pos_iff.1 ?_
  rw [Base64Engine.length_encode rfl]
  omega

theorem decodeWord_encodeWord {text : String} (hne : text ≠ "") :
    decodeWord (encodeWord text) = if (bytes text).length ≤ 45 then some text else none := by
  have hlength := length_encodeWord text
  have hstart : ((encodeWord text).take 10).map Char.toLower = encodedWordStart := by
    have htake : (encodeWord text).take 10 = "=?UTF-8?B?".toList := List.take_left' (by decide)
    rw [htake]
    decide
  split
  · rename_i hshort
    have hlimit : (encodeWord text).length ≤ encodedWordLimit := by
      rw [hlength, encodedWordLimit]
      omega
    have hdrop : (encodeWord text).drop 10 = standard.encode (bytes text) ++ "?=".toList := List.drop_left' (by decide)
    have htext : encodedText (encodeWord text) = some (standard.encode (bytes text)) := by
      rw [encodedText, if_pos ⟨hlimit, hstart⟩, hdrop, List.reverse_append]
      change some (standard.encode (bytes text)).reverse.reverse = _
      rw [List.reverse_reverse]
    rw [decodeWord, htext, Option.bind_some, if_neg (encode_ne_nil hne), Base64Engine.decodePadded_encode rfl standard_digit (by decide +kernel)]
    exact textOf_bytes text
  · rename_i hlong
    have hlimit : ¬ (encodeWord text).length ≤ encodedWordLimit := by
      rw [hlength, encodedWordLimit]
      omega
    rw [decodeWord, encodedText, if_neg fun h => hlimit h.1]
    rfl

end Boxplot.Lib
