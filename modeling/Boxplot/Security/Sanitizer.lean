import Boxplot.Lib.CodeUnits
import Boxplot.Lib.Entities
import Boxplot.Lib.Search
import Boxplot.Lib.Spans
/-!
# Sanitised messages

`forceSafeLinks` and `isSafeUrl` of `src/security/sanitizer.ts`, on the
characters of a text. The regular expressions are patterns; a link is looked at
by them only, and not by its attributes.

`escapeEmailText`, on the code units of a string: five replacements run one
after the other over the whole text. The ampersand comes first, so they do what
one replacement of all five characters would do.
-/

namespace Boxplot.Security

open Lib

/-! ## Characters -/

/-- What `\s` matches and `trim` takes away. -/
def isSpace (c : Char) : Bool :=
  (9 ≤ c.toNat && c.toNat ≤ 13) || (0x2000 ≤ c.toNat && c.toNat ≤ 0x200a) ||
    [0x20, 0xa0, 0x1680, 0x2028, 0x2029, 0x202f, 0x205f, 0x3000, 0xfeff].contains c.toNat

/-- What a dot does not match. -/
def isLineTerminator (c : Char) : Bool := [0x0a, 0x0d, 0x2028, 0x2029].contains c.toNat

/-- Either quotation mark. -/
def isQuote (c : Char) : Bool := [0x22, 0x27].contains c.toNat

def trim (text : List Char) : List Char := ((text.dropWhile isSpace).reverse.dropWhile isSpace).reverse

/-- Letters outside ASCII stay as they are: none of them turns into one that is looked for. -/
def lower (text : List Char) : List Char := text.map Char.toLower

/-! ## Patterns -/

/-- A word in any case. -/
def word (w : List Char) : Pattern Char Unit := fun text =>
  if lower (text.take w.length) = w then some ((), text.drop w.length) else none

/-- An attribute's name and the sign behind it. -/
def assigns (name : String) : List Char := name.toList ++ ['=']

/-- What a quotation mark, the shortest text without a line break, and a quotation mark enclose. -/
def enclosed : Pattern Char (List Char)
  | q :: text =>
    if isQuote q then
      match text.span fun c => !isQuote c && !isLineTerminator c with
      | (group, q' :: after) => if isQuote q' then some (group, after) else none
      | (_, []) => none
    else none
  | [] => none

/-- The name, the sign and a quoted text. -/
def quoted (name : String) : Pattern Char (List Char) := fun text => (word (assigns name) text).bind fun found => enclosed found.2

/-- `<a`, white space, and anything up to the next `>`. -/
def anchorTag : Pattern Char (List Char)
  | '<' :: c :: s :: text =>
    if c.toLower = 'a' && isSpace s then
      match (text.dropWhile isSpace).span (· ≠ '>') with
      | (attrs, _ :: after) => some (attrs, after)
      | (_, []) => none
    else none
  | _ => none

/-! ## Links -/

def isSafeUrl (url : List Char) : Bool :=
  let trimmed := lower (trim url)
  let startsWith (scheme : String) : Bool := scheme.toList.isPrefixOf trimmed
  if url = [] then false
  else if startsWith "javascript:" || startsWith "data:" || startsWith "vbscript:" || startsWith "file:" then false
  else startsWith "http://" || startsWith "https://"

/-- `name="value"`. -/
def attributeText (name : String) (value : List Char) : List Char := assigns name ++ '"' :: (value ++ ['"'])

def checkHref (attrs : List Char) : List Char :=
  match search (quoted "href") attrs with
  | some (before, href, after) => if isSafeUrl (trim href) then attrs else before ++ (attributeText "href" ['#'] ++ after)
  | none => attrs

/-- The attribute is put at the end, or in place of the first text that looks like it. -/
def forceAttribute (name : String) (value : List Char) (attrs : List Char) : List Char :=
  if (search (word (assigns name)) attrs).isNone then attrs ++ ' ' :: attributeText name value
  else
    match search (quoted name) attrs with
    | some (before, _, after) => before ++ (attributeText name value ++ after)
    | none => attrs

def safeAttributes (attrs : List Char) : List Char :=
  forceAttribute "rel" "noopener noreferrer".toList (forceAttribute "target" "_blank".toList (checkHref attrs))

def forceSafeLinks (html : List Char) : List Char :=
  replaceMatches anchorTag (fun attrs => "<a ".toList ++ (safeAttributes attrs ++ ['>'])) 0 html

/-! ## Documents -/

/-- `ALLOWED_TAGS`. -/
def allowedTags : List String :=
  ["a", "b", "blockquote", "br", "code", "div", "em", "h1", "h2", "h3", "h4", "h5", "h6", "hr", "i", "li", "ol", "p", "pre", "span",
    "strong", "table", "tbody", "td", "tfoot", "th", "thead", "tr", "u", "ul"]

/-- `ALLOWED_ATTR`. -/
def allowedAttr : List String := ["href", "target", "rel", "title", "class"]

/-- An attribute as it is written: the value has no quotation mark of its own. -/
structure Attribute where
  name : String
  value : List Char
  allowed : name ∈ allowedAttr
  written : '"' ∉ value

def Distinct (attributes : List Attribute) : Prop := (attributes.map (·.name)).Nodup

instance (attributes : List Attribute) : Decidable (Distinct attributes) := inferInstanceAs (Decidable (attributes.map (·.name)).Nodup)

/-- A piece of a document as it is written: text has no `<` of its own. -/
inductive Token
  | text (content : List Char) (written : '<' ∉ content)
  | start (name : String) (attributes : List Attribute) (allowed : name ∈ allowedTags) (distinct : Distinct attributes)
  | close (name : String) (allowed : name ∈ allowedTags)

def Attribute.text (a : Attribute) : List Char := ' ' :: attributeText a.name a.value

def attributesText (attributes : List Attribute) : List Char := attributes.flatMap Attribute.text

def Token.serialize : Token → List Char
  | .text content _ => content
  | .start name attributes _ _ => '<' :: (name.toList ++ (attributesText attributes ++ ['>']))
  | .close name _ => '<' :: '/' :: (name.toList ++ ['>'])

def serialize (document : List Token) : List Char := document.flatMap Token.serialize

/-! ## Plain text -/

/-- `'`, as a character. -/
def apostrophe : Char := Char.ofNat 39

/-- `replaceAll` of one character. -/
def replaceAll (c : Char) (entity : String) (text : CodeUnits) : CodeUnits := replaceOne (unit c) (units entity) text

def escapeEmailText (text : CodeUnits) : CodeUnits :=
  replaceAll apostrophe "&#39;" (replaceAll '"' "&quot;" (replaceAll '>' "&gt;" (replaceAll '<' "&lt;" (replaceAll '&' "&amp;" text))))

/-- The entities that are written. -/
def htmlEntities : Entities UInt16 where
  mark := unit '&'
  code := units "&amp;"
  others := [(unit '<', units "&lt;"), (unit '>', units "&gt;"), (unit '"', units "&quot;"), (unit apostrophe, units "&#39;")]
  distinct := by decide
  marked := by
    have hall : ∀ e ∈ [(unit '&', units "&amp;"), (unit '<', units "&lt;"), (unit '>', units "&gt;"), (unit '"', units "&quot;"),
        (unit apostrophe, units "&#39;")], e.2 = unit '&' :: e.2.tail ∧ unit '&' ∉ e.2.tail := by decide
    exact fun e he => ⟨e.2.tail, hall e he⟩
  apart := by decide
  free := by decide

theorem escapeEmailText_eq (text : CodeUnits) : escapeEmailText text = htmlEntities.escape text := rfl

/-- No character with a meaning in HTML is left but the ampersands of entities, and the entities say what the text said. -/
theorem escapeEmailText_inert (text : CodeUnits) :
    (∀ c ∈ ['<', '>', '"', apostrophe], unit c ∉ escapeEmailText text) ∧
    (∀ behind, unit '&' :: behind <:+ escapeEmailText text →
      ∃ entity ∈ ["&amp;", "&lt;", "&gt;", "&quot;", "&#39;"], units entity <+: unit '&' :: behind) ∧
    htmlEntities.unescape (escapeEmailText text) = text := by
  have htable : htmlEntities.table.map Prod.snd = ["&amp;", "&lt;", "&gt;", "&quot;", "&#39;"].map units := rfl
  rw [escapeEmailText_eq]
  refine ⟨fun c hc => ?_, fun behind hbehind => ?_, htmlEntities.unescape_escape text⟩
  · have hothers : htmlEntities.others.map Prod.fst = ['<', '>', '"', apostrophe].map unit := rfl
    obtain ⟨e, he, heq⟩ := List.mem_map.1 (hothers ▸ List.mem_map_of_mem hc)
    exact heq ▸ htmlEntities.escape_free text he
  · obtain ⟨e, he, hstart⟩ := htmlEntities.escape_marked text hbehind
    obtain ⟨entity, hentity, heq⟩ := List.mem_map.1 (htable ▸ List.mem_map_of_mem he)
    exact ⟨entity, hentity, heq ▸ hstart⟩

/-- Text that looks escaped is escaped again. -/
example : escapeEmailText (units "&lt;") = units "&amp;lt;" := by decide

end Boxplot.Security
