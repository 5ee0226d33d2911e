import SuggestGateway.Url.IdnaData
import SuggestGateway.Url.Punycode
import SuggestGateway.Text.Normalize
import SuggestGateway.Text.Bidi
/-!
# Internationalized domain names

A host name with characters beyond ASCII is sent in its ASCII-compatible form: each label is
checked against IDNA 2008 and, if it is valid, written as `xn--` followed by its Punycode.

A label is valid when it is not empty, is in normalization form C, neither starts nor ends
with a hyphen nor has hyphens in its third and fourth places, does not start with a mark, has
only protocol-valid code points or contextual ones whose rule holds, and obeys the bidi rule of
RFC 5893 when it holds right-to-left characters. An ASCII label is valid as it is when its
lower case is valid, or, for an `xn--` label, when its Punycode decodes to a valid label.
An encoded label has at most 63 characters and a whole name at most 253 (254 with a final
dot).

Before labels are checked, a name may first be mapped as Unicode technical standard 46 says:
characters are kept, replaced by their mapping or dropped, and the result is put in form C.
-/
namespace SuggestGateway

namespace Idna

/-- One row of the compatibility mapping. -/
structure MappingRow where
  start : Nat
  status : Char
  image : Option (List Nat)
deriving Inhabited

/-- The rows of the compatibility mapping, in order of their first code points. -/
def mappingRows : Array MappingRow :=
  ((tableEntries IdnaData.mappingText).map fun fs =>
    { start := hexNumeral (fs.headD "").toList,
      status := (fs.getD 1 "X").toList.headD 'X',
      image := (fs[2]?).map fieldNumbers : MappingRow }).toArray

def mappingStarts : Array Nat := mappingRows.map (·.start)

def mappingRow (n : Nat) : MappingRow :=
  mappingRows.getD (if n < 256 then n else lastAtOrBelow mappingStarts n 0 mappingStarts.size)
    default

/-- Map a name as the compatibility mapping says, without its transitional and ASCII rules:
valid and deviation characters stay, mapped ones are replaced, ignored ones go, and any other
makes the name invalid. The result is in normalization form C. -/
def remap (name : List Char) : Option (List Char) := do
  let mapped ← name.mapM fun c =>
    let row := mappingRow c.toNat
    match row.status, row.image with
    | 'V', _ | 'D', _ => some [c]
    | 'M', some image => some (image.map Char.ofNat)
    | 'I', _ => some []
    | _, _ => none
  return (nfc (String.ofList mapped.flatten)).toList

/-- The hyphen rules: no hyphens in both the third and fourth places, none at either end. -/
def hyphensOk (label : List Char) : Bool :=
  (label.drop 2).take 2 != ['-', '-'] && label.head? != some '-' && label.getLast? != some '-'

def startsWithMark (label : List Char) : Bool :=
  match label with
  | c :: _ => IdnaData.marks.contains c.toNat
  | [] => false

/-- The joining type of a code point: `0` none, `1` join-causing, `2` dual, `3` left, `4` right,
`5` transparent. -/
def joiningType (c : Char) : Nat := IdnaData.joiningTypes.lookup c.toNat

/-- Whether a code point is a virama, the mark of canonical combining class 9. -/
def isVirama (c : Char) : Bool := Normalize.combiningClass c.toNat == 9

/-- The first character that is not transparent, looking outwards from a joiner. -/
def firstNonTransparent (cs : List Char) : Option Char := cs.find? (joiningType · != 5)

/-- The rule of the zero-width joiners at a position: after a virama; or, for the non-joiner,
between a left- or dual-joining character and a right- or dual-joining one, with only
transparent characters in between. A character before the joiner that Unicode does not
assign breaks the rule. -/
def joinerOk (label : List Char) (pos : Nat) : Bool :=
  let before := (label.take pos).reverse
  let after := label.drop (pos + 1)
  match before.head? with
  | some p =>
    if bidiClass p == .unknown then false
    else if isVirama p then true
    else if label.getD pos ' ' == '‍' then false
    else
      let leftOk := match firstNonTransparent before with
        | some c => joiningType c == 3 || joiningType c == 2
        | none => false
      let rightOk := match firstNonTransparent after with
        | some c => joiningType c == 4 || joiningType c == 2
        | none => false
      leftOk && rightOk
  | none => false

/-- Whether a code point is one of the contextual ones with a rule of its own. -/
def isContextual (n : Nat) : Bool :=
  n == 0xB7 || n == 0x375 || n == 0x5F3 || n == 0x5F4 || (0x660 ≤ n && n ≤ 0x669) ||
    (0x6F0 ≤ n && n ≤ 0x6F9) || n == 0x30FB

/-- The rule of a contextual code point at a position. -/
def contextOk (label : List Char) (pos : Nat) : Bool :=
  let n := (label.getD pos ' ').toNat
  let prev := if pos = 0 then none else label[pos - 1]?
  let next := label[pos + 1]?
  if n == 0xB7 then prev == some 'l' && next == some 'l'
  else if n == 0x375 then
    match next with
    | some c => IdnaData.greek.contains c.toNat
    | none => false
  else if n == 0x5F3 || n == 0x5F4 then
    match prev with
    | some c => IdnaData.hebrew.contains c.toNat
    | none => false
  else if n == 0x30FB then
    label.any fun c => c != '・' && IdnaData.japanese.contains c.toNat
  else if 0x660 ≤ n && n ≤ 0x669 then !label.any fun c => 0x6F0 ≤ c.toNat && c.toNat ≤ 0x6F9
  else if 0x6F0 ≤ n && n ≤ 0x6F9 then !label.any fun c => 0x660 ≤ c.toNat && c.toNat ≤ 0x669
  else false

/-- Whether every code point of the label may stand where it stands. -/
def codePointsOk (label : List Char) : Bool :=
  label.zipIdx.all fun (c, pos) =>
    let n := c.toNat
    IdnaData.protocolValid.contains n ||
      (if n == 0x200C || n == 0x200D then joinerOk label pos
       else isContextual n && contextOk label pos)

/-- The bidi rule of RFC 5893 for a label. It applies only to labels with a right-to-left
character or an Arabic digit; every character must have a known class. -/
def bidiOk (label : List Char) : Bool :=
  let classes := label.map bidiClass
  if classes.contains .unknown then false
  else if !classes.any (fun b => b == .rightToLeft || b == .arabicLetter || b == .arabicNumber) then
    true
  else
    match classes with
    | [] => true
    | first :: _ =>
      let rtl := first == .rightToLeft || first == .arabicLetter
      if !rtl && first != .leftToRight then false
      else
        let allowed : List BidiClass := if rtl then
            [.rightToLeft, .arabicLetter, .arabicNumber, .europeanNumber, .europeanSeparator,
              .commonSeparator, .europeanTerminator, .otherNeutral, .boundaryNeutral, .nonspacingMark]
          else
            [.leftToRight, .europeanNumber, .europeanSeparator, .commonSeparator,
              .europeanTerminator, .otherNeutral, .boundaryNeutral, .nonspacingMark]
        let ending : List BidiClass := if rtl then
            [.rightToLeft, .arabicLetter, .europeanNumber, .arabicNumber]
          else [.leftToRight, .europeanNumber]
        let lastStrong := (classes.filter (· != .nonspacingMark)).getLast?
        let numerals := classes.filter fun b => b == .arabicNumber || b == .europeanNumber
        classes.all allowed.contains &&
          (match lastStrong with
            | some b => ending.contains b
            | none => false) &&
          (!rtl || !(numerals.contains .arabicNumber && numerals.contains .europeanNumber))

def labelOk (label : List Char) : Bool :=
  !label.isEmpty && label.length ≤ 254 && (nfc (String.ofList label)).toList == label &&
    hyphensOk label && !startsWithMark label && codePointsOk label && bidiOk label

/-- Whether an ASCII label is valid: an `xn--` label whose Punycode decodes to a valid label,
or another label whose lower case is valid. -/
def asciiLabelOk (label : List Char) : Bool :=
  let lower := label.map Char.toLower
  match lower with
  | 'x' :: 'n' :: '-' :: '-' :: rest =>
    !rest.isEmpty && rest.getLast? != some '-' &&
      match Punycode.decodeBytes true (rest.map fun c => c.toNat.toUInt8) with
      | .ok decoded => labelOk decoded
      | .error _ => false
  | _ => labelOk lower

/-- The ASCII-compatible form of a label: an ASCII label as it is when it is valid, another
label as `xn--` and its Punycode. -/
def encodeLabel? (label : List Char) : Option (List Char) :=
  if label.length > 1024 then none
  else if label.all (·.toNat < 128) then
    if asciiLabelOk label && label.length ≤ 63 then some label else none
  else if labelOk label then
    let encoded := "xn--".toList ++ Punycode.encode label
    if encoded.length ≤ 63 then some encoded else none
  else none

/-- Whether a character separates labels: the full stop and its ideographic, full-width and
half-width forms. -/
def isLabelDot (c : Char) : Bool :=
  c == '.' || c == '。' || c == '．' || c == '｡'

/-- The ASCII-compatible form of a name whose labels are already split: each label encoded,
a final empty label kept as a final dot, and the whole at most 253 characters (254 with the
final dot). -/
def encodeLabels? (labels : List (List Char)) : Option String := do
  let (labels, finalDot) := match labels.getLast? with
    | some [] => (labels.dropLast, true)
    | _ => (labels, false)
  if labels.isEmpty then none
  let encoded ← labels.mapM encodeLabel?
  let encoded := if finalDot then encoded ++ [[]] else encoded
  let text := String.intercalate "." (encoded.map String.ofList)
  if text.length ≤ (if finalDot then 254 else 253) then some text else none

/-- The labels of a name, split at the characters that separate them. -/
def splitLabels (separates : Char → Bool) (name : List Char) : List (List Char) :=
  name.foldr (fun c acc =>
    if separates c then [] :: acc
    else match acc with
      | l :: ls => (c :: l) :: ls
      | [] => [[c]]) [[]]

def encodeStrict? (name : List Char) : Option String :=
  if name.length > 1024 || name.length > 254 then none
  else encodeLabels? (splitLabels (· == '.') name)

/-- Encode a name after mapping it, splitting at every kind of full stop. -/
def encodeMapped? (name : List Char) : Option String := do
  if name.length > 1024 then none
  let mapped ← remap name
  if mapped.length > 254 then none
  encodeLabels? (splitLabels isLabelDot mapped)

end Idna

end SuggestGateway
