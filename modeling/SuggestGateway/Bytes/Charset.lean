import SuggestGateway.Bytes.Utf8
import SuggestGateway.Bytes.Wide
/-!
# Character sets

The character sets a response may name, and how each turns bytes into characters. A name is
looked up without case, with every run of characters other than letters, digits and points
read as one underscore; a name that is none of these is unknown. The sets with a byte order
mark (`utf-8-sig`, `utf-16`, `utf-32`) drop a leading mark, and the last two take their byte
order from it, little-endian without one.
-/
namespace SuggestGateway

/-- A character set. -/
inductive Charset where
  | utf8
  | utf8Sig
  /-- UTF-16 in the given order, or in the order of its byte order mark. -/
  | utf16 (o : Option ByteOrder)
  /-- UTF-32 in the given order, or in the order of its byte order mark. -/
  | utf32 (o : Option ByteOrder)
  | latin1
  | ascii
deriving DecidableEq, Repr

namespace Charset

/-- A name in the form it is looked up in: lower case, each run of other characters than
letters, digits and points as one underscore, none at either end. -/
def normalizeName (name : String) : String :=
  let keep (c : Char) : Bool := c.isAlphanum || c == '.'
  let words := (name.toList.map Char.toLower).splitBy fun a b => keep a == keep b
  "_".intercalate ((words.filter fun w => w.all keep).map String.ofList)

def names : List (Charset × List String) :=
  [(utf8, ["utf_8", "utf8", "u8", "utf", "utf8_ucs2", "utf8_ucs4", "cp65001"]),
   (utf8Sig, ["utf_8_sig"]),
   (utf16 none, ["utf_16", "utf16", "u16"]),
   (utf16 (some .little), ["utf_16_le", "utf_16le", "unicodelittleunmarked"]),
   (utf16 (some .big), ["utf_16_be", "utf_16be", "unicodebigunmarked"]),
   (utf32 none, ["utf_32", "utf32", "u32"]),
   (utf32 (some .little), ["utf_32_le", "utf_32le"]),
   (utf32 (some .big), ["utf_32_be", "utf_32be"]),
   (latin1, ["latin_1", "latin1", "latin", "l1", "iso8859_1", "iso_8859_1", "8859", "cp819",
     "ibm819", "iso_ir_100", "csisolatin1", "iso_8859_1_1987"]),
   (ascii, ["ascii", "us_ascii", "us", "646", "cp367", "ibm367", "csascii", "iso646_us",
     "iso_ir_6", "ansi_x3.4_1968", "ansi_x3_4_1968", "ansi_x3.4_1986", "iso_646.irv_1991"])]

def ofName? (name : String) : Option Charset :=
  let n := normalizeName name
  (names.find? fun e => e.2.contains n).map (·.1)

def utf8Marked (bs : List UInt8) : List (Option Char) := Utf8.decodeMarked bs

def decodeMarked : Charset → List UInt8 → List (Option Char)
  | utf8, bs => utf8Marked bs
  | utf8Sig, bs =>
    match bs with
    | 0xEF :: 0xBB :: 0xBF :: rest => utf8Marked rest
    | _ => utf8Marked bs
  | utf16 none, bs =>
    match bs with
    | 0xFF :: 0xFE :: rest => Utf16.decodeMarked .little rest
    | 0xFE :: 0xFF :: rest => Utf16.decodeMarked .big rest
    | _ => Utf16.decodeMarked .little bs
  | utf16 (some o), bs => Utf16.decodeMarked o bs
  | utf32 none, bs =>
    match bs with
    | 0xFF :: 0xFE :: 0x00 :: 0x00 :: rest => Utf32.decodeMarked .little rest
    | 0x00 :: 0x00 :: 0xFE :: 0xFF :: rest => Utf32.decodeMarked .big rest
    | _ => Utf32.decodeMarked .little bs
  | utf32 (some o), bs => Utf32.decodeMarked o bs
  | latin1, bs => bs.map fun b => some (Char.ofNat b.toNat)
  | ascii, bs => bs.map fun b => if b.toNat < 0x80 then some (Char.ofNat b.toNat) else none

def decode (c : Charset) (bs : List UInt8) : String :=
  match c with
  | utf8 => Utf8.decodeText bs
  | utf8Sig =>
    match bs with
    | 0xEF :: 0xBB :: 0xBF :: rest => Utf8.decodeText rest
    | _ => Utf8.decodeText bs
  | c => String.ofList (replaceMarked (decodeMarked c bs))

def decodeStrict? (c : Charset) (bs : List UInt8) : Option String :=
  match c with
  | utf8 => (Utf8.decodeStrict? bs).map String.ofList
  | utf8Sig =>
    match bs with
    | 0xEF :: 0xBB :: 0xBF :: rest => (Utf8.decodeStrict? rest).map String.ofList
    | _ => (Utf8.decodeStrict? bs).map String.ofList
  | c => (strictMarked (decodeMarked c bs)).map String.ofList

end Charset

end SuggestGateway
