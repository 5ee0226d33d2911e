import SuggestGateway.Bytes.CodecName
/-!
# Candidate codes for undeclared text

The codes a text of unknown code may be in, and what the bytes themselves say about it. The
candidates are the canonical names of the text codecs known by alias, with a few code pages
that have none, in the order of their names; the transforms from bytes to bytes are not among
them. Code pages that read at least 80% of the single bytes alike are similar: once one of
them has been found too messy, the others are not tried.

The bytes may start with a mark: the byte order marks of UTF-8, UTF-32 and UTF-16, the four
signatures of UTF-7 and the one of GB 18030. And they may declare their code in their first
8192 bytes, read as ASCII with the other bytes left out: `encoding`, `charset` or `coding` in
any case, one to ten of `:`, `=` and space, an optional quote, the name in letters, digits,
`-` and `_`, and an optional quote. The first such name that is an alias or a canonical name,
lower-cased with `-` read as `_`, gives the declared code.
-/
namespace SuggestGateway

namespace Detection

/-- The candidate codes, in the order they are tried after the preferred ones. -/
def candidateCodes : List String := [
  "ascii", "big5", "big5hkscs", "cp037", "cp1006", "cp1026", "cp1125", "cp1140", "cp1250",
  "cp1251", "cp1252", "cp1253", "cp1254", "cp1255", "cp1256", "cp1257", "cp1258", "cp273",
  "cp424", "cp437", "cp500", "cp720", "cp737", "cp775", "cp850", "cp852", "cp855", "cp856",
  "cp857", "cp858", "cp860", "cp861", "cp862", "cp863", "cp864", "cp865", "cp866", "cp869",
  "cp874", "cp875", "cp932", "cp949", "cp950", "euc_jis_2004", "euc_jisx0213", "euc_jp", "euc_kr",
  "gb18030", "gb2312", "gbk", "hp_roman8", "hz", "iso2022_jp", "iso2022_jp_1", "iso2022_jp_2",
  "iso2022_jp_2004", "iso2022_jp_3", "iso2022_jp_ext", "iso2022_kr", "iso8859_10", "iso8859_11",
  "iso8859_13", "iso8859_14", "iso8859_15", "iso8859_16", "iso8859_2", "iso8859_3", "iso8859_4",
  "iso8859_5", "iso8859_6", "iso8859_7", "iso8859_8", "iso8859_9", "johab", "koi8_r", "koi8_r",
  "koi8_t", "koi8_u", "kz1048", "latin_1", "mac_cyrillic", "mac_greek", "mac_iceland",
  "mac_latin2", "mac_roman", "mac_turkish", "ptcp154", "shift_jis", "shift_jis_2004",
  "shift_jisx0213", "tis_620", "utf_16", "utf_16_be", "utf_16_le", "utf_32", "utf_32_be",
  "utf_32_le", "utf_7", "utf_8"]

def similarCodes : List (String × List String) := [
  ("cp037", ["cp1026", "cp1140", "cp273", "cp500"]),
  ("cp1026", ["cp037", "cp1140", "cp273", "cp500"]), ("cp1125", ["cp866"]),
  ("cp1140", ["cp037", "cp1026", "cp273", "cp500"]), ("cp1250", ["iso8859_2"]),
  ("cp1251", ["kz1048", "ptcp154"]),
  ("cp1252", ["cp1254", "cp1258", "iso8859_15", "iso8859_9", "latin_1"]),
  ("cp1253", ["iso8859_7"]),
  ("cp1254", ["cp1252", "cp1258", "iso8859_15", "iso8859_9", "latin_1"]),
  ("cp1257", ["iso8859_13"]), ("cp1258", ["cp1252", "cp1254", "iso8859_9", "latin_1"]),
  ("cp273", ["cp037", "cp1026", "cp1140", "cp500"]),
  ("cp437", ["cp850", "cp858", "cp860", "cp861", "cp862", "cp863", "cp865"]),
  ("cp500", ["cp037", "cp1026", "cp1140", "cp273"]),
  ("cp850", ["cp437", "cp857", "cp858", "cp865"]), ("cp857", ["cp850", "cp858", "cp865"]),
  ("cp858", ["cp437", "cp850", "cp857", "cp865"]),
  ("cp860", ["cp437", "cp861", "cp862", "cp863", "cp865"]),
  ("cp861", ["cp437", "cp860", "cp862", "cp863", "cp865"]),
  ("cp862", ["cp437", "cp860", "cp861", "cp863", "cp865"]),
  ("cp863", ["cp437", "cp860", "cp861", "cp862", "cp865"]),
  ("cp865", ["cp437", "cp850", "cp857", "cp858", "cp860", "cp861", "cp862", "cp863"]),
  ("cp866", ["cp1125"]), ("cp874", ["iso8859_11", "tis_620"]),
  ("iso8859_10", ["iso8859_14", "iso8859_15", "iso8859_4", "iso8859_9", "latin_1"]),
  ("iso8859_11", ["cp874", "tis_620"]), ("iso8859_13", ["cp1257"]),
  ("iso8859_14", ["iso8859_10", "iso8859_15", "iso8859_16", "iso8859_3", "iso8859_9", "latin_1"]),
  ("iso8859_15", ["cp1252", "cp1254", "iso8859_10", "iso8859_14", "iso8859_16", "iso8859_3",
    "iso8859_9", "latin_1"]),
  ("iso8859_16", ["iso8859_14", "iso8859_15", "iso8859_2", "iso8859_3", "iso8859_9", "latin_1"]),
  ("iso8859_2", ["cp1250", "iso8859_16", "iso8859_4"]),
  ("iso8859_3", ["iso8859_14", "iso8859_15", "iso8859_16", "iso8859_9", "latin_1"]),
  ("iso8859_4", ["iso8859_10", "iso8859_2", "iso8859_9", "latin_1"]), ("iso8859_7", ["cp1253"]),
  ("iso8859_9", ["cp1252", "cp1254", "cp1258", "iso8859_10", "iso8859_14", "iso8859_15",
    "iso8859_16", "iso8859_3", "iso8859_4", "latin_1"]),
  ("koi8_r", ["koi8_u"]), ("koi8_u", ["koi8_r"]), ("kz1048", ["cp1251", "ptcp154"]),
  ("latin_1", ["cp1252", "cp1254", "cp1258", "iso8859_10", "iso8859_14", "iso8859_15",
    "iso8859_16", "iso8859_3", "iso8859_4", "iso8859_9"]),
  ("mac_iceland", ["mac_roman", "mac_turkish"]), ("mac_roman", ["mac_iceland", "mac_turkish"]),
  ("mac_turkish", ["mac_iceland", "mac_roman"]), ("ptcp154", ["cp1251", "kz1048"]),
  ("tis_620", ["cp874", "iso8859_11"])]

/-- Whether the second code page is similar to the first. -/
def areSimilar (a b : String) : Bool := ((similarCodes.lookup a).getD []).contains b

/-- The marks a text in a code may start with, the codes in the order they are looked for. -/
def codeMarks : List (String × List (List UInt8)) := [
  ("utf_8", [[0xEF, 0xBB, 0xBF]]),
  ("utf_7", [[0x2B, 0x2F, 0x76, 0x38], [0x2B, 0x2F, 0x76, 0x39], [0x2B, 0x2F, 0x76, 0x2B],
    [0x2B, 0x2F, 0x76, 0x2F], [0x2B, 0x2F, 0x76, 0x38, 0x2D]]),
  ("gb18030", [[0x84, 0x31, 0x95, 0x33]]),
  ("utf_32", [[0x00, 0x00, 0xFE, 0xFF], [0xFF, 0xFE, 0x00, 0x00]]),
  ("utf_16", [[0xFE, 0xFF], [0xFF, 0xFE]])]

/-- The code whose mark the bytes start with, with the mark. -/
def markedCode? (bs : List UInt8) : Option (String × List UInt8) :=
  codeMarks.findSome? fun (code, marks) =>
    (marks.find? fun m => m.isPrefixOf bs).map fun m => (code, m)

/-- The text codec of a canonical name, if it stands for one this system can load. -/
def candidateCodec? (name : String) : Option Codec :=
  match canonicalEntry? name with
  | some (.text c) => some c
  | _ => none

/-- The characters of a code page by byte, for the single-byte codecs. -/
def byteTable? : Codec → Option (Array Char)
  | .singleByte name => singleByteTable? name
  | .unicode .latin1 => some ((List.range 256).map Char.ofNat).toArray
  | .unicode .ascii =>
    some ((List.range 256).map fun n => if n < 128 then Char.ofNat n else '�').toArray
  | _ => none

/-- The characters a declared code name is spelled with. -/
def isNameChar (c : Char) : Bool :=
  ('a' ≤ c && c ≤ 'z') || ('A' ≤ c && c ≤ 'Z') || ('0' ≤ c && c ≤ '9') || c == '-' || c == '_'

/-- The characters between a keyword and a declared name. -/
def isDeclarationSeparator (c : Char) : Bool := c == ':' || c == '=' || c == ' '

/-- The characters after one of the keywords `encoding`, `charset`, `coding` at the front. -/
def afterKeyword? (cs : List Char) : Option (List Char) :=
  let lowered := cs.map Char.toLower
  ["encoding", "charset", "coding"].findSome? fun kw =>
    if kw.toList.isPrefixOf lowered then some (cs.drop kw.length) else none

def dropQuote : List Char → List Char
  | c :: rest => if c == '"' || c == '\'' then rest else c :: rest
  | [] => []

/-- A declaration at the front: the declared name and the characters after the declaration. -/
def declarationAt? (cs : List Char) : Option (String × List Char) := do
  let rest ← afterKeyword? cs
  let seps := rest.takeWhile isDeclarationSeparator
  if seps.isEmpty || 10 < seps.length then none
  else
    let rest := dropQuote (rest.drop seps.length)
    let name := rest.takeWhile isNameChar
    if name.isEmpty then none
    else some (String.ofList name, dropQuote (rest.drop name.length))

/-- The names declared in a text, left to right; `fuel` bounds the characters scanned. -/
def declarations : Nat → List Char → List String
  | 0, _ => []
  | _ + 1, [] => []
  | fuel + 1, c :: rest =>
    match declarationAt? (c :: rest) with
    | some (name, after) => name :: declarations fuel after
    | none => declarations fuel rest

/-- The canonical name a declared name stands for: the code of an alias, or a canonical name
itself. -/
def declaredCanonical? (name : String) : Option String :=
  let key := (name.map Char.toLower).replace "-" "_"
  match codecAliases.lookup key with
  | some c => some c
  | none => if codecAliases.any (·.2 == key) then some key else none

def declaredCode? (bs : List UInt8) : Option String :=
  let text := ((bs.take 8192).filter (·.toNat < 128)).map fun b => Char.ofNat b.toNat
  (declarations (text.length + 1) text).findSome? declaredCanonical?

end Detection

end SuggestGateway
