/-!
# Blank characters

The characters that count as blank where text is stripped or split: the ASCII controls from
tab to carriage return and from `U+001C` to `U+001F`, and the characters of the Unicode
categories of spaces and of line and paragraph separators, with `U+0085`. Stripping removes
them from the ends of a text.
-/
namespace SuggestGateway

def blankRanges : List (Nat × Nat) := [
  (0x9, 0xD), (0x1C, 0x20), (0x85, 0x85), (0xA0, 0xA0),
  (0x1680, 0x1680), (0x2000, 0x200A), (0x2028, 0x2029), (0x202F, 0x202F),
  (0x205F, 0x205F), (0x3000, 0x3000)]

def isBlank (c : Char) : Bool := blankRanges.any fun r => r.1 ≤ c.toNat && c.toNat ≤ r.2

def stripStart (s : String) : String := String.ofList (s.toList.dropWhile isBlank)

def stripEnd (s : String) : String :=
  String.ofList (s.toList.reverse.dropWhile isBlank).reverse

def strip (s : String) : String := stripEnd (stripStart s)

end SuggestGateway
