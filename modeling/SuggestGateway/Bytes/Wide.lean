/-!
# UTF-16 and UTF-32

Decoding the wide Unicode forms, in either byte order. In UTF-16 a high surrogate joins the low
one after it; a surrogate left alone, and an odd byte at the end, each become U+FFFD. In
UTF-32 every four bytes are one code point, and one that is no character, or one to three
bytes left at the end, become U+FFFD. The strict decoders refuse what would be replaced.
-/
namespace SuggestGateway

/-- The order of the bytes of a code unit. -/
inductive ByteOrder where
  | little
  | big
deriving DecidableEq, Repr

def ByteOrder.unit16 (o : ByteOrder) (a b : UInt8) : Nat :=
  match o with
  | .little => b.toNat * 0x100 + a.toNat
  | .big => a.toNat * 0x100 + b.toNat

def ByteOrder.unit32 (o : ByteOrder) (a b c d : UInt8) : Nat :=
  match o with
  | .little => ((d.toNat * 0x100 + c.toNat) * 0x100 + b.toNat) * 0x100 + a.toNat
  | .big => ((a.toNat * 0x100 + b.toNat) * 0x100 + c.toNat) * 0x100 + d.toNat

namespace Utf16

/-- Decode UTF-16 in the given order; `none` marks a problem. -/
def decodeMarked (o : ByteOrder) : List UInt8 → List (Option Char)
  | [] => []
  | [_] => [none]
  | a :: b :: rest =>
    let u := o.unit16 a b
    if 0xD800 ≤ u && u ≤ 0xDBFF then
      match rest with
      | c :: d :: more =>
        let v := o.unit16 c d
        if 0xDC00 ≤ v && v ≤ 0xDFFF then
          some (Char.ofNat (0x10000 + (u - 0xD800) * 0x400 + (v - 0xDC00))) :: decodeMarked o more
        else none :: decodeMarked o (c :: d :: more)
      | _ => [none]
    else if 0xDC00 ≤ u && u ≤ 0xDFFF then none :: decodeMarked o rest
    else some (Char.ofNat u) :: decodeMarked o rest

end Utf16

namespace Utf32

/-- Decode UTF-32 in the given order; `none` marks a problem. -/
def decodeMarked (o : ByteOrder) : List UInt8 → List (Option Char)
  | a :: b :: c :: d :: rest =>
    let u := o.unit32 a b c d
    (if u < 0x110000 && !(0xD800 ≤ u && u ≤ 0xDFFF) then some (Char.ofNat u) else none) ::
      decodeMarked o rest
  | [] => []
  | _ => [none]

end Utf32

def replaceMarked (cs : List (Option Char)) : List Char := cs.map (·.getD '\uFFFD')

def strictMarked (cs : List (Option Char)) : Option (List Char) := cs.mapM id

end SuggestGateway
