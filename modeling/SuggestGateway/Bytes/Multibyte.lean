import SuggestGateway.Bytes.Multibyte.Codes
/-!
# Decoding multibyte codes

A multibyte code is decoded one character at a time, every problem replaced by U+FFFD. A byte
that stands for a character alone is that character, and one that stands for nothing is a
problem of that byte. A lead byte needs a trail byte: at the end of the bytes, the lead and
everything after it are one problem. A pair is looked up in the lead's row; a pair that stands
for nothing is a problem of the lead alone, and decoding goes on at the trail byte, except for
the few pairs that are a problem of both bytes.

The longer sequences need all their bytes, or the rest of the bytes is one problem; when they
are malformed, the lead alone is the problem. Three bytes `0x8F t u` are looked up in a second
set of rows. Four bytes `a d c e` of GB 18030, with `a` and `c` from `81` to `FE` and `d` and
`e` digits, stand for the code point of their linear index: below U+10000 through the runs of
`gbFourByteRuns`, and from `90 30 81 30` on for U+10000 and up. The Hangul spelling
`A4 D4 A4 x A4 y A4 z` stands for the syllable of the initial `x`, the vowel `y` and the final
`z`, `D4` for no final.
-/
namespace SuggestGateway

/-- What a pair of bytes stands for. -/
inductive PairImage where
  | chars (cs : List Char)
  | broken (width : Nat)
  | longer
deriving DecidableEq, Repr

/-- The image of the trail byte `t` in the row `row` of the multibyte rows. -/
def pairImage (row : Nat) (t : UInt8) : PairImage :=
  match multibyteRows[row]? with
  | none => .broken 1
  | some (lo, cs) =>
    if t.toNat < lo then .broken 1
    else
      match cs[t.toNat - lo]? with
      | none => .broken 1
      | some c =>
        if c == '�' then .broken 1
        else if c == '￿' then .longer
        else if c == '￾' then
          match multibyteExceptions.find? (256 * row + t.toNat) with
          | some [] => .broken 2
          | some img => .chars (img.map Char.ofNat)
          | none => .broken 1
        else .chars [c]

/-- Row numbers by byte, from a text of entries `byte:row`. -/
def rowIndex (text : String) : Array (Option Nat) :=
  (tableEntries text).foldl (fun a fs =>
    a.setIfInBounds (hexNumeral (fs.headD "").toList) (some (hexNumeral (fs.getD 1 "").toList)))
    (Array.replicate 256 none)

/-- The image of a pair under an index of rows by lead byte. -/
def indexedImage (index : Array (Option Nat)) (b t : UInt8) : PairImage :=
  match index.getD b.toNat none with
  | some row => pairImage row t
  | none => .broken 1

/-- The initial consonants of the Hangul spelling, by the letter byte from `A1` to `BE`. -/
def initialIndex : List (Option Nat) :=
  [some 0, some 1, none, some 2, none, none, some 3, some 4, some 5, none, none, none, none,
   none, none, none, some 6, some 7, some 8, none, some 9, some 10, some 11, some 12, some 13,
   some 14, some 15, some 16, some 17, some 18]

/-- The final consonants of the Hangul spelling, by the letter byte from `A1` to `BE`. -/
def finalIndex : List (Option Nat) :=
  [some 1, some 2, some 3, some 4, some 5, some 6, some 7, none, some 8, some 9, some 10,
   some 11, some 12, some 13, some 14, some 15, some 16, some 17, none, some 18, some 19,
   some 20, some 21, some 22, none, some 23, some 24, some 25, some 26, some 27]

/-- The syllable of a Hangul spelling by the bytes of its initial, vowel and final. -/
def hangulSyllable? (x y z : UInt8) : Option Char := do
  let initial ← if 0xA1 ≤ x.toNat && x.toNat ≤ 0xBE then initialIndex.getD (x.toNat - 0xA1) none
    else none
  let vowel ← if 0xBF ≤ y.toNat && y.toNat ≤ 0xD3 then some (y.toNat - 0xBF) else none
  let final ← if z == 0xD4 then some 0
    else if 0xA1 ≤ z.toNat && z.toNat ≤ 0xBE then finalIndex.getD (z.toNat - 0xA1) none
    else none
  return Char.ofNat (0xAC00 + initial * 588 + vowel * 28 + final)

/-- The code point of the four bytes `a d c e` of GB 18030, if they stand for one. -/
def gbFourByte? (a d c e : UInt8) : Option Char :=
  if a.toNat < 0x81 || 0xFE < a.toNat || c.toNat < 0x81 || 0xFE < c.toNat ||
      e.toNat < 0x30 || 0x39 < e.toNat then none
  else
    let index := ((a.toNat - 0x81) * 10 + (d.toNat - 0x30)) * 1260 + (c.toNat - 0x81) * 10 +
      (e.toNat - 0x30)
    if a.toNat < 0x85 then
      if index < 39420 then
        let first := gbFourByteRuns.lookup index
        let base := gbFourByteRuns.starts.getD (lastAtOrBelow gbFourByteRuns.starts index 0
          gbFourByteRuns.starts.size) 0
        some (Char.ofNat (first + (index - base)))
      else none
    else if 0x90 ≤ a.toNat then
      let n := 0x10000 + index - 15 * 12600
      if n ≤ 0x10FFFF then some (Char.ofNat n) else none
    else none

namespace MultibyteCode

/-- The tables of a code, read once for a whole text: the bytes alone, the rows of pairs by
lead, and the rows of three-byte sequences by their second byte. -/
structure Tables where
  leads : Array Char
  rows : Array (Option Nat)
  third : Array (Option Nat)

def tables (m : MultibyteCode) : Tables :=
  ⟨m.leads.toList.toArray, rowIndex m.rows, rowIndex m.thirdPlane⟩

/-- The longer sequence that the lead `b` and the trail `t` start, with the bytes after them:
what it stands for and the bytes after it. -/
def longStep (m : MultibyteCode) (tb : Tables) (b t : UInt8) (more : List UInt8) :
    List Char × { r : List UInt8 // r.length ≤ more.length + 1 } :=
  match m.long with
  | .thirdPlane =>
    match more with
    | u :: after =>
      match indexedImage tb.third t u with
      | .chars cs => (cs, ⟨after, Nat.le_succ_of_le (Nat.le_succ _)⟩)
      | _ => (['�'], ⟨t :: u :: after, Nat.le_refl _⟩)
    | [] => (['�'], ⟨[], Nat.zero_le _⟩)
  | .fourByte =>
    match more with
    | c :: e :: after =>
      match gbFourByte? b t c e with
      | some ch => ([ch], ⟨after, Nat.le_add_right _ 3⟩)
      | none => (['�'], ⟨t :: c :: e :: after, Nat.le_refl _⟩)
    | _ => (['�'], ⟨[], Nat.zero_le _⟩)
  | .hangulMakeUp =>
    match more with
    | x1 :: c1 :: x2 :: c2 :: x3 :: c3 :: after =>
      let syllable := if x1 == 0xA4 && x2 == 0xA4 && x3 == 0xA4 then hangulSyllable? c1 c2 c3
        else none
      match syllable with
      | some ch => ([ch], ⟨after, Nat.le_add_right _ 7⟩)
      | none => (['�'], ⟨t :: x1 :: c1 :: x2 :: c2 :: x3 :: c3 :: after, Nat.le_refl _⟩)
    | _ => (['�'], ⟨[], Nat.zero_le _⟩)
  | .none => (['�'], ⟨t :: more, Nat.le_refl _⟩)

/-- One character or one problem from the front of `b :: rest`: what it stands for and the
bytes after it. -/
def step (m : MultibyteCode) (tb : Tables) (b : UInt8) (rest : List UInt8) :
    List Char × { r : List UInt8 // r.length ≤ rest.length } :=
  let c := tb.leads.getD b.toNat '�'
  if c == '￿' then
    match rest with
    | [] => (['�'], ⟨[], Nat.zero_le _⟩)
    | t :: more =>
      match indexedImage tb.rows b t with
      | .chars cs => (cs, ⟨more, Nat.le_succ _⟩)
      | .broken 2 => (['�'], ⟨more, Nat.le_succ _⟩)
      | .broken _ => (['�'], ⟨t :: more, Nat.le_refl _⟩)
      | .longer =>
        let r := longStep m tb b t more
        (r.1, ⟨r.2.1, r.2.2⟩)
  else ([c], ⟨rest, Nat.le_refl _⟩)

def decodeWith (m : MultibyteCode) (tb : Tables) : List UInt8 → List Char
  | [] => []
  | b :: rest =>
    match step m tb b rest with
    | (out, ⟨next, _h⟩) => out ++ decodeWith m tb next
termination_by bs => bs.length
decreasing_by exact Nat.lt_succ_of_le _h

def decode (m : MultibyteCode) (bs : List UInt8) : String :=
  String.ofList (m.decodeWith m.tables bs)

end MultibyteCode

end SuggestGateway
