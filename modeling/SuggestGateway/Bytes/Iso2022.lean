import SuggestGateway.Bytes.Multibyte
/-!
# ISO 2022 codes

The seven-bit codes of Japanese and Korean text that switch among character sets with escape
sequences, decoded one step at a time with every problem replaced by U+FFFD. A text starts
with ASCII in all three sets it can call on.

An escape sequence runs from `ESC` to its final byte, a capital letter or `@`, within sixteen
bytes; in the Japanese codes `ESC & @` may stand before `ESC $ B`. `ESC ( F`, `ESC ) F` and
`ESC . F` designate the set with final byte `F` as the first, second or third set (the third
only where single shifts are known), `ESC $ F` and `ESC $ ( F` a set of two bytes as the first
and `ESC $ ) F` as the second. A sequence the code does not know, or that names a set it does
not have, is a problem of its whole length; one with no final byte within sixteen bytes is a
problem of its `ESC`. After an `ESC` that starts no sequence the bytes stand for their Latin-1
characters up to and including the next final byte.

A line feed, and shift in where shifts are known, return to the first set; shift out moves to
the second. Other control characters stand for themselves, a byte beyond ASCII is a problem,
and the rest is read in the current set: a set of two bytes needs both, and a pair it does not
map is a problem of both bytes. `ESC N b` reads one byte from the third set. A sequence cut off
by the end of the bytes makes the rest of them one problem.
-/
namespace SuggestGateway

/-- A designated set, with its rows read. -/
inductive LoadedSet where
  | ascii
  | roman
  | katakana
  | latin
  | greek
  /-- A set of two bytes, with its rows by first byte. -/
  | double (index : Array (Option Nat))

def GraphicSet.load : GraphicSet → LoadedSet
  | .ascii => .ascii
  | .roman => .roman
  | .katakana => .katakana
  | .latin => .latin
  | .greek => .greek
  | .double rows => .double (rowIndex rows)

/-- Where an ISO 2022 decoder stands: the three designated sets, whether the second is shifted
in, and whether bytes pass through after an unknown escape. -/
structure Iso2022State where
  g0 : LoadedSet := .ascii
  g1 : LoadedSet := .ascii
  g2 : LoadedSet := .ascii
  shifted : Bool := false
  passing : Bool := false

namespace Iso2022State

/-- Designate a set as the first (`0`), second (`1`) or third set. -/
def designate (st : Iso2022State) (slot : Nat) (s : LoadedSet) : Iso2022State :=
  if slot == 0 then { st with g0 := s }
  else if slot == 1 then { st with g1 := s }
  else { st with g2 := s }

end Iso2022State

/-- The final byte of an escape sequence: a capital letter or `@`. -/
def isFinalByte (b : UInt8) : Bool := (65 ≤ b.toNat && b.toNat ≤ 90) || b == 64

/-- How an escape sequence ends. -/
inductive EscapeEnd where
  | cutOff
  | unterminated
  /-- Its length, up to and including the final byte. -/
  | length (n : Nat)

/-- Find the end of the escape sequence at the front of `bs`, looking from index `i`; the prefix
`& @` is stepped over when `prefixed` holds. -/
def escapeEnd (prefixed : Bool) (bs : Array UInt8) (i : Nat) : EscapeEnd :=
  if h : 16 ≤ i then .unterminated
  else if bs.size ≤ i then .cutOff
  else
    let b := bs.getD i 0
    if isFinalByte b then .length (i + 1)
    else if prefixed && i + 1 < bs.size && b == 38 && bs.getD (i + 1) 0 == 64 then
      escapeEnd prefixed bs (i + 3)
    else escapeEnd prefixed bs (i + 1)
termination_by 16 - i

/-- What an escape sequence does: designate a set by its final byte (`0x80` added for a set of
two bytes) in a slot, or be a problem of some bytes, or be cut off. -/
inductive EscapeAction where
  | designate (slot mark length : Nat)
  | broken (length : Nat)
  | cutOff

namespace Iso2022Code

/-- What the escape sequence at the front of `bs` does. -/
def escape (code : Iso2022Code) (bs : Array UInt8) : EscapeAction :=
  let byteAt := fun i => bs.getD i 0
  match escapeEnd code.prefixed bs 1 with
  | .cutOff => .cutOff
  | .unterminated => .broken 1
  | .length 3 =>
    if byteAt 1 == 36 then .designate 0 ((byteAt 2).toNat ||| 0x80) 3
    else if byteAt 1 == 40 then .designate 0 (byteAt 2).toNat 3
    else if byteAt 1 == 41 then .designate 1 (byteAt 2).toNat 3
    else if code.singleShift && byteAt 1 == 46 then .designate 2 (byteAt 2).toNat 3
    else .broken 3
  | .length 4 =>
    if byteAt 1 != 36 then .broken 4
    else if byteAt 2 == 40 then .designate 0 ((byteAt 3).toNat ||| 0x80) 4
    else if byteAt 2 == 41 then .designate 1 ((byteAt 3).toNat ||| 0x80) 4
    else .broken 4
  | .length 6 =>
    if code.prefixed && byteAt 3 == 27 && byteAt 4 == 36 && byteAt 5 == 66 then
      .designate 0 0xC2 6
    else .broken 6
  | .length n => .broken n

def romanChar (b : UInt8) : Char :=
  if b == 0x5C then '¥' else if b == 0x7E then '‾' else Char.ofNat b.toNat

/-- The character a single shift reads from the third set, if the byte stands for one. -/
def shiftedChar (s : LoadedSet) (b : UInt8) : Option Char :=
  match s with
  | .ascii => if b.toNat < 0x80 then some (Char.ofNat b.toNat) else none
  | .latin => if b.toNat < 0x80 then some (Char.ofNat (b.toNat + 0x80)) else none
  | .greek =>
    let c := (greekShifted.toList.drop b.toNat).headD '�'
    if c == '�' then none else some c
  | _ => none

/-- Whether a byte after `ESC` starts an escape sequence: `(`, `)`, `$`, `.` or `&`. -/
def isEscapeStart (c : UInt8) : Bool := c == 40 || c == 41 || c == 36 || c == 46 || c == 38

/-- One step of decoding `b :: rest`: the characters it stands for, the new state, and the
bytes after it. -/
def step (code : Iso2022Code) (sets : List (Nat × LoadedSet)) (st : Iso2022State) (b : UInt8)
    (rest : List UInt8) : List Char × Iso2022State × List UInt8 :=
  if st.passing then
    ([Char.ofNat b.toNat], { st with passing := !isFinalByte b }, rest)
  else if b == 27 then
    match rest with
    | [] => (['�'], st, [])
    | c :: more =>
      if isEscapeStart c then
        match code.escape ((b :: c :: more).take 16).toArray with
        | .cutOff => (['�'], st, [])
        | .broken n => (['�'], st, (c :: more).drop (n - 1))
        | .designate slot mark n =>
          let found := if mark == 0x42 then some LoadedSet.ascii else sets.lookup mark
          match found with
          | some s => ([], st.designate slot s, (c :: more).drop (n - 1))
          | none => (['�'], st, (c :: more).drop (n - 1))
      else if code.singleShift && c == 78 then
        match more with
        | [] => (['�'], st, [])
        | d :: after => ([(shiftedChar st.g2 d).getD '�'], st, after)
      else (['\x1b'], { st with passing := true }, c :: more)
  else if b == 15 && code.shifts then ([], { st with shifted := false }, rest)
  else if b == 14 && code.shifts then ([], { st with shifted := true }, rest)
  else if b == 10 then (['\n'], { st with shifted := false }, rest)
  else if b.toNat < 0x20 then ([Char.ofNat b.toNat], st, rest)
  else if 0x80 ≤ b.toNat then (['�'], st, rest)
  else
    match (if st.shifted then st.g1 else st.g0) with
    | .ascii => ([Char.ofNat b.toNat], st, rest)
    | .roman => ([romanChar b], st, rest)
    | .katakana =>
      ([if 0x21 ≤ b.toNat && b.toNat ≤ 0x5F then Char.ofNat (0xFF40 + b.toNat) else '�'], st,
        rest)
    | .latin => (['�'], st, rest)
    | .greek => (['�'], st, rest)
    | .double index =>
      match rest with
      | [] => (['�'], st, [])
      | c :: more =>
        if c.toNat < 0x80 then
          match indexedImage index b (c + 0x80) with
          | .chars cs => (cs, st, more)
          | _ => (['�'], st, more)
        else (['�'], st, more)

/-- A step leaves no more bytes than follow the first. -/
theorem step_rest_length (code : Iso2022Code) (sets : List (Nat × LoadedSet)) (st : Iso2022State)
    (b : UInt8) (rest : List UInt8) : (step code sets st b rest).2.2.length ≤ rest.length := by
  unfold step
  dsimp only
  repeat' split
  all_goals simp
  all_goals omega

def decodeFrom (code : Iso2022Code) (sets : List (Nat × LoadedSet)) (st : Iso2022State) :
    List UInt8 → List Char
  | [] => []
  | b :: rest =>
    let r := step code sets st b rest
    r.1 ++ decodeFrom code sets r.2.1 r.2.2
termination_by bs => bs.length
decreasing_by exact Nat.lt_succ_of_le (step_rest_length code sets st b rest)

def decode (code : Iso2022Code) (bs : List UInt8) : String :=
  String.ofList (code.decodeFrom (code.sets.map fun (m, s) => (m, s.load)) {} bs)

end Iso2022Code

end SuggestGateway
