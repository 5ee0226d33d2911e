/-!
# UTF-8

Characters to bytes and back. Decoding replaces each maximal ill-formed subsequence with
U+FFFD: a byte that starts no sequence, or the valid start of a sequence cut short, counts as
one problem, and decoding goes on at the first byte that did not fit. The strict decoder
refuses what the replacing one would replace.
-/
namespace SuggestGateway

namespace Utf8

def encodeChar (c : Char) : List UInt8 :=
  let n := c.toNat
  if n < 0x80 then [n.toUInt8]
  else if n < 0x800 then [(0xC0 + n / 0x40).toUInt8, (0x80 + n % 0x40).toUInt8]
  else if n < 0x10000 then
    [(0xE0 + n / 0x1000).toUInt8, (0x80 + n / 0x40 % 0x40).toUInt8, (0x80 + n % 0x40).toUInt8]
  else
    [(0xF0 + n / 0x40000).toUInt8, (0x80 + n / 0x1000 % 0x40).toUInt8,
      (0x80 + n / 0x40 % 0x40).toUInt8, (0x80 + n % 0x40).toUInt8]

def encode (s : String) : List UInt8 := s.toList.flatMap encodeChar

def continuation? (b : UInt8) : Option Nat :=
  if 0x80 ≤ b.toNat && b.toNat ≤ 0xBF then some (b.toNat - 0x80) else none

/-- The range the second byte of a sequence must fall in, after a given first byte. -/
def secondRange (b : Nat) : Nat × Nat :=
  if b == 0xE0 then (0xA0, 0xBF)
  else if b == 0xED then (0x80, 0x9F)
  else if b == 0xF0 then (0x90, 0xBF)
  else if b == 0xF4 then (0x80, 0x8F)
  else (0x80, 0xBF)

/-- How many bytes a sequence has after the given first byte: `none` for a byte that starts
no sequence. -/
def sequenceLength? (b : Nat) : Option Nat :=
  if b < 0x80 then some 0
  else if 0xC2 ≤ b && b ≤ 0xDF then some 1
  else if 0xE0 ≤ b && b ≤ 0xEF then some 2
  else if 0xF0 ≤ b && b ≤ 0xF4 then some 3
  else none

/-- One step of decoding: the character at the front, or `none` for a problem, with the
bytes after what it used. The step always uses at least one byte. -/
def step : List UInt8 → Option Char × List UInt8
  | [] => (none, [])
  | b :: rest =>
    let n := b.toNat
    match sequenceLength? n with
    | none => (none, rest)
    | some 0 => (some (Char.ofNat n), rest)
    | some 1 =>
      match rest with
      | c :: more =>
        match continuation? c with
        | some x => (some (Char.ofNat ((n - 0xC0) * 0x40 + x)), more)
        | none => (none, rest)
      | [] => (none, rest)
    | some k =>
      let (lo, hi) := secondRange n
      match rest with
      | c :: more =>
        if lo ≤ c.toNat && c.toNat ≤ hi then
          let x := c.toNat - 0x80
          if k == 2 then
            match more with
            | d :: more' =>
              match continuation? d with
              | some y => (some (Char.ofNat (((n - 0xE0) * 0x40 + x) * 0x40 + y)), more')
              | none => (none, more)
            | [] => (none, more)
          else
            match more with
            | d :: more' =>
              match continuation? d with
              | some y =>
                match more' with
                | e :: more'' =>
                  match continuation? e with
                  | some z =>
                    (some (Char.ofNat ((((n - 0xF0) * 0x40 + x) * 0x40 + y) * 0x40 + z)), more'')
                  | none => (none, more')
                | [] => (none, more')
              | none => (none, more)
            | [] => (none, more)
        else (none, rest)
      | [] => (none, rest)

theorem step_length_lt (b : UInt8) (bs : List UInt8) :
    (step (b :: bs)).2.length < bs.length + 1 := by
  simp only [step]
  repeat' split
  all_goals simp <;> omega

def decode (bs : List UInt8) : List Char :=
  match bs with
  | [] => []
  | b :: rest =>
    match h : step (b :: rest) with
    | (c, more) =>
      have : more.length < rest.length + 1 := by
        have := step_length_lt b rest
        rw [h] at this
        exact this
      c.getD '\uFFFD' :: decode more
termination_by bs.length

def decodeMarked (bs : List UInt8) : List (Option Char) :=
  match bs with
  | [] => []
  | b :: rest =>
    match h : step (b :: rest) with
    | (c, more) =>
      have : more.length < rest.length + 1 := by
        have := step_length_lt b rest
        rw [h] at this
        exact this
      c :: decodeMarked more
termination_by bs.length

def decodeStrict? (bs : List UInt8) : Option (List Char) :=
  match bs with
  | [] => some []
  | b :: rest =>
    match h : step (b :: rest) with
    | (c, more) =>
      have : more.length < rest.length + 1 := by
        have := step_length_lt b rest
        rw [h] at this
        exact this
      match c with
      | some c => (decodeStrict? more).map (c :: ·)
      | none => none
termination_by bs.length

def decodeText (bs : List UInt8) : String := String.ofList (decode bs)

end Utf8

end SuggestGateway
