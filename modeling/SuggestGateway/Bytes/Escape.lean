/-!
# Backslash escapes

Two ways of spelling characters in bytes with backslash escapes, decoded with every problem
replaced by U+FFFD. A byte that starts no escape stands for the character of the same number,
so bytes beyond ASCII read as Latin-1.

The full form knows the escapes of string literals: a backslash before a line break drops
both; `\\`, `\'`, `\"`, `\a`, `\b`, `\f`, `\n`, `\r`, `\t` and `\v`; one to three octal
digits; `\x` with two hex digits, `\u` with four and `\U` with eight, the last at most
U+10FFFF; and `\N` with a character name in braces. A backslash before any other byte is kept
with it. The raw form knows `\u` and `\U` only, and a backslash before any other byte keeps
both, so that an even run of backslashes stays as it is.

A malformed escape becomes one U+FFFD from its backslash up to the byte that breaks it, and
decoding goes on at that byte. A backslash at the end is malformed in the full form and kept
in the raw one. The full form takes the lookup of character names as an argument.
-/
namespace SuggestGateway

namespace Escape

def hexValue? (b : UInt8) : Option Nat :=
  let n := b.toNat
  if 48 ≤ n && n ≤ 57 then some (n - 48)
  else if 97 ≤ n && n ≤ 102 then some (n - 87)
  else if 65 ≤ n && n ≤ 70 then some (n - 55)
  else none

/-- The character of a code point, U+FFFD for a surrogate. -/
def codeChar (n : Nat) : Char :=
  if 0xD800 ≤ n && n ≤ 0xDFFF then '�' else Char.ofNat n

/-- The value of `count` hex digits at the front, with the rest; or the rest from the first
byte that is no hex digit when they run out early. -/
def hexDigits : Nat → Nat → List UInt8 → Except (List UInt8) (Nat × List UInt8)
  | 0, v, bs => .ok (v, bs)
  | k + 1, v, b :: bs =>
    match hexValue? b with
    | some d => hexDigits k (16 * v + d) bs
    | none => .error (b :: bs)
  | _ + 1, _, [] => .error []

theorem hexDigits_length {k v : Nat} {bs rest : List UInt8} {w : Nat} :
    hexDigits k v bs = .ok (w, rest) → rest.length ≤ bs.length := by
  induction k generalizing v bs with
  | zero => intro h; simp [hexDigits] at h; obtain ⟨-, rfl⟩ := h; exact Nat.le_refl _
  | succ k ih =>
    cases bs with
    | nil => intro h; simp [hexDigits] at h
    | cons b bs =>
      intro h
      simp only [hexDigits] at h
      split at h
      · have := ih h; simp; omega
      · simp at h

theorem hexDigits_error_length {k v : Nat} {bs rest : List UInt8} :
    hexDigits k v bs = .error rest → rest.length ≤ bs.length := by
  induction k generalizing v bs with
  | zero => intro h; simp [hexDigits] at h
  | succ k ih =>
    cases bs with
    | nil => intro h; simp [hexDigits] at h; subst h; exact Nat.le_refl _
    | cons b bs =>
      intro h
      simp only [hexDigits] at h
      split at h
      · have := ih h; simp; omega
      · simp at h; subst h; exact Nat.le_refl _

/-- The escape of a single character after a backslash, in the full form. -/
def simpleEscape? : UInt8 → Option Char
  | 92 => some '\\'
  | 39 => some '\''
  | 34 => some '"'
  | 97 => some '\x07'
  | 98 => some '\x08'
  | 102 => some '\x0c'
  | 110 => some '\n'
  | 114 => some '\r'
  | 116 => some '\t'
  | 118 => some '\x0b'
  | _ => none

def isOctal (b : UInt8) : Bool := 48 ≤ b.toNat && b.toNat ≤ 55

/-- Up to two more octal digits after a first one, with the rest. -/
def octalTail (v : Nat) : List UInt8 → Nat × List UInt8
  | a :: b :: rest =>
    if isOctal a then
      if isOctal b then (64 * v + 8 * (a.toNat - 48) + (b.toNat - 48), rest)
      else (8 * v + (a.toNat - 48), b :: rest)
    else (v, a :: b :: rest)
  | [a] => if isOctal a then (8 * v + (a.toNat - 48), []) else (v, [a])
  | [] => (v, [])

theorem octalTail_length (v : Nat) (bs : List UInt8) : (octalTail v bs).2.length ≤ bs.length := by
  unfold octalTail
  split
  · split
    · split
      · simp
        omega
      · simp
    · simp
  · split <;> simp
  · simp

/-- The bytes of a braced name up to its closing brace, and the rest after the brace. -/
def bracedName : List UInt8 → Option (List UInt8 × List UInt8)
  | [] => none
  | b :: rest =>
    if b == 125 then some ([], rest) else (bracedName rest).map fun (n, r) => (b :: n, r)

theorem bracedName_length {bs name rest : List UInt8} :
    bracedName bs = some (name, rest) → rest.length < bs.length := by
  induction bs generalizing name rest with
  | nil => simp [bracedName]
  | cons b bs ih =>
    simp only [bracedName]
    split
    · intro h; simp at h; rw [← h.2]; simp
    · intro h
      simp only [Option.map_eq_some_iff, Prod.exists] at h
      obtain ⟨n, r, h1, h2⟩ := h
      simp at h2
      rw [← h2.2]
      have := ih h1
      simp; omega

/-- A hex escape of `count` digits: its character, or U+FFFD when a digit is missing or the
value is beyond U+10FFFF; and the bytes after it. -/
def hexEscape (count : Nat) (bs : List UInt8) : Char × List UInt8 :=
  match hexDigits count 0 bs with
  | .ok (v, after) => (if v ≤ 0x10FFFF then codeChar v else '�', after)
  | .error after => ('�', after)

theorem hexEscape_length (count : Nat) (bs : List UInt8) :
    (hexEscape count bs).2.length ≤ bs.length := by
  unfold hexEscape
  split
  · rename_i h; exact hexDigits_length h
  · rename_i h; exact hexDigits_error_length h

/-- A `\N` escape, from the bytes after the `N`: the character its braced name names, and the
bytes after it. Without a brace it stands for U+FFFD and ends before the byte found; an
unclosed brace runs to the end; an empty name ends before the closing brace. -/
def namedEscape (named? : String → Option Char) : List UInt8 → Char × List UInt8
  | 123 :: inner =>
    match bracedName inner with
    | some (name, after) =>
      if name.isEmpty then ('�', 125 :: after)
      else ((named? (String.ofList (name.map fun b => Char.ofNat b.toNat))).getD '�', after)
    | none => ('�', [])
  | bs => ('�', bs)

theorem namedEscape_length (named? : String → Option Char) (bs : List UInt8) :
    (namedEscape named? bs).2.length ≤ bs.length := by
  unfold namedEscape
  split
  · rename_i inner
    split
    · rename_i name after h
      have := bracedName_length h
      split <;> simp <;> omega
    · simp
  · simp

/-- One escape of the full form, from the bytes after its backslash: what it stands for and
the bytes after it. -/
def fullEscape (named? : String → Option Char) : List UInt8 → List Char × List UInt8
  | [] => (['�'], [])
  | c :: more =>
    if c == 10 then ([], more)
    else match simpleEscape? c with
    | some e => ([e], more)
    | none =>
      if isOctal c then
        let r := octalTail (c.toNat - 48) more
        ([codeChar r.1], r.2)
      else if c == 120 then
        let r := hexEscape 2 more
        ([r.1], r.2)
      else if c == 117 then
        let r := hexEscape 4 more
        ([r.1], r.2)
      else if c == 85 then
        let r := hexEscape 8 more
        ([r.1], r.2)
      else if c == 78 then
        let r := namedEscape named? more
        ([r.1], r.2)
      else (['\\', Char.ofNat c.toNat], more)

theorem fullEscape_length (named? : String → Option Char) (bs : List UInt8) :
    (fullEscape named? bs).2.length ≤ bs.length := by
  cases bs with
  | nil => simp [fullEscape]
  | cons c more =>
    have h1 := octalTail_length (c.toNat - 48) more
    have h2 := hexEscape_length 2 more
    have h4 := hexEscape_length 4 more
    have h8 := hexEscape_length 8 more
    have hn := namedEscape_length named? more
    simp only [fullEscape]
    split
    · simp
    · split
      · simp
      · split
        · simp; omega
        · split
          · simp; omega
          · split
            · simp; omega
            · split
              · simp; omega
              · split
                · simp; omega
                · simp

/-- Decode the full form, with `named?` for the names of `\N\x7b…\x7d`. -/
def decodeFull (named? : String → Option Char) : List UInt8 → List Char
  | [] => []
  | b :: rest =>
    if b != 92 then Char.ofNat b.toNat :: decodeFull named? rest
    else
      have := fullEscape_length named? rest
      (fullEscape named? rest).1 ++ decodeFull named? (fullEscape named? rest).2
termination_by bs => bs.length

/-- One escape of the raw form, from the bytes after its backslash. -/
def rawEscape : List UInt8 → List Char × List UInt8
  | [] => (['\\'], [])
  | c :: more =>
    if c == 117 then
      let r := hexEscape 4 more
      ([r.1], r.2)
    else if c == 85 then
      let r := hexEscape 8 more
      ([r.1], r.2)
    else (['\\', Char.ofNat c.toNat], more)

theorem rawEscape_length (bs : List UInt8) : (rawEscape bs).2.length ≤ bs.length := by
  cases bs with
  | nil => simp [rawEscape]
  | cons c more =>
    have h4 := hexEscape_length 4 more
    have h8 := hexEscape_length 8 more
    simp only [rawEscape]
    split
    · simp; omega
    · split
      · simp; omega
      · simp

def decodeRaw : List UInt8 → List Char
  | [] => []
  | b :: rest =>
    if b != 92 then Char.ofNat b.toNat :: decodeRaw rest
    else
      have := rawEscape_length rest
      (rawEscape rest).1 ++ decodeRaw (rawEscape rest).2
termination_by bs => bs.length

end Escape

end SuggestGateway
