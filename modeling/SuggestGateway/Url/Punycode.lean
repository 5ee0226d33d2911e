/-!
# Punycode

The bootstring encoding of RFC 3492 that internationalized domain names use: a label's ASCII
characters are written first, then a hyphen if there were any, then the other code points as
variable-length base-36 numbers. Each number is the distance, counted over the positions of
the text, from the previous insertion to the next one, walking the code points in increasing
order; the thresholds between digits adapt to the distances seen so far.

Decoding reverses this. A malformed input is reported as such.
-/
namespace SuggestGateway

namespace Punycode

/-- The digit of a value below 36: `a` to `z`, then `0` to `9`. -/
def digitChar (d : Nat) : Char :=
  if d < 26 then Char.ofNat ('a'.toNat + d) else Char.ofNat ('0'.toNat + d - 26)

def digitOf? (c : Char) : Option Nat :=
  if 'a' ≤ c && c ≤ 'z' then some (c.toNat - 'a'.toNat)
  else if 'A' ≤ c && c ≤ 'Z' then some (c.toNat - 'A'.toNat)
  else if '0' ≤ c && c ≤ '9' then some (c.toNat - '0'.toNat + 26)
  else none

/-- The threshold of the digit at position `j` of a number under a bias, between 1 and 26. -/
def threshold (j bias : Nat) : Nat :=
  if 36 * (j + 1) ≤ bias + 1 then 1
  else if bias + 26 ≤ 36 * (j + 1) then 26
  else 36 * (j + 1) - bias

theorem threshold_pos (j bias : Nat) : 1 ≤ threshold j bias := by
  unfold threshold
  split
  · omega
  · split <;> omega

theorem threshold_le (j bias : Nat) : threshold j bias ≤ 26 := by
  unfold threshold
  split
  · omega
  · split <;> omega

/-- Divide a scaled distance by 35 until it is at most 455, counting 36 for each division. -/
def shrink (delta divisions : Nat) : Nat × Nat :=
  if 455 < delta then shrink (delta / 35) (divisions + 36) else (delta, divisions)
termination_by delta
decreasing_by exact Nat.div_lt_self (by omega) (by omega)

/-- The bias after a distance, given how many code points the text has so far and whether it
was the first distance. -/
def adapt (delta count : Nat) (first : Bool) : Nat :=
  let d := if first then delta / 700 else delta / 2
  let d := d + d / count
  let (d, divisions) := shrink d 0
  divisions + 36 * d / (d + 38)

def encodeNumber (bias j q : Nat) : List Char :=
  let t := threshold j bias
  if q < t then [digitChar q]
  else digitChar (t + (q - t) % (36 - t)) :: encodeNumber bias (j + 1) ((q - t) / (36 - t))
termination_by q
decreasing_by
  have _ := threshold_pos j bias
  have _ := threshold_le j bias
  calc (q - threshold j bias) / (36 - threshold j bias)
      ≤ q - threshold j bias := Nat.div_le_self _ _
    _ < q := by omega

/-- The state of encoding: the digits so far, the running distance, the bias, and how many
code points are placed. -/
structure Encoding where
  digits : List Char
  delta : Nat
  bias : Nat
  placed : Nat

/-- Walk the text once for the code point `m`: smaller code points lengthen the distance, and
each occurrence of `m` writes the distance so far. -/
def visit (basic m : Nat) (e : Encoding) (c : Char) : Encoding :=
  if c.toNat < m then { e with delta := e.delta + 1 }
  else if c.toNat == m then
    { digits := e.digits ++ encodeNumber e.bias 0 e.delta, delta := 0,
      bias := adapt e.delta (e.placed + 1) (e.placed == basic), placed := e.placed + 1 }
  else e

/-- Encode the code points to insert, in increasing order, each after the previous `n`. -/
def insertAll (text : List Char) (basic : Nat) : List Nat → Nat → Encoding → Encoding
  | [], _, e => e
  | m :: rest, n, e =>
    let e := { e with delta := e.delta + (m - n) * (e.placed + 1) }
    let e := text.foldl (visit basic m) e
    insertAll text basic rest (m + 1) { e with delta := e.delta + 1 }

def insertSorted (x : Nat) : List Nat → List Nat
  | [] => [x]
  | y :: ys => if x < y then x :: y :: ys else if x == y then y :: ys else y :: insertSorted x ys

/-- The Punycode form of a text, without the `xn--` prefix. -/
def encode (text : List Char) : List Char :=
  let basic := text.filter (·.toNat < 128)
  let others := (text.filter (128 ≤ ·.toNat)).foldr (fun c acc => insertSorted c.toNat acc) []
  let e := insertAll text basic.length others 128 ⟨[], 0, 72, basic.length⟩
  basic ++ (if basic.isEmpty then [] else ['-']) ++ e.digits

/-- The outcome of reading one number of the extended part. -/
inductive NumberRead where
  /-- The number, and the characters after it. -/
  | value (v : Nat) (rest : List Char)
  /-- The characters ran out inside the number. -/
  | incomplete
  /-- A character that is not an upper-case letter or a digit. -/
  | invalid (c : Char)

/-- Read one number from digit position `j` on, added to `acc` with weight `w`. The extended
part is in upper case, so its digits are `A` to `Z` and `0` to `9`. -/
def readNumber (bias : Nat) : List Char → Nat → Nat → Nat → NumberRead
  | [], _, _, _ => .incomplete
  | c :: rest, j, w, acc =>
    let n := c.toNat
    let digit? := if 0x41 ≤ n && n ≤ 0x5A then some (n - 0x41)
      else if 0x30 ≤ n && n ≤ 0x39 then some (n - 22) else none
    match digit? with
    | none => .invalid c
    | some d =>
      let acc := acc + d * w
      let t := threshold j bias
      if d < t then .value acc rest else readNumber bias rest (j + 1) (w * (36 - t)) acc

theorem readNumber_rest {bias : Nat} {cs : List Char} {j w acc v : Nat} {rest : List Char}
    (h : readNumber bias cs j w acc = .value v rest) : rest.length < cs.length := by
  induction cs generalizing j w acc with
  | nil => simp [readNumber] at h
  | cons c cs ih =>
    simp only [readNumber] at h
    split at h
    · simp at h
    · split at h
      · simp only [NumberRead.value.injEq] at h
        rw [← h.2]
        simp
      · have := ih h
        simp only [List.length_cons]
        omega

/-- Insert the code points of the extended part into `text`. `pos` is one past the previous
insertion, `n` the last code point inserted. A malformed number ends decoding: in strict mode
with an error, otherwise keeping what was inserted so far. A code point beyond Unicode is an
error in strict mode and becomes `?` otherwise. -/
def insertDecoded (strict : Bool) (ext : List Char) (text : List Char) (n pos bias : Nat)
    (first : Bool) : Except String (List Char) :=
  if ext.isEmpty then .ok text
  else
    match h : readNumber bias ext 0 1 0 with
    | .incomplete => if strict then .error "incomplete punicode string" else .ok text
    | .invalid c =>
      if strict then .error ("Invalid extended code point '" ++ c.toString ++ "'") else .ok text
    | .value delta rest =>
      have := readNumber_rest h
      let count := text.length + 1
      let spot := pos + delta
      let n := n + spot / count
      let spot := spot % count
      if strict && 0x10FFFF < n then .error "Invalid character"
      else
        let n := if 0x10FFFF < n then 63 else n
        let text := text.take spot ++ Char.ofNat n :: text.drop spot
        insertDecoded strict rest text n (spot + 1) (adapt delta text.length first) false
termination_by ext.length

/-- Decode Punycode bytes: the part before the last hyphen is taken as it is (each non-ASCII
byte replaced by U+FFFD, or an error in strict mode), the part after it is decoded and must be
ASCII. -/
def decodeBytes (strict : Bool) (bs : List UInt8) : Except String (List Char) :=
  let hyphen := bs.length - 1 - ((bs.reverse.findIdx? (· == 45)).getD bs.length)
  let (basic, ext) := match bs.reverse.findIdx? (· == 45) with
    | some _ => (bs.take hyphen, bs.drop (hyphen + 1))
    | none => ([], bs)
  match ext.zipIdx.find? (128 ≤ ·.1.toNat) with
  | some (b, i) =>
    .error ("'ascii' codec can't decode byte 0x" ++ String.ofList (Nat.toDigits 16 b.toNat) ++
      " in position " ++ toString i ++ ": ordinal not in range(128)")
  | none =>
    if strict && basic.any (128 ≤ ·.toNat) then .error "non-ASCII basic code point"
    else
      let text := basic.map fun b => if b.toNat < 128 then Char.ofNat b.toNat else '\uFFFD'
      let ext := ext.map fun b => (Char.ofNat b.toNat).toUpper
      insertDecoded strict ext text 128 0 72 true

end Punycode

end SuggestGateway
