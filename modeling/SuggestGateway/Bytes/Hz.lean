import SuggestGateway.Bytes.Multibyte
/-!
# HZ

The seven-bit code of simplified Chinese text (RFC 1843), decoded with every problem replaced
by U+FFFD. It starts in ASCII; `~{` switches to GB 2312, whose characters are pairs of
seven-bit bytes, and `~}` back. In ASCII `~~` is a tilde and `~` before a line feed drops
both. Any other byte after `~`, a byte beyond ASCII, and a pair that GB 2312 does not map are
problems of their first byte; a `~` or a pair cut off by the end makes the rest one problem.
-/
namespace SuggestGateway

namespace Hz

/-- One step of decoding `b :: rest` in ASCII (`gb` false) or GB 2312: the characters it stands
for, the mode after it, and the bytes after it. -/
def step (rows : Array (Option Nat)) (gb : Bool) (b : UInt8) (rest : List UInt8) :
    List Char × Bool × List UInt8 :=
  if b == 126 then
    match rest with
    | [] => (['�'], gb, [])
    | c :: more =>
      if !gb && c == 126 then (['~'], gb, more)
      else if !gb && c == 123 then ([], true, more)
      else if !gb && c == 10 then ([], gb, more)
      else if gb && c == 125 then ([], false, more)
      else (['�'], gb, c :: more)
  else if 0x80 ≤ b.toNat then (['�'], gb, rest)
  else if !gb then ([Char.ofNat b.toNat], gb, rest)
  else
    match rest with
    | [] => (['�'], gb, [])
    | c :: more =>
      if c.toNat < 0x80 then
        match indexedImage rows (b + 0x80) (c + 0x80) with
        | .chars cs => (cs, gb, more)
        | _ => (['�'], gb, c :: more)
      else (['�'], gb, c :: more)

/-- A step leaves no more bytes than follow the first. -/
theorem step_rest_length (rows : Array (Option Nat)) (gb : Bool) (b : UInt8) (rest : List UInt8) :
    (step rows gb b rest).2.2.length ≤ rest.length := by
  unfold step
  repeat' split
  all_goals simp

def decodeFrom (rows : Array (Option Nat)) (gb : Bool) : List UInt8 → List Char
  | [] => []
  | b :: rest =>
    let r := step rows gb b rest
    r.1 ++ decodeFrom rows r.2.1 r.2.2
termination_by bs => bs.length
decreasing_by exact Nat.lt_succ_of_le (step_rest_length rows gb b rest)

def decode (bs : List UInt8) : String :=
  let rows := match multibyteCode? "gb2312" with
    | some m => rowIndex m.rows
    | none => Array.replicate 256 none
  String.ofList (decodeFrom rows false bs)

end Hz

end SuggestGateway
