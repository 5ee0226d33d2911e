import SuggestGateway.Detection.Mess
import SuggestGateway.Detection.Coherence
import SuggestGateway.Detection.Candidates
/-!
# Guessing the code of undeclared text

The candidate codes are tried in turn: first the code the bytes declare, the code of their mark
and ASCII and UTF-8, then all the others in the order of their names. UTF-16 and UTF-32 are
tried only after their byte order mark, and UTF-7 only after its signature.

A code that cannot decode the bytes strictly is out, and so is one similar to a code found too
messy before. The decoded text is judged in parts: a single part up to 2560 bytes, five parts
of 512 bytes from evenly spread offsets above that. A code whose parts are on average as messy
as 0.2, or of which enough parts are that messy, is found too messy; ASCII, UTF-8 and the
declared code are kept aside then, to fall back on when no code passes. A code that passes is
weighed with the languages its text reads as, and joins the guesses.

The search stops early: at ASCII, UTF-8 or the declared code with no mess at all; at the first
passing code once those three have been tried and one of them was below 0.1 (the best such
then); and at the code of the mark. The guesses are kept in order: a guess comes before another
that is clearly messier, by a hundredth or more; within a hundredth, a clearly better language
match by more than two hundredths comes first, and else the guess reading more bytes per
character. The order is kept by sorting the guesses anew, as a stable binary insertion sort
does, after each guess; a guess that reads the same text as one before with the same mess is
counted with it. The best guess is the first.
-/
namespace SuggestGateway

namespace Detection

open Binary64

/-- A code the bytes may be in, with how its text was judged. -/
structure Guess where
  code : String
  chaos : Binary64
  /-- The best ratio among the languages the text reads as. -/
  coherence : Binary64
  text : List Char
  marked : Bool
  /-- Codes of the same text and mess counted with this guess. -/
  alike : List String := []

/-- The share of bytes that went into characters of more than one byte. -/
def Guess.multiByteUsage (g : Guess) (size : Nat) : Binary64 :=
  ofUnits (Nat.pow 2 1074 - (quotient g.text.length size).units)

/-- Whether one guess comes before another, for bytes of the given size. -/
def Guess.before (size : Nat) (a b : Guess) : Bool :=
  let close := (distance a.chaos b.chaos).lt (quotient 1 100)
  if close && (quotient 1 50).lt (distance a.coherence b.coherence) then b.coherence.lt a.coherence
  else if close then (b.multiByteUsage size).lt (a.multiByteUsage size)
  else a.chaos.lt b.chaos

/-- The length of the run at the front: ascending (no element before its predecessor) or
strictly descending, and which. -/
def frontRun (before : Guess → Guess → Bool) : List Guess → Nat × Bool
  | [] => (0, false)
  | [_] => (1, false)
  | a :: b :: rest =>
    let rec ascending (prev : Guess) : List Guess → Nat
      | [] => 0
      | x :: xs => if before x prev then 0 else 1 + ascending x xs
    let rec descending (prev : Guess) : List Guess → Nat
      | [] => 0
      | x :: xs => if before x prev then 1 + descending x xs else 0
    if before b a then (2 + descending b rest, true) else (2 + ascending b rest, false)

/-- Where a guess goes among the sorted ones from `lo` to `hi`: after every one it does not
come before. -/
def insertionPoint (before : Guess → Guess → Bool) (sorted : Array Guess) (g : Guess)
    (lo hi : Nat) : Nat :=
  if lo < hi then
    let mid := lo + (hi - lo) / 2
    match sorted[mid]? with
    | some m =>
      if before g m then insertionPoint before sorted g lo mid
      else insertionPoint before sorted g (mid + 1) hi
    | none => lo
  else lo
termination_by hi - lo

/-- Sort guesses: the run at the front, reversed when descending, then each later guess put in
place by binary search. -/
def sortGuesses (before : Guess → Guess → Bool) (gs : List Guess) : List Guess :=
  let (n, down) := frontRun before gs
  let run := if down then (gs.take n).reverse else gs.take n
  ((gs.drop n).foldl (fun (sorted : Array Guess) g =>
    let i := insertionPoint before sorted g 0 sorted.size
    (sorted.extract 0 i).push g ++ sorted.extract i sorted.size) run.toArray).toList

/-- Add a guess: counted with the first one of the same text and mess, or else added and the
guesses sorted anew. -/
def addGuess (size : Nat) (gs : List Guess) (g : Guess) : List Guess :=
  let same := fun (m : Guess) => m.text == g.text && m.chaos == g.chaos
  if gs.any same then
    let rec merge : List Guess → List Guess
      | [] => []
      | m :: ms => if same m then { m with alike := m.alike ++ [g.code] } :: ms else m :: merge ms
    merge gs
  else sortGuesses (Guess.before size) (gs ++ [g])

/-- What the bytes are, for the search. -/
structure Setting where
  bytes : List UInt8
  /-- How many parts are judged, and how many bytes each. -/
  steps : Nat
  partSize : Nat
  declared : Option String
  mark : Option (String × List UInt8)

/-- Where the search stands. -/
structure Progress where
  tried : List String := []
  tooMessy : List String := []
  fallbackAscii : Option Guess := none
  fallbackUtf8 : Option Guess := none
  fallbackDeclared : Option Guess := none
  guesses : List Guess := []
  early : List Guess := []

def threshold : Binary64 := quotient 1 5

/-- Bytes from `start` to `stop`, a negative start counting from the end. -/
def sliceBytes (bs : List UInt8) (start : Int) (stop : Nat) : List UInt8 :=
  let first := if start < 0 then (bs.length - start.natAbs : Nat) else start.toNat
  (bs.take stop).drop first

def holdsRun (xs part : List Char) : Bool :=
  let rec go : List Char → Bool
    | [] => part.isEmpty
    | y :: ys => part.isPrefixOf (y :: ys) || go ys
  go xs

/-- What the text holds at a byte offset. -/
inductive PartAt where
  /-- The text ends before the offset: no more parts. -/
  | over
  /-- The offset is left out: a part from it would run too far past the end. -/
  | skipped
  | broken
  | part (cs : List Char)

/-- The part of the text at a byte offset: the characters of a single-byte text from there, or
the bytes from there decoded on their own (after the mark, when the code keeps it). A part of
a multibyte code that does not occur in the whole text is cut again up to three bytes
earlier. -/
def partAt (s : Setting) (codec : Codec) (multi keepMark : Bool) (decoded : List Char)
    (i : Nat) : PartAt :=
  if !decoded.isEmpty && !multi then
    let part := (decoded.drop i).take s.partSize
    if part.isEmpty then .over else .part part
  else
    let stop := i + s.partSize
    if s.bytes.length + 8 < stop then .skipped
    else
      let markBytes := if keepMark then (s.mark.map (·.2)).getD [] else []
      let cut := markBytes ++ (s.bytes.drop i).take s.partSize
      if !multi then
        match codec.decodeStrict? cut with
        | some part => .part part
        | none => .broken
      else
        let part := codec.decodeIgnoring cut
        let k := min s.partSize 16
        if 0 < i && !decoded.isEmpty && !holdsRun decoded (part.take k) then
          let retry := fun (j : Int) =>
            codec.decodeIgnoring (markBytes ++ sliceBytes s.bytes j stop)
          let tries := [(i : Int), i - 1, i - 2, i - 3].map retry
          .part ((tries.find? fun p => holdsRun decoded (p.take k)).getD (tries.getLastD part))
        else .part part

/-- The parts of a text judged so far. -/
structure Judged where
  messes : List Binary64 := []
  parts : List (List Char) := []
  messy : Nat := 0
  broken : Bool := false

/-- Judge the parts at the offsets in turn, until `giveUp` of them are messy, or after the
first when `once` holds. A part that fails to decode counts as giving up. -/
def judgeParts (s : Setting) (codec : Codec) (multi keepMark : Bool) (decoded : List Char)
    (giveUp : Nat) (once : Bool) : List Nat → Judged → Judged
  | [], j => j
  | i :: rest, j =>
    match partAt s codec multi keepMark decoded i with
    | .over => j
    | .skipped => judgeParts s codec multi keepMark decoded giveUp once rest j
    | .broken => { j with messy := giveUp, broken := true }
    | .part part =>
      let mess := messRatio threshold part
      let j := { j with messes := j.messes ++ [mess], parts := j.parts ++ [part],
                        messy := if threshold.le mess then j.messy + 1 else j.messy }
      if giveUp ≤ j.messy || once then j
      else judgeParts s codec multi keepMark decoded giveUp once rest j

/-- The guess of a code, among the guesses and the codes counted with them. -/
def findGuess (gs : List Guess) (code : String) : Option Guess :=
  gs.find? fun g => g.code == code || g.alike.contains code

/-- Try one candidate: the search goes on with the new progress, or ends with its answer. -/
def tryCode (s : Setting) (p : Progress) (name : String) : Except (Option Guess) Progress :=
  if p.tried.contains name then .ok p
  else
    let p := { p with tried := p.tried ++ [name] }
    let markName := s.mark.map (·.1)
    let marked := markName == some name
    let strip := marked && name != "utf_16" && name != "utf_32"
    if !marked && (name == "utf_16" || name == "utf_32" || name == "utf_7") then .ok p
    else match candidateCodec? name with
    | none => .ok p
    | some codec =>
      let multi := codec.isMultiByte
      let markLength := (s.mark.map (·.2.length)).getD 0
      let payload := if strip then s.bytes.drop markLength else s.bytes
      match codec.decodeStrict? payload with
      | none => .ok p
      | some decoded =>
        if p.tooMessy.any (areSimilar name) then .ok p
        else
          let size := s.bytes.length
          let start := if marked then markLength else 0
          let step := size / s.steps
          let count := if start < size && 0 < step then (size - start + step - 1) / step else 0
          let offsets := (List.range count).map (start + step * ·)
          let giveUp := max (count / 4) 2
          let keepMark := marked && !strip
          let j := judgeParts s codec multi keepMark decoded giveUp keepMark offsets {}
          let mess := if j.messes.isEmpty then zero else (sum j.messes).divCount j.messes.length
          let preferred := some name == s.declared || name == "ascii" || name == "utf_8"
          if threshold.le mess || giveUp ≤ j.messy then
            let p := { p with tooMessy := p.tooMessy ++ [name] }
            if preferred && !j.broken then
              let g : Guess := ⟨name, threshold, zero, decoded, false, []⟩
              if some name == s.declared then .ok { p with fallbackDeclared := some g }
              else if name == "ascii" then .ok { p with fallbackAscii := some g }
              else .ok { p with fallbackUtf8 := some g }
            else .ok p
          else
            let targets := if multi then eastAsianLanguages name
              else codePageLanguages ((byteTable? codec).getD #[])
            let languages := if name == "ascii" then []
              else mergeCoherence (j.parts.map (coherenceRatio targets))
            let coherence := (languages.head?.map (·.2)).getD zero
            let g : Guess := ⟨name, mess, coherence, decoded, marked, []⟩
            let p := { p with guesses := addGuess size p.guesses g }
            let quiet := preferred && mess.lt (quotient 1 10)
            if quiet && mess.units == 0 then .error (some g)
            else
              let p := if quiet then { p with early := addGuess size p.early g } else p
              if !p.early.isEmpty && (s.declared.all p.tried.contains) &&
                  p.tried.contains "ascii" && p.tried.contains "utf_8" then .error p.early.head?
              else if marked then .error (findGuess p.guesses name)
              else .ok p

/-- Try the candidates in turn; when none ends the search, the first guess, or else the
fallback kept aside for the declared code, UTF-8 or ASCII. -/
def searchCodes (s : Setting) : List String → Progress → Option Guess
  | [], p =>
    if p.guesses.isEmpty then
      (p.fallbackDeclared.orElse fun _ => p.fallbackUtf8).orElse fun _ => p.fallbackAscii
    else p.guesses.head?
  | name :: rest, p =>
    match tryCode s p name with
    | .error g => g
    | .ok p => searchCodes s rest p

end Detection

open Detection in
/-- The code undeclared bytes are most likely in, as a codec name, if any fits: UTF-8 for no
bytes, and UTF-8 with its mark dropped when the bytes start with it. -/
def detectCode (bs : List UInt8) : Option String :=
  if bs.isEmpty then some "utf_8"
  else
    let (steps, partSize) := if bs.length ≤ 2560 then (1, bs.length) else (5, 512)
    let declared := declaredCode? bs
    let mark := markedCode? bs
    let preferred := declared.toList ++ (mark.map (·.1)).toList ++ ["ascii"]
    let preferred := if preferred.contains "utf_8" then preferred else preferred ++ ["utf_8"]
    let s : Setting := ⟨bs, steps, partSize, declared, mark⟩
    (searchCodes s (preferred ++ candidateCodes) {}).map fun g =>
      if g.code == "utf_8" && g.marked then "utf_8_sig" else g.code

end SuggestGateway
