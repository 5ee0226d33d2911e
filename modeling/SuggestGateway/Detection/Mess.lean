import SuggestGateway.Text.Traits
import SuggestGateway.Text.Blocks
import SuggestGateway.Text.CommonHan
import SuggestGateway.Number.Arithmetic
/-!
# How messy a decoded text looks

Bytes read with the wrong code page still decode, but into text no one writes: runs of symbols,
letters from scripts that do not meet, accents piled on accents, control characters. Ten
detectors watch a text character by character, each keeping counts and giving a ratio; the
text's mess is the sum of their ratios, rounded to three places.

- Symbols and punctuation: their share of the printable characters, once it reaches 0.3; a
  character repeated right after itself, and the ASCII characters common in markup, do not
  count, and a symbol weighs two.
- Accents: the share of accented letters among eight or more letters, once it reaches 0.35.
- Unprintable characters, eight times their share.
- Accents in a row: two accented Latin letters in a row, both upper case or both the same
  letter without their accents, twice their share of the Latin letters.
- Range jumps: two printable characters in a row, no blank or punctuation between, from ranges
  that do not go together; twice their share of the printable characters.
- Weird words: words of four letters or more that are half accents, or end in an upper-case
  accented letter without being all upper case, or hold a single ideograph or syllable; words
  of twenty-four letters or more with a foreign letter that are not camel case; and words with
  a symbol. Their share of the letters, once there are more than ten words or one such long or
  foreign word.
- Wrong stops: the two ideographs that stand for misread full stops, among sixteen or more
  ideographs.
- Case flips: letters that flip between upper and lower case every other letter in a short run
  that is not plain ASCII.
- Isolated forms: Arabic letters in their isolated presentation form, among eight or more.
- Rare ideographs: among eight or more ideographs, a tenth of the share outside the common
  ones once that share passes one half.

The text is read with a line feed added; every 32 characters (64 from 512 on, 128 from 1025
on) and at the end the detectors are summed, and reading stops once the sum reaches the
threshold.
-/
namespace SuggestGateway

namespace Mess

open Binary64

def containsText (s part : String) : Bool :=
  let p := part.toList
  let rec go : List Char → Bool
    | [] => p.isEmpty
    | c :: cs => p.isPrefixOf (c :: cs) || go cs
  go s.toList

/-- Whether a range has a name holding the given word. -/
def rangeHas (r : Option String) (word : String) : Bool :=
  match r with
  | some n => containsText n word
  | none => false

/-- The ASCII characters common in markup and data, which say nothing about a text. -/
def isCommonAscii (c : Char) : Bool :=
  ['<', '>', '=', ':', '/', '&', ';', '\x7b', '\x7d', '[', ']', ',', '|', '"', '-', '(', ')'].contains c

/-- Punctuation: by category, or by a range of punctuation. -/
def isPunctuationLike (c : Char) : Bool :=
  hasTrait c .punctuationCategory || rangeHas (blockOf? c) "Punctuation"

/-- A symbol or number: by category, or a character of a range of forms that is no letter. -/
def isSymbolLike (c : Char) : Bool :=
  hasTrait c .symbolCategory || (rangeHas (blockOf? c) "Forms" && !hasTrait c .otherLetter)

def isEmoticon (c : Char) : Bool :=
  rangeHas (blockOf? c) "Emoticons" || rangeHas (blockOf? c) "Pictographs"

/-- A separator: a blank, one of `｜ + < >`, or a space or connecting, dashing or other
punctuation by category. -/
def isSeparatorLike (c : Char) : Bool :=
  hasTrait c .space || ['｜', '+', '<', '>'].contains c || hasTrait c .separatorCategory

/-- Neither blank nor printable, and not the substitute character or the byte order mark. -/
def isUnprintable (c : Char) : Bool :=
  !hasTrait c .space && !hasTrait c .printable && c != '\x1a' && c != '\uFEFF'

def isCaseVariable (c : Char) : Bool := hasTrait c .lower != hasTrait c .upper

/-- An ideograph, Hangul syllable, kana or Thai letter: one glyph for a syllable or word. -/
def isGlyph (c : Char) : Bool :=
  hasTrait c .cjkName || hasTrait c .hangulName || hasTrait c .katakanaName ||
    hasTrait c .hiraganaName || hasTrait c .thaiName

/-- The words of range names that only qualify a range: a range sharing only such a word with
another does not go with it. -/
def secondaryWords : List String :=
  ["Supplement", "Extended", "Extensions", "Modifier", "Marks", "Punctuation", "Symbols", "Forms",
   "Operators", "Miscellaneous", "Drawing", "Block", "Shapes", "Supplemental", "Tags"]

/-- Whether a range is a secondary one: its name holds one of the qualifying words. -/
def isSecondaryRange (r : String) : Bool := secondaryWords.any (containsText r)

/-- Whether characters of two ranges, seen next to each other, look like a wrong decoding. A
character outside every range always does; the same range, two Latin ranges, emoticons, Latin
with combining marks, and ranges sharing a main word never do; nor do the Japanese scripts
with each other or with ideographs, Hangul with ideographs or Basic Latin, and ideographs with
their punctuation, their forms or Basic Latin. -/
def suspiciousSuccession (a b : Option String) : Bool :=
  match a, b with
  | some a, some b =>
    let has := fun (w : String) => containsText a w || containsText b w
    if a == b then false
    else if containsText a "Latin" && containsText b "Latin" then false
    else if has "Emoticons" then false
    else if has "Latin" && has "Combining" then false
    else if (a.splitOn " ").any fun w => !secondaryWords.contains w && (b.splitOn " ").contains w then
      false
    else
      let japanese := fun (r : String) => r == "Hiragana" || r == "Katakana"
      if (japanese a || japanese b) && has "CJK" then false
      else if japanese a && japanese b then false
      else if has "Hangul" && (has "CJK" || a == "Basic Latin" || b == "Basic Latin") then false
      else if has "CJK" || (japanese a && japanese b) then
        !(has "Punctuation" || has "Forms" || a == "Basic Latin" || b == "Basic Latin")
      else true
  | _, _ => true

/-- The counts of the symbols and punctuation detector. -/
structure SymbolCount where
  punctuation : Nat := 0
  symbols : Nat := 0
  count : Nat := 0
  last : Option Char := none

def SymbolCount.feed (s : SymbolCount) (c : Char) : SymbolCount :=
  if !hasTrait c .printable then s
  else
    let fresh := s.last != some c && !isCommonAscii c
    { punctuation := if fresh && isPunctuationLike c then s.punctuation + 1 else s.punctuation,
      symbols :=
        if fresh && !isPunctuationLike c && !hasTrait c .digit && isSymbolLike c && !isEmoticon c
        then s.symbols + 2 else s.symbols,
      count := s.count + 1,
      last := some c }

def SymbolCount.ratio (s : SymbolCount) : Binary64 :=
  if s.count = 0 then zero
  else
    let r := quotient (s.punctuation + s.symbols) s.count
    if (quotient 3 10).le r then r else zero

/-- The counts of the accent detector. -/
structure AccentCount where
  letters : Nat := 0
  accented : Nat := 0

def AccentCount.feed (s : AccentCount) (c : Char) : AccentCount :=
  if !hasTrait c .alpha then s
  else { letters := s.letters + 1,
         accented := if hasTrait c .accented then s.accented + 1 else s.accented }

def AccentCount.ratio (s : AccentCount) : Binary64 :=
  if s.letters < 8 then zero
  else
    let r := quotient s.accented s.letters
    if (quotient 7 20).le r then r else zero

/-- The counts of the unprintable character detector. -/
structure UnprintableCount where
  unprintable : Nat := 0
  count : Nat := 0

def UnprintableCount.feed (s : UnprintableCount) (c : Char) : UnprintableCount :=
  { unprintable := if isUnprintable c then s.unprintable + 1 else s.unprintable,
    count := s.count + 1 }

def UnprintableCount.ratio (s : UnprintableCount) : Binary64 :=
  if s.count = 0 then zero else quotient (s.unprintable * 8) s.count

/-- The counts of the detector of accents in a row. -/
structure AccentRunCount where
  successive : Nat := 0
  count : Nat := 0
  last : Option Char := none

def AccentRunCount.feed (s : AccentRunCount) (c : Char) : AccentRunCount :=
  if !(hasTrait c .alpha && hasTrait c .latinName) then s
  else
    let extra := match s.last with
      | some l =>
        if hasTrait c .accented && hasTrait l .accented then
          (if hasTrait c .upper && hasTrait l .upper then 1 else 0) +
            (if withoutAccent c == withoutAccent l then 1 else 0)
        else 0
      | none => 0
    { successive := s.successive + extra, count := s.count + 1, last := some c }

def AccentRunCount.ratio (s : AccentRunCount) : Binary64 :=
  if s.count = 0 then zero else quotient (s.successive * 2) s.count

/-- The counts of the range jump detector. -/
structure RangeJumpCount where
  jumps : Nat := 0
  count : Nat := 0
  last : Option Char := none

def RangeJumpCount.feed (s : RangeJumpCount) (c : Char) : RangeJumpCount :=
  if !hasTrait c .printable then s
  else
    let s := { s with count := s.count + 1 }
    if hasTrait c .space || isPunctuationLike c || isCommonAscii c then { s with last := none }
    else
      match s.last with
      | none => { s with last := some c }
      | some l =>
        { s with
          jumps := if suspiciousSuccession (blockOf? l) (blockOf? c) then s.jumps + 1 else s.jumps,
          last := some c }

def RangeJumpCount.ratio (s : RangeJumpCount) : Binary64 :=
  if s.count = 0 then zero else quotient (s.jumps * 2) s.count

/-- The counts of the weird word detector; the word being read is kept last letter first. -/
structure WordCount where
  words : Nat := 0
  badWords : Nat := 0
  foreignLong : Nat := 0
  currentBad : Bool := false
  foreignWatch : Bool := false
  letters : Nat := 0
  badLetters : Nat := 0
  buffer : List Char := []
  bufferAccents : Nat := 0
  bufferGlyphs : Nat := 0

/-- Close the word being read: count it, and judge it. -/
def WordCount.closeWord (s : WordCount) : WordCount :=
  let len := s.buffer.length
  let (bad, foreign) :=
    if 4 ≤ len then
      if (quotient 1 2).le (quotient s.bufferAccents len) then (true, s.foreignLong)
      else
        match s.buffer with
        | last :: _ =>
          if hasTrait last .accented && hasTrait last .upper &&
              !s.buffer.all (hasTrait · .upper) then (true, s.foreignLong + 1)
          else if s.bufferGlyphs == 1 then (true, s.foreignLong + 1)
          else (s.currentBad, s.foreignLong)
        | [] => (s.currentBad, s.foreignLong)
    else (s.currentBad, s.foreignLong)
  let (bad, foreign) :=
    if 24 ≤ len && s.foreignWatch then
      let uppers := s.buffer.countP (hasTrait · .upper)
      if 0 < uppers && (quotient uppers len).le (quotient 3 10) then (bad, foreign)
      else (true, foreign + 1)
    else (bad, foreign)
  { s with
    words := s.words + 1,
    letters := s.letters + len,
    badWords := if bad then s.badWords + 1 else s.badWords,
    badLetters := if bad then s.badLetters + len else s.badLetters,
    foreignLong := foreign,
    currentBad := false,
    foreignWatch := false,
    buffer := [],
    bufferAccents := 0,
    bufferGlyphs := 0 }

/-- The symbols that may join the parts of a word without making it weird. -/
def wordJoiners : List Char := ['<', '>', '-', '=', '~', '|', '_']

def WordCount.feed (s : WordCount) (c : Char) : WordCount :=
  if hasTrait c .alpha then
    { s with
      buffer := c :: s.buffer,
      bufferAccents := if hasTrait c .accented then s.bufferAccents + 1 else s.bufferAccents,
      foreignWatch := s.foreignWatch ||
        ((!hasTrait c .latinName || hasTrait c .accented) && !isGlyph c),
      bufferGlyphs := if isGlyph c then s.bufferGlyphs + 1 else s.bufferGlyphs }
  else if s.buffer.isEmpty then s
  else if hasTrait c .space || isPunctuationLike c || isSeparatorLike c then s.closeWord
  else if !wordJoiners.contains c && !hasTrait c .digit && isSymbolLike c then
    { s with currentBad := true, buffer := c :: s.buffer }
  else s

def WordCount.ratio (s : WordCount) : Binary64 :=
  if s.words ≤ 10 && s.foreignLong == 0 then zero else quotient s.badLetters s.letters

/-- The counts of the wrong stop detector. -/
structure StopCount where
  wrong : Nat := 0
  ideographs : Nat := 0

def StopCount.feed (s : StopCount) (c : Char) : StopCount :=
  if c == '丅' || c == '丄' then { s with wrong := s.wrong + 1 }
  else if hasTrait c .cjkName then { s with ideographs := s.ideographs + 1 }
  else s

def StopCount.ratio (s : StopCount) : Binary64 :=
  if s.ideographs < 16 then zero else quotient s.wrong s.ideographs

/-- The counts of the case flip detector. -/
structure CaseFlipCount where
  pending : Bool := false
  sinceSeparator : Nat := 0
  flips : Nat := 0
  flipsFinal : Nat := 0
  count : Nat := 0
  last : Option Char := none
  asciiOnly : Bool := true

def CaseFlipCount.feed (s : CaseFlipCount) (c : Char) : CaseFlipCount :=
  let concerned := hasTrait c .alpha && isCaseVariable c
  if !concerned && 0 < s.sinceSeparator then
    { s with
      flipsFinal :=
        if s.sinceSeparator ≤ 64 && !hasTrait c .digit && !s.asciiOnly then s.flipsFinal + s.flips
        else s.flipsFinal,
      flips := 0, sinceSeparator := 0, last := none, pending := false, count := s.count + 1,
      asciiOnly := true }
  else
    let asciiOnly := s.asciiOnly && c.toNat < 128
    let (pending, flips) := match s.last with
      | some l =>
        if (hasTrait c .upper && hasTrait l .lower) || (hasTrait c .lower && hasTrait l .upper) then
          if s.pending then (false, s.flips + 2) else (true, s.flips)
        else (false, s.flips)
      | none => (s.pending, s.flips)
    { s with pending, flips, asciiOnly, count := s.count + 1,
             sinceSeparator := s.sinceSeparator + 1, last := some c }

def CaseFlipCount.ratio (s : CaseFlipCount) : Binary64 :=
  if s.count = 0 then zero else quotient s.flipsFinal s.count

/-- The counts of the isolated form detector. -/
structure IsolatedCount where
  arabic : Nat := 0
  isolated : Nat := 0

def IsolatedCount.feed (s : IsolatedCount) (c : Char) : IsolatedCount :=
  if !hasTrait c .arabicName then s
  else { arabic := s.arabic + 1,
         isolated := if hasTrait c .isolatedForm then s.isolated + 1 else s.isolated }

def IsolatedCount.ratio (s : IsolatedCount) : Binary64 :=
  if s.arabic < 8 then zero else quotient s.isolated s.arabic

/-- The counts of the rare ideograph detector. -/
structure RareHanCount where
  ideographs : Nat := 0
  rare : Nat := 0

def RareHanCount.feed (s : RareHanCount) (c : Char) : RareHanCount :=
  if !hasTrait c .cjkName then s
  else { ideographs := s.ideographs + 1,
         rare := if isCommonHan c then s.rare else s.rare + 1 }

def RareHanCount.ratio (s : RareHanCount) : Binary64 :=
  if s.ideographs < 8 then zero
  else
    let usage := quotient s.rare s.ideographs
    if (quotient 1 2).lt usage then usage.divCount 10 else zero

/-- All detectors together. -/
structure Detectors where
  symbols : SymbolCount := {}
  accents : AccentCount := {}
  unprintable : UnprintableCount := {}
  accentRuns : AccentRunCount := {}
  jumps : RangeJumpCount := {}
  words : WordCount := {}
  stops : StopCount := {}
  flips : CaseFlipCount := {}
  isolated : IsolatedCount := {}
  rareHan : RareHanCount := {}

def Detectors.feed (d : Detectors) (c : Char) : Detectors :=
  { symbols := d.symbols.feed c, accents := d.accents.feed c,
    unprintable := d.unprintable.feed c, accentRuns := d.accentRuns.feed c,
    jumps := d.jumps.feed c, words := d.words.feed c, stops := d.stops.feed c,
    flips := d.flips.feed c, isolated := d.isolated.feed c, rareHan := d.rareHan.feed c }

def Detectors.total (d : Detectors) : Binary64 :=
  sum [d.symbols.ratio, d.accents.ratio, d.unprintable.ratio, d.accentRuns.ratio, d.jumps.ratio,
    d.words.ratio, d.stops.ratio, d.flips.ratio, d.isolated.ratio, d.rareHan.ratio]

/-- Read characters, summing the detectors at every `step`-th index and at index `last`, and
stopping once a sum reaches the threshold. -/
def scan (threshold : Binary64) (step last : Nat) (d : Detectors) (i : Nat) (mess : Binary64) :
    List Char → Binary64
  | [] => mess
  | c :: rest =>
    let d := d.feed c
    if (0 < i && i % step == 0) || i == last then
      let mess := d.total
      if threshold.le mess then mess else scan threshold step last d (i + 1) mess rest
    else scan threshold step last d (i + 1) mess rest

end Mess

open Mess in
/-- The mess of a text, rounded to three places, reading stopped at `threshold`. -/
def messRatio (threshold : Binary64) (text : List Char) : Binary64 :=
  let cs := text ++ ['\n']
  let step := if cs.length < 512 then 32 else if cs.length ≤ 1024 then 64 else 128
  (scan threshold step (cs.length - 1) {} 0 Binary64.zero cs).roundPlaces 3

end SuggestGateway
