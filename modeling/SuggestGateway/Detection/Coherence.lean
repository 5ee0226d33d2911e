import SuggestGateway.Detection.Mess
import SuggestGateway.Detection.Languages
import SuggestGateway.Text.Case
/-!
# Which language a decoded text reads as

A text decoded with the right code page reads as some language: its most frequent letters are
that language's most frequent letters, in about the same order. The letters of a text are
split into layers by range, a letter joining the first layer whose range goes with its own
(lower-cased first); a layer of 32 letters or fewer says nothing. Each larger layer is compared
with the languages asked for, or else with the languages whose alphabet covers a fifth of its
letters, and a language whose letters sit near their expected ranks in the layer for a tenth
of the layer's letters or more is kept with that share, rounded to four places.

A single-byte code page asks for the languages of the first range, in the order of their
names, that is not Latin among those holding at least 15% of the characters of its bytes from
`0x40` up, secondary ranges left out; with none such it asks for Latin-based languages. The
multibyte codes of East Asia ask for Japanese, Chinese or Korean; the Unicode forms for none.
-/
namespace SuggestGateway

namespace Coherence

open Binary64 Mess

/-- Insert into a list ordered by decreasing ratio, after the entries of the same ratio. -/
def insertByRatio {α : Type} (x : α × Binary64) : List (α × Binary64) → List (α × Binary64)
  | [] => [x]
  | y :: ys => if y.2.lt x.2 then x :: y :: ys else y :: insertByRatio x ys

/-- Order by decreasing ratio, keeping the order of equal ratios. -/
def sortByRatio {α : Type} (xs : List (α × Binary64)) : List (α × Binary64) :=
  xs.foldl (fun acc x => insertByRatio x acc) []

/-- Insert into a list ordered by decreasing count, after the entries of the same count. -/
def insertByCount (x : Char × Nat) : List (Char × Nat) → List (Char × Nat)
  | [] => [x]
  | y :: ys => if y.2 < x.2 then x :: y :: ys else y :: insertByCount x ys

/-- The distinct characters of a text, the most frequent first, ties in order of first
appearance. -/
def byFrequency (cs : List Char) : List Char :=
  let counts := cs.foldl (fun (acc : List (Char × Nat)) c =>
    if acc.any (·.1 == c) then acc.map fun (d, n) => if d == c then (d, n + 1) else (d, n)
    else acc ++ [(c, 1)]) []
  (counts.foldl (fun acc x => insertByCount x acc) []).map (·.1)

def languageOf (name : String) : List Char := ((languageLetters.lookup name).getD "").toList

/-- The languages whose alphabet covers a fifth of the given letters, the best covered first:
only Latin-based ones when asked, and only ones with accents when the letters have one. -/
def alphabetLanguages (chars : List Char) (latinOnly : Bool) : List String :=
  let accented := chars.any (hasTrait · .accented)
  let scored := languageLetters.filterMap fun (name, text) =>
    let ls := text.toList
    if latinOnly && !ls.all (hasTrait · .latinName) then none
    else if accented && !ls.any (hasTrait · .accented) then none
    else
      let r := quotient (ls.countP (chars.contains ·)) ls.length
      if (quotient 1 5).le r then some (name, r) else none
  (sortByRatio scored).map (·.1)

/-- Whether the letter of rank `rank` among `ordered` sits near where the language puts it:
within four ranks of its projected rank for an alphabet of 26 letters or fewer, within a third
of the alphabet for a larger one; or, failing that, with two fifths of the letters before or
after it in the text also before or after it in the language. -/
def nearRank (lang ordered : List Char) (c : Char) (rank : Nat) : Bool :=
  match lang.idxOf? c with
  | none => false
  | some place =>
    let size := lang.length
    let projected := (mulCount rank (quotient size ordered.length)).floor
    let gap := if projected ≤ place then place - projected else projected - place
    if size ≤ 26 && 4 < gap then false
    else if 26 < size && countLt gap (quotient size 3) then true
    else
      let beforeSource := lang.take place
      let afterSource := lang.drop place
      let before := (ordered.take rank).countP (beforeSource.contains ·)
      let after := (ordered.drop rank).countP (afterSource.contains ·)
      if beforeSource.isEmpty && before ≤ 4 then true
      else if afterSource.isEmpty && after ≤ 4 then true
      else (quotient 2 5).le (quotient before beforeSource.length) ||
        (quotient 2 5).le (quotient after afterSource.length)

/-- The share of the letters of a text, most frequent first, that sit near their rank in a
language. -/
def popularityMatch (lang ordered : List Char) : Binary64 :=
  let rec count : List Char → Nat → Nat
    | [], _ => 0
    | c :: rest, rank => (if nearRank lang ordered c rank then 1 else 0) + count rest (rank + 1)
  quotient (count ordered 0) ordered.length

/-- The letters of a text in layers by range, each lower-cased. -/
def alphaLayers (text : List Char) : List (List Char) :=
  let step := fun (layers : List (String × List Char)) (c : Char) =>
    if !hasTrait c .alpha then layers
    else match blockOf? c with
      | none => layers
      | some r =>
        let target := ((layers.find? fun l => !suspiciousSuccession (some l.1) (some r)).map
          (·.1)).getD r
        let lowered := (fullLower (String.singleton c)).toList
        if layers.any (·.1 == target) then
          layers.map fun (d, cs) => if d == target then (d, lowered.reverse ++ cs) else (d, cs)
        else layers ++ [(target, lowered.reverse)]
  (text.foldl step []).map fun l => l.2.reverse

/-- Compare a layer with languages in turn, keeping those matched for a tenth or more; the
count of matches of four fifths or more carries over, and three of them end the turn. -/
def matchLanguages (ordered : List Char) :
    List String → List (String × Binary64) × Nat → List (String × Binary64) × Nat
  | [], acc => acc
  | lang :: rest, (results, strong) =>
    let ratio := popularityMatch (languageOf lang) ordered
    if ratio.lt (quotient 1 10) then matchLanguages ordered rest (results, strong)
    else
      let strong := if (quotient 4 5).le ratio then strong + 1 else strong
      let results := results ++ [(lang, ratio.roundPlaces 4)]
      if 3 ≤ strong then (results, strong) else matchLanguages ordered rest (results, strong)

/-- Fold the other alphabets of a language, the names ending in dashes, into the language with
their best ratio; only when some language has more than one. -/
def foldAlphabets (results : List (String × Binary64)) : List (String × Binary64) :=
  let base := fun (name : String) => String.ofList (name.toList.filter (· != '—'))
  let groups := results.foldl (fun (acc : List (String × List Binary64)) (l, r) =>
    let b := base l
    if acc.any (·.1 == b) then acc.map fun (k, rs) => if k == b then (k, rs ++ [r]) else (k, rs)
    else acc ++ [(b, [r])]) []
  if groups.any (1 < ·.2.length) then
    groups.map fun (k, rs) => (k, rs.foldl (fun m x => if m.lt x then x else m) (rs.headD zero))
  else results

end Coherence

open Coherence in
/-- The languages a text reads as, best first, among `targets`: named languages, or
`Latin Based` for the Latin-based ones, or none for all. -/
def coherenceRatio (targets : List String) (text : List Char) : List (String × Binary64) :=
  let latinOnly := targets.contains "Latin Based"
  let asked := targets.erase "Latin Based"
  let (results, _) := (alphaLayers text).foldl (fun acc layer =>
    if layer.length ≤ 32 then acc
    else
      let ordered := byFrequency layer
      let langs := if asked.isEmpty then alphabetLanguages ordered latinOnly else asked
      matchLanguages ordered langs acc) ([], 0)
  sortByRatio (foldAlphabets results)

open Coherence in
/-- The languages of several parts of a text: each language with the mean of its ratios,
rounded to four places, best first. -/
def mergeCoherence (parts : List (List (String × Binary64))) : List (String × Binary64) :=
  let per := parts.flatten.foldl (fun (acc : List (String × List Binary64)) (l, r) =>
    if acc.any (·.1 == l) then acc.map fun (k, rs) => if k == l then (k, rs ++ [r]) else (k, rs)
    else acc ++ [(l, [r])]) []
  sortByRatio (per.map fun (l, rs) => (l, ((Binary64.sum rs).divCount rs.length).roundPlaces 4))

/-- Whether one list of code points comes strictly before another in dictionary order. -/
def codesBefore : List Nat → List Nat → Bool
  | [], [] => false
  | [], _ :: _ => true
  | _ :: _, [] => false
  | a :: as, b :: bs => a < b || (a == b && codesBefore as bs)

/-- Whether one text comes strictly before another, by the code points of its characters. -/
def codeOrderBefore (a b : String) : Bool :=
  codesBefore (a.toList.map Char.toNat) (b.toList.map Char.toNat)

/-- The languages a single-byte code page, given by its characters, is written in: those of
the first range that is not Latin, in the order of names, among the ranges holding at least 15%
of the characters of bytes `0x40` to `0xFE` (secondary ranges left out); `Latin Based` when
there is none. -/
def codePageLanguages (table : Array Char) : List String :=
  let counts := (List.range (0xFF - 0x40)).foldl (fun (acc : List (String × Nat)) k =>
    let c := table.getD (0x40 + k) '�'
    if c == '�' then acc
    else match blockOf? c with
      | none => acc
      | some r =>
        if Mess.isSecondaryRange r then acc
        else if acc.any (·.1 == r) then acc.map fun (d, n) => if d == r then (d, n + 1) else (d, n)
        else acc ++ [(r, 1)]) []
  let total := counts.foldl (fun n e => n + e.2) 0
  let kept := (counts.filter fun (_, n) =>
    (Binary64.quotient 3 20).le (Binary64.quotient n total)).map (·.1)
  let sorted := kept.foldl (fun acc r =>
    let (lo, hi) := acc.span (fun s => !codeOrderBefore r s)
    lo ++ r :: hi) []
  match sorted.find? (!Mess.containsText · "Latin") with
  | none => ["Latin Based"]
  | some primary =>
    (languageLetters.filter fun (_, text) =>
      text.toList.any fun c => blockOf? c == some primary).map (·.1)

/-- The languages of a multibyte code of East Asia, by its name. -/
def eastAsianLanguages (name : String) : List String :=
  if name.startsWith "shift_" || name.startsWith "iso2022_jp" || name.startsWith "euc_j" ||
      name == "cp932" then ["Japanese"]
  else if name.startsWith "gb" || ["big5", "cp950", "big5hkscs", "hz"].contains name then
    ["Chinese"]
  else if name.startsWith "iso2022_kr" || ["johab", "cp949", "euc_kr"].contains name then
    ["Korean"]
  else []

end SuggestGateway
