/-!
# Tables of code points

Unicode properties change only at a few thousand places among the million code points, so a
property is stored as the code points where its value changes, each with the value that holds
from there up to the next. A lookup is a binary search for the last change at or below the
code point. Mappings from code points to short sequences of code points are stored sorted by
key and searched the same way.

Large tables are written as text, one entry after another, and read once: hexadecimal numbers,
an entry's fields separated by `:`, entries by `,`, the items of a field by spaces.
-/
namespace SuggestGateway

/-- The value of a hexadecimal numeral; characters other than hex digits count as zero. -/
def hexNumeral (cs : List Char) : Nat :=
  cs.foldl (fun n c =>
    let d := if '0' ≤ c && c ≤ '9' then c.toNat - '0'.toNat
      else if 'a' ≤ c && c ≤ 'f' then c.toNat - 'a'.toNat + 10
      else if 'A' ≤ c && c ≤ 'F' then c.toNat - 'A'.toNat + 10
      else 0
    16 * n + d) 0

/-- The entries of a table text, each split into its fields. -/
def tableEntries (text : String) : List (List String) :=
  ((text.splitOn ",").filter (!·.isEmpty)).map (·.splitOn ":")

/-- The numbers of a field: hexadecimal numerals separated by spaces. -/
def fieldNumbers (field : String) : List Nat :=
  ((field.splitOn " ").filter (!·.isEmpty)).map fun w => hexNumeral w.toList

/-- The index of the last key at or below `n` among the keys from `lo` to `hi - 1`, given that
the key at `lo` is at or below `n`. -/
def lastAtOrBelow (keys : Array Nat) (n lo hi : Nat) : Nat :=
  if h : lo + 1 < hi then
    let mid := (lo + hi) / 2
    if keys.getD mid 0 ≤ n then lastAtOrBelow keys n mid hi else lastAtOrBelow keys n lo mid
  else lo
termination_by hi - lo

/-- A property of code points: `values[i]` holds from `starts[i]` up to the next start. -/
structure RunTable where
  starts : Array Nat
  values : Array Nat
deriving Inhabited

namespace RunTable

/-- Read a table text whose entries are `start:value`. -/
def parse (text : String) : RunTable :=
  let entries := (tableEntries text).map fun fs =>
    (hexNumeral (fs.headD "").toList, hexNumeral (fs.getD 1 "").toList)
  ⟨(entries.map (·.1)).toArray, (entries.map (·.2)).toArray⟩

/-- The value at a code point; `0` below the first start. -/
def lookup (t : RunTable) (n : Nat) : Nat :=
  if t.starts.size == 0 || n < t.starts.getD 0 0 then 0
  else t.values.getD (lastAtOrBelow t.starts n 0 t.starts.size) 0

end RunTable

/-- A mapping from code points to sequences of code points, sorted by key. -/
structure CodeMap where
  keys : Array Nat
  images : Array (List Nat)
deriving Inhabited

namespace CodeMap

/-- Read a mapping text whose entries are `key:image`, the image a list of code points. -/
def parse (text : String) : CodeMap :=
  let entries := (tableEntries text).map fun fs =>
    (hexNumeral (fs.headD "").toList, fieldNumbers (fs.getD 1 ""))
  ⟨(entries.map (·.1)).toArray, (entries.map (·.2)).toArray⟩

def find? (m : CodeMap) (n : Nat) : Option (List Nat) :=
  if m.keys.size == 0 || n < m.keys.getD 0 0 then none
  else
    let i := lastAtOrBelow m.keys n 0 m.keys.size
    if m.keys.getD i 0 == n then m.images[i]? else none

end CodeMap

/-- A set of code points given as ranges `first:last`, as a property with value `1` inside. -/
def RunTable.ofRanges (text : String) : RunTable :=
  let ranges := (tableEntries text).map fun fs =>
    (hexNumeral (fs.headD "").toList, hexNumeral (fs.getD 1 "").toList)
  let entries := ranges.flatMap fun (a, b) => [(a, 1), (b + 1, 0)]
  ⟨(entries.map (·.1)).toArray, (entries.map (·.2)).toArray⟩

/-- Whether a code point lies in a set given by `RunTable.ofRanges`. -/
def RunTable.contains (t : RunTable) (n : Nat) : Bool := t.lookup n == 1

end SuggestGateway
