import SuggestGateway.Json.Writer
/-!
# Laid-out JSON text

The text of a value as the server sends it: members sorted by key, and either compact (no
blanks at all) or indented, one item or member to a line, with `": "` after each key. Empty
arrays and objects stay `[]` and `{}`. Scalars are written as everywhere else.
-/
namespace SuggestGateway

/-- How containers are laid out. -/
structure Layout where
  /-- The indent of one level, or none for one line. -/
  indent : Option Nat
  /-- What stands between a key and its value. -/
  keySeparator : String

namespace Layout

def compact : Layout := ⟨none, ":"⟩

/-- One item or member to a line, indented by `n` spaces a level. -/
def indented (n : Nat) : Layout := ⟨some n, ": "⟩

/-- The break before an item at the given depth: none on one line, else a line feed and the
indent. -/
def lineBreak (l : Layout) (depth : Nat) : String :=
  match l.indent with
  | some n => "\n" ++ String.ofList (List.replicate (n * depth) ' ')
  | none => ""

end Layout

namespace Json

def sortMembers (ms : List (String × Json)) : List (String × Json) :=
  ms.mergeSort fun a b => decide (a.1 ≤ b.1)

mutual

/-- The value with the members of every object sorted by key. -/
def sortKeys : Json → Json
  | arr items => arr (sortKeysItems items)
  | obj members => obj (sortMembers (sortKeysMembers members))
  | v => v

def sortKeysItems : List Json → List Json
  | [] => []
  | v :: vs => sortKeys v :: sortKeysItems vs

def sortKeysMembers : List (String × Json) → List (String × Json)
  | [] => []
  | (k, v) :: ms => (k, sortKeys v) :: sortKeysMembers ms

end

mutual

def layOut (l : Layout) (depth : Nat) : Json → String
  | arr [] => "[]"
  | obj [] => "\x7b\x7d"
  | arr (v :: vs) => "[" ++ layOutItems l (depth + 1) (v :: vs) ++ l.lineBreak depth ++ "]"
  | obj (m :: ms) =>
    "\x7b" ++ layOutMembers l (depth + 1) (m :: ms) ++ l.lineBreak depth ++ "\x7d"
  | v => v.write

def layOutItems (l : Layout) (depth : Nat) : List Json → String
  | [] => ""
  | [v] => l.lineBreak depth ++ layOut l depth v
  | v :: vs => l.lineBreak depth ++ layOut l depth v ++ "," ++ layOutItems l depth vs

def layOutMembers (l : Layout) (depth : Nat) : List (String × Json) → String
  | [] => ""
  | [(k, v)] => l.lineBreak depth ++ quoteString k ++ l.keySeparator ++ layOut l depth v
  | (k, v) :: ms =>
    l.lineBreak depth ++ quoteString k ++ l.keySeparator ++ layOut l depth v ++ "," ++
      layOutMembers l depth ms

end

/-- The text the server sends for a value: keys sorted, laid out, and a final line feed. -/
def render (l : Layout) (v : Json) : String := layOut l 0 v.sortKeys ++ "\n"

end Json

end SuggestGateway
