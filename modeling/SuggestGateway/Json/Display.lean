import SuggestGateway.Json.Value
import SuggestGateway.Number.Notation
import SuggestGateway.Text.Printable
/-!
# Displaying values in messages

Messages show a value the way a reader of the service's logs expects: `None`, `True` and
`False`, numbers as written, a text as it is, and containers with their items as literals,
`[1, 'a']` and `{'a': 1}`. A literal text takes single quotes, or double quotes when it holds
a single quote and no double quote; backslashes, its own quote and unprintable characters are
escaped.
-/
namespace SuggestGateway

/-- `n` in lower-case hex with exactly `width` digits. -/
def hexWidth (width n : Nat) : String :=
  String.ofList ((List.range width).reverse.map fun k => Nat.digitChar (n / Nat.pow 16 k % 16))

/-- How a character stands inside a text literal quoted with `q`. -/
def literalChar (q c : Char) : String :=
  let n := c.toNat
  if c == q || c == '\\' then "\\" ++ c.toString
  else if c == '\t' then "\\t"
  else if c == '\n' then "\\n"
  else if c == '\r' then "\\r"
  else if n < 0x20 || n == 0x7f then "\\x" ++ hexWidth 2 n
  else if n < 0x7f then c.toString
  else if isPrintable c then c.toString
  else if n ≤ 0xff then "\\x" ++ hexWidth 2 n
  else if n ≤ 0xffff then "\\u" ++ hexWidth 4 n
  else "\\U" ++ hexWidth 8 n

def textLiteral (s : String) : String :=
  let cs := s.toList
  let q := if cs.contains '\'' && !cs.contains '"' then '"' else '\''
  q.toString ++ String.join (cs.map (literalChar q)) ++ q.toString

namespace Json

mutual

/-- A value as a literal, the way it stands inside a container. -/
def literal : Json → String
  | null => "None"
  | bool true => "True"
  | bool false => "False"
  | int n => toString n
  | float x => x.render Notation.display
  | str s => textLiteral s
  | arr items => "[" ++ literalItems items ++ "]"
  | obj members => "\x7b" ++ literalMembers members ++ "\x7d"

def literalItems : List Json → String
  | [] => ""
  | [v] => literal v
  | v :: vs => literal v ++ ", " ++ literalItems vs

def literalMembers : List (String × Json) → String
  | [] => ""
  | [(k, v)] => textLiteral k ++ ": " ++ literal v
  | (k, v) :: ms => textLiteral k ++ ": " ++ literal v ++ ", " ++ literalMembers ms

end

/-- A value as a message shows it: a text as it is, anything else as a literal. -/
def display : Json → String
  | str s => s
  | v => v.literal

end Json

end SuggestGateway
