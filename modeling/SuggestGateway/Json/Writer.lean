import SuggestGateway.Json.Value
import SuggestGateway.Number.Notation
/-!
# Writing JSON text

The text the gateway sends and scripts: items joined by `", "`, a member written
`"key": value`, doubles in their shortest form, and only printable ASCII inside strings.
Quotes, backslashes and the usual control characters take their short escapes; every other
character outside space to `~` becomes `\uXXXX` in lower-case hex, as a surrogate pair above
the first plane. Non-finite doubles are written `NaN`, `Infinity` and `-Infinity`;
`Json.allFinite` tells the callers that refuse them.
-/
namespace SuggestGateway

def hex4 (n : Nat) : String :=
  let d := fun (k : Nat) => Nat.digitChar (n / Nat.pow 16 k % 16)
  String.ofList [d 3, d 2, d 1, d 0]

def unitEscape (n : Nat) : String := "\\u" ++ hex4 n

/-- The written form of one character inside a string. -/
def escapeChar (c : Char) : String :=
  match c with
  | '"' => "\\\""
  | '\\' => "\\\\"
  | '\n' => "\\n"
  | '\r' => "\\r"
  | '\t' => "\\t"
  | '\x08' => "\\b"
  | '\x0c' => "\\f"
  | c =>
    let n := c.toNat
    if 0x20 ≤ n && n ≤ 0x7e then c.toString
    else if n < 0x10000 then unitEscape n
    else
      let m := n - 0x10000
      unitEscape (0xD800 + m / 0x400) ++ unitEscape (0xDC00 + m % 0x400)

def quoteString (s : String) : String :=
  "\"" ++ String.join (s.toList.map escapeChar) ++ "\""

namespace Json

mutual

def write : Json → String
  | null => "null"
  | bool true => "true"
  | bool false => "false"
  | int n => toString n
  | float x => x.render Notation.json
  | str s => quoteString s
  | arr items => "[" ++ writeItems items ++ "]"
  | obj members => "\x7b" ++ writeMembers members ++ "\x7d"

def writeItems : List Json → String
  | [] => ""
  | [v] => write v
  | v :: vs => write v ++ ", " ++ writeItems vs

def writeMembers : List (String × Json) → String
  | [] => ""
  | [(k, v)] => quoteString k ++ ": " ++ write v
  | (k, v) :: ms => quoteString k ++ ": " ++ write v ++ ", " ++ writeMembers ms

end

mutual

def allFinite : Json → Bool
  | float x => x.isFinite
  | arr items => allFiniteItems items
  | obj members => allFiniteMembers members
  | _ => true

def allFiniteItems : List Json → Bool
  | [] => true
  | v :: vs => allFinite v && allFiniteItems vs

def allFiniteMembers : List (String × Json) → Bool
  | [] => true
  | (_, v) :: ms => allFinite v && allFiniteMembers ms

end

end Json

end SuggestGateway
