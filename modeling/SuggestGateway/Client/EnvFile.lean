import SuggestGateway.Client.Settings
import SuggestGateway.Text.Blank
/-!
# Environment files

A `.env` file sets variables that the environment does not have yet. Lines end at a line
feed, a carriage return and line feed, or a lone carriage return. A line is stripped of
blanks; an empty line, a comment (`#`) and a line without `=` set nothing; one leading
`export ` is dropped; the line splits at its first `=` into a name and a value, both
stripped, and a value of two or more characters between matching single or double quotes
loses them. A variable already set keeps its value, so the first line for a name wins.
Setting a variable whose name or value holds a NUL fails; setting one with an empty name
stops the loading, keeping what was set before. A missing file sets nothing.
-/
namespace SuggestGateway

namespace EnvFile

def lines (s : String) : List String :=
  let rec go : List Char → List Char → List String
    | [], acc => if acc.isEmpty then [] else [String.ofList acc.reverse]
    | '\r' :: '\n' :: rest, acc => String.ofList acc.reverse :: go rest []
    | '\r' :: rest, acc => String.ofList acc.reverse :: go rest []
    | '\n' :: rest, acc => String.ofList acc.reverse :: go rest []
    | c :: rest, acc => go rest (c :: acc)
  go s.toList []

/-- A value without one pair of matching single or double quotes around it, when it has two
characters or more. -/
def unquote (value : String) : String :=
  let cs := value.toList
  match cs.head?, cs.getLast? with
  | some a, some b =>
    if 2 ≤ cs.length && a == b && (a == '\'' || a == '"') then String.ofList (cs.drop 1).dropLast
    else value
  | _, _ => value

def parseLine (line : String) : Option (String × String) :=
  let line := strip line
  if line.isEmpty || line.startsWith "#" then none
  else
    let line := if line.startsWith "export " then (line.drop 7).toString else line
    let cs := line.toList
    if cs.contains '=' then
      some (strip (String.ofList (cs.takeWhile (· != '='))),
        unquote (strip (String.ofList ((cs.dropWhile (· != '=')).drop 1))))
    else none

/-- The names a file's text sets, in order, repeats included. -/
def names (text : String) : List String := (lines text).filterMap fun l => (parseLine l).map (·.1)

/-- Why setting a variable failed and stopped the loading. -/
inductive LoadError where
  | nullByte
deriving DecidableEq, Repr

def LoadError.message : LoadError → String
  | .nullByte => "embedded null byte"

/-- The result of loading a file. -/
structure Loaded where
  count : Nat
  env : Environment
  /-- The failure that ended the loading, if one did. -/
  error : Option LoadError
deriving Repr

def loadLines : List String → Nat → Environment → Loaded
  | [], n, env => ⟨n, env, none⟩
  | l :: rest, n, env =>
    match parseLine l with
    | none => loadLines rest n env
    | some (k, v) =>
      if (Entries.get? env k).isSome then loadLines rest n env
      else if k.contains '\x00' || v.contains '\x00' then ⟨n, env, some .nullByte⟩
      else if k.isEmpty then ⟨n, env, none⟩
      else loadLines rest (n + 1) (env ++ [(k, v)])

def load (text : String) (env : Environment) : Loaded := loadLines (lines text) 0 env

/-- Load a file, given by its text, or `none` when there is no such file: a missing file sets
nothing. -/
def loadFile (file : Option String) (env : Environment) : Loaded :=
  match file with
  | some text => load text env
  | none => ⟨0, env, none⟩

end EnvFile

end SuggestGateway
