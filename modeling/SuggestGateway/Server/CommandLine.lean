import SuggestGateway.Number.Literal
import SuggestGateway.Json.Display
/-!
# The command line

The server takes three options: `--port PORT`, an integer that is 5000 by default,
`--host HOST`, which is `0.0.0.0` by default, and `--debug`; `-h` or `--help` prints the help.
A long option may be shortened to any prefix that names one option only, and may carry its
value after `=`; `-h` may carry further short options after it.

Reading goes in two passes. The first classifies each word as a known option, an unknown one,
a value, or the separator `--`, after which every word is a value; an ambiguous prefix fails
already here, before any option takes effect. The second walks the words in order: an option
takes its value (the text after `=`, or the next value word, with one separator allowed around
it), help ends the walk at once, and the words that no option takes are reported together at
the end.
-/
namespace SuggestGateway

namespace CommandLine

/-- The name the program calls itself in its usage and error lines. -/
def programName : String := "suggest-gateway"

/-- The options of the command line. -/
inductive Flag where
  | help
  | port
  | host
  | debug
deriving DecidableEq, Repr

namespace Flag

/-- Every spelling of an option, in the order in which prefixes are matched and listed. -/
def spellings : List (String × Flag) :=
  [("-h", help), ("--help", help), ("--port", port), ("--host", host), ("--debug", debug)]

/-- How messages name an option: its spellings joined by `/`. -/
def label : Flag → String
  | help => "-h/--help"
  | port => "--port"
  | host => "--host"
  | debug => "--debug"

def takesValue : Flag → Bool
  | port | host => true
  | help | debug => false

end Flag

/-- The settings the server starts with. -/
structure Options where
  host : String := "0.0.0.0"
  port : Int := 5000
  debug : Bool := false
deriving DecidableEq, Repr

/-- Why the server cannot listen with these options, if it cannot: a port beyond the range of
ports. -/
def Options.listenError? (o : Options) : Option String :=
  if o.port < 0 || 65535 < o.port then some "OverflowError: bind(): port must be 0-65535."
  else none

/-- One word of the command line, classified. -/
inductive Word where
  /-- A known option, spelt in full, with the text attached to it: after `=` (then
  `equalsSign` is set), or after a short option's letter. -/
  | option (flag : Flag) (spelling : String) (attached : Option String) (equalsSign : Bool)
  /-- A word that looks like an option but names none. -/
  | unknown
  | value
  | separator
deriving DecidableEq, Repr

/-- What reading the command line ends in. -/
inductive Command where
  | serve (o : Options)
  | showHelp
  | fail (message : String)
deriving DecidableEq, Repr

def isDigitOfAnyScript (c : Char) : Bool := (digitValue? c).isSome

/-- Whether a word reads as a negative number, `-` then digits with an optional point. A
single line feed may end it. -/
def looksNegative (w : String) : Bool :=
  let cs := w.toList
  let cs := if cs.getLast? == some '\n' then cs.dropLast else cs
  match cs with
  | '-' :: rest =>
    let whole := rest.takeWhile isDigitOfAnyScript
    match rest.drop whole.length with
    | [] => !whole.isEmpty
    | '.' :: fraction => !fraction.isEmpty && fraction.all isDigitOfAnyScript
    | _ => false
  | _ => false

/-- The text before the first `=` and, if there is one, the text after it. -/
def splitEquals (w : String) : String × Option String :=
  let cs := w.toList
  let before := cs.takeWhile (· != '=')
  match cs.drop before.length with
  | [] => (w, none)
  | _ :: after => (String.ofList before, some (String.ofList after))

/-- The known options a word may stand for: for `--` words every spelling the word (up to
`=`) is a prefix of; for a `-x` word the short option `-x` with the rest attached, and every
spelling the word is a prefix of. -/
def candidates (w : String) : List Word :=
  match w.toList with
  | '-' :: '-' :: _ =>
    let (stem, attached) := splitEquals w
    Flag.spellings.filterMap fun (s, f) =>
      if s.startsWith stem then some (.option f s attached attached.isSome) else none
  | '-' :: c :: rest =>
    Flag.spellings.filterMap fun (s, f) =>
      if s == String.ofList ['-', c] then some (.option f s (some (String.ofList rest)) false)
      else if s.startsWith w then some (.option f s none false)
      else none
  | _ => []

def Word.spelling : Word → String
  | option _ s _ _ => s
  | _ => ""

/-- Classify a word that does not follow the separator. -/
def classify (w : String) : Except String Word :=
  match w.toList with
  | [] => .ok .value
  | c :: more =>
    if c != '-' then .ok .value
    else if w == "--" then .ok .separator
    else match Flag.spellings.lookup w with
      | some f => .ok (.option f w none false)
      | none =>
        if more.isEmpty then .ok .value
        else
          let (stem, attached) := splitEquals w
          match attached, Flag.spellings.lookup stem with
          | some a, some f => .ok (.option f stem (some a) true)
          | _, _ =>
            match candidates w with
            | [] =>
              if looksNegative w || w.toList.contains ' ' then .ok .value else .ok .unknown
            | [one] => .ok one
            | many =>
              .error ("ambiguous option: " ++ w ++ " could match " ++
                ", ".intercalate (many.map Word.spelling))

/-- Classify every word; the words after the first separator are values. -/
def classifyAll : List String → Except String (List Word)
  | [] => .ok []
  | w :: ws => do
    let word ← classify w
    if word == .separator then return .separator :: ws.map fun _ => .value
    else return word :: (← classifyAll ws)

def Options.apply (o : Options) (f : Flag) (v : String) : Except String Options :=
  match f with
  | .port =>
    match Literal.int? v with
    | some n => .ok { o with port := n }
    | none => .error ("argument --port: invalid int value: " ++ textLiteral v)
  | .host => .ok { o with host := v }
  | _ => .ok o

/-- The letters attached to `-h`: more `h`s, each possibly followed by `=` and more. Either
help is shown, or the attached text is refused. -/
def attachedToHelp (attached : List Char) (equalsSign : Bool) : Except String Unit :=
  match attached with
  | [] => .error "argument -h/--help: ignored explicit argument ''"
  | c :: rest =>
    if equalsSign || c == '-' then
      .error ("argument -h/--help: ignored explicit argument " ++
        textLiteral (String.ofList attached))
    else if c != 'h' then .ok ()
    else match rest with
      | [] => .ok ()
      | '=' :: after => attachedToHelp after true
      | r :: rs => attachedToHelp (r :: rs) false

/-- The value an option without attached text takes from the words after it: one value word,
with at most one separator before or after it; and how many words it takes. -/
def takeValue (words : List (String × Word)) : Option (String × Nat) :=
  let (before, rest) : Nat × List (String × Word) := match words with
    | (_, .separator) :: rest => (1, rest)
    | ws => (0, ws)
  match rest with
  | (v, .value) :: after =>
    let trailing := match after with
      | (_, .separator) :: _ => 1
      | _ => 0
    some (v, before + 1 + trailing)
  | _ => none

/-- Walk the classified words, with the options so far and the words no option took. -/
def walk (words : List (String × Word)) (o : Options) (extras : List String) : Command :=
  match words with
  | [] =>
    if extras.isEmpty then .serve o
    else .fail ("unrecognized arguments: " ++ " ".intercalate extras.reverse)
  | (w, word) :: rest =>
    match word with
    | .option f _ (some attached) equalsSign =>
      if f.takesValue then
        match o.apply f attached with
        | .ok o => walk rest o extras
        | .error m => .fail m
      else if f == .help && !equalsSign then
        match attachedToHelp attached.toList false with
        | .ok () => .showHelp
        | .error m => .fail m
      else .fail ("argument " ++ f.label ++ ": ignored explicit argument " ++ textLiteral attached)
    | .option f _ none _ =>
      match f with
      | .help => .showHelp
      | .debug => walk rest { o with debug := true } extras
      | _ =>
        match takeValue rest with
        | some (v, n) =>
          match o.apply f v with
          | .ok o => walk (rest.drop n) o extras
          | .error m => .fail m
        | none => .fail ("argument " ++ f.label ++ ": expected one argument")
    | _ => walk rest o (w :: extras)
termination_by words.length
decreasing_by all_goals (simp only [List.length_cons, List.length_drop]; omega)

def read (args : List String) : Command :=
  match classifyAll args with
  | .error m => .fail m
  | .ok words => walk (args.zip words) {} []

def usage : String :=
  "usage: " ++ programName ++ " [-h] [--port PORT] [--host HOST] [--debug]\n"

def help : String :=
  usage ++ "\nSearch Suggest REST API Server\n\noptions:\n" ++
    "  -h, --help   show this help message and exit\n" ++
    "  --port PORT  Port to run the server on (default: 5000)\n" ++
    "  --host HOST  Host to bind to (default: 0.0.0.0)\n" ++
    "  --debug      Run in debug mode\n"

def errorText (message : String) : String :=
  usage ++ programName ++ ": error: " ++ message ++ "\n"

end CommandLine

end SuggestGateway
