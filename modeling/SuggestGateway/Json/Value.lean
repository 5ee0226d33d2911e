import SuggestGateway.Number.Binary64
/-!
# JSON values

A JSON value as the gateway reads, holds and writes it. Integers and doubles are apart,
because a number written with a point or an exponent is a double and every other one an
exact integer of any size. An object keeps its members in order: order shows in every body
the gateway writes. `Entries` are the insertion-ordered maps behind objects: writing a key
that is present replaces its value where it stands.
-/
namespace SuggestGateway

/-- A JSON value. -/
inductive Json where
  | null
  | bool (b : Bool)
  | int (n : Int)
  | float (x : Binary64)
  | str (s : String)
  | arr (items : List Json)
  | obj (members : List (String × Json))
deriving Inhabited, Repr

namespace Entries

variable {α : Type}

def get? (es : List (String × α)) (k : String) : Option α := es.lookup k

/-- Write `k := v`: in place when `k` is present, at the end otherwise. -/
def set : List (String × α) → String → α → List (String × α)
  | [], k, v => [(k, v)]
  | (k', v') :: rest, k, v => if k' = k then (k, v) :: rest else (k', v') :: set rest k v

def erase (es : List (String × α)) (k : String) : List (String × α) :=
  es.filter fun e => e.1 != k

/-- The map built by writing the entries one after another. -/
def ofList (es : List (String × α)) : List (String × α) :=
  es.foldl (fun acc e => set acc e.1 e.2) []

end Entries

/-- The kinds of JSON value that messages name. -/
inductive Json.Kind where
  | null | bool | int | float | str | list | dict
deriving DecidableEq, Repr

namespace Json

def kind : Json → Kind
  | null => .null
  | bool _ => .bool
  | int _ => .int
  | float _ => .float
  | str _ => .str
  | arr _ => .list
  | obj _ => .dict

def Kind.name : Kind → String
  | .null => "NoneType"
  | .bool => "bool"
  | .int => "int"
  | .float => "float"
  | .str => "str"
  | .list => "list"
  | .dict => "dict"

/-- Whether a value counts as true where one is tested: `null`, `false`, zero, the empty
text and the empty containers do not; NaN does. -/
def truthy : Json → Bool
  | null => false
  | bool b => b
  | int n => n != 0
  | float x => !x.isZero
  | str s => !s.isEmpty
  | arr items => !items.isEmpty
  | obj members => !members.isEmpty

/-- The member `k` of an object; `none` for a missing member and for a non-object. -/
def get? (v : Json) (k : String) : Option Json :=
  match v with
  | obj members => Entries.get? members k
  | _ => none

/-- The member `k` of an object, or `d` when it is missing. -/
def getD (v : Json) (k : String) (d : Json) : Json := (v.get? k).getD d

def orElse (v d : Json) : Json := if v.truthy then v else d

end Json

end SuggestGateway
