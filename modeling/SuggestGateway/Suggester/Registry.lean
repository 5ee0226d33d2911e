import SuggestGateway.Suggester.Basic
/-!
# The suggester registry

Kinds of suggester are registered by name, each with the way it creates a suggester of a
given name. Registering a kind again replaces how it is created and keeps its place in the
list of kinds. The standard registry knows `term` and `completion`.
-/
namespace SuggestGateway

/-- Registered kinds with their creators, in order of first registration. -/
structure Registry where
  creators : List (String × (String → Suggester))

/-- A kind that no one registered. -/
structure UnknownKind where
  kind : String
deriving DecidableEq, Repr

def UnknownKind.message (e : UnknownKind) : String :=
  "Suggester kind not registered: " ++ e.kind

namespace Registry

def empty : Registry := ⟨[]⟩

/-- Register a kind, replacing an earlier registration of it in place. -/
def register (r : Registry) (kind : String) (create : String → Suggester) : Registry :=
  ⟨Entries.set r.creators kind create⟩

def kinds (r : Registry) : List String := r.creators.map (·.1)

def create (r : Registry) (kind name : String) : Except UnknownKind Suggester :=
  match Entries.get? r.creators kind with
  | some c => .ok (c name)
  | none => .error ⟨kind⟩

def standard : Registry :=
  (empty.register "term" (Suggester.empty .term)).register "completion"
    (Suggester.empty .completion)

end Registry

end SuggestGateway
