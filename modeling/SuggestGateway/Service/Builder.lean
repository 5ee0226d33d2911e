import SuggestGateway.Suggester.Basic
import SuggestGateway.Url.Suggest
/-!
# Suggest request builders

A builder gathers one suggest request: indices and types, the pretty, debug, routing and
preference settings, and the fragments of its suggesters. Every setter changes its own
field only: names are appended in order, a setting is overwritten, a fragment is appended.
The URL is the suggest path of the names and the query of the settings; the body maps each
suggester's name to its fragment, a later fragment of the same name replacing an earlier one
in the earlier one's place.
-/
namespace SuggestGateway

/-- The part a suggester contributes to a request: its name and its body. -/
structure Fragment where
  name : String
  body : Json
deriving Repr

def Suggester.toFragment (s : Suggester) : Fragment := ⟨s.name, s.requestBody false⟩

/-- The state of one suggest request being built. -/
structure Builder where
  indices : List Json := []
  types : List Json := []
  pretty : Json := .bool false
  debug : Json := .bool false
  routing : Json := .str ""
  preference : Json := .str ""
  fragments : List Fragment := []
deriving Repr

namespace Builder

def addIndex (b : Builder) (index : Json) : Builder := { b with indices := b.indices ++ [index] }

def addIndices (b : Builder) (indices : List Json) : Builder :=
  { b with indices := b.indices ++ indices }

def addType (b : Builder) (type : Json) : Builder := { b with types := b.types ++ [type] }

def addTypes (b : Builder) (types : List Json) : Builder := { b with types := b.types ++ types }

def setPretty (b : Builder) (v : Json) : Builder := { b with pretty := v }

def setDebug (b : Builder) (v : Json) : Builder := { b with debug := v }

def setRouting (b : Builder) (v : Json) : Builder := { b with routing := v }

def setPreference (b : Builder) (v : Json) : Builder := { b with preference := v }

def addFragment (b : Builder) (f : Fragment) : Builder := { b with fragments := b.fragments ++ [f] }

def addSuggester (b : Builder) (s : Suggester) : Builder := b.addFragment s.toFragment

def url (b : Builder) : Except SegmentError String := do
  let path ← suggestPath b.indices b.types
  return path ++ suggestQuery b.pretty b.routing b.preference

/-- The request body: each fragment's body under its name. -/
def body (b : Builder) : Json :=
  .obj (Entries.ofList (b.fragments.map fun f => (f.name, f.body)))

end Builder

end SuggestGateway
