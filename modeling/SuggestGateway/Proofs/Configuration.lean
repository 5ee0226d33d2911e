import SuggestGateway.Service.Execute
/-!
# Configuring a builder, field by field

The configuration calls of a builder are taken here as data, `Builder.Call`, so that a sequence
of them can be compared with another. A call writes one field and leaves the others as they
are: names are appended to the index or type list, a setting is overwritten, a suggester's
fragment is appended. A sequence of calls is therefore seen through its `Fields`: for each field,
the calls that write it, in order, with `addIndices [a, b]` counting as `addIndex a` followed by
`addIndex b`. Running the sequence gives the builder with the names and fragments appended and
each setting at its last written value (`run_eq`), so two sequences with the same `Fields` build
the same builder, hence the same URL, the same body and the same executions.

Building the URL and the body and executing are functions of the builder: none of them gives a
builder back, so the builder they read is the one any later call sees, and executing it again
hands the transport the same request.
-/
namespace SuggestGateway

namespace Builder

/-- A configuration call of a builder. -/
inductive Call where
  | addIndex (name : Json)
  | addIndices (names : List Json)
  | addType (name : Json)
  | addTypes (names : List Json)
  | setPretty (v : Json)
  | setDebug (v : Json)
  | setRouting (v : Json)
  | setPreference (v : Json)
  | addSuggester (s : Suggester)
deriving Repr

def apply (b : Builder) : Call → Builder
  | .addIndex v => b.addIndex v
  | .addIndices vs => b.addIndices vs
  | .addType v => b.addType v
  | .addTypes vs => b.addTypes vs
  | .setPretty v => b.setPretty v
  | .setDebug v => b.setDebug v
  | .setRouting v => b.setRouting v
  | .setPreference v => b.setPreference v
  | .addSuggester s => b.addSuggester s

def run (b : Builder) (calls : List Call) : Builder := calls.foldl apply b

namespace Call

def indices : Call → List Json
  | addIndex v => [v]
  | addIndices vs => vs
  | _ => []

def types : Call → List Json
  | addType v => [v]
  | addTypes vs => vs
  | _ => []

def pretty? : Call → Option Json
  | setPretty v => some v
  | _ => none

def debug? : Call → Option Json
  | setDebug v => some v
  | _ => none

def routing? : Call → Option Json
  | setRouting v => some v
  | _ => none

def preference? : Call → Option Json
  | setPreference v => some v
  | _ => none

def fragments : Call → List Fragment
  | addSuggester s => [s.toFragment]
  | _ => []

end Call

/-- A sequence of calls field by field: for each field, what the calls write to it, in order. -/
structure Fields where
  indices : List Json
  types : List Json
  pretty : List Json
  debug : List Json
  routing : List Json
  preference : List Json
  fragments : List Fragment
deriving Repr

def fields (calls : List Call) : Fields where
  indices := calls.flatMap Call.indices
  types := calls.flatMap Call.types
  pretty := calls.filterMap Call.pretty?
  debug := calls.filterMap Call.debug?
  routing := calls.filterMap Call.routing?
  preference := calls.filterMap Call.preference?
  fragments := calls.flatMap Call.fragments

def Fields.append (f g : Fields) : Fields where
  indices := f.indices ++ g.indices
  types := f.types ++ g.types
  pretty := f.pretty ++ g.pretty
  debug := f.debug ++ g.debug
  routing := f.routing ++ g.routing
  preference := f.preference ++ g.preference
  fragments := f.fragments ++ g.fragments

theorem fields_append (cs ds : List Call) : fields (cs ++ ds) = (fields cs).append (fields ds) := by
  simp [fields, Fields.append, List.filterMap_append]

/-- A builder after calls with the given fields: lists appended to, each setting at its last
written value. -/
def withFields (b : Builder) (f : Fields) : Builder where
  indices := b.indices ++ f.indices
  types := b.types ++ f.types
  pretty := f.pretty.getLastD b.pretty
  debug := f.debug.getLastD b.debug
  routing := f.routing.getLastD b.routing
  preference := f.preference.getLastD b.preference
  fragments := b.fragments ++ f.fragments

theorem apply_eq (b : Builder) (c : Call) : b.apply c = b.withFields (fields [c]) := by
  cases c <;> simp [apply, withFields, fields, Call.indices, Call.types, Call.pretty?,
    Call.debug?, Call.routing?, Call.preference?, Call.fragments, addIndex, addIndices, addType,
    addTypes, setPretty, setDebug, setRouting, setPreference, addSuggester, addFragment]

theorem getLastD_append {α : Type} (l l' : List α) (d : α) :
    (l ++ l').getLastD d = l'.getLastD (l.getLastD d) := by
  simp only [List.getLastD_eq_getLast?, List.getLast?_append]
  cases l'.getLast? <;> rfl

theorem withFields_withFields (b : Builder) (f g : Fields) :
    (b.withFields f).withFields g = b.withFields (f.append g) := by
  simp only [withFields, Fields.append, List.append_assoc, getLastD_append]

/-- Running calls appends the names and fragments they add, in order, and leaves each setting
at the value written last, or as it was when no call writes it. -/
theorem run_eq (b : Builder) (calls : List Call) : b.run calls = b.withFields (fields calls) := by
  induction calls generalizing b with
  | nil => simp [run, withFields, fields]
  | cons c cs ih =>
    rw [run, List.foldl_cons, ← run, ih, apply_eq, withFields_withFields, ← fields_append]
    rfl

/-- A configuration call writes its own field and no other; so call sequences that write each
field alike, `addIndices [a, b]` counting as `addIndex a` then `addIndex b`, build the same URL,
body and executions. Executing a builder hands the transport the same request whatever the
transport does, so an execution can be repeated. -/
theorem calls_write_only_their_fields (b : Builder) :
    (∀ c, b.apply c = b.withFields (fields [c])) ∧
    (∀ cs cs', fields cs = fields cs' →
      (b.run cs).url = (b.run cs').url ∧ (b.run cs).body = (b.run cs').body ∧
      ∀ cl o, (b.run cs).execute cl o = (b.run cs').execute cl o) ∧
    ∀ cl o o', (b.execute cl o).sent = (b.execute cl o').sent := by
  refine ⟨apply_eq b, fun cs cs' hfields => ?_, fun cl o o' => ?_⟩
  · have hrun : b.run cs = b.run cs' := by rw [run_eq, run_eq, hfields]
    exact ⟨by rw [hrun], by rw [hrun], fun cl o => by rw [hrun]⟩
  · rw [execute_sent, execute_sent]

/-- Adding two indices at once is adding them one after the other. -/
example (a i : Json) : fields [.addIndices [a, i]] = fields [.addIndex a, .addIndex i] := rfl

end Builder

end SuggestGateway
