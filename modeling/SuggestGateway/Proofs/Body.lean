import SuggestGateway.Json.Lemmas
import SuggestGateway.Service.Execute
/-!
# The body of a suggest request

A builder's body holds one member per suggester name. Its keys are the distinct names in the
order in which they were first added, and each holds the plain body (without metadata) of the
last suggester added under that name: a later suggester replaces an earlier one of the same
name in the earlier one's place. The key order and the values thus come from different
additions whenever a name repeats. Executing the builder hands the transport exactly this
body, as JSON text.
-/
namespace SuggestGateway

theorem Client.newRequest_body (c : Client) (m p : String) (body : Json) (req : Request)
    (h : c.newRequest m p body = .ok req) (hb : body ≠ .null) : req.body = some body.write := by
  obtain ⟨-, -, hs, hbody, -⟩ := Client.newRequest_eq_ok h
  exact (Client.prepareBody_eq_ok hbody hb).2

/-- Every request an execution hands to the transport carries the builder's body as JSON
text. -/
theorem Builder.execute_sent_body (b : Builder) (c : Client) (o : Outcome) :
    ∀ req ∈ (b.execute c o).sent, req.body = some b.body.write := by
  intro req hreq
  rw [Builder.execute_sent, Option.mem_toList] at hreq
  obtain ⟨url, -, hnew⟩ := Builder.outbound_eq_some hreq
  exact Client.newRequest_body c _ _ _ _ hnew (by simp [Builder.body])

theorem Builder.fragments_addSuggesters (b : Builder) (ss : List Suggester) :
    (ss.foldl Builder.addSuggester b).fragments = b.fragments ++ ss.map Suggester.toFragment := by
  induction ss generalizing b with
  | nil => simp
  | cons s ss ih =>
    simp [ih, Builder.addSuggester, Builder.addFragment]

/-- Adding suggesters to a builder that holds none gives a body whose keys are the distinct
suggester names in order of first addition, each holding the plain body of the last suggester
of that name; every request an execution hands to the transport carries this body as JSON
text. -/
theorem body_names_first_bodies_last (b : Builder) (ss : List Suggester)
    (fresh : b.fragments = []) :
    let built := ss.foldl Builder.addSuggester b
    ∃ members, built.body = .obj members ∧
      Entries.keys members = (ss.map (·.name)).eraseDups ∧
      (∀ n, Entries.get? members n =
        (ss.reverse.find? (·.name == n)).map (·.requestBody false)) ∧
      ∀ c o, ∀ req ∈ (built.execute c o).sent, req.body = some built.body.write := by
  intro built
  have hf : built.fragments = ss.map Suggester.toFragment := by
    simp [built, Builder.fragments_addSuggesters, fresh]
  refine ⟨Entries.ofList (built.fragments.map fun f => (f.name, f.body)), rfl, ?_, ?_, ?_⟩
  · rw [Entries.keys_ofList, hf]
    simp [Entries.keys, Suggester.toFragment, Function.comp_def]
  · intro n
    rw [Entries.get?_ofList, hf, List.map_map, ← List.map_reverse, List.find?_map,
      Option.map_map]
    rfl
  · exact Builder.execute_sent_body built

/-- Three suggesters, the first and the last of one name: the body's keys are `s`, `t`. -/
theorem body_names_first_bodies_last_repeated :
    ({} : Builder).fragments = [] ∧
    let ss : List Suggester := [Suggester.empty .term "s", Suggester.empty .completion "t",
      { family := .term, name := "s", text := .str "x" }]
    let built := ss.foldl Builder.addSuggester {}
    ∃ members, built.body = .obj members ∧
      Entries.keys members = (ss.map (·.name)).eraseDups ∧
      (∀ n, Entries.get? members n =
        (ss.reverse.find? (·.name == n)).map (·.requestBody false)) ∧
      ∀ c o, ∀ req ∈ (built.execute c o).sent, req.body = some built.body.write :=
  ⟨rfl, body_names_first_bodies_last {} _ rfl⟩

end SuggestGateway
