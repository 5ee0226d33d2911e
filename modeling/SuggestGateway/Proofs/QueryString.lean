import SuggestGateway.Proofs.Escaping
/-!
# Query strings read back

A query is read back by the rule of form encoding: split it at `&`, each piece at its first
`=`, and form-decode both sides. Read so, the query of a suggest request gives back exactly the
parameters that were set, in order: `pretty=true` when pretty printing is on, then the routing
and the preference when they are not empty (`suggestQuery_reads_back`). A query holds only
unreserved characters, escapes, `+`, `&` and `=`, so no routing or preference value can add,
drop or reorder a parameter, or start a fragment.

Both halves hold for any list of pairs (`renderQuery_reads_back`): no encoded key or value
holds an `&` or an `=`, and each decodes to itself.
-/
namespace SuggestGateway

namespace Query

/-- A piece of a query split at its first `=`: what stands before it and what stands after. -/
def splitAtEquals : List Char → Option (List Char × List Char)
  | [] => none
  | '=' :: rest => some ([], rest)
  | c :: rest => (splitAtEquals rest).map fun p => (c :: p.1, p.2)

def readPair (piece : List Char) : Option (String × String) := do
  let (key, value) ← splitAtEquals piece
  let key ← Percent.decodeForm (String.ofList key)
  let value ← Percent.decodeForm (String.ofList value)
  return (key, value)

def read (query : String) : Option (List (String × String)) :=
  (query.toList.splitOn '&').mapM readPair

theorem splitAtEquals_append {key : List Char} (hkey : '=' ∉ key) (value : List Char) :
    splitAtEquals (key ++ '=' :: value) = some (key, value) := by
  induction key with
  | nil => simp [splitAtEquals]
  | cons c key ih =>
    have hc : c ≠ '=' := fun h => hkey (h ▸ List.mem_cons_self)
    have hrest : '=' ∉ key := fun h => hkey (List.mem_cons_of_mem c h)
    rw [List.cons_append, splitAtEquals.eq_3 c _ hc, ih hrest]
    rfl

open Url in
theorem sep_not_mem_encodeForm (s : String) {c : Char} (hc : c = '&' ∨ c = '=') :
    c ∉ (Percent.encodeForm s).toList := by
  rcases hc with rfl | rfl <;>
    exact not_mem_of_prepared (prepared_encodeForm s) (by decide) (by decide) (by decide)

theorem readPair_pairText (p : String × String) : readPair (pairText p).toList = some p := by
  rw [toList_pairText, readPair,
    splitAtEquals_append (sep_not_mem_encodeForm p.1 (.inr rfl))]
  simp [Percent.decodeForm_encodeForm]

theorem amp_not_mem_pairText (p : String × String) : '&' ∉ (pairText p).toList := by
  rw [toList_pairText]
  simp only [List.mem_append, List.mem_cons, not_or]
  exact ⟨sep_not_mem_encodeForm p.1 (.inl rfl), by decide, sep_not_mem_encodeForm p.2 (.inl rfl)⟩

theorem read_intercalate {ps : List (String × String)} (hne : ps ≠ []) :
    read ("&".intercalate (ps.map pairText)) = some ps := by
  have hsplit : ("&".intercalate (ps.map pairText)).toList.splitOn '&' =
      ps.map fun p => (pairText p).toList := by
    rw [String.toList_intercalate, List.map_map]
    apply List.splitOn_intercalate
    · intro l hl
      obtain ⟨p, -, rfl⟩ := List.mem_map.mp hl
      exact amp_not_mem_pairText p
    · simpa using hne
  have heach : (readPair ∘ fun p => (pairText p).toList) = fun p => pure (id p) :=
    funext readPair_pairText
  rw [read, hsplit, List.mapM_map, heach, List.mapM_pure, List.map_id]
  rfl

end Query

open Query

/-- A query written from any pairs is empty exactly when there are none; otherwise it is `?`
and a text of query characters and escapes that reads back as the pairs. -/
theorem renderQuery_reads_back (ps : List (String × String)) :
    (renderQuery ps = "" ↔ ps = []) ∧
    (ps ≠ [] → ∃ s, renderQuery ps = "?" ++ s ∧
      Url.Prepared isQueryText s.toList = true ∧ Query.read s = some ps) := by
  have hwritten : ps ≠ [] → renderQuery ps = "?" ++ "&".intercalate (ps.map pairText) := by
    intro hne
    rw [renderQuery, if_neg (by simpa using hne)]
    rfl
  refine ⟨⟨fun hempty => ?_, fun hnil => by simp [renderQuery, hnil]⟩, fun hne => ?_⟩
  · by_contra hne
    rw [hwritten hne] at hempty
    exact absurd (congrArg String.length hempty) (by simp)
  · exact ⟨_, hwritten hne, prepared_intercalate_pairText ps, read_intercalate hne⟩

theorem queryParams_strs (pretty : Json) (routing preference : String) :
    queryParams pretty (.str routing) (.str preference) =
      (if pretty.truthy then [("pretty", "true")] else []) ++
      (if routing = "" then [] else [("routing", routing)]) ++
      (if preference = "" then [] else [("preference", preference)]) := by
  simp only [queryParams, Json.truthy, Json.display, Bool.not_eq_true']
  by_cases hr : routing = "" <;> by_cases hp : preference = "" <;> simp [hr, hp]

/-- The query of a suggest request is empty exactly when pretty printing is off and routing
and preference are empty. Otherwise it is `?` and a text of unreserved characters, escapes,
`+`, `&` and `=` which, split at `&`, each piece at its first `=`, both sides form-decoded,
gives `pretty=true` when pretty printing is on, then the routing and the preference when they
are not empty, and nothing else. -/
theorem suggestQuery_reads_back (pretty : Json) (routing preference : String) :
    let query := suggestQuery pretty (.str routing) (.str preference)
    let params := (if pretty.truthy then [("pretty", "true")] else []) ++
      (if routing = "" then [] else [("routing", routing)]) ++
      (if preference = "" then [] else [("preference", preference)])
    (query = "" ↔ pretty.truthy = false ∧ routing = "" ∧ preference = "") ∧
    (query ≠ "" → ∃ s, query = "?" ++ s ∧
      Url.Prepared (fun c => Percent.isUnreserved c || c == '+' || c == '&' || c == '=')
        s.toList = true ∧
      Query.read s = some params) := by
  intro query params
  obtain ⟨hempty, hread⟩ := renderQuery_reads_back params
  have hquery : query = renderQuery params := by
    simp only [query, suggestQuery, queryParams_strs, params]
  have hnone : params = [] ↔ pretty.truthy = false ∧ routing = "" ∧ preference = "" := by
    simp only [params, List.append_eq_nil_iff]
    by_cases hr : routing = "" <;> by_cases hp : preference = "" <;> cases pretty.truthy <;>
      simp [hr, hp]
  rw [hquery, hempty, hnone]
  refine ⟨Iff.rfl, fun hne => ?_⟩
  exact hread (fun hnil => hne (hempty.mpr hnil))

-- every parameter on, a space and the separators `:` and `&` in the values
example : suggestQuery (.bool true) (.str "user 1") (.str "_only_nodes:a&b") =
    "?pretty=true&routing=user+1&preference=_only_nodes%3Aa%26b" := by decide

end SuggestGateway
