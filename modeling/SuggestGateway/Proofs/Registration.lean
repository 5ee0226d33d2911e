import SuggestGateway.Proofs.SuggesterBuilding
import SuggestGateway.Json.Lemmas
/-!
# Registering kinds of suggester

The registry is state that lives as long as the program: it starts with the built-in kinds
`term` and `completion`, and any number of registrations follow. One registration writes its
kind like a member of an object: a known kind keeps its place and takes the new creator, a new
kind goes to the end. So after any registrations the kinds are the registered kinds in order of
first registration, each once (`kinds_standard_registerAll`, with the invariant
`nodup_kinds_registerAll` kept by every step), and a kind creates with the creator of its last
registration (`create_standard_registerAll`). Building a suggester from a description asks the
registry of the moment (`buildSuggester_of_valid_name`), so a kind registered again changes what
every later description of that kind builds (`registrations_last_creator_wins`).
-/
namespace SuggestGateway

namespace Registry

abbrev Registration := String × (String → Suggester)

def builtins : List Registration :=
  [("term", Suggester.empty .term), ("completion", Suggester.empty .completion)]

def registerAll (r : Registry) (regs : List Registration) : Registry :=
  regs.foldl (fun r e => r.register e.1 e.2) r

/-- The creator of the last registration of a kind, if the kind was ever registered. -/
def lastCreator? (regs : List Registration) (kind : String) : Option (String → Suggester) :=
  (regs.reverse.find? (·.1 == kind)).map (·.2)

theorem lastCreator?_eq_none_iff (regs : List Registration) (kind : String) :
    lastCreator? regs kind = none ↔ kind ∉ regs.map (·.1) := by
  simp only [lastCreator?, Option.map_eq_none_iff, List.find?_eq_none, List.mem_reverse,
    beq_iff_eq, List.mem_map, not_exists, not_and]

theorem kinds_eq_keys (r : Registry) : r.kinds = Entries.keys r.creators := rfl

theorem creators_register (r : Registry) (kind : String) (c : String → Suggester) :
    (r.register kind c).creators = Entries.set r.creators kind c := rfl

theorem creators_registerAll (r : Registry) (regs : List Registration) :
    (r.registerAll regs).creators = regs.foldl (fun es e => Entries.set es e.1 e.2) r.creators := by
  induction regs generalizing r with
  | nil => rfl
  | cons e regs ih => exact ih (r.register e.1 e.2)

theorem creators_standard_registerAll (regs : List Registration) :
    (standard.registerAll regs).creators = Entries.ofList (builtins ++ regs) := by
  rw [creators_registerAll]
  simp only [Entries.ofList, List.foldl_append]
  rfl

theorem nodup_kinds_register (r : Registry) (kind : String) (c : String → Suggester)
    (h : r.kinds.Nodup) : (r.register kind c).kinds.Nodup := by
  rw [kinds_eq_keys, creators_register, Entries.keys_set, ← kinds_eq_keys]
  split
  · exact h
  · rename_i hnew
    refine List.nodup_append.mpr ⟨h, List.nodup_cons.mpr ⟨by simp, List.nodup_nil⟩, ?_⟩
    intro a ha b hb hab
    rw [List.mem_singleton] at hb
    subst hb hab
    exact hnew ha

theorem nodup_kinds_registerAll (r : Registry) (regs : List Registration) (h : r.kinds.Nodup) :
    (r.registerAll regs).kinds.Nodup := by
  induction regs generalizing r with
  | nil => exact h
  | cons e regs ih => exact ih (r.register e.1 e.2) (nodup_kinds_register r e.1 e.2 h)

theorem nodup_kinds_standard : standard.kinds.Nodup := by
  decide

theorem kinds_standard_registerAll (regs : List Registration) :
    (standard.registerAll regs).kinds = ((builtins ++ regs).map (·.1)).eraseDups := by
  rw [kinds_eq_keys, creators_standard_registerAll, Entries.keys_ofList]
  rfl

theorem get?_standard_registerAll (regs : List Registration) (kind : String) :
    Entries.get? (standard.registerAll regs).creators kind =
      lastCreator? (builtins ++ regs) kind := by
  rw [creators_standard_registerAll, Entries.get?_ofList]
  rfl

/-- After registrations, a kind creates with the creator of its last registration. -/
theorem create_standard_registerAll (regs : List Registration) (kind name : String) :
    (standard.registerAll regs).create kind name =
      (lastCreator? (builtins ++ regs) kind).elim (.error ⟨kind⟩) fun c => .ok (c name) := by
  rw [create, get?_standard_registerAll]
  cases lastCreator? (builtins ++ regs) kind <;> rfl

end Registry

theorem buildSuggester_of_valid_name (r : Registry) (members : List (String × Json))
    {k n : String} (hk : (Entries.get? members "kind").getD (.str "term") = .str k)
    (hn : Entries.get? members "name" = some (.str n)) (hne : n ≠ "") :
    buildSuggester r (.obj members) =
      (Entries.get? r.creators k).elim (.error (.unknownKind k)) fun c =>
        applySettings k (c n) (settingMembers members) := by
  simp only [buildSuggester, hk, hn, String.isEmpty_eq_false_iff.mpr hne, Bool.false_eq_true,
    if_false, Registry.create]
  cases Entries.get? r.creators k <;> rfl

/-- After the built-in kinds and any registrations: the kinds are listed once each, in order of
first registration; a kind creates with the creator of its last registration and a kind never
registered is unknown; and a description with a text kind and a non-empty name builds with the
creator registered last for its kind. -/
theorem registrations_last_creator_wins (regs : List Registry.Registration) :
    let r := Registry.standard.registerAll regs
    let all := Registry.builtins ++ regs
    r.kinds.Nodup ∧ r.kinds = (all.map (·.1)).eraseDups ∧
    (∀ kind name,
      (∀ c, Registry.lastCreator? all kind = some c → r.create kind name = .ok (c name)) ∧
      (kind ∉ all.map (·.1) → r.create kind name = .error ⟨kind⟩)) ∧
    ∀ members k n, (Entries.get? members "kind").getD (.str "term") = .str k →
      Entries.get? members "name" = some (.str n) → n ≠ "" →
      buildSuggester r (.obj members) =
        (Registry.lastCreator? all k).elim (.error (.unknownKind k)) fun c =>
          applySettings k (c n) (settingMembers members) := by
  intro r all
  refine ⟨Registry.nodup_kinds_registerAll _ regs Registry.nodup_kinds_standard,
    Registry.kinds_standard_registerAll regs, fun kind name => ⟨fun c hc => ?_, fun hnew => ?_⟩,
    fun members k n hk hn hne => ?_⟩
  · rw [Registry.create_standard_registerAll, hc]
    rfl
  · rw [Registry.create_standard_registerAll,
      (Registry.lastCreator?_eq_none_iff all kind).mpr hnew]
    rfl
  · rw [buildSuggester_of_valid_name r members hk hn hne, Registry.get?_standard_registerAll]

/-- `term` registered again to create completion suggesters: a `term` description with a
`fuzzy` member, which a term suggester refuses, now builds a completion suggester. -/
theorem term_registered_again_builds_completion :
    buildSuggester (Registry.standard.registerAll [("term", Suggester.empty .completion)])
        (.obj [("name", .str "s"), ("fuzzy", .bool true)]) =
      .ok { family := .completion, name := "s", options := [("fuzzy", .obj [])] } := by
  have h := (registrations_last_creator_wins [("term", Suggester.empty .completion)]).2.2.2
    [("name", .str "s"), ("fuzzy", .bool true)] "term" "s" rfl rfl (by decide)
  rw [h]
  rfl

end SuggestGateway
