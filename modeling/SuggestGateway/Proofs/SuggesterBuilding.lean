import SuggestGateway.Suggester.Build
/-!
# A description is checked in order

A description builds a suggester through four checks, and the first that fails is the error:
the kind (`term` when absent) is a text, the name is a non-empty text, the kind is registered,
and each member other than `kind` and `name`, in order, names an option of the created
suggester. The last check runs member by member while the setters are called, but calling a
setter never changes which options a suggester has (`hasSetter_call`): so it is the check of
every member against the suggester as created. A description builds exactly when all four
pass, and the suggester it builds is the created one with the setters called in order
(`buildSuggester_checks_in_order`).
-/
namespace SuggestGateway

namespace Suggester

@[simp] theorem family_call (s : Suggester) (setter : String) (v : Json) :
    (s.call setter v).family = s.family := by
  unfold call
  split
  · rfl
  · split
    · split <;> rfl
    · rfl

@[simp] theorem hasSetter_call (s : Suggester) (setter : String) (v : Json) (k : String) :
    (s.call setter v).hasSetter k = s.hasSetter k := by
  simp [hasSetter]

theorem hasSetter_iff (s : Suggester) (k : String) :
    s.hasSetter k = true ↔ k ∈ s.family.options := by
  simp [hasSetter]

end Suggester

namespace Registry

theorem exists_create_iff (r : Registry) (kind name : String) :
    (∃ s, r.create kind name = .ok s) ↔ kind ∈ r.kinds := by
  have hsome : (Entries.get? r.creators kind).isSome ↔ kind ∈ r.kinds := by
    simp only [Entries.get?, kinds, List.lookup_isSome_iff, beq_iff_eq, List.mem_map]
    exact ⟨fun ⟨p, hp, h⟩ => ⟨p, hp, h.symm⟩, fun ⟨p, hp, h⟩ => ⟨p, hp, h.symm⟩⟩
  rw [← hsome]
  unfold create
  cases Entries.get? r.creators kind <;> simp

end Registry

section Settings

variable (kind : String)

/-- Setters called one after another succeed exactly when each member names one, and then
give the suggester with all of them called in order. -/
theorem applySettings_eq_ok_iff (s s' : Suggester) (ms : List (String × Json)) :
    applySettings kind s ms = .ok s' ↔
      (∀ m ∈ ms, s.hasSetter m.1 = true) ∧ s' = ms.foldl (fun t m => t.call m.1 m.2) s := by
  induction ms generalizing s with
  | nil =>
    simp only [applySettings, Except.ok.injEq, List.not_mem_nil, false_imp_iff, implies_true,
      true_and, List.foldl_nil]
    exact eq_comm
  | cons m ms ih =>
    obtain ⟨k, v⟩ := m
    by_cases hk : s.hasSetter k = true
    · simp [applySettings, hk, ih]
    · simp [applySettings, hk]

theorem applySettings_of_unknown (s : Suggester) (pre post : List (String × Json))
    (key : String) (v : Json) (hpre : ∀ m ∈ pre, s.hasSetter m.1 = true)
    (hkey : s.hasSetter key = false) :
    applySettings kind s (pre ++ (key, v) :: post) = .error (.unknownOption key kind) := by
  induction pre generalizing s with
  | nil => simp [applySettings, hkey]
  | cons m pre ih =>
    obtain ⟨k, w⟩ := m
    have hk : s.hasSetter k = true := hpre (k, w) List.mem_cons_self
    rw [List.cons_append, applySettings, if_pos hk]
    apply ih
    · intro m hm
      rw [Suggester.hasSetter_call]
      exact hpre m (List.mem_cons_of_mem _ hm)
    · rw [Suggester.hasSetter_call]
      exact hkey

end Settings

theorem mem_settingMembers {members : List (String × Json)} {m : String × Json} :
    m ∈ settingMembers members ↔ m ∈ members ∧ m.1 ≠ "kind" ∧ m.1 ≠ "name" := by
  simp [settingMembers]

theorem settingMembers_append_cons (pre post : List (String × Json)) {key : String} (v : Json)
    (hkind : key ≠ "kind") (hname : key ≠ "name") :
    settingMembers (pre ++ (key, v) :: post) =
      settingMembers pre ++ (key, v) :: settingMembers post := by
  simp [settingMembers, List.filter_append, hkind, hname]

section Checks

variable (r : Registry) (members : List (String × Json))

theorem buildSuggester_ok_iff (s : Suggester) :
    buildSuggester r (.obj members) = .ok s ↔
      ∃ k n created, (Entries.get? members "kind").getD (.str "term") = .str k ∧
        Entries.get? members "name" = some (.str n) ∧ n ≠ "" ∧ k ∈ r.kinds ∧
        r.create k n = .ok created ∧
        (∀ m ∈ members, m.1 ≠ "kind" → m.1 ≠ "name" → m.1 ∈ created.family.options) ∧
        s = (settingMembers members).foldl (fun t m => t.call m.1 m.2) created := by
  have hsettings : ∀ created : Suggester,
      (∀ m ∈ settingMembers members, created.hasSetter m.1 = true) ↔
        ∀ m ∈ members, m.1 ≠ "kind" → m.1 ≠ "name" → m.1 ∈ created.family.options := by
    intro created
    simp only [mem_settingMembers, Suggester.hasSetter_iff, and_imp]
  constructor
  · intro h
    simp only [buildSuggester] at h
    split at h
    · rename_i k hk
      split at h
      · rename_i n hn
        split at h
        · cases h
        · rename_i hne
          split at h
          · cases h
          · rename_i created hc
            obtain ⟨hall, rfl⟩ := (applySettings_eq_ok_iff k created s _).mp h
            refine ⟨k, n, created, hk, hn, by simpa using hne, ?_, hc, (hsettings created).mp hall,
              rfl⟩
            exact (Registry.exists_create_iff r k n).mp ⟨created, hc⟩
      · cases h
    · cases h
  · rintro ⟨k, n, created, hk, hn, hne, -, hc, hall, rfl⟩
    simp only [buildSuggester, hk, hn, String.isEmpty_eq_false_iff.mpr hne, hc,
      Bool.false_eq_true, if_false]
    exact (applySettings_eq_ok_iff k created _ _).mpr ⟨(hsettings created).mpr hall, rfl⟩

theorem buildSuggester_of_kind_not_text
    (hkind : ∀ k, (Entries.get? members "kind").getD (.str "term") ≠ .str k) :
    buildSuggester r (.obj members) =
      .error (.kindNotText ((Entries.get? members "kind").getD (.str "term"))) := by
  cases hkd : (Entries.get? members "kind").getD (.str "term")
  case str k => exact absurd hkd (hkind k)
  all_goals simp only [buildSuggester, hkd]

variable {k : String}

theorem buildSuggester_of_bad_name (hk : (Entries.get? members "kind").getD (.str "term") = .str k)
    (hname : ∀ n, Entries.get? members "name" = some (.str n) → n = "") :
    buildSuggester r (.obj members) = .error .badName := by
  simp only [buildSuggester, hk]
  split
  · rename_i n hn
    rw [if_pos (String.isEmpty_iff.mpr (hname n hn))]
  · rfl

variable {n : String}

theorem buildSuggester_of_unregistered
    (hk : (Entries.get? members "kind").getD (.str "term") = .str k)
    (hn : Entries.get? members "name" = some (.str n)) (hne : n ≠ "") (hreg : k ∉ r.kinds) :
    buildSuggester r (.obj members) = .error (.unknownKind k) := by
  obtain ⟨e, he⟩ : ∃ e, r.create k n = .error e := by
    cases hc : r.create k n with
    | error e => exact ⟨e, rfl⟩
    | ok s => exact absurd ((Registry.exists_create_iff r k n).mp ⟨s, hc⟩) hreg
  simp only [buildSuggester, hk, hn, String.isEmpty_eq_false_iff.mpr hne, he,
    Bool.false_eq_true, if_false]

theorem buildSuggester_of_unknown_option {created : Suggester} {pre post : List (String × Json)}
    {key : String} {v : Json} (hk : (Entries.get? members "kind").getD (.str "term") = .str k)
    (hn : Entries.get? members "name" = some (.str n)) (hne : n ≠ "")
    (hc : r.create k n = .ok created) (hmembers : members = pre ++ (key, v) :: post)
    (hkind : key ≠ "kind") (hname : key ≠ "name")
    (hpre : ∀ m ∈ pre, m.1 ≠ "kind" → m.1 ≠ "name" → m.1 ∈ created.family.options)
    (hkey : key ∉ created.family.options) :
    buildSuggester r (.obj members) = .error (.unknownOption key k) := by
  simp only [buildSuggester, hk, hn, String.isEmpty_eq_false_iff.mpr hne, hc,
    Bool.false_eq_true, if_false]
  rw [hmembers, settingMembers_append_cons pre post v hkind hname]
  apply applySettings_of_unknown
  · intro m hm
    obtain ⟨hm, hmkind, hmname⟩ := mem_settingMembers.mp hm
    exact (Suggester.hasSetter_iff created m.1).mpr (hpre m hm hmkind hmname)
  · rw [← Bool.not_eq_true, Suggester.hasSetter_iff]
    exact hkey

end Checks

/-- A description is checked in order: the kind (`term` when absent) is a text, the name is a
non-empty text, the kind is registered, and each member other than `kind` and `name`, in
order, names an option of the created suggester. It builds exactly when every check passes,
into the created suggester with the members' setters called in order; otherwise the error is
the one of the first check that fails. -/
theorem buildSuggester_checks_in_order (r : Registry) (members : List (String × Json)) :
    let kind := (Entries.get? members "kind").getD (.str "term")
    let name := Entries.get? members "name"
    let built := buildSuggester r (.obj members)
    (∀ s, built = .ok s ↔ ∃ k n created, kind = .str k ∧ name = some (.str n) ∧ n ≠ "" ∧
      k ∈ r.kinds ∧ r.create k n = .ok created ∧
      (∀ m ∈ members, m.1 ≠ "kind" → m.1 ≠ "name" → m.1 ∈ created.family.options) ∧
      s = (settingMembers members).foldl (fun t m => t.call m.1 m.2) created) ∧
    ((∀ k, kind ≠ .str k) →
      ∃ e, built = .error e ∧ e.message = "Unknown suggester kind: " ++ kind.display) ∧
    (∀ k, kind = .str k → (∀ n, name = some (.str n) → n = "") →
      ∃ e, built = .error e ∧ e.message = "Suggester 'name' must be a non-empty string") ∧
    (∀ k n, kind = .str k → name = some (.str n) → n ≠ "" → k ∉ r.kinds →
      ∃ e, built = .error e ∧ e.message = "Unknown suggester kind: " ++ k) ∧
    ∀ k n created pre key v post, kind = .str k → name = some (.str n) → n ≠ "" →
      r.create k n = .ok created → members = pre ++ (key, v) :: post →
      key ≠ "kind" → key ≠ "name" →
      (∀ m ∈ pre, m.1 ≠ "kind" → m.1 ≠ "name" → m.1 ∈ created.family.options) →
      key ∉ created.family.options →
      ∃ e, built = .error e ∧
        e.message = "Unknown option '" ++ key ++ "' for " ++ k ++ " suggester" := by
  intro kind name built
  refine ⟨buildSuggester_ok_iff r members, fun hkind => ?_, fun k hk hname => ?_,
    fun k n hk hn hne hreg => ?_, fun k n created pre key v post hk hn hne hc hmembers hkind
      hname hpre hkey => ?_⟩
  · exact ⟨_, buildSuggester_of_kind_not_text r members hkind, rfl⟩
  · exact ⟨_, buildSuggester_of_bad_name r members hk hname, rfl⟩
  · exact ⟨_, buildSuggester_of_unregistered r members hk hn hne hreg, rfl⟩
  · exact ⟨_, buildSuggester_of_unknown_option r members hk hn hne hc hmembers hkind hname hpre
      hkey, rfl⟩

-- `fuzzy` is an option of completion suggesters only
example : (buildSuggester Registry.standard
    (.obj [("kind", .str "term"), ("name", .str "x"), ("fuzzy", .bool true)])).mapError
      BuildError.message = .error "Unknown option 'fuzzy' for term suggester" := by
  rfl

end SuggestGateway
