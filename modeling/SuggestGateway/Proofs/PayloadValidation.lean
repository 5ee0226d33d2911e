import SuggestGateway.Gateway.Validate
import SuggestGateway.Proofs.Decoding
import SuggestGateway.Client.Basic
/-!
# A suggest payload is checked in order

A suggest payload passes nine checks in a fixed order (`payloadChecks`): it is an object;
`suggesters` is a non-empty list; each suggester is an object; `indices`, then `types`, are
absent or lists of non-empty texts; `routing`, then `preference`, are absent, false or texts;
`pretty`, then `debug`, are absent or booleans. A member that is present with `null` fails
every check but the text checks, where `null` counts as false. Validation fails exactly with
the error of the first check that fails (`validatePayload_checks_in_order`), so the order of
the members in the body plays no part; when every check passes it gives the names (none when
absent), the texts (empty for a false value), the flags (false when absent) and the suggesters
as given.

Each field reader is characterised once, by what it accepts and what it refuses
(`nameList_eq_ok_iff`, `Reports`); the chain of readers is then walked with one lemma about
a step of it (`bind_eq_error_iff`).
-/
namespace SuggestGateway

/-- One check of a payload: whether it passes, and the error it reports when it does not. -/
structure PayloadCheck where
  passes : Bool
  error : ValidationError

def firstFailure (checks : List PayloadCheck) : Option ValidationError :=
  (checks.find? (!·.passes)).map (·.error)

namespace Json

def isNameList : Json → Bool
  | .arr items => items.all fun
    | .str s => !s.isEmpty
    | _ => false
  | _ => false

def isTextOrFalse (v : Json) : Bool :=
  match v with
  | .str _ => true
  | v => !v.truthy

def isBool : Json → Bool
  | .bool _ => true
  | _ => false

def isNonEmptyList : Json → Bool
  | .arr (_ :: _) => true
  | _ => false

/-- A list whose items are objects; a value that is no list has no items to check. -/
def allObjects : Json → Bool
  | .arr items => items.all Json.isObject
  | _ => true

end Json

def payloadChecks (data : Json) : List PayloadCheck :=
  let ms := match data with
    | .obj ms => ms
    | _ => []
  let member := fun (field : String) (absent : Json) => (Entries.get? ms field).getD absent
  [⟨data.isObject, .notObject⟩,
    ⟨(member "suggesters" .null).isNonEmptyList, .noSuggesters⟩,
    ⟨(member "suggesters" .null).allObjects, .suggesterNotObject⟩,
    ⟨(member "indices" (.arr [])).isNameList, .notNameList "indices"⟩,
    ⟨(member "types" (.arr [])).isNameList, .notNameList "types"⟩,
    ⟨(member "routing" .null).isTextOrFalse, .notText "routing"⟩,
    ⟨(member "preference" .null).isTextOrFalse, .notText "preference"⟩,
    ⟨(member "pretty" (.bool false)).isBool, .notFlag "pretty"⟩,
    ⟨(member "debug" (.bool false)).isBool, .notFlag "debug"⟩]

/-- The member `field` is absent, giving no names, or the list of the non-empty texts
`names`. -/
def NamesAt (ms : List (String × Json)) (field : String) (names : List String) : Prop :=
  (Entries.get? ms field).getD (.arr []) = .arr (names.map .str) ∧ ∀ n ∈ names, n ≠ ""

/-- The member `field` is absent or false, giving the empty text, or the text `s`. -/
def TextAt (ms : List (String × Json)) (field : String) (s : String) : Prop :=
  ((Entries.get? ms field).getD .null).truthy = false ∧ s = "" ∨
    (Entries.get? ms field).getD .null = .str s ∧ s ≠ ""

/-- The member `field` is absent, giving `false`, or the boolean `b`. -/
def FlagAt (ms : List (String × Json)) (field : String) (b : Bool) : Prop :=
  (Entries.get? ms field).getD (.bool false) = .bool b

/-- A step that fails exactly when the check fails, with the check's error. -/
def Reports {α : Type} (x : Except ValidationError α) (c : PayloadCheck) : Prop :=
  ∀ e, x = .error e ↔ c.passes = false ∧ c.error = e

section Steps

variable {α β : Type}

theorem firstFailure_cons_of_passes {c : PayloadCheck} (rest : List PayloadCheck)
    (h : c.passes = true) : firstFailure (c :: rest) = firstFailure rest := by
  simp [firstFailure, h]

theorem firstFailure_cons_of_fails {c : PayloadCheck} (rest : List PayloadCheck)
    (h : c.passes = false) : firstFailure (c :: rest) = some c.error := by
  simp [firstFailure, h]

theorem bind_eq_error_iff {x : Except ValidationError α} {c : PayloadCheck}
    {f : α → Except ValidationError β} {rest : List PayloadCheck} (hx : Reports x c)
    (hf : ∀ a, x = .ok a → ∀ e, f a = .error e ↔ firstFailure rest = some e) :
    ∀ e, x >>= f = .error e ↔ firstFailure (c :: rest) = some e := by
  intro e
  cases h : x with
  | error e' =>
    obtain ⟨hfails, herror⟩ := (hx e').mp h
    rw [firstFailure_cons_of_fails rest hfails, herror]
    exact ⟨fun h' => by cases h'; rfl, fun h' => by cases h'; rfl⟩
  | ok a =>
    have hpasses : c.passes = true := by
      cases hc : c.passes with
      | true => rfl
      | false => cases (hx c.error).mpr ⟨hc, rfl⟩ |>.symm.trans h
    rw [firstFailure_cons_of_passes rest hpasses]
    exact hf a h e

end Steps

section Fields

variable (ms : List (String × Json)) (field : String)

theorem name?_eq_some_iff (i : Json) (n : String) : i.name? = some n ↔ i = .str n ∧ n ≠ "" := by
  cases i with
  | str s =>
    by_cases hs : s = ""
    · subst hs
      constructor
      · simp [Json.name?]
      · rintro ⟨h, hn⟩
        exact absurd (Json.str.inj h).symm hn
    · simp only [Json.name?, String.isEmpty_iff, hs, if_false, Option.some.injEq, Json.str.injEq]
      exact ⟨fun h => ⟨h, h ▸ hs⟩, fun h => h.1⟩
  | _ => simp [Json.name?]

theorem mapM_name?_eq_some_iff (items : List Json) (names : List String) :
    items.mapM Json.name? = some names ↔ items = names.map .str ∧ ∀ n ∈ names, n ≠ "" := by
  induction items generalizing names with
  | nil => cases names <;> simp
  | cons i items ih =>
    simp only [List.mapM_cons, Option.pure_def, Option.bind_eq_bind, Option.bind_eq_some_iff,
      Option.some.injEq]
    cases names with
    | nil => simp
    | cons n names =>
      simp only [List.cons.injEq, List.map_cons, List.mem_cons, forall_eq_or_imp]
      constructor
      · rintro ⟨a, ha, as, has, rfl, rfl⟩
        obtain ⟨rfl, hn⟩ := (name?_eq_some_iff i a).mp ha
        obtain ⟨rfl, hns⟩ := (ih as).mp has
        exact ⟨⟨rfl, rfl⟩, hn, hns⟩
      · rintro ⟨⟨rfl, rfl⟩, hn, hns⟩
        exact ⟨n, (name?_eq_some_iff _ n).mpr ⟨rfl, hn⟩, names, (ih names).mpr ⟨rfl, hns⟩, rfl, rfl⟩

theorem mapM_name?_isSome (items : List Json) :
    (items.mapM Json.name?).isSome = (Json.arr items).isNameList := by
  induction items with
  | nil => rfl
  | cons i items ih =>
    simp only [Json.isNameList, List.all_cons] at ih ⊢
    cases i with
    | str s =>
      by_cases hs : s = ""
      · simp [Json.name?, hs]
      · simp only [Json.name?, String.isEmpty_iff, hs, if_false, List.mapM_cons,
          Option.pure_def, Option.bind_eq_bind, Option.bind_some, ← ih]
        cases items.mapM Json.name? <;> simp [hs]
    | _ => simp [Json.name?]

theorem nameList_eq_ok_iff (names : List String) :
    nameList ms field = .ok names ↔ NamesAt ms field names := by
  unfold nameList NamesAt
  split
  · rename_i items hitems
    rw [hitems, Json.arr.injEq, ← mapM_name?_eq_some_iff]
    cases items.mapM Json.name? <;> simp
  · rename_i hnot
    constructor
    · intro h
      cases h
    · rintro ⟨h, -⟩
      exact absurd h (hnot _)

theorem reports_nameList :
    Reports (nameList ms field)
      ⟨((Entries.get? ms field).getD (.arr [])).isNameList, .notNameList field⟩ := by
  intro e
  unfold nameList
  split
  · rename_i items hitems
    rw [hitems, ← mapM_name?_isSome]
    cases items.mapM Json.name? <;> simp [eq_comm]
  · rename_i hnot
    have hfails : ((Entries.get? ms field).getD (.arr [])).isNameList = false := by
      cases h : (Entries.get? ms field).getD (.arr [])
      case arr items => exact absurd h (hnot items)
      all_goals rfl
    simp [hfails, eq_comm]

theorem textField_eq_ok_iff (s : String) : textField ms field = .ok s ↔ TextAt ms field s := by
  unfold textField TextAt Json.orElse
  generalize (Entries.get? ms field).getD .null = v
  cases hv : v.truthy
  · simp only [Bool.false_eq_true, if_false, Except.ok.injEq, true_and]
    constructor
    · intro h
      exact .inl h.symm
    · rintro (h | ⟨rfl, hs⟩)
      · exact h.symm
      · simp [Json.truthy] at hv
        exact absurd hv hs
  · cases v with
    | str t =>
      have ht : t ≠ "" := by simpa [Json.truthy] using hv
      simp only [if_true, Except.ok.injEq, Bool.true_eq_false, false_and, false_or,
        Json.str.injEq]
      exact ⟨fun h => ⟨h, h ▸ ht⟩, fun h => h.1⟩
    | _ => simp

theorem reports_textField :
    Reports (textField ms field)
      ⟨((Entries.get? ms field).getD .null).isTextOrFalse, .notText field⟩ := by
  intro e
  unfold textField Json.orElse
  generalize (Entries.get? ms field).getD .null = v
  cases hv : v.truthy
  · have htext : v.isTextOrFalse = true := by cases v <;> simp_all [Json.isTextOrFalse]
    simp [htext]
  · cases v with
    | str t => simp [Json.isTextOrFalse]
    | _ => simp [Json.isTextOrFalse, hv]

theorem flagField_eq_ok_iff (b : Bool) : flagField ms field = .ok b ↔ FlagAt ms field b := by
  unfold flagField FlagAt
  split
  · rename_i b' hb
    simp [hb, eq_comm]
  · rename_i hnot
    simp only [reduceCtorEq, false_iff]
    exact hnot b

theorem reports_flagField :
    Reports (flagField ms field)
      ⟨((Entries.get? ms field).getD (.bool false)).isBool, .notFlag field⟩ := by
  intro e
  unfold flagField
  split
  · rename_i b hb
    simp [hb, Json.isBool]
  · rename_i hnot
    have hfails : ((Entries.get? ms field).getD (.bool false)).isBool = false := by
      cases h : (Entries.get? ms field).getD (.bool false)
      case bool b => exact absurd h (hnot b)
      all_goals rfl
    simp [hfails, eq_comm]

end Fields

theorem throw_eq_error {α : Type} (e : ValidationError) :
    (throw e : Except ValidationError α) = .error e := rfl

theorem exists_of_isNonEmptyList {v : Option Json} (h : (v.getD .null).isNonEmptyList = true) :
    ∃ s ss, v = some (.arr (s :: ss)) := by
  cases v with
  | none => cases h
  | some v =>
    cases v
    case arr items =>
      cases items with
      | nil => cases h
      | cons s ss => exact ⟨s, ss, rfl⟩
    all_goals cases h

theorem validatePayload_of_no_suggesters (ms : List (String × Json))
    (h : ((Entries.get? ms "suggesters").getD .null).isNonEmptyList = false) :
    validatePayload (.obj ms) = .error .noSuggesters := by
  rw [validatePayload]
  cases hs : Entries.get? ms "suggesters" with
  | none => rfl
  | some v =>
    rw [hs] at h
    cases v
    case arr items =>
      cases items with
      | nil => rfl
      | cons s ss => cases h
    all_goals rfl

/-- Validation fails exactly with the error of the first check that fails. -/
theorem validatePayload_eq_error_iff (data : Json) (e : ValidationError) :
    validatePayload data = .error e ↔ firstFailure (payloadChecks data) = some e := by
  cases data
  case obj ms =>
    simp only [payloadChecks]
    rw [firstFailure_cons_of_passes _ rfl]
    by_cases hlist : ((Entries.get? ms "suggesters").getD .null).isNonEmptyList = true
    · obtain ⟨s, ss, hss⟩ := exists_of_isNonEmptyList hlist
      rw [firstFailure_cons_of_passes _ hlist]
      simp only [validatePayload, hss, Option.getD_some, pure_bind]
      by_cases hobj : (s :: ss).all Json.isObject = true
      · rw [firstFailure_cons_of_passes _ hobj]
        simp only [hobj, Bool.not_true, Bool.false_eq_true, if_false]
        revert e
        refine bind_eq_error_iff (reports_nameList ms "indices") fun _ _ => ?_
        refine bind_eq_error_iff (reports_nameList ms "types") fun _ _ => ?_
        refine bind_eq_error_iff (reports_textField ms "routing") fun _ _ => ?_
        refine bind_eq_error_iff (reports_textField ms "preference") fun _ _ => ?_
        refine bind_eq_error_iff (reports_flagField ms "pretty") fun _ _ => ?_
        refine bind_eq_error_iff (reports_flagField ms "debug") fun _ _ => ?_
        intro e
        constructor <;> intro h <;> cases h
      · rw [Bool.not_eq_true] at hobj
        rw [firstFailure_cons_of_fails _ hobj]
        simp [hobj, throw_eq_error, error_bind]
    · rw [Bool.not_eq_true] at hlist
      rw [firstFailure_cons_of_fails _ hlist, validatePayload_of_no_suggesters ms hlist]
      simp
  all_goals simp [validatePayload, payloadChecks, firstFailure, Json.isObject]

/-- Validation succeeds exactly on a payload whose checks all pass, and gives what its fields
hold: the suggesters as given, the names, the texts and the flags. -/
theorem validatePayload_eq_ok_iff (data : Json) (p : SuggestParams) :
    validatePayload data = .ok p ↔ ∃ ms, data = .obj ms ∧
      Entries.get? ms "suggesters" = some (.arr p.suggesters) ∧ p.suggesters ≠ [] ∧
      (∀ s ∈ p.suggesters, s.isObject = true) ∧
      NamesAt ms "indices" p.indices ∧ NamesAt ms "types" p.types ∧
      TextAt ms "routing" p.routing ∧ TextAt ms "preference" p.preference ∧
      FlagAt ms "pretty" p.pretty ∧ FlagAt ms "debug" p.debug := by
  constructor
  · intro h
    cases data
    case obj ms =>
      by_cases hlist : ((Entries.get? ms "suggesters").getD .null).isNonEmptyList = true
      · obtain ⟨s, ss, hss⟩ := exists_of_isNonEmptyList hlist
        simp only [validatePayload, hss, pure_bind] at h
        by_cases hobj : (s :: ss).all Json.isObject = true
        · simp only [hobj, Bool.not_true, Bool.false_eq_true, if_false] at h
          obtain ⟨indices, hindices, h⟩ := bind_eq_ok h
          obtain ⟨types, htypes, h⟩ := bind_eq_ok h
          obtain ⟨routing, hrouting, h⟩ := bind_eq_ok h
          obtain ⟨preference, hpreference, h⟩ := bind_eq_ok h
          obtain ⟨pretty, hpretty, h⟩ := bind_eq_ok h
          obtain ⟨debug, hdebug, h⟩ := bind_eq_ok h
          cases h
          exact ⟨ms, rfl, hss, List.cons_ne_nil s ss, List.all_eq_true.mp hobj,
            (nameList_eq_ok_iff ms _ _).mp hindices, (nameList_eq_ok_iff ms _ _).mp htypes,
            (textField_eq_ok_iff ms _ _).mp hrouting, (textField_eq_ok_iff ms _ _).mp hpreference,
            (flagField_eq_ok_iff ms _ _).mp hpretty, (flagField_eq_ok_iff ms _ _).mp hdebug⟩
        · simp [hobj, throw_eq_error, error_bind] at h
      · rw [Bool.not_eq_true] at hlist
        rw [validatePayload_of_no_suggesters ms hlist] at h
        cases h
    all_goals simp [validatePayload] at h
  · rintro ⟨ms, rfl, hss, hne, hobj, hindices, htypes, hrouting, hpreference, hpretty, hdebug⟩
    obtain ⟨s, ss, hcons⟩ := List.exists_cons_of_ne_nil hne
    have hall : (s :: ss).all Json.isObject = true := List.all_eq_true.mpr (hcons ▸ hobj)
    rw [hcons] at hss
    simp only [validatePayload, hss, pure_bind, hall, Bool.not_true, Bool.false_eq_true, if_false,
      (nameList_eq_ok_iff ms _ _).mpr hindices, (nameList_eq_ok_iff ms _ _).mpr htypes,
      (textField_eq_ok_iff ms _ _).mpr hrouting, (textField_eq_ok_iff ms _ _).mpr hpreference,
      (flagField_eq_ok_iff ms _ _).mpr hpretty, (flagField_eq_ok_iff ms _ _).mpr hdebug, ok_bind]
    rw [← hcons]
    rfl

/-- A suggest payload is checked in order. It is valid exactly when it is an object whose
`suggesters` is a non-empty list of objects, whose `indices` and `types` are absent or lists
of non-empty texts, whose `routing` and `preference` are absent, false or texts, and whose
`pretty` and `debug` are absent or booleans; validation then gives the suggesters as given,
the names (none when absent), the texts (empty for a false value) and the flags (false when
absent). Otherwise it fails with the error of the first check that fails, in the order object,
suggesters, each suggester an object, indices, types, routing, preference, pretty, debug. -/
theorem validatePayload_checks_in_order (data : Json) :
    (∀ p, validatePayload data = .ok p ↔ ∃ ms, data = .obj ms ∧
      Entries.get? ms "suggesters" = some (.arr p.suggesters) ∧ p.suggesters ≠ [] ∧
      (∀ s ∈ p.suggesters, s.isObject = true) ∧
      NamesAt ms "indices" p.indices ∧ NamesAt ms "types" p.types ∧
      TextAt ms "routing" p.routing ∧ TextAt ms "preference" p.preference ∧
      FlagAt ms "pretty" p.pretty ∧ FlagAt ms "debug" p.debug) ∧
    ∀ e, validatePayload data = .error e ↔ firstFailure (payloadChecks data) = some e :=
  ⟨validatePayload_eq_ok_iff data, validatePayload_eq_error_iff data⟩

-- a bad `debug` before a bad `indices` in the body: `indices` is checked first
example : (validatePayload (.obj [("debug", .int 1), ("indices", .str "x"),
    ("suggesters", .arr [.obj []])])).mapError ValidationError.message =
      .error "Field 'indices' must be a list of non-empty strings" := by
  rfl

end SuggestGateway
