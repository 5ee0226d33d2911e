import SuggestGateway.Suggestion.Decode
/-!
# Decoding: the first problem, or the reading

The decoder of a response checks and builds in one pass. Here the same decoding is said in
two separate parts. The *problems* of a value are its failing checks, in the order the pass
meets them: of a response, its members in order, `_shards` skipped; of a member, that it is a
list, then its suggestions in order; of a suggestion, that it is an object, then `options`,
`text`, `offset`, `length`, then its options in order; of an option, that it is an object,
then `text`, `score`, the conversion of an integer score, `freq`. A field is a problem only
when it is present, not `null`, and of a kind it does not take; a boolean is of its own kind,
never an integer. The *reading* of a value builds the result, each missing or `null` field
taking its default.

The main result is that the decoder fails with the first problem and otherwise gives the
reading. A problem inside a suggestion is reported once under its suggester's name, apart
from an integer score too large for a double, which stops the decoding as it is.
-/
namespace SuggestGateway

section Verdict

variable {ε α β : Type}

/-- Fail with the problem when there is one, else give the value. -/
def verdict (problem : Option ε) (value : α) : Except ε α :=
  match problem with
  | some e => .error e
  | none => .ok value

@[simp] theorem verdict_none (a : α) : verdict (none : Option ε) a = .ok a := rfl

@[simp] theorem verdict_some (e : ε) (a : α) : verdict (some e) a = .error e := rfl

@[simp] theorem error_bind (e : ε) (f : α → Except ε β) : (Except.error e >>= f) = .error e := rfl

@[simp] theorem ok_bind (a : α) (f : α → Except ε β) : (Except.ok a >>= f) = f a := rfl

@[simp] theorem mapError_ok (a : α) (f : ε → β) : (Except.ok a : Except ε α).mapError f = .ok a :=
  rfl

@[simp] theorem mapError_error (e : ε) (f : ε → β) :
    (Except.error e : Except ε α).mapError f = .error (f e) := rfl

theorem mapM_eq_verdict (f : α → Except ε β) (problem : α → Option ε) (read : α → β)
    (xs : List α) (hf : ∀ x ∈ xs, f x = verdict (problem x) (read x)) :
    xs.mapM f = verdict (xs.findSome? problem) (xs.map read) := by
  induction xs with
  | nil => rfl
  | cons x xs ih =>
    have hx := hf x (by simp)
    have hxs := ih fun y hy => hf y (by simp [hy])
    rw [List.mapM_cons, hx, hxs, List.findSome?_cons]
    cases problem x with
    | some e => rfl
    | none => cases xs.findSome? problem <;> rfl

end Verdict

/-! ### Fields -/

/-- A field's problem: a value, neither missing nor `null`, of a kind the field does not
take. -/
def fieldProblem (v : Json) (key : String) (kinds : List Json.Kind) : Option ShapeError :=
  let x := v.getD key .null
  if x.kind = .null ∨ x.kind ∈ kinds then none else some (.fieldType key x.kind)

namespace Json

theorem kind_eq_null_iff (v : Json) : v.kind = .null ↔ v = .null := by
  cases v <;> simp [kind]

theorem asString?_isSome (v : Json) : (asString? v).isSome ↔ v.kind ∈ [Kind.str] := by
  cases v <;> simp [asString?, kind]

theorem asInt?_isSome (v : Json) : (asInt? v).isSome ↔ v.kind ∈ [Kind.int] := by
  cases v <;> simp [asInt?, kind]

theorem asList?_isSome (v : Json) : (asList? v).isSome ↔ v.kind ∈ [Kind.list] := by
  cases v <;> simp [asList?, kind]

theorem asScore?_isSome (v : Json) :
    (asScore? v).isSome ↔ v.kind ∈ [Kind.int, Kind.float] := by
  cases v <;> simp [asScore?, kind]

end Json

theorem readField_eq_verdict {α : Type} (members : List (String × Json)) (key : String)
    (take : Json → Option α) (default : α) (kinds : List Json.Kind)
    (hnull : take .null = none) (hkind : ∀ v, (take v).isSome ↔ v.kind ∈ kinds) :
    readField members key take default =
      verdict (fieldProblem (.obj members) key kinds)
        ((take ((Json.obj members).getD key .null)).getD default) := by
  unfold readField fieldProblem
  simp only [Json.getD, Json.get?]
  split
  · rename_i hget
    simp [hget, hnull, Json.kind]
  · rename_i hget
    simp [hget, hnull, Json.kind]
  · rename_i v hv hget
    have hk0 : v.kind ≠ .null := fun h => hv ((Json.kind_eq_null_iff v).mp h)
    simp only [hget, Option.getD_some]
    cases ht : take v with
    | some a =>
      have hk : v.kind ∈ kinds := (hkind v).mp (by simp [ht])
      simp [hk]
    | none =>
      have hk : v.kind ∉ kinds := fun h => by simpa [ht] using (hkind v).mpr h
      simp [hk, hk0]

/-! ### Options -/

namespace Json.Score

/-- The problem of converting a score: an integer that no double stands for. -/
def problem (s : Score) : Option ShapeError :=
  match s.toDouble with
  | .error e => some e
  | .ok _ => none

def reading (s : Score) : Binary64 :=
  match s.toDouble with
  | .ok x => x
  | .error _ => .zero

theorem toDouble_eq_verdict (s : Score) : s.toDouble = verdict s.problem s.reading := by
  unfold problem reading
  cases s.toDouble <;> rfl

end Json.Score

/-- The score of an option as it is checked: zero when missing or `null`. -/
def scoreOf (v : Json) : Json.Score := ((v.getD "score" .null).asScore?).getD (.double .zero)

namespace Candidate

def problem? : Json → Option ShapeError
  | v@(.obj _) =>
    fieldProblem v "text" [.str] <|> fieldProblem v "score" [.int, .float] <|>
      (scoreOf v).problem <|> fieldProblem v "freq" [.int]
  | _ => some .optionNotObject

def read (v : Json) : Candidate where
  text := ((v.getD "text" .null).asString?).getD ""
  score := (scoreOf v).reading
  freq := ((v.getD "freq" .null).asInt?).getD 0

theorem ofJson_eq_verdict (v : Json) : ofJson v = verdict (problem? v) (read v) := by
  cases v with
  | obj members =>
    simp only [ofJson, problem?, read,
      readField_eq_verdict members "text" _ _ [.str] rfl Json.asString?_isSome,
      readField_eq_verdict members "score" _ _ [.int, .float] rfl Json.asScore?_isSome,
      readField_eq_verdict members "freq" _ _ [.int] rfl Json.asInt?_isSome]
    cases fieldProblem (.obj members) "text" [.str] with
    | some e => rfl
    | none =>
      cases fieldProblem (.obj members) "score" [.int, .float] with
      | some e => rfl
      | none =>
        -- the conversion is taken whole: unfolding it on an integer would make the
        -- checker evaluate the rounding of an unknown number
        show (scoreOf (.obj members)).toDouble >>= _ = _
        rw [Json.Score.toDouble_eq_verdict]
        cases (scoreOf (.obj members)).problem with
        | some e => rfl
        | none => cases fieldProblem (.obj members) "freq" [.int] <;> rfl
  | _ => rfl

end Candidate

/-! ### Suggestions -/

/-- The options a suggestion lists: none when missing or `null`. -/
def optionItems (v : Json) : List Json := ((v.getD "options" .null).asList?).getD []

namespace Suggestion

/-- The first problem of a suggestion: its own fields first, then its options in order. -/
def problem? : Json → Option ShapeError
  | v@(.obj _) =>
    fieldProblem v "options" [.list] <|> fieldProblem v "text" [.str] <|>
      fieldProblem v "offset" [.int] <|> fieldProblem v "length" [.int] <|>
      (optionItems v).findSome? Candidate.problem?
  | _ => some .suggestionNotObject

def read (v : Json) : Suggestion where
  text := ((v.getD "text" .null).asString?).getD ""
  offset := ((v.getD "offset" .null).asInt?).getD 0
  length := ((v.getD "length" .null).asInt?).getD 0
  candidates := (optionItems v).map Candidate.read

theorem ofJson_eq_verdict (v : Json) : ofJson v = verdict (problem? v) (read v) := by
  cases v with
  | obj members =>
    simp only [ofJson, problem?, read,
      readField_eq_verdict members "options" _ _ [.list] rfl Json.asList?_isSome,
      readField_eq_verdict members "text" _ _ [.str] rfl Json.asString?_isSome,
      readField_eq_verdict members "offset" _ _ [.int] rfl Json.asInt?_isSome,
      readField_eq_verdict members "length" _ _ [.int] rfl Json.asInt?_isSome]
    have hoptions := mapM_eq_verdict Candidate.ofJson Candidate.problem? Candidate.read
      (optionItems (.obj members)) fun x _ => Candidate.ofJson_eq_verdict x
    cases fieldProblem (.obj members) "options" [.list] with
    | some e => rfl
    | none =>
      cases fieldProblem (.obj members) "text" [.str] with
      | some e => rfl
      | none =>
        cases fieldProblem (.obj members) "offset" [.int] with
        | some e => rfl
        | none =>
          cases fieldProblem (.obj members) "length" [.int] with
          | some e => rfl
          | none =>
            show (optionItems (.obj members)).mapM Candidate.ofJson >>= _ = _
            rw [hoptions]
            cases (optionItems (.obj members)).findSome? Candidate.problem? <;> rfl
  | _ => rfl

end Suggestion

/-! ### Responses -/

/-- A suggestion's problem as reported under its suggester's name: an integer score without a
double as it is, any other problem wrapped once with the name. -/
def ShapeError.under (name : String) : ShapeError → DecodeError
  | .scoreTooLarge => .scoreTooLarge
  | e => .invalidSuggestion name e

/-- The first problem of the value listed under a suggester's name. -/
def entryProblem (name : String) : Json → Option DecodeError
  | .arr items => (items.findSome? Suggestion.problem?).map (ShapeError.under name)
  | v => some (.entryNotArray name v.kind)

def entryReading (v : Json) : List Suggestion := ((v.asList?).getD []).map Suggestion.read

theorem decodeSuggestions_eq_verdict (name : String) (v : Json) :
    decodeSuggestions name v = verdict (entryProblem name v) (entryReading v) := by
  cases v with
  | arr items =>
    simp only [decodeSuggestions, entryProblem, entryReading, Json.asList?, Option.getD_some]
    rw [mapM_eq_verdict Suggestion.ofJson Suggestion.problem? Suggestion.read items
      fun x _ => Suggestion.ofJson_eq_verdict x]
    cases items.findSome? Suggestion.problem? with
    | some e => cases e <;> rfl
    | none => rfl
  | _ => rfl

/-- The first problem of a response's members, `_shards` skipped whatever it holds. -/
def responseProblem (members : List (String × Json)) : Option DecodeError :=
  members.findSome? fun m => if m.1 = shardsKey then none else entryProblem m.1 m.2

def responseEntries (members : List (String × Json)) : SuggestResult :=
  (members.filter fun m => m.1 != shardsKey).map fun m => (m.1, entryReading m.2)

/-- Decoding the members after some are already decoded into `acc`: the first problem of the
rest, or the rest's entries written into `acc` in order. -/
theorem decodeMembers_eq_verdict (members : List (String × Json)) (acc : SuggestResult) :
    decodeMembers members acc =
      verdict (responseProblem members)
        ((responseEntries members).foldl (fun acc e => Entries.set acc e.1 e.2) acc) := by
  induction members generalizing acc with
  | nil => rfl
  | cons m rest ih =>
    obtain ⟨name, v⟩ := m
    by_cases hshards : name = shardsKey
    · simp [decodeMembers, responseProblem, responseEntries, hshards, ih]
    · have hne : (name != shardsKey) = true := by simpa using hshards
      simp only [decodeMembers, if_neg hshards, decodeSuggestions_eq_verdict]
      cases hentry : entryProblem name v with
      | some e => simp [responseProblem, hshards, hentry]
      | none => simp [responseProblem, responseEntries, hshards, hentry, ih, hne]

/-- The reference decoder: a response that is not an object fails with its kind; an
object fails with its first problem, or gives its entries as an ordered map. -/
def referenceDecode : Json → Except DecodeError SuggestResult
  | .obj members => verdict (responseProblem members) (Entries.ofList (responseEntries members))
  | v => .error (.responseNotObject v.kind)

/-- Decoding a response fails with the first failing check in the order of the response, its
suggestions and their options, and otherwise gives the reading of every suggester's
suggestions in the response's order. -/
theorem decodeResponse_eq_reference (raw : Json) : decodeResponse raw = referenceDecode raw := by
  cases raw with
  | obj members => exact decodeMembers_eq_verdict members []
  | _ => rfl

/-- `_shards` is skipped whatever it holds, and a suggestion's `text` is checked before its
options. -/
example : referenceDecode (.obj [("_shards", .str "x"),
    ("a", .arr [.obj [("options", .arr [.obj [("text", .bool true)]]), ("text", .int 1)]])]) =
    .error (.invalidSuggestion "a" (.fieldType "text" .int)) := rfl

end SuggestGateway
