import SuggestGateway.Proofs.Decoding
import SuggestGateway.Proofs.Rounding
/-!
# The score of a decoded option

An option's score is a JSON number. A double is kept as it is, bit for bit. An integer, of any
size, becomes the double nearest to it with ties to even, which is its exact value up to
`2 ^ 53`; from `2 ^ 1024 - 2 ^ 970` on it has none, and the option fails with
`scoreTooLarge`. That check comes right after the score's own and before `freq`'s, and the
error leaves the decoder of a suggester's list and of the whole response as it is, where every
other problem of a suggestion is wrapped under the suggester's name. The integers `freq`,
`offset` and `length` are taken exactly.
-/
namespace SuggestGateway

section Verdict

variable {ε α β : Type}

theorem map_verdict (f : α → β) (p : Option ε) (a : α) :
    (verdict p a).map f = verdict p (f a) := by
  cases p <;> rfl

theorem verdict_eq_error {p : Option ε} {a : α} {e : ε} : verdict p a = .error e ↔ p = some e := by
  cases p <;> simp [verdict]

theorem verdict_eq_ok {p : Option ε} {a b : α} : verdict p a = .ok b ↔ p = none ∧ a = b := by
  cases p <;> simp [verdict]

end Verdict

theorem fieldProblem_ne_scoreTooLarge (v : Json) (key : String) (kinds : List Json.Kind) :
    fieldProblem v key kinds ≠ some .scoreTooLarge := by
  unfold fieldProblem
  dsimp only
  split <;> simp

theorem ShapeError.under_eq_scoreTooLarge (name : String) (e : ShapeError) :
    e.under name = .scoreTooLarge ↔ e = .scoreTooLarge := by
  cases e <;> simp [ShapeError.under]

namespace Json.Score

theorem toDouble_exact (n : Int) :
    (Score.exact n).toDouble = (Binary64.ofInt? n).elim (.error .scoreTooLarge) .ok := by
  rw [toDouble]

theorem problem_exact (n : Int) :
    (Score.exact n).problem =
      if 2 ^ 1024 - 2 ^ 970 ≤ n.natAbs then some .scoreTooLarge else none := by
  -- the conversion is read through its verdict, never unfolded on the integer
  have hv := toDouble_eq_verdict (.exact n)
  rw [toDouble_exact] at hv
  cases h : Binary64.ofInt? n with
  | none =>
    rw [h, Option.elim_none, eq_comm, verdict_eq_error] at hv
    rw [hv, if_pos ((Binary64.ofInt?_eq_none_iff n).mp h)]
  | some x =>
    rw [h, Option.elim_some, eq_comm, verdict_eq_ok] at hv
    rw [hv.1, if_neg (mt (Binary64.ofInt?_eq_none_iff n).mpr (by simp [h]))]

theorem reading_exact {n : Int} {x : Binary64} (h : Binary64.ofInt? n = some x) :
    (Score.exact n).reading = x := by
  have hv := toDouble_eq_verdict (.exact n)
  rw [toDouble_exact, h, Option.elim_some, eq_comm, verdict_eq_ok] at hv
  exact hv.2

/-- A double score converts to itself. -/
theorem double_problem_reading (x : Binary64) :
    (Score.double x).problem = none ∧ (Score.double x).reading = x := by
  have hv := toDouble_eq_verdict (.double x)
  rw [toDouble, eq_comm, verdict_eq_ok] at hv
  exact ⟨hv.1, hv.2⟩

end Json.Score

namespace Candidate

variable {members : List (String × Json)}

theorem problem?_of_number (htext : fieldProblem (.obj members) "text" [.str] = none)
    (hscore : ((Json.obj members).getD "score" .null).kind ∈ [.int, .float]) :
    problem? (.obj members) =
      ((scoreOf (.obj members)).problem <|> fieldProblem (.obj members) "freq" [.int]) := by
  have hfield : fieldProblem (.obj members) "score" [.int, .float] = none := by
    unfold fieldProblem
    simp only [hscore, or_true, if_true]
  simp only [problem?, htext, hfield, Option.orElse_eq_orElse, Option.orElse_eq_or, Option.none_or]

theorem ofJson_of_number (htext : fieldProblem (.obj members) "text" [.str] = none)
    (hscore : ((Json.obj members).getD "score" .null).kind ∈ [.int, .float]) :
    ofJson (.obj members) =
      verdict ((scoreOf (.obj members)).problem <|> fieldProblem (.obj members) "freq" [.int])
        (read (.obj members)) := by
  rw [ofJson_eq_verdict, problem?_of_number htext hscore]

theorem scoreOf_of_getD {v s : Json} {sc : Json.Score} (h : v.getD "score" .null = s)
    (hs : s.asScore? = some sc) : scoreOf v = sc := by
  rw [scoreOf, h, hs, Option.getD_some]

theorem ofJson_of_int_score {n : Int} (htext : fieldProblem (.obj members) "text" [.str] = none)
    (hscore : (Json.obj members).getD "score" .null = .int n) :
    ofJson (.obj members) =
      verdict (if 2 ^ 1024 - 2 ^ 970 ≤ n.natAbs then some .scoreTooLarge
        else fieldProblem (.obj members) "freq" [.int]) (read (.obj members)) ∧
      (read (.obj members)).score = (Json.Score.exact n).reading := by
  have hsc : scoreOf (.obj members) = .exact n := scoreOf_of_getD hscore rfl
  refine ⟨?_, by rw [read, hsc]⟩
  rw [ofJson_of_number htext (by rw [hscore]; simp [Json.kind]), hsc, Json.Score.problem_exact]
  split_ifs <;> rfl

theorem ofJson_of_float_score {x : Binary64}
    (htext : fieldProblem (.obj members) "text" [.str] = none)
    (hscore : (Json.obj members).getD "score" .null = .float x) :
    (ofJson (.obj members)).map score = verdict (fieldProblem (.obj members) "freq" [.int]) x := by
  have hsc : scoreOf (.obj members) = .double x := scoreOf_of_getD hscore rfl
  obtain ⟨hproblem, hreading⟩ := Json.Score.double_problem_reading x
  rw [ofJson_of_number htext (by rw [hscore]; simp [Json.kind]), map_verdict, hsc, hproblem]
  simp only [read, hsc, hreading, Option.orElse_eq_orElse, Option.orElse_eq_or, Option.none_or]

theorem freq_of_ofJson {v : Json} {c : Candidate} {k : Int} (h : ofJson v = .ok c)
    (hfreq : v.getD "freq" .null = .int k) : c.freq = k := by
  rw [ofJson_eq_verdict, verdict_eq_ok] at h
  rw [← h.2]
  simp [read, hfreq, Json.asInt?]

end Candidate

theorem Suggestion.offset_length_of_ofJson {v : Json} {s : Suggestion} {k l : Int}
    (h : Suggestion.ofJson v = .ok s) (hoffset : v.getD "offset" .null = .int k)
    (hlength : v.getD "length" .null = .int l) : s.offset = k ∧ s.length = l := by
  rw [Suggestion.ofJson_eq_verdict, verdict_eq_ok] at h
  rw [← h.2]
  simp [Suggestion.read, hoffset, hlength, Json.asInt?]

theorem decodeSuggestions_eq_scoreTooLarge (name : String) (items : List Json) :
    decodeSuggestions name (.arr items) = .error .scoreTooLarge ↔
      items.findSome? Suggestion.problem? = some .scoreTooLarge := by
  rw [decodeSuggestions_eq_verdict, verdict_eq_error, entryProblem, Option.map_eq_some_iff]
  constructor
  · rintro ⟨e, he, hunder⟩
    rw [he, (ShapeError.under_eq_scoreTooLarge name e).mp hunder]
  · intro h
    exact ⟨_, h, rfl⟩

/-- A response fails with a score too large exactly when that is its first problem. -/
theorem decodeResponse_eq_scoreTooLarge (members : List (String × Json)) :
    decodeResponse (.obj members) = .error .scoreTooLarge ↔
      responseProblem members = some .scoreTooLarge := by
  rw [decodeResponse, decodeMembers_eq_verdict, verdict_eq_error]

/-- The score of an option whose text is valid. An integer score `n`, of any size, fails
with `scoreTooLarge` exactly from `2 ^ 1024 - 2 ^ 970` on, whatever the `freq`; below, the
score is the double nearest to `n`, ties to even, exact up to `2 ^ 53`, and the only failure
left is the `freq` field's. A double score is kept bit for bit. `freq`, `offset` and `length`
are the integers given. A score too large leaves the decoders of a suggester's list and of a
response unwrapped when it is the first problem met, with its own message. -/
theorem option_score_rounds_to_nearest_double :
    (∀ (members : List (String × Json)) (n : Int),
      fieldProblem (.obj members) "text" [.str] = none →
      (Json.obj members).getD "score" .null = .int n →
      (Candidate.ofJson (.obj members) = .error .scoreTooLarge ↔ 2 ^ 1024 - 2 ^ 970 ≤ n.natAbs) ∧
      (n.natAbs < 2 ^ 1024 - 2 ^ 970 → ∃ x : Binary64, x.IsNearest (n * 2 ^ 1074) ∧
        (n.natAbs ≤ 2 ^ 53 → x.signedUnits = n * 2 ^ 1074) ∧
        (Candidate.ofJson (.obj members)).map Candidate.score =
          verdict (fieldProblem (.obj members) "freq" [.int]) x)) ∧
    (∀ (members : List (String × Json)) (x : Binary64),
      fieldProblem (.obj members) "text" [.str] = none →
      (Json.obj members).getD "score" .null = .float x →
      (Candidate.ofJson (.obj members)).map Candidate.score =
        verdict (fieldProblem (.obj members) "freq" [.int]) x) ∧
    (∀ v c k, Candidate.ofJson v = .ok c → v.getD "freq" .null = .int k → c.freq = k) ∧
    (∀ v s k l, Suggestion.ofJson v = .ok s → v.getD "offset" .null = .int k →
      v.getD "length" .null = .int l → s.offset = k ∧ s.length = l) ∧
    (∀ name items, decodeSuggestions name (.arr items) = .error .scoreTooLarge ↔
      items.findSome? Suggestion.problem? = some .scoreTooLarge) ∧
    (∀ members, decodeResponse (.obj members) = .error .scoreTooLarge ↔
      responseProblem members = some .scoreTooLarge) ∧
    DecodeError.scoreTooLarge.message = "int too large to convert to float" := by
  refine ⟨fun members n htext hscore => ?_, fun members x => Candidate.ofJson_of_float_score,
    fun v c k => Candidate.freq_of_ofJson, fun v s k l => Suggestion.offset_length_of_ofJson,
    decodeSuggestions_eq_scoreTooLarge, decodeResponse_eq_scoreTooLarge, rfl⟩
  obtain ⟨hdecode, hread⟩ := Candidate.ofJson_of_int_score htext hscore
  rw [hdecode]
  constructor
  · rw [verdict_eq_error]
    split_ifs with hlarge
    · exact iff_of_true rfl hlarge
    · exact iff_of_false (fieldProblem_ne_scoreTooLarge _ _ _) hlarge
  · intro hsmall
    obtain ⟨x, hx⟩ := Option.ne_none_iff_exists'.mp
      (mt (Binary64.ofInt?_eq_none_iff n).mp (by omega))
    refine ⟨x, Binary64.ofInt?_nearest hx, fun hexact => ?_, ?_⟩
    · obtain ⟨y, hy, hvalue⟩ := Binary64.ofInt?_exact hexact
      rw [hx, Option.some.injEq] at hy
      rw [hy, hvalue]
    · rw [if_neg (by omega), map_verdict, hread, Json.Score.reading_exact hx]

/-- At the midpoint between the largest double and `2 ^ 1024` an integer score is too large,
and that is reported before a `freq` of the wrong kind. -/
theorem option_score_too_large_at_midpoint :
    Candidate.ofJson (.obj [("text", .str "a"), ("score", .int (2 ^ 1024 - 2 ^ 970)),
      ("freq", .str "x")]) = .error .scoreTooLarge :=
  ((option_score_rounds_to_nearest_double.1 _ (2 ^ 1024 - 2 ^ 970) (by decide) rfl).1).mpr
    (by omega)

end SuggestGateway
