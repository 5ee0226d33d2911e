import SuggestGateway.Client.Basic
import SuggestGateway.Proofs.Utf8
/-!
# Checking a response's status

A response passes its check exactly when its status is 2xx. Any other status is reported as a
status error with that status. Its text is the service's own when the body, read as JSON, is
an object with an `error` member that counts as true: of an object error, its `reason` when
that is true, else its `type` when that is true, else the generic text
`Search API error: <status>`; of any other error, the error as a message shows it. Every
other body (one that is not JSON, not an object, or without a true `error`) gives the generic
text (`checkResponse_reports_status`).

The one way out of this is a body whose arrays or objects nest deeper than the reader
follows: reading such a body for the error text stops the check itself, so no status error is
reported. A body of 3000 opening brackets does this (`checkResponse_deep_body`), because the
reader refuses the first bracket beyond its nesting limit whatever follows it
(`Reader.value_nested_brackets`).
-/
namespace SuggestGateway

section Nesting

namespace Reader

theorem skipBlank_bracket (cs : List Char) (p : Nat) :
    skipBlank ('[' :: cs) p = ('[' :: cs, p) := by
  simp [skipBlank, isBlank]

theorem value_nested_brackets (m : Nat) : ∀ (depth fuel p : Nat) (rest : List Char),
    depth + m = nestingLimit → 2 * m < fuel →
    value fuel depth (List.replicate (m + 1) '[' ++ rest) p =
      .error (.nestedTooDeep true, p + m) := by
  induction m with
  | zero =>
    intro depth fuel p rest hdepth hfuel
    obtain ⟨f, rfl⟩ : ∃ f, fuel = f + 1 := ⟨fuel - 1, by omega⟩
    have hlimit : nestingLimit ≤ depth := by omega
    simp [value, hlimit]
  | succ m ih =>
    intro depth fuel p rest hdepth hfuel
    obtain ⟨g, rfl⟩ : ∃ g, fuel = g + 2 := ⟨fuel - 2, by omega⟩
    have hlimit : ¬ nestingLimit ≤ depth := by omega
    have hinner := ih (depth + 1) g (p + 1) rest (by omega) (by omega)
    rw [List.replicate_succ, List.cons_append] at hinner
    rw [List.replicate_succ, List.cons_append, value]
    simp only [hlimit, if_false, List.replicate_succ, List.cons_append, skipBlank_bracket]
    rw [items, hinner, show p + (m + 1) = p + 1 + m by omega]
    rfl

end Reader

theorem read_nested_brackets (n : Nat) (hn : nestingLimit < n) :
    Json.read (String.ofList (List.replicate n '[')) =
      .error (ReadError.locate (List.replicate n '[') (.nestedTooDeep true) nestingLimit) := by
  obtain ⟨k, rfl⟩ : ∃ k, n = (nestingLimit + 1) + k := ⟨n - (nestingLimit + 1), by omega⟩
  have hsplit : List.replicate (nestingLimit + 1 + k) '[' =
      '[' :: (List.replicate nestingLimit '[' ++ List.replicate k '[') := by
    rw [← List.replicate_append_replicate, List.replicate_succ, List.cons_append]
  have hvalue := Reader.value_nested_brackets nestingLimit 0 (2 * (nestingLimit + 1 + k) + 2) 0
    (List.replicate k '[') (by omega) (by omega)
  rw [List.replicate_succ, List.cons_append, Nat.zero_add] at hvalue
  have hlength : ('[' :: (List.replicate nestingLimit '[' ++ List.replicate k '[')).length =
      nestingLimit + 1 + k := by
    simp only [List.length_cons, List.length_append, List.length_replicate]
    omega
  unfold Json.read
  rw [String.toList_ofList, hsplit]
  simp only [hlength, Reader.skipBlank_bracket, hvalue]
  rfl

theorem decodeStrict?_brackets (n : Nat) :
    Utf8.decodeStrict? (List.replicate n 0x5B) = some (List.replicate n '[') := by
  induction n with
  | zero => simp [Utf8.decodeStrict?]
  | succ n ih =>
    have hbracket : Utf8.encodeChar '[' = [0x5B] := rfl
    rw [List.replicate_succ, ← List.singleton_append, ← hbracket,
      Utf8.decodeStrict?_encodeChar_append, ih]
    rfl

theorem guessJsonCharset_brackets (n : Nat) (hn : 4 ≤ n) :
    guessJsonCharset (List.replicate n 0x5B) = some .utf8 := by
  have htake : (List.replicate n (0x5B : UInt8)).take 4 = List.replicate 4 0x5B := by
    rw [List.take_replicate, Nat.min_eq_left hn]
  simp only [guessJsonCharset, htake]
  rfl

/-- A body of more opening brackets than the nesting limit, under no header that names a
character set, reads as too deep a nesting. -/
theorem json_nested_brackets (r : Response) (n : Nat) (hn : nestingLimit < n)
    (hheaders : r.headers = []) (hcontent : r.content = List.replicate n 0x5B) :
    r.json = .error (.malformed
      (ReadError.locate (List.replicate n '[') (.nestedTooDeep true) nestingLimit)) := by
  have hlimit : 4 ≤ nestingLimit := by decide
  have hunnamed : r.charsetName? = none := by
    simp [Response.charsetName?, Headers.charsetName?, Headers.get?, hheaders]
  have hlong : 3 < r.content.length := by
    rw [hcontent, List.length_replicate]
    omega
  have hguessed : ((guessJsonCharset r.content).bind fun cs => cs.decodeStrict? r.content) =
      some (String.ofList (List.replicate n '[')) := by
    rw [hcontent, guessJsonCharset_brackets n (by omega)]
    simp [Charset.decodeStrict?, decodeStrict?_brackets]
  simp only [Response.json, hunnamed, hlong, decide_true, Bool.and_true, if_true, hguessed,
    read_nested_brackets n hn]
  rfl

end Nesting

namespace Json

theorem orElse_of_truthy {v : Json} (d : Json) (h : v.truthy = true) : v.orElse d = v := by
  simp [orElse, h]

theorem orElse_of_falsy {v : Json} (d : Json) (h : v.truthy = false) : v.orElse d = d := by
  simp [orElse, h]

end Json

theorem successTest_eq_false {r : Response} (h : ¬ (200 ≤ r.status ∧ r.status < 300)) :
    (decide (200 ≤ r.status) && decide (r.status < 300)) = false := by
  simpa using h

section Status

variable (r : Response)

theorem checkResponse_eq_ok_iff :
    checkResponse r = .ok () ↔ 200 ≤ r.status ∧ r.status < 300 := by
  unfold checkResponse
  by_cases h : 200 ≤ r.status ∧ r.status < 300
  · simp [h]
  · simp only [successTest_eq_false h, Bool.false_eq_true, if_false, h, iff_false]
    split <;> (intro h'; cases h')

section Failed

variable {r} (h : ¬ (200 ≤ r.status ∧ r.status < 300))
include h

theorem checkResponse_of_message {m : String} (hm : statusMessage r = .ok m) :
    checkResponse r = .error (.status ⟨r.status, m⟩) := by
  simp only [checkResponse, successTest_eq_false h, Bool.false_eq_true, if_false, hm]

theorem checkResponse_of_nesting {array : Bool} (hm : statusMessage r = .error array) :
    checkResponse r = .error (.nestedTooDeep array) := by
  simp only [checkResponse, successTest_eq_false h, Bool.false_eq_true, if_false, hm]

end Failed

/-- Looking for the error text fails only when the body's nesting stops the reader. -/
theorem statusMessage_eq_error_iff (array : Bool) :
    statusMessage r = .error array ↔ ∃ err, r.json = .error err ∧ err.nesting? = some array := by
  unfold statusMessage
  cases hjson : r.json with
  | ok v =>
    simp only [reduceCtorEq, false_and, exists_false, iff_false]
    cases v
    case obj ms =>
      cases herror : Entries.get? ms "error" with
      | none => simp [herror]
      | some e => by_cases ht : e.truthy = true <;> cases e <;> simp [herror, ht]
    all_goals simp
  | error err =>
    simp only [Except.error.injEq, exists_eq_left']
    cases err.nesting? with
    | none => simp
    | some a => simp

theorem statusMessage_of_object_error {ms em : List (String × Json)}
    (hjson : r.json = .ok (.obj ms)) (herror : Entries.get? ms "error" = some (.obj em))
    (htrue : (Json.obj em).truthy = true) :
    statusMessage r = .ok (((Json.obj em).getD "reason" .null).orElse
      (((Json.obj em).getD "type" .null).orElse (.str ("Search API error: " ++ toString r.status)))).display := by
  simp [statusMessage, hjson, herror, htrue]

theorem statusMessage_of_other_error {ms : List (String × Json)} {e : Json}
    (hjson : r.json = .ok (.obj ms)) (herror : Entries.get? ms "error" = some e)
    (htrue : e.truthy = true) (hobj : ∀ em, e ≠ .obj em) :
    statusMessage r = .ok e.display := by
  simp only [statusMessage, hjson, herror, htrue, Bool.not_true, Bool.false_eq_true, if_false]

theorem statusMessage_of_no_error
    (hnone : ∀ ms e, r.json = .ok (.obj ms) → Entries.get? ms "error" = some e → e.truthy = false)
    (hparse : ∀ err, r.json = .error err → err.nesting? = none) :
    statusMessage r = .ok ("Search API error: " ++ toString r.status) := by
  unfold statusMessage
  cases hjson : r.json with
  | ok v =>
    cases v
    case obj ms =>
      cases herror : Entries.get? ms "error" with
      | none => simp [herror]
      | some e => simp [herror, hnone ms e hjson herror]
    all_goals rfl
  | error err => simp [hparse err hjson]

end Status

/-- A response passes its check exactly when its status is 2xx. Otherwise the check stops at a
body nested deeper than the reader follows, and in every other case reports a status error
with the response's status and the service's text: of a true object `error`, its true
`reason`, else its true `type`, else the generic text; of any other true `error`, the error
as a message shows it; the generic text when the body is not JSON, not an object, or has no
true `error`. -/
theorem checkResponse_reports_status (r : Response) :
    let generic := "Search API error: " ++ toString r.status
    let failed := ¬ (200 ≤ r.status ∧ r.status < 300)
    let reports := fun m => checkResponse r = .error (.status ⟨r.status, m⟩)
    (checkResponse r = .ok () ↔ 200 ≤ r.status ∧ r.status < 300) ∧
    (∀ array, checkResponse r = .error (.nestedTooDeep array) ↔
      failed ∧ ∃ err, r.json = .error err ∧ err.nesting? = some array) ∧
    (failed → ∀ ms em, r.json = .ok (.obj ms) → Entries.get? ms "error" = some (.obj em) →
      (Json.obj em).truthy = true →
      let reason := (Json.obj em).getD "reason" .null
      let type := (Json.obj em).getD "type" .null
      (reason.truthy = true → reports reason.display) ∧
      (reason.truthy = false → type.truthy = true → reports type.display) ∧
      (reason.truthy = false → type.truthy = false → reports generic)) ∧
    (failed → ∀ ms e, r.json = .ok (.obj ms) → Entries.get? ms "error" = some e →
      e.truthy = true → (∀ em, e ≠ .obj em) → reports e.display) ∧
    (failed →
      (∀ ms e, r.json = .ok (.obj ms) → Entries.get? ms "error" = some e → e.truthy = false) →
      (∀ err, r.json = .error err → err.nesting? = none) → reports generic) := by
  intro generic failed reports
  refine ⟨checkResponse_eq_ok_iff r, fun array => ?_, fun hfail ms em hjson herror htrue => ?_,
    fun hfail ms e hjson herror htrue hobj => ?_, fun hfail hnone hparse => ?_⟩
  · constructor
    · intro h
      have hfail : failed := fun hok => by
        rw [(checkResponse_eq_ok_iff r).mpr hok] at h
        cases h
      refine ⟨hfail, ?_⟩
      cases hm : statusMessage r with
      | ok m =>
        rw [checkResponse_of_message hfail hm] at h
        cases h
      | error a =>
        rw [checkResponse_of_nesting hfail hm] at h
        cases h
        exact (statusMessage_eq_error_iff r _).mp hm
    · rintro ⟨hfail, hnest⟩
      exact checkResponse_of_nesting hfail ((statusMessage_eq_error_iff r array).mpr hnest)
  · have hm := statusMessage_of_object_error r hjson herror htrue
    refine ⟨fun hreason => ?_, fun hreason htype => ?_, fun hreason htype => ?_⟩
    · apply checkResponse_of_message hfail
      rw [hm, Json.orElse_of_truthy _ hreason]
    · apply checkResponse_of_message hfail
      rw [hm, Json.orElse_of_falsy _ hreason, Json.orElse_of_truthy _ htype]
    · apply checkResponse_of_message hfail
      rw [hm, Json.orElse_of_falsy _ hreason, Json.orElse_of_falsy _ htype]
      rfl
  · exact checkResponse_of_message hfail (statusMessage_of_other_error r hjson herror htrue hobj)
  · exact checkResponse_of_message hfail (statusMessage_of_no_error r hnone hparse)

/-- A body of 3000 opening brackets, answered with status 500 and no headers: reading it for
the error text stops at the nesting limit, so the check reports no status error at all. -/
theorem checkResponse_deep_body :
    let r : Response := ⟨500, "Error", [], List.replicate 3000 0x5B⟩
    checkResponse r = .error (.nestedTooDeep true) ∧ ∀ e, checkResponse r ≠ .error (.status e) := by
  intro r
  have hjson := json_nested_brackets r 3000 (by decide) rfl rfl
  have hfail : ¬ (200 ≤ r.status ∧ r.status < 300) := by decide
  have hnest : statusMessage r = .error true :=
    (statusMessage_eq_error_iff r true).mpr ⟨_, hjson, rfl⟩
  have hcheck := checkResponse_of_nesting hfail hnest
  refine ⟨hcheck, fun e he => ?_⟩
  rw [hcheck] at he
  cases he

end SuggestGateway
