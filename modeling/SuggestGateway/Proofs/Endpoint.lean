import SuggestGateway.Proofs.Execution
import SuggestGateway.Gateway.Route
/-!
# The suggest endpoint: what it sends and how it answers

A suggest call is answered in three stages: its body is read, the payload is checked, and the
configured builder runs once. A payload that fails a check is answered `400` with the check's
message before anything is sent. A checked payload hands the transport the builder's prepared
request, or nothing when it cannot be prepared, and the answer is read off the execution's
result by `resultAnswer`: a result is answered `200`, a search error with its kind and message,
and a request that cannot be prepared `500` without a body. A suggester option holding an
infinite number is such a request: the payload passes its checks and the call is answered `500`
with nothing sent.
-/
namespace SuggestGateway

section Results

theorem resultAnswer_of_searchKind_none {e : ExecuteError} (h : e.searchKind? = none) :
    resultAnswer (.error e) = (500, .null) := by
  cases e with
  | path _ => rfl
  | request _ => rfl
  | transport _ => simp [ExecuteError.searchKind?] at h
  | status _ => simp [ExecuteError.searchKind?] at h
  | decode d =>
    cases d with
    | scoreTooLarge => rfl
    | nestedTooDeep _ => rfl
    | _ => simp [ExecuteError.searchKind?] at h

theorem resultAnswer_of_decode {d : DecodeError} (h : (ExecuteError.decode d).searchKind? = some .decode) :
    resultAnswer (.error (.decode d)) = (502, errorBody "decode_error" d.message) := by
  cases d with
  | scoreTooLarge => simp [ExecuteError.searchKind?] at h
  | nestedTooDeep _ => simp [ExecuteError.searchKind?] at h
  | _ => rfl

/-- The status of an answer to a result is `200`, `500`, `502`, or a failed status of at least
`400` taken over as it is. -/
theorem resultAnswer_status (res : Except ExecuteError SuggestResult) :
    (resultAnswer res).1 ∈ [200, 500, 502] ∨
      ∃ s, res = .error (.status s) ∧ (resultAnswer res).1 = s.status ∧ 400 ≤ s.status := by
  have h200 : (200 : Int) ∈ [200, 500, 502] := by decide
  have h500 : (500 : Int) ∈ [200, 500, 502] := by decide
  have h502 : (502 : Int) ∈ [200, 500, 502] := by decide
  cases res with
  | ok result => exact .inl h200
  | error e =>
    cases e with
    | status s =>
      by_cases hs : 400 ≤ s.status
      · exact .inr ⟨s, rfl, if_pos hs, hs⟩
      · have hanswer : (resultAnswer (.error (.status s))).1 = 502 := if_neg hs
        exact .inl (hanswer ▸ h502)
    | transport _ => exact .inl h502
    | path _ => exact .inl h500
    | request _ => exact .inl h500
    | decode d =>
      cases d with
      | scoreTooLarge => exact .inl h500
      | nestedTooDeep _ => exact .inl h500
      | _ => exact .inl h502

end Results

def HttpAnswer.reply (a : HttpAnswer) : Int × Json := (a.status, a.json)

section Endpoint

variable (r : Registry) (c : Client) (o : Outcome)

theorem suggestAnswerFor_of_check_error {data : Json} {m : String}
    (h : checkPayload r data = .error m) :
    suggestAnswerFor r c o data = .plain 400 (errorBody "invalid_parameter" m) := by
  unfold suggestAnswerFor
  rw [h]

theorem suggestAnswerFor_of_check_ok {data : Json} {p : SuggestParams} {ss : List Suggester}
    (h : checkPayload r data = .ok (p, ss)) :
    (suggestAnswerFor r c o data).sent = ((p.builder ss).outbound c).toList ∧
      (suggestAnswerFor r c o data).reply = resultAnswer ((p.builder ss).execute c o).result := by
  unfold suggestAnswerFor
  rw [h]
  exact ⟨Builder.execute_sent _ c o, rfl⟩

/-- The status of an answer to a payload is `200`, `400`, `500`, `502`, or the status of an
upstream response of at least `400`. -/
theorem suggestAnswerFor_status (data : Json) :
    (suggestAnswerFor r c o data).status ∈ [200, 400, 500, 502] ∨
      ∃ resp, o = .respond resp ∧ (suggestAnswerFor r c o data).status = resp.status ∧
        400 ≤ resp.status := by
  cases hc : checkPayload r data with
  | error m =>
    rw [suggestAnswerFor_of_check_error r c o hc]
    exact .inl (by simp [HttpAnswer.plain])
  | ok ps =>
    obtain ⟨p, ss⟩ := ps
    obtain ⟨-, hanswer⟩ := suggestAnswerFor_of_check_ok r c o hc
    have hstatus : (suggestAnswerFor r c o data).status =
        (resultAnswer ((p.builder ss).execute c o).result).1 := by
      rw [← hanswer]
      rfl
    rw [hstatus]
    rcases resultAnswer_status ((p.builder ss).execute c o).result with h | ⟨s, hs, h, hle⟩
    · simp only [List.mem_cons, List.not_mem_nil, or_false] at h
      exact .inl (by simp only [List.mem_cons, List.not_mem_nil, or_false]; omega)
    · obtain ⟨resp, ho, hresp⟩ := Builder.execute_status hs
      refine .inr ⟨resp, ho, ?_, ?_⟩
      · rw [h, hresp]
      · rw [← hresp]
        exact hle

theorem HttpRequest.data_of_json {req : HttpRequest} {v : Json} (h : req.payload = .ok (some v)) :
    req.data = .ok (v.orElse (.obj [])) := by
  unfold HttpRequest.data
  rw [h]

theorem HttpRequest.data_of_not_json {req : HttpRequest} (h : req.payload = .ok none) :
    req.data = .ok (.obj []) := by
  unfold HttpRequest.data
  rw [h]

theorem suggestAnswer_of_data_error {req : HttpRequest} {array : Bool}
    (h : req.data = .error array) : suggestAnswer r c o req = .plain 500 .null := by
  unfold suggestAnswer
  rw [h]

theorem suggestAnswer_of_data_ok {req : HttpRequest} {data : Json} (h : req.data = .ok data) :
    suggestAnswer r c o req = suggestAnswerFor r c o data := by
  unfold suggestAnswer
  rw [h]

end Endpoint

/-- A suggest call is answered in stages. A body read as JSON gives its value as the data, or
`{}` when the value counts as false; a body that is not JSON gives `{}`. A payload failing its
checks is answered `400` with the failure's message and sends nothing. A checked payload hands
the transport what its builder prepares, at most one request. A request that cannot be prepared
is answered `500` without a body, a result `200` with its JSON form, a failed status with that
status when it is at least `400` and `502` otherwise, a transport failure and a decode error
`502` with their kinds and messages. Every status is `200`, `400`, `500`, `502` or an upstream
status of at least `400`. -/
theorem suggestAnswer_answers_by_stage (r : Registry) (c : Client) (o : Outcome)
    (req : HttpRequest) :
    (∀ v, req.payload = .ok (some v) → req.data = .ok (v.orElse (.obj []))) ∧
    (req.payload = .ok none → req.data = .ok (.obj [])) ∧
    (∀ data, req.data = .ok data →
      (∀ m, checkPayload r data = .error m →
        suggestAnswer r c o req = .plain 400 (errorBody "invalid_parameter" m)) ∧
      ∀ p ss, checkPayload r data = .ok (p, ss) →
        (suggestAnswer r c o req).sent = ((p.builder ss).outbound c).toList ∧
        ((p.builder ss).outbound c = none → (suggestAnswer r c o req).reply = (500, .null)) ∧
        (∀ res, ((p.builder ss).execute c o).result = .ok res →
          (suggestAnswer r c o req).reply =
            (200, .obj [("success", .bool true), ("suggestions", res.toJson)])) ∧
        (∀ e, ((p.builder ss).execute c o).result = .error (.status e) →
          (suggestAnswer r c o req).reply =
            (if 400 ≤ e.status then e.status else 502, errorBody "search_error" e.message)) ∧
        (∀ m, ((p.builder ss).execute c o).result = .error (.transport m) →
          (suggestAnswer r c o req).reply = (502, errorBody "transport_error" (transportMessage m))) ∧
        (∀ d, (ExecuteError.decode d).searchKind? = some .decode →
          ((p.builder ss).execute c o).result = .error (.decode d) →
          (suggestAnswer r c o req).reply = (502, errorBody "decode_error" d.message))) ∧
    ((suggestAnswer r c o req).status ∈ [200, 400, 500, 502] ∨
      ∃ resp, o = .respond resp ∧ (suggestAnswer r c o req).status = resp.status ∧
        400 ≤ resp.status) := by
  refine ⟨fun v h => HttpRequest.data_of_json h, HttpRequest.data_of_not_json, ?_, ?_⟩
  · intro data hd
    rw [suggestAnswer_of_data_ok r c o hd]
    refine ⟨fun m hc => suggestAnswerFor_of_check_error r c o hc, ?_⟩
    intro p ss hc
    obtain ⟨hsent, hreply⟩ := suggestAnswerFor_of_check_ok r c o hc
    refine ⟨hsent, ?_, ?_, ?_, ?_, ?_⟩
    · intro hout
      obtain ⟨e, he, hk⟩ := Builder.execute_of_outbound_none _ c o hout
      rw [hreply, he, resultAnswer_of_searchKind_none hk]
    · intro res hres
      rw [hreply, hres]
      rfl
    · intro e he
      rw [hreply, he]
      rfl
    · intro m hm
      rw [hreply, hm]
      rfl
    · intro d hk hd
      rw [hreply, hd, resultAnswer_of_decode hk]
  · cases hd : req.data with
    | error array =>
      rw [suggestAnswer_of_data_error r c o hd]
      exact .inl (by simp [HttpAnswer.plain])
    | ok data =>
      rw [suggestAnswer_of_data_ok r c o hd]
      exact suggestAnswerFor_status r c o data

/-- A term suggester whose `size` is infinite passes the payload's checks, but its request
cannot be prepared: the call is answered `500` without a body and nothing is sent. -/
theorem suggestAnswerFor_nonfinite_option_answers_500 :
    let data : Json := .obj [("suggesters", .arr [.obj [("name", .str "s"),
      ("size", .float (.infinity false))]])]
    let c : Client := ⟨"http://search.test", none, .null⟩
    let a := suggestAnswerFor Registry.standard c (.fail "connection refused") data
    a.status = 500 ∧ a.json = .null ∧ a.sent = [] := by
  intro data c a
  let p : SuggestParams :=
    ⟨[], [], "", "", false, false, [.obj [("name", .str "s"), ("size", .float (.infinity false))]]⟩
  let s : Suggester :=
    { family := .term, name := "s", options := [("size", .float (.infinity false))] }
  have hcheck : checkPayload Registry.standard data = .ok (p, [s]) := rfl
  have hout : (p.builder [s]).outbound c = none :=
    Builder.outbound_eq_none_of_not_allFinite _ c (by decide)
  obtain ⟨e, he, hk⟩ := Builder.execute_of_outbound_none _ c (.fail "connection refused") hout
  obtain ⟨hsent, hanswer⟩ := suggestAnswerFor_of_check_ok Registry.standard c
    (.fail "connection refused") hcheck
  rw [he, resultAnswer_of_searchKind_none hk] at hanswer
  rw [hout] at hsent
  simp only [HttpAnswer.reply, Prod.mk.injEq] at hanswer
  exact ⟨hanswer.1, hanswer.2, hsent⟩

end SuggestGateway
