import SuggestGateway.Proofs.Decoding
import SuggestGateway.Proofs.StatusCheck
import SuggestGateway.Service.Execute
/-!
# Executing a request: one send, then the response's failures

An execution runs its layers in order: the URL, the prepared request, the transport, the
status check and the decoding of the body. A request that cannot be prepared is never sent:
its failure comes before the transport is used, and it is not one of the client's search
errors. A builder whose suggester holds an infinite number thus fails before sending, whatever
the client and the transport. A prepared request is sent exactly once, and what follows is
`afterSending`: the transport's response or failure, then the status check, then the decoding.
-/
namespace SuggestGateway

/-- The client's search errors: the failures the gateway reports as such. -/
inductive SearchErrorKind where
  | transport
  | status
  | decode
deriving DecidableEq, Repr

namespace ExecuteError

/-- The search error a failure is raised as. A name that is not text, a request that cannot be
prepared, an integer score without a double and a body nested too deep are raised as other
errors. -/
def searchKind? : ExecuteError → Option SearchErrorKind
  | transport _ => some .transport
  | status _ => some .status
  | decode .scoreTooLarge => none
  | decode (.nestedTooDeep _) => none
  | decode _ => some .decode
  | path _ => none
  | request _ => none

end ExecuteError

/-- The transport's part as a step: its response, or its failure as a transport error. -/
def Outcome.response : Outcome → Except ExecuteError Response
  | .respond r => .ok r
  | .fail m => .error (.transport m)

/-- The status check as a step: a failed status, or the nesting met while the service's error
text was read. -/
def statusStep (r : Response) : Except ExecuteError Unit :=
  match checkResponse r with
  | .ok () => .ok ()
  | .error (.status e) => .error (.status e)
  | .error (.nestedTooDeep a) => .error (.decode (.nestedTooDeep a))

/-- What follows the sending of a request: the response, its status check, its decoding. -/
def afterSending (o : Outcome) : Except ExecuteError SuggestResult := do
  let r ← o.response
  statusStep r
  (decodeBody r).mapError .decode

theorem Client.newRequest_allFinite {c : Client} {m p : String} {body : Json} {req : Request}
    (h : c.newRequest m p body = .ok req) (hb : body ≠ .null) : body.allFinite = true := by
  obtain ⟨-, -, hs, hbody, -⟩ := Client.newRequest_eq_ok h
  exact (Client.prepareBody_eq_ok hbody hb).1

namespace Builder

variable (b : Builder) (c : Client) (o : Outcome)

/-- A body with an infinite or NaN number is never prepared, whatever the client. -/
theorem outbound_eq_none_of_not_allFinite (h : b.body.allFinite = false) :
    b.outbound c = none := by
  cases hout : b.outbound c with
  | none => rfl
  | some req =>
    obtain ⟨url, -, hreq⟩ := outbound_eq_some hout
    have hfinite := Client.newRequest_allFinite hreq (by simp [body])
    rw [h] at hfinite
    cases hfinite

theorem execute_of_outbound_none (h : b.outbound c = none) :
    ∃ e, (b.execute c o).result = .error e ∧ e.searchKind? = none := by
  unfold outbound at h
  unfold execute
  cases hurl : b.url with
  | error e => exact ⟨.path e, rfl, rfl⟩
  | ok url =>
    rw [hurl] at h
    dsimp only at h ⊢
    cases hreq : c.newRequest "POST" url b.body with
    | error e => exact ⟨.request e, rfl, rfl⟩
    | ok req => simp [hreq, Except.toOption] at h

theorem execute_of_outbound_some {req : Request} (h : b.outbound c = some req) :
    (b.execute c o).result = afterSending o := by
  obtain ⟨url, hurl, hreq⟩ := outbound_eq_some h
  unfold execute
  rw [hurl]
  dsimp only
  rw [hreq]
  cases o with
  | fail m => rfl
  | respond r =>
    simp only [afterSending, Outcome.response, statusStep, ok_bind]
    cases checkResponse r with
    | ok u => rfl
    | error e => cases e <;> rfl

end Builder

theorem afterSending_error {o : Outcome} {e : ExecuteError} (h : afterSending o = .error e) :
    (∃ m, o = .fail m ∧ e = .transport m) ∨
    (∃ r s, o = .respond r ∧ checkResponse r = .error (.status s) ∧ e = .status s) ∨
    (∃ r a, o = .respond r ∧ checkResponse r = .error (.nestedTooDeep a) ∧
      e = .decode (.nestedTooDeep a)) ∨
    (∃ r d, o = .respond r ∧ checkResponse r = .ok () ∧ decodeBody r = .error d ∧
      e = .decode d) := by
  cases o with
  | fail m =>
    cases h
    exact .inl ⟨m, rfl, rfl⟩
  | respond r =>
    simp only [afterSending, Outcome.response, statusStep, ok_bind] at h
    cases hcheck : checkResponse r with
    | error err =>
      rw [hcheck] at h
      cases err with
      | status s =>
        cases h
        exact .inr (.inl ⟨r, s, rfl, hcheck, rfl⟩)
      | nestedTooDeep a =>
        cases h
        exact .inr (.inr (.inl ⟨r, a, rfl, hcheck, rfl⟩))
    | ok u =>
      rw [hcheck] at h
      cases hbody : decodeBody r with
      | ok result => simp [hbody] at h
      | error d =>
        simp only [hbody, mapError_error, ok_bind] at h
        cases h
        exact .inr (.inr (.inr ⟨r, d, rfl, hcheck, hbody, rfl⟩))

theorem checkResponse_status {r : Response} {s : StatusError}
    (h : checkResponse r = .error (.status s)) : s.status = r.status := by
  unfold checkResponse at h
  split at h
  · cases h
  · split at h
    · cases h
      rfl
    · cases h

theorem afterSending_status {o : Outcome} {s : StatusError}
    (h : afterSending o = .error (.status s)) : ∃ resp, o = .respond resp ∧ s.status = resp.status := by
  rcases afterSending_error h with
    ⟨m, -, he⟩ | ⟨r, s', ho, hcheck, he⟩ | ⟨r, a, -, -, he⟩ | ⟨r, d, -, -, -, he⟩
  · cases he
  · cases he
    exact ⟨r, ho, checkResponse_status hcheck⟩
  · cases he
  · cases he

/-- A failed status of an execution is the status of the transport's response. -/
theorem Builder.execute_status {b : Builder} {c : Client} {o : Outcome} {s : StatusError}
    (h : (b.execute c o).result = .error (.status s)) :
    ∃ resp, o = .respond resp ∧ s.status = resp.status := by
  cases hout : b.outbound c with
  | none =>
    obtain ⟨e, he, hkind⟩ := Builder.execute_of_outbound_none b c o hout
    rw [h] at he
    cases he
    simp [ExecuteError.searchKind?] at hkind
  | some req =>
    rw [Builder.execute_of_outbound_some b c o hout] at h
    exact afterSending_status h

theorem afterSending_fail (m : String) : afterSending (.fail m) = .error (.transport m) := rfl

theorem afterSending_of_status {r : Response} {s : StatusError}
    (h : checkResponse r = .error (.status s)) :
    afterSending (.respond r) = .error (.status s) := by
  simp only [afterSending, Outcome.response, statusStep, ok_bind, h]
  rfl

theorem afterSending_of_passed {r : Response} (h : checkResponse r = .ok ()) :
    afterSending (.respond r) = (decodeBody r).mapError .decode := by
  simp only [afterSending, Outcome.response, statusStep, ok_bind, h]

/-- An execution hands the transport its prepared request, once, or nothing when the request
cannot be prepared, and then fails with an error that is no search error. After sending, a
transport failure becomes a transport error; a response the status check rejects with a status
error fails with that error, whose status is the response's own and outside 2xx; and a 2xx
response gives what decoding its body gives. -/
theorem Builder.execute_sends_prepared_once (b : Builder) (c : Client) (o : Outcome) :
    (b.execute c o).sent = (b.outbound c).toList ∧
    (b.outbound c = none → ∃ e, (b.execute c o).result = .error e ∧ e.searchKind? = none) ∧
    ∀ req, b.outbound c = some req →
      (∀ m, o = .fail m → (b.execute c o).result = .error (.transport m)) ∧
      ∀ r, o = .respond r →
        (∀ s, checkResponse r = .error (.status s) →
          (b.execute c o).result = .error (.status s) ∧ s.status = r.status ∧
            ¬ (200 ≤ r.status ∧ r.status < 300)) ∧
        (200 ≤ r.status ∧ r.status < 300 →
          (b.execute c o).result = (decodeBody r).mapError .decode) := by
  refine ⟨Builder.execute_sent b c o, Builder.execute_of_outbound_none b c o, ?_⟩
  intro req hout
  rw [Builder.execute_of_outbound_some b c o hout]
  refine ⟨?_, ?_⟩
  · rintro m rfl
    exact afterSending_fail m
  · rintro r rfl
    refine ⟨fun s hs => ⟨afterSending_of_status hs, checkResponse_status hs, ?_⟩, ?_⟩
    · intro h2xx
      rw [(checkResponse_eq_ok_iff r).mpr h2xx] at hs
      cases hs
    · intro h2xx
      exact afterSending_of_passed ((checkResponse_eq_ok_iff r).mpr h2xx)

/-- A term suggester whose `size` is infinite: the request cannot be prepared, so nothing is
sent and the failure is no search error, although the transport would fail. -/
theorem execute_nonfinite_option_sends_nothing :
    let b := ({} : Builder).addSuggester
      { family := .term, name := "s", options := [("size", .float (.infinity false))] }
    let c : Client := ⟨"http://search.test", none, .null⟩
    (b.execute c (.fail "connection refused")).sent = [] ∧
      ∃ e, (b.execute c (.fail "connection refused")).result = .error e ∧
        e.searchKind? = none := by
  intro b c
  have hout : b.outbound c = none := Builder.outbound_eq_none_of_not_allFinite b c (by decide)
  refine ⟨?_, Builder.execute_of_outbound_none b c _ hout⟩
  rw [Builder.execute_sent, hout]
  rfl

end SuggestGateway
