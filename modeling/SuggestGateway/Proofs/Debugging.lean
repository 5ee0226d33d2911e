import SuggestGateway.Proofs.Execution
import SuggestGateway.Proofs.Utf8
/-!
# Debug mode only writes dumps

Executing a builder with its debug setting on or off hands the transport the same request and
ends in the same result or the same error. The setting decides one thing: whether the exchange
is dumped. Without it nothing is written. With it the request is dumped before it is sent and
the response, when one comes back, before its status is checked, so also when the status then
fails or the body does not decode; a transport failure leaves the request's dump alone, and a
request that cannot be prepared is neither sent nor dumped.

A request's dump shows `POST`, the URL and headers sent and the body's bytes decoded as UTF-8; a
response's dump shows its status line, headers and content. In both, a header whose name lowers
to `authorization` shows `***` for its value and every other header is shown as it is, in
order. Names are lowered as Unicode lowers them; for this name that agrees with lowering ASCII
letters only, which is how the dumps compare names (`fullLower_eq_iff_toLower`).
-/
namespace SuggestGateway

/-! ### Lowering a header name -/

namespace FullLower

/-- The characters no character beyond ASCII lowers to: ASCII ones other than `k` (the Kelvin
sign lowers to it) and NUL (which a code point outside Unicode would stand for). -/
def Plain (x : Char) : Prop := x.toNat < 128 ∧ x ≠ 'k' ∧ x ≠ '\x00'

instance : DecidablePred Plain := fun _ => inferInstanceAs (Decidable (_ ∧ _ ∧ _))

theorem lowerRuns_land : ∀ r ∈ lowerRuns.toList,
    128 ≤ (r.first : Int) + r.shift ∨ ((r.first : Int) + r.shift = 0x6B ∧ r.count = 1) := by
  decide +kernel

theorem image?_land {r : CaseRun} (hr : r ∈ lowerRuns.toList) {n m : Nat}
    (h : r.image? n = some m) : 128 ≤ m ∨ m = 0x6B := by
  unfold CaseRun.image? at h
  split at h
  · rename_i hin
    simp only [Bool.and_eq_true, decide_eq_true_eq, beq_iff_eq] at hin
    obtain ⟨⟨hlo, hhi⟩, hmod⟩ := hin
    cases h
    rcases lowerRuns_land r hr with hland | ⟨hland, hcount⟩
    · left; omega
    · rw [hcount, Nat.one_mul] at hhi
      have hfirst : n = r.first := by
        rw [Nat.mod_eq_of_lt (by omega)] at hmod
        omega
      subst hfirst
      right; omega
  · cases h

theorem not_plain_ofNat {m : Nat} (h : 128 ≤ m ∨ m = 0x6B) : ¬ Plain (Char.ofNat m) := by
  rintro ⟨hascii, hk, hnul⟩
  by_cases hvalid : m.isValidChar
  · have hm : (Char.ofNat m).toNat = m := by rw [Char.ofNat, dif_pos hvalid]; rfl
    rcases h with h | rfl
    · omega
    · exact hk (by decide)
  · exact hnul (by rw [Char.ofNat, dif_neg hvalid]; rfl)

theorem lowered_not_plain {c : Char} (hc : ¬ c.toNat < 128) (before after : List Char) :
    ∃ x ∈ (if c == 'Σ' then [if endsWord before after then 'ς' else 'σ']
      else if c.toNat < 128 then [c.toLower] else mapCase lowerRuns lowerExpansions c),
      ¬ Plain x := by
  by_cases hsigma : c = 'Σ'
  · subst hsigma
    refine ⟨if endsWord before after then 'ς' else 'σ', by simp, ?_⟩
    split <;> decide
  simp only [beq_iff_eq, hsigma, if_false, hc]
  by_cases hdot : c.toNat = 0x130
  · have hlookup : lowerExpansions.lookup c.toNat = some [0x69, 0x307] := by
      simp [lowerExpansions, hdot]
    refine ⟨Char.ofNat 0x307, ?_, not_plain_ofNat (by omega)⟩
    simp only [mapCase, hlookup]
    exact List.mem_map.mpr ⟨0x307, by simp, rfl⟩
  have hlookup : (c.toNat == 0x130) = false := by simpa using hdot
  simp only [mapCase, lowerExpansions, List.lookup_cons, List.lookup_nil, hlookup]
  split
  · rename_i m hm
    obtain ⟨r, hr, hmr⟩ := Array.exists_of_findSome?_eq_some hm
    exact ⟨Char.ofNat m, by simp, not_plain_ofNat (image?_land (by simpa using hr) hmr)⟩
  · exact ⟨c, by simp, fun h => hc h.1⟩

theorem go_eq_iff {t : List Char} (ht : ∀ x ∈ t, Plain x) (before cs : List Char) :
    fullLower.go before cs = t ↔ cs.map Char.toLower = t := by
  induction cs generalizing before t with
  | nil => simp [fullLower.go]
  | cons c cs ih =>
    by_cases hc : c.toNat < 128
    · have hsigma : (c == 'Σ') = false := by
        simp only [beq_eq_false_iff_ne]
        rintro rfl
        simp at hc
      simp only [fullLower.go, hsigma, hc, if_true, Bool.false_eq_true, if_false,
        List.singleton_append, List.map_cons]
      cases t with
      | nil => simp
      | cons x t =>
        simp only [List.cons.injEq]
        rw [ih (fun y hy => ht y (List.mem_cons_of_mem x hy))]
    · obtain ⟨x, hx, hplain⟩ := lowered_not_plain hc before cs
      simp only [fullLower.go, List.map_cons]
      constructor
      · intro h
        exact absurd (ht x (h ▸ List.mem_append_left _ hx)) hplain
      · intro h
        have hlow : c.toLower = c := by
          unfold Char.toLower
          split
          · rename_i hAZ
            have hZ : 'Z'.val.toNat = 90 := rfl
            simp only [Char.toNat, ge_iff_le, UInt32.le_iff_toNat_le] at hAZ hc
            omega
          · rfl
        have hmem : c ∈ t := by rw [← h, hlow]; exact List.mem_cons_self
        exact absurd (ht c hmem).1 hc

end FullLower

/-- A text lowers, as Unicode lowers it, to a text of plain characters exactly when its ASCII
letters lowered give that text. -/
theorem fullLower_eq_iff_toLower {s t : String} (ht : ∀ x ∈ t.toList, FullLower.Plain x) :
    fullLower s = t ↔ s.toLower = t := by
  change fullLower s = t ↔ s.map Char.toLower = t
  rw [String.ext_iff, String.ext_iff, String.toList_map]
  simp only [fullLower, String.toList_ofList]
  exact FullLower.go_eq_iff ht [] s.toList

theorem Headers.key_eq_authorization_iff (name : String) :
    Headers.key name = "authorization" ↔ fullLower name = "authorization" :=
  (fullLower_eq_iff_toLower (by simp [FullLower.Plain])).symm

/-! ### What a dump shows -/

namespace Trace

/-- A header as a dump shows it: the value hidden when the name lowers to `authorization`. -/
def shown (h : String × String) : String × String :=
  if fullLower h.1 = "authorization" then (h.1, "***") else h

def lines (hs : Headers) : String := "\n".intercalate (hs.map fun h => h.1 ++ ": " ++ h.2)

theorem headerLines_eq (hs : Headers) : headerLines hs = lines (hs.map shown) := by
  unfold headerLines lines
  rw [List.map_map]
  congr 1
  refine List.map_congr_left fun h _ => ?_
  by_cases hauth : fullLower h.1 = "authorization"
  · have hkey := (Headers.key_eq_authorization_iff h.1).mpr hauth
    simp [shown, hauth, hkey]
  · have hkey : ¬ Headers.key h.1 = "authorization" :=
      fun hk => hauth ((Headers.key_eq_authorization_iff h.1).mp hk)
    simp [shown, hauth, hkey]

/-- The dumps a debug run writes about one exchange: the request, then the response when one
came back. -/
def exchange (req : Request) : Outcome → List String
  | .fail _ => [request req]
  | .respond r => [request req, response r]

theorem response_eq (r : Response) :
    response r = "Inbound response:\n" ++ stripEnd ("HTTP " ++ toString r.status ++ " " ++ r.reason) ++
      "\n" ++ lines (r.headers.map shown) ++ "\n\n" ++ Utf8.decodeText r.content := by
  unfold response
  rw [headerLines_eq]

end Trace

theorem Client.request_dump {c : Client} {url : String} {body : Json} {req : Request}
    (h : c.newRequest "POST" url body = .ok req) :
    Trace.request req = "Outbound request:\n" ++ "POST" ++ " " ++ req.url ++ "\n" ++
      Trace.lines (req.headers.map Trace.shown) ++ "\n\n" ++
      Utf8.decodeText (Utf8.encode (req.body.getD "")) := by
  obtain ⟨hmethod, -⟩ := Client.newRequest_eq_ok h
  have hpost : fullUpper (fullUpper "POST") = "POST" := by simp [fullUpper, upperChar]
  unfold Trace.request
  rw [hmethod, hpost, Trace.headerLines_eq, Utf8.decodeText_encode]

/-! ### Executions with and without debug -/

namespace Builder

variable (b : Builder) (c : Client) (o : Outcome)

/-- The request an execution prepares, or the failure that stops it before the transport. -/
def prepared : Except ExecuteError Request :=
  match b.url with
  | .error e => .error (.path e)
  | .ok url => (c.newRequest "POST" url b.body).mapError .request

theorem outbound_eq : b.outbound c = (b.prepared c).toOption := by
  unfold outbound prepared
  cases b.url with
  | error e => rfl
  | ok url =>
    dsimp only
    cases c.newRequest "POST" url b.body <;> rfl

theorem prepared_eq_ok {req : Request} (h : b.prepared c = .ok req) :
    ∃ url, b.url = .ok url ∧ c.newRequest "POST" url b.body = .ok req := by
  unfold prepared at h
  cases hurl : b.url with
  | error e => rw [hurl] at h; cases h
  | ok url =>
    rw [hurl] at h
    exact ⟨url, rfl, mapError_eq_ok h⟩

@[simp] theorem setDebug_prepared (d : Json) : (b.setDebug d).prepared c = b.prepared c := rfl

/-- An execution in layers: the prepared request is sent, once; with debug on the exchange is
dumped; the result is the preparation's failure or what follows the sending. -/
theorem execute_eq : b.execute c o =
    { sent := (b.prepared c).toOption.toList
      dumps := if b.debug.truthy then ((b.prepared c).toOption.map (Trace.exchange · o)).getD []
        else []
      result := b.prepared c >>= fun _ => afterSending o } := by
  unfold execute prepared
  cases b.url with
  | error e => cases b.debug.truthy <;> rfl
  | ok url =>
    dsimp only
    cases c.newRequest "POST" url b.body with
    | error e => cases b.debug.truthy <;> rfl
    | ok req =>
      simp only [mapError_ok, ok_bind]
      cases o with
      | fail m => cases b.debug.truthy <;> rfl
      | respond r =>
        simp only [afterSending, Outcome.response, statusStep, ok_bind]
        cases checkResponse r with
        | error e => cases e <;> cases b.debug.truthy <;> rfl
        | ok u => cases b.debug.truthy <;> rfl

/-- Turning debug on or off changes neither the request sent nor the result: it only decides
whether the exchange is dumped, request first, then the response that is checked and decoded.
Each dump shows the request's `POST`, URL, headers and body, or the response's status line,
headers and content, with the value of every header whose name lowers to `authorization`
hidden. -/
theorem execute_debug_writes_only_dumps (d : Json) :
    let run := (b.setDebug d).execute c o
    run.sent = (b.execute c o).sent ∧ run.result = (b.execute c o).result ∧
    run.dumps = (if d.truthy then ((b.outbound c).map (Trace.exchange · o)).getD [] else []) ∧
    (∀ req, b.outbound c = some req →
      run.result = afterSending o ∧
      Trace.request req = "Outbound request:\n" ++ "POST" ++ " " ++ req.url ++ "\n" ++
        Trace.lines (req.headers.map Trace.shown) ++ "\n\n" ++
        Utf8.decodeText (Utf8.encode (req.body.getD ""))) ∧
    ∀ r, o = .respond r →
      Trace.response r = "Inbound response:\n" ++
        stripEnd ("HTTP " ++ toString r.status ++ " " ++ r.reason) ++ "\n" ++
        Trace.lines (r.headers.map Trace.shown) ++ "\n\n" ++ Utf8.decodeText r.content := by
  have hrun := execute_eq (b.setDebug d) c o
  have hb := execute_eq b c o
  rw [setDebug_prepared] at hrun
  dsimp only
  rw [hrun, hb]
  refine ⟨rfl, rfl, by rw [outbound_eq]; rfl, ?_, fun r _ => Trace.response_eq r⟩
  intro req hreq
  rw [outbound_eq] at hreq
  have hprep : b.prepared c = .ok req := by
    cases hp : b.prepared c <;> simp_all [Except.toOption]
  obtain ⟨url, -, hnew⟩ := prepared_eq_ok b c hprep
  exact ⟨by rw [hprep]; rfl, Client.request_dump hnew⟩

end Builder

end SuggestGateway
