import SuggestGateway.Proofs.Decoding
import SuggestGateway.Proofs.ReadBack
import SuggestGateway.Json.Lemmas
import SuggestGateway.Json.Writer
import SuggestGateway.Proofs.Utf8
import SuggestGateway.Service.Execute
/-!
# Decoding a result's JSON form gives the result back

The gateway answers with the JSON form of a result (`SuggestResult.toJson`), and a search
service answers in the same form. Decoding that form gives the result back: every field of
every suggestion and option has the kind its check asks for, a double score is taken bit for
bit (negative zero, the infinities and every NaN included), and the names come back in their
order. Two conditions are needed, both of which a result read from an object meets: the
names are distinct, and none is `_shards`, which decoding skips.

A response carrying the written text decodes to the result as well, as long as the text reads
back as the value written. A JSON response is read as its text (`jsonResponse_json`): its type
implies UTF-8, and its bytes decode to the text unchanged. The text reads back by the reader's
round trip (`Json.read_write`) for every result whose scores are tokens or zeros, such as the
one with a negative zero and a NaN below.
-/
namespace SuggestGateway

theorem fieldProblem_of_getD {v x : Json} {key : String} {kinds : List Json.Kind}
    (hx : v.getD key .null = x) (hk : x.kind ∈ kinds) : fieldProblem v key kinds = none := by
  simp [fieldProblem, hx, hk]

namespace Candidate

theorem problem?_toJson (c : Candidate) : problem? c.toJson = none := by
  have htext : fieldProblem c.toJson "text" [.str] = none :=
    fieldProblem_of_getD (x := .str c.text) rfl (by simp [Json.kind])
  have hscore : fieldProblem c.toJson "score" [.int, .float] = none :=
    fieldProblem_of_getD (x := .float c.score) rfl (by simp [Json.kind])
  have hconv : (scoreOf c.toJson).problem = none := rfl
  have hfreq : fieldProblem c.toJson "freq" [.int] = none :=
    fieldProblem_of_getD (x := .int c.freq) rfl (by simp [Json.kind])
  show (fieldProblem c.toJson "text" [.str] <|> fieldProblem c.toJson "score" [.int, .float] <|>
    (scoreOf c.toJson).problem <|> fieldProblem c.toJson "freq" [.int]) = none
  rw [htext, hscore, hconv, hfreq]
  rfl

theorem read_toJson (c : Candidate) : read c.toJson = c := rfl

end Candidate

namespace Suggestion

theorem problem?_toJson (s : Suggestion) : problem? s.toJson = none := by
  have hoptions : fieldProblem s.toJson "options" [.list] = none :=
    fieldProblem_of_getD (x := .arr (s.candidates.map Candidate.toJson)) rfl (by simp [Json.kind])
  have htext : fieldProblem s.toJson "text" [.str] = none :=
    fieldProblem_of_getD (x := .str s.text) rfl (by simp [Json.kind])
  have hoffset : fieldProblem s.toJson "offset" [.int] = none :=
    fieldProblem_of_getD (x := .int s.offset) rfl (by simp [Json.kind])
  have hlength : fieldProblem s.toJson "length" [.int] = none :=
    fieldProblem_of_getD (x := .int s.length) rfl (by simp [Json.kind])
  have hitems : (optionItems s.toJson).findSome? Candidate.problem? = none := by
    show (s.candidates.map Candidate.toJson).findSome? Candidate.problem? = none
    simp [List.findSome?_map, Function.comp_def, Candidate.problem?_toJson]
  show (fieldProblem s.toJson "options" [.list] <|> fieldProblem s.toJson "text" [.str] <|>
    fieldProblem s.toJson "offset" [.int] <|> fieldProblem s.toJson "length" [.int] <|>
    (optionItems s.toJson).findSome? Candidate.problem?) = none
  rw [hoptions, htext, hoffset, hlength, hitems]
  rfl

theorem read_toJson (s : Suggestion) : read s.toJson = s := by
  have hcandidates : (s.candidates.map Candidate.toJson).map Candidate.read = s.candidates := by
    simp [Function.comp_def, Candidate.read_toJson]
  show Suggestion.mk s.text s.offset s.length
    ((s.candidates.map Candidate.toJson).map Candidate.read) = s
  rw [hcandidates]

end Suggestion

theorem entryProblem_toJson (name : String) (ss : List Suggestion) :
    entryProblem name (.arr (ss.map Suggestion.toJson)) = none := by
  simp [entryProblem, List.findSome?_map, Function.comp_def, Suggestion.problem?_toJson]

theorem entryReading_toJson (ss : List Suggestion) :
    entryReading (.arr (ss.map Suggestion.toJson)) = ss := by
  simp [entryReading, Json.asList?, Function.comp_def, Suggestion.read_toJson]

namespace SuggestResult

variable (r : SuggestResult)

def members : List (String × Json) := r.map fun e => (e.1, .arr (e.2.map Suggestion.toJson))

theorem toJson_eq_obj : r.toJson = .obj r.members := rfl

theorem responseProblem_members : responseProblem r.members = none := by
  simp [responseProblem, members, List.findSome?_map, Function.comp_def, entryProblem_toJson]

theorem responseEntries_members (hshards : shardsKey ∉ Entries.keys r) :
    responseEntries r.members = r := by
  have hkept : r.filter (fun e => e.1 != shardsKey) = r := by
    rw [List.filter_eq_self]
    intro e he
    have hne : e.1 ≠ shardsKey := by
      intro heq
      apply hshards
      rw [← heq]
      exact List.mem_map_of_mem he
    simpa using hne
  unfold responseEntries members
  rw [List.filter_map, Function.comp_def]
  simp only [hkept, List.map_map, Function.comp_def, entryReading_toJson]
  exact List.map_id' r

/-- A result with distinct names, none of them `_shards`, decodes from its JSON form. -/
theorem decodeResponse_toJson (hkeys : (Entries.keys r).Nodup)
    (hshards : shardsKey ∉ Entries.keys r) : decodeResponse r.toJson = .ok r := by
  rw [toJson_eq_obj]
  show decodeMembers r.members [] = .ok r
  rw [decodeMembers_eq_verdict, responseProblem_members, responseEntries_members r hshards,
    verdict_none]
  exact congrArg Except.ok (Entries.ofList_of_nodup r hkeys)

end SuggestResult

def jsonResponse (text : String) : Response :=
  ⟨200, "OK", [("Content-Type", "application/json")], Utf8.encode text⟩

theorem Codec.ofName?_utf8 : Codec.ofName? "utf-8" = some (.unicode .utf8) := by
  have hkey : codecKey "utf-8" = "utf_8" := by decide
  have halias : codecAliases.lookup "utf_8" = none := by decide +kernel
  have hmapped : ("utf_8".map fun c => if c == '.' then '_' else c) = "utf_8" := by
    rw [String.map_eq_internal]
    decide +kernel
  have hentry : canonicalEntry? "utf_8" = some (.text (.unicode .utf8)) := by decide +kernel
  have hdot : "utf_8".contains '.' = false := by
    rw [String.contains_char_eq]
    decide +kernel
  have hne : "utf_8".isEmpty = false := by decide +kernel
  rw [Codec.ofName?]
  simp only [hkey, halias, hmapped, Option.orElse_none, Codec.searchNames, hne, hdot, hentry,
    Bool.or_false, Bool.false_eq_true, if_false]

theorem Headers.charsetName?_json :
    Headers.charsetName? [("Content-Type", "application/json")] = some "utf-8" := by
  have hget : Headers.get? [("Content-Type", "application/json")] "content-type" =
      some "application/json" := by
    have hlower (s : String) : s.toLower = .ofList (s.toList.map Char.toLower) :=
      String.map_eq_internal
    simp only [Headers.get?, Headers.key, hlower]
    decide +kernel
  have hne : "application/json".isEmpty = false := by decide +kernel
  have hparams : parseParams "application/json" = ("application/json", []) := by decide +kernel
  have htext : "application/json".contains "text" = false := by
    rw [String.contains_string_eq_internal]
    decide +kernel
  have hjson : "application/json".contains "application/json" = true := by
    rw [String.contains_string_eq_internal]
    decide +kernel
  rw [Headers.charsetName?, hget]
  simp only [hne, hparams, htext, hjson, List.reverse_nil, List.find?_nil, Bool.false_eq_true,
    if_false, if_true]

theorem jsonResponse_text (t : String) : (jsonResponse t).text = .ok t := by
  have hname : (jsonResponse t).charsetName? = some "utf-8" := Headers.charsetName?_json
  have hnull : "utf-8".contains '\x00' = false := by
    rw [String.contains_char_eq]
    decide +kernel
  rw [Response.text]
  split
  · rename_i hempty
    have hnil : Utf8.encode t = [] := List.isEmpty_iff.1 hempty
    have ht : t = "" := by
      calc t = Utf8.decodeText (Utf8.encode t) := (Utf8.decodeText_encode t).symm
        _ = Utf8.decodeText (Utf8.encode "") := by rw [hnil]; rfl
        _ = "" := Utf8.decodeText_encode ""
    rw [ht]
  · simp only [hname, Option.orElse_some, hnull, Bool.false_eq_true, if_false, Codec.ofName?_utf8]
    show Except.mapError _ (.ok (Utf8.decodeText (Utf8.encode t))) = .ok t
    rw [Utf8.decodeText_encode]
    rfl

/-- A JSON response reads as its text does: its type names UTF-8, so no form is guessed from
the first bytes, and the text decodes from its bytes unchanged. -/
theorem jsonResponse_json (t : String) :
    (jsonResponse t).json = (Json.read t).mapError .malformed := by
  have hname : (jsonResponse t).charsetName? = some "utf-8" := Headers.charsetName?_json
  have hnamed : "utf-8".isEmpty = false := by decide +kernel
  rw [Response.json]
  simp only [hname, hnamed, Bool.false_and, Bool.false_eq_true, if_false, jsonResponse_text]
  rfl

theorem decodeBody_of_json {resp : Response} {v : Json} (h : resp.json = .ok v) :
    decodeBody resp = decodeResponse v := by
  rw [decodeBody, h]

/-- A result with distinct names, none of them `_shards`, is what its JSON form decodes to, with
every score bit for bit; and a response carrying the written form decodes to it as well,
whenever that text reads back as the value written. -/
theorem SuggestResult.decode_toJson (r : SuggestResult) (hkeys : (Entries.keys r).Nodup)
    (hshards : shardsKey ∉ Entries.keys r) :
    decodeResponse r.toJson = .ok r ∧
      ((jsonResponse r.toJson.write).json = .ok r.toJson →
        decodeBody (jsonResponse r.toJson.write) = .ok r) := by
  have hdecode := r.decodeResponse_toJson hkeys hshards
  refine ⟨hdecode, fun hjson => ?_⟩
  rw [decodeBody_of_json hjson]
  exact hdecode

/-- Two names, one with a suggestion whose options score negative zero and NaN: its written form,
sent as a JSON response, reads back as it, so the response decodes to the result. -/
theorem SuggestResult.decode_toJson_signed_scores :
    let r : SuggestResult :=
      [("fix", [⟨"serch", 0, 5, [⟨"search", .signedZero true, 12⟩, ⟨"perch", .nan, -2⟩]⟩]),
        ("done", [])]
    (Entries.keys r).Nodup ∧ shardsKey ∉ Entries.keys r ∧
      (jsonResponse r.toJson.write).json = .ok r.toJson ∧
      decodeBody (jsonResponse r.toJson.write) = .ok r ∧
      (decodeResponse r.toJson = .ok r ∧
        ((jsonResponse r.toJson.write).json = .ok r.toJson →
          decodeBody (jsonResponse r.toJson.write) = .ok r)) := by
  intro r
  have hkeys : (Entries.keys r).Nodup := by decide +revert
  have hshards : shardsKey ∉ Entries.keys r := by decide +revert
  have hjson : (jsonResponse r.toJson.write).json = .ok r.toJson := by
    have hreads : r.toJson.readsBack nestingLimit = true := by decide +kernel +revert
    rw [jsonResponse_json, Json.read_write hreads]
    rfl
  have hround := SuggestResult.decode_toJson r hkeys hshards
  exact ⟨hkeys, hshards, hjson, hround.2 hjson, hround⟩

end SuggestGateway
