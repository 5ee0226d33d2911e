import SuggestGateway.Proofs.PreparedText
import SuggestGateway.Proofs.Decoding
import SuggestGateway.Service.Execute
/-!
# Suggest URLs reach the service as they are built

A client's base URL is in prepared form when preparing it changes nothing: an `http` or
`https` origin that preparation keeps, and path segments that are prepared text and neither
`.` nor `..` (`Url.PreparedBase`). Preparing such a base followed by more plain, prepared
segments and a prepared query gives the same URL back (`PreparedBase.prepare_extend`).

A suggest URL on text names is such an extension: the encoded names, joined by commas, form
one segment, then `_suggest`, then the form-encoded query. So the request an execution hands
the transport goes to the base and the suggest URL, put together as they are, unless the names
form the segment `.` or `..`: preparation removes such a segment together with the base's last
one, and the request leaves the base's path. A base with a `%` in its host can fail too: an IPv6
zone escaped as `%25` comes back unescaped, and the names are then escaped twice.
-/
namespace SuggestGateway

namespace Url

section Split

theorem splitScheme_http {scheme : String} (hs : scheme = "http" ∨ scheme = "https")
    (more : Char → Bool) (hmore : more ':' = false) (r : List Char) :
    splitScheme (scheme.toList ++ ':' :: r) more = some (scheme, r) := by
  rcases hs with rfl | rfl <;> simp [splitScheme, isAsciiLetter, isAsciiDigit, hmore]

def queryText : Option String → String
  | some q => "?" ++ q
  | none => ""

theorem split_origin {scheme authority : String} (hs : scheme = "http" ∨ scheme = "https")
    (hauth : ∀ c ∈ authority.toList, c ≠ '\\' ∧ c ≠ '/' ∧ c ≠ '?' ∧ c ≠ '#')
    {path : String} (hpath : path.toList.head? = some '/')
    (hpathchars : ∀ c ∈ path.toList, c ≠ '?' ∧ c ≠ '#')
    (query : Option String) (hq : ∀ q ∈ query, '#' ∉ q.toList) :
    split (scheme ++ "://" ++ authority ++ path ++ queryText query) =
      { scheme := some scheme, authority := some authority, path, query, fragment := none } := by
  obtain ⟨p, hp⟩ := List.head?_eq_some_iff.mp hpath
  rw [hp] at hpathchars
  have hurl : (scheme ++ "://" ++ authority ++ path ++ queryText query).toList =
      scheme.toList ++ ':' :: '/' :: '/' :: (authority.toList ++ ('/' :: p ++ (queryText query).toList)) := by
    simp [hp]
  have hplain := splitScheme_http hs (fun d => d == '+' || d == '-') rfl
  have hdotted := splitScheme_http hs (fun d => d == '+' || d == '-' || d == '.') rfl
  have hauthority : (authority.toList ++ ('/' :: p ++ (queryText query).toList)).takeWhile
      (fun c => c != '\\' && c != '/' && c != '?' && c != '#') = authority.toList := by
    rw [List.takeWhile_append_of_pos]
    · simp
    · intro c hc
      obtain ⟨h1, h2, h3, h4⟩ := hauth c hc
      simp [h1, h2, h3, h4]
  have hquery : ((queryText query).toList.takeWhile fun c => c != '?' && c != '#') = [] := by
    cases query <;> simp [queryText]
  have hpathpart : ('/' :: p ++ (queryText query).toList).takeWhile
      (fun c => c != '?' && c != '#') = '/' :: p := by
    rw [List.takeWhile_append_of_pos, hquery, List.append_nil]
    intro c hc
    obtain ⟨h1, h2⟩ := hpathchars c hc
    simp [h1, h2]
  unfold split
  simp only [hurl, hplain, hdotted, Option.isSome_some, Bool.true_or, if_true, hauthority,
    List.drop_left, hpathpart, String.ofList_toList]
  rw [← hp, String.ofList_toList]
  cases query with
  | none => simp [queryText]
  | some q =>
    have hq' : q.toList.takeWhile (· != '#') = q.toList := by
      have hall : ∀ c ∈ q.toList, (c != '#') = true := by
        intro c hc
        have hne : c ≠ '#' := fun h => hq q rfl (h ▸ hc)
        simpa using hne
      simpa using @List.takeWhile_append_of_pos _ (· != '#') q.toList [] hall
    simp [queryText, hq']

theorem readAuthority_url {url a : String} {r : Authority} (h : readAuthority url a = .ok r)
    (url' : String) : readAuthority url' a = .ok r := by
  unfold readAuthority at h ⊢
  simp only at h ⊢
  split at h
  · cases h
  · rename_i host port _
    by_cases hport : port.getD 0 > 65535
    · simp only [hport, if_true] at h
      cases h
    · simpa only [hport, if_false] using h

theorem authorityParts_url {url : String} {a : Option String} {r : Option Authority}
    (h : authorityParts url a = .ok r) (url' : String) : authorityParts url' a = .ok r := by
  cases a with
  | none => exact h
  | some a =>
    simp only [authorityParts] at h ⊢
    by_cases hempty : a.isEmpty = true
    · rwa [if_pos hempty] at h ⊢
    · rw [if_neg hempty] at h ⊢
      cases hr : readAuthority url a with
      | error e => rw [hr] at h; cases h
      | ok parts =>
        rw [hr] at h
        rw [readAuthority_url hr url']
        exact h

theorem requireScheme_url {url : String} {s : Option String} {r : String}
    (h : requireScheme url s = .ok r) (url' : String) : requireScheme url' s = .ok r := by
  cases s with
  | none => cases h
  | some s => exact h

theorem requireHost_url {url : String} {host : Option String} {r : String}
    (h : requireHost url host = .ok r) (url' : String) : requireHost url' host = .ok r := by
  cases host with
  | none => cases h
  | some host =>
    simp only [requireHost] at h ⊢
    by_cases hempty : host.isEmpty = true
    · rw [if_pos hempty] at h
      cases h
    · rwa [if_neg hempty] at h ⊢

theorem prepareOrigin_url {url : String} {normalize : Bool} {scheme authority : Option String}
    {r : String × String} (h : prepareOrigin url normalize scheme authority = .ok r)
    (url' : String) : prepareOrigin url' normalize scheme authority = .ok r := by
  unfold prepareOrigin at h ⊢
  obtain ⟨parts, hparts, h⟩ := bind_eq_ok h
  obtain ⟨host, hhost, h⟩ := bind_eq_ok h
  obtain ⟨s, hs, h⟩ := bind_eq_ok h
  obtain ⟨host', hhost', h⟩ := bind_eq_ok h
  rw [authorityParts_url hparts url', ok_bind, hhost, ok_bind, requireScheme_url hs url', ok_bind,
    requireHost_url hhost' url', ok_bind]
  exact h

theorem stripStart_of_head {s : String} (h : ∀ c ∈ s.toList.head?, isBlank c = false) :
    stripStart s = s := by
  unfold stripStart
  cases hs : s.toList with
  | nil => rw [List.dropWhile_nil, ← hs, String.ofList_toList]
  | cons c rest =>
    rw [List.dropWhile_cons_of_neg (by simp [h c (by simp [hs])]), ← hs, String.ofList_toList]

theorem fullLower_go_ascii {c : Char} (hc : c.toNat < 128) (before after : List Char) :
    fullLower.go before (c :: after) = c.toLower :: fullLower.go (c :: before) after := by
  have hsigma : (c == '\u03A3') = false := by
    cases h : c == '\u03A3'
    · rfl
    · rw [beq_iff_eq] at h
      subst h
      exact absurd hc (by decide)
  simp [fullLower.go, hsigma, hc]

theorem isPrefixOf_fullLower_http {scheme : String} (hs : scheme = "http" ∨ scheme = "https")
    (rest : String) : "http".toList.isPrefixOf (fullLower (scheme ++ rest)).toList = true := by
  have hhttp : ∃ more, (scheme ++ rest).toList = 'h' :: 't' :: 't' :: 'p' :: more := by
    rcases hs with rfl | rfl
    · exact ⟨rest.toList, by simp⟩
    · exact ⟨'s' :: rest.toList, by simp⟩
  obtain ⟨more, hmore⟩ := hhttp
  simp only [fullLower, hmore, String.toList_ofList]
  rw [fullLower_go_ascii (show 'h'.toNat < 128 by decide),
    fullLower_go_ascii (show 't'.toNat < 128 by decide),
    fullLower_go_ascii (show 't'.toNat < 128 by decide),
    fullLower_go_ascii (show 'p'.toNat < 128 by decide)]
  rfl

theorem normalize_http {scheme : String} (hs : scheme = "http" ∨ scheme = "https") :
    (asciiLower scheme == "http" || asciiLower scheme == "https") = true := by
  rcases hs with rfl | rfl <;> decide

/-- An `http` or `https` URL split into its origin, a path and a query is prepared by preparing
its origin and putting the path and query after it, then quoting the whole once more. -/
theorem prepare_http {scheme authority : String} (hs : scheme = "http" ∨ scheme = "https")
    (hauth : ∀ c ∈ authority.toList, c ≠ '\\' ∧ c ≠ '/' ∧ c ≠ '?' ∧ c ≠ '#')
    {path : String} (hpath : path.toList.head? = some '/')
    (hpathchars : ∀ c ∈ path.toList, c ≠ '?' ∧ c ≠ '#')
    (query : Option String) (hq : ∀ q ∈ query, '#' ∉ q.toList) :
    prepare (scheme ++ "://" ++ authority ++ path ++ queryText query) =
      (prepareOrigin (scheme ++ "://" ++ authority ++ path ++ queryText query) true
          (some scheme) (some authority)).map fun o =>
        requote (o.1 ++ "://" ++ o.2 ++
          prepareTail true ⟨some scheme, some authority, path, query, none⟩) := by
  have hurl : scheme ++ "://" ++ authority ++ path ++ queryText query =
      scheme ++ ("://" ++ authority ++ path ++ queryText query) := by
    simp only [String.append_assoc]
  have hhead : (scheme ++ "://" ++ authority ++ path ++ queryText query).toList.head? =
      some 'h' := by
    rcases hs with rfl | rfl <;> simp
  have hstrip := stripStart_of_head (s := scheme ++ "://" ++ authority ++ path ++
    queryText query) (by rw [hhead]; intro c hc; cases Option.mem_some_iff.mp hc; decide)
  unfold prepare
  simp only [hstrip]
  rw [hurl, isPrefixOf_fullLower_http hs, ← hurl, split_origin hs hauth hpath hpathchars query hq]
  simp only [Bool.not_true, Bool.and_false, Bool.false_eq_true, if_false, normalize_http hs]
  cases prepareOrigin (scheme ++ "://" ++ authority ++ path ++ queryText query) true
    (some scheme) (some authority) <;> rfl

end Split

section Tail

theorem prepared_pathOfSegments {allowed : Char → Bool} (hslash : allowed '/' = true)
    {segs : List String} (h : ∀ s ∈ segs, Prepared allowed s.toList = true) :
    Prepared allowed (pathOfSegments segs).toList = true := by
  induction segs with
  | nil => rfl
  | cons s segs ih =>
    have hs : Prepared allowed ('/' :: s.toList) = true := by
      rw [prepared_cons (by decide), hslash, h s List.mem_cons_self]
      rfl
    have hrest := ih fun x hx => h x (List.mem_cons_of_mem s hx)
    simpa [pathOfSegments] using prepared_append hs hrest

theorem prepareTail_plain {scheme authority : Option String} {segs : List String} {last : String}
    (hsegs : ∀ s ∈ segs ++ [last], PlainSegment s ∧ Prepared isPathChar s.toList = true)
    (query : Option String)
    (hq : ∀ q ∈ query, q ≠ "" ∧ Prepared isQueryChar q.toList = true) :
    prepareTail true ⟨scheme, authority, pathOfSegments (segs ++ [last]), query, none⟩ =
      pathOfSegments (segs ++ [last]) ++ queryText query := by
  have hdigitsPath : ∀ c ∈ upperHexDigits, isPathChar c = true := fun c hc =>
    isPathChar_of_isUnreserved (upperHexDigits_spec c hc).2.2.2.2.2.2
  have hpath : Prepared isPathChar (pathOfSegments (segs ++ [last])).toList = true :=
    prepared_pathOfSegments (by decide) fun s hs => (hsegs s hs).2
  have hkeep : encodeInvalid isPathChar (pathOfSegments (segs ++ [last])) =
      pathOfSegments (segs ++ [last]) := by
    have := encodeInvalid_prepared
      (fun c hc => ⟨(isQueryChar_spec (isQueryChar_of_isPathChar hc)).1, hc⟩) hdigitsPath hpath
    rwa [String.ofList_toList] at this
  have hplain := removeDotSegments_plain segs last
    (fun s hs => (hsegs s (List.mem_append_left _ hs)).1)
    (hsegs last (List.mem_append_right _ List.mem_cons_self)).1
  have hne : (pathOfSegments (segs ++ [last])).isEmpty = false := by
    simp [pathOfSegments]
  unfold prepareTail
  simp only [Bool.true_and, hne, Bool.not_false, if_true, hplain, hkeep, Bool.false_eq_true,
    if_false]
  cases query with
  | none => simp [queryText]
  | some q =>
    obtain ⟨hqne, hqprep⟩ := hq q rfl
    have hqkeep : encodeInvalid isQueryChar q = q := by
      have := encodeInvalid_prepared (fun c hc => ⟨(isQueryChar_spec hc).1, hc⟩)
        (fun c hc => isQueryChar_of_isPathChar (hdigitsPath c hc)) hqprep
      rwa [String.ofList_toList] at this
    simp [queryText, hqkeep, hqne]

theorem exists_toList_pathOfSegments (segs : List String) (last : String) :
    ∃ t, (pathOfSegments (segs ++ [last])).toList = '/' :: t := by
  cases segs <;> simp [pathOfSegments]

theorem prepared_path_stops {l : List Char} (h : Prepared isPathChar l = true) :
    ∀ c ∈ l, c ≠ '?' ∧ c ≠ '#' := by
  intro c hc
  constructor <;> rintro rfl <;>
    exact not_mem_of_prepared h (by decide) (by decide) (by decide) hc

theorem prepared_queryText {query : Option String}
    (hq : ∀ q ∈ query, q ≠ "" ∧ Prepared isQueryChar q.toList = true) :
    Prepared isQueryChar (queryText query).toList = true := by
  cases query with
  | none => rfl
  | some q =>
    simp only [queryText, String.toList_append]
    exact prepared_append (by decide) (hq q rfl).2

end Tail

theorem map_eq_ok {ε α β : Type} {x : Except ε α} {f : α → β} {b : β} (h : x.map f = .ok b) :
    ∃ a, x = .ok a ∧ f a = b := by
  cases x with
  | error e => cases h
  | ok a => exact ⟨a, rfl, Except.ok.inj h⟩

/-- A base URL in prepared form: an `http` or `https` origin that preparation keeps with the
root path, and path segments that are prepared text, none of them `.` or `..`. Its authority
holds none of `/`, `\\`, `?` and `#`, which would end it, and no `%`: a host may give back an
escaped `%` unescaped, and the URL is then quoted again as a whole. -/
structure PreparedBase where
  scheme : String
  authority : String
  segments : List String
  http : scheme = "http" ∨ scheme = "https"
  authority_plain : '/' ∉ authority.toList ∧ '\\' ∉ authority.toList ∧ '?' ∉ authority.toList ∧
    '#' ∉ authority.toList ∧ '%' ∉ authority.toList
  origin_prepared :
    prepare (scheme ++ "://" ++ authority ++ "/") = .ok (scheme ++ "://" ++ authority ++ "/")
  segments_prepared : ∀ s ∈ segments, PlainSegment s ∧ Prepared isPathChar s.toList = true

namespace PreparedBase

variable (base : PreparedBase)

def origin : String := base.scheme ++ "://" ++ base.authority

def text : String := base.origin ++ pathOfSegments base.segments

theorem authority_stops :
    ∀ c ∈ base.authority.toList, c ≠ '\\' ∧ c ≠ '/' ∧ c ≠ '?' ∧ c ≠ '#' := by
  obtain ⟨hslash, hback, hquery, hhash, -⟩ := base.authority_plain
  intro c hc
  refine ⟨?_, ?_, ?_, ?_⟩ <;> rintro rfl <;> contradiction

theorem percent_not_mem_origin : '%' ∉ base.origin.toList := by
  have hpct := base.authority_plain.2.2.2.2
  rcases base.http with h | h <;> simp [origin, h, hpct]

theorem origin_parts : ∃ o, prepareOrigin (base.origin ++ "/") true (some base.scheme)
    (some base.authority) = .ok o ∧ requote (o.1 ++ "://" ++ o.2 ++ "/") = base.origin ++ "/" := by
  have hroot : pathOfSegments [""] = "/" := by simp [pathOfSegments]
  have hplain : ∀ s ∈ ([] : List String) ++ [""], PlainSegment s ∧
      Prepared isPathChar s.toList = true := by
    simp [PlainSegment, Prepared]
  have hform : base.scheme ++ "://" ++ base.authority ++ "/" =
      base.scheme ++ "://" ++ base.authority ++ pathOfSegments ([] ++ [""]) ++ queryText none := by
    simp [hroot, queryText]
  have h0 := base.origin_prepared
  rw [hform, prepare_http base.http base.authority_stops (by simp [pathOfSegments])
    (by simp [pathOfSegments]) none (by simp)] at h0
  obtain ⟨o, ho, hreq⟩ := map_eq_ok h0
  rw [prepareTail_plain hplain none (by simp)] at hreq
  refine ⟨o, ?_, ?_⟩
  · rw [← prepareOrigin_url ho (base.origin ++ "/")]
  · simpa [hroot, queryText, origin, String.append_assoc] using hreq

/-- Preparing a base URL in prepared form followed by more plain, prepared segments and a
prepared query changes nothing. -/
theorem prepare_extend (segs : List String) (last : String)
    (hsegs : ∀ s ∈ segs ++ [last], PlainSegment s ∧ Prepared isPathChar s.toList = true)
    (query : Option String) (hq : ∀ q ∈ query, q ≠ "" ∧ Prepared isQueryChar q.toList = true) :
    prepare (base.origin ++ pathOfSegments (base.segments ++ segs ++ [last]) ++ queryText query) =
      .ok (base.origin ++ pathOfSegments (base.segments ++ segs ++ [last]) ++ queryText query) := by
  have hall : ∀ s ∈ (base.segments ++ segs) ++ [last], PlainSegment s ∧
      Prepared isPathChar s.toList = true := by
    intro s hs
    rw [List.append_assoc, List.mem_append] at hs
    rcases hs with hs | hs
    · exact base.segments_prepared s hs
    · exact hsegs s hs
  have hpath : Prepared isPathChar
      (pathOfSegments (base.segments ++ segs ++ [last])).toList = true :=
    prepared_pathOfSegments (by decide) fun s hs => (hall s hs).2
  obtain ⟨p, hp⟩ := exists_toList_pathOfSegments (base.segments ++ segs) last
  have hqchars : ∀ q ∈ query, '#' ∉ q.toList := fun q hq' =>
    not_mem_of_prepared (hq q hq').2 (by decide) (by decide) (by decide)
  obtain ⟨o, horigin, hquote⟩ := base.origin_parts
  show prepare (base.scheme ++ "://" ++ base.authority ++ _ ++ _) = _
  rw [prepare_http base.http base.authority_stops (by rw [hp]; rfl) (prepared_path_stops hpath)
      query hqchars,
    prepareOrigin_url horigin, prepareTail_plain hall query hq]
  have ht : (pathOfSegments (base.segments ++ segs ++ [last]) ++ queryText query).toList =
      '/' :: (p ++ (queryText query).toList) := by
    rw [String.toList_append, hp]
    rfl
  have htail : Prepared isQueryChar ('/' :: (p ++ (queryText query).toList)) = true := by
    rw [← ht, String.toList_append]
    exact prepared_append (prepared_mono (fun c => isQueryChar_of_isPathChar) hpath)
      (prepared_queryText hq)
  have hu : requote (String.ofList ((o.1 ++ "://" ++ o.2).toList ++ ['/'])) = base.origin ++ "/" := by
    have hslash : String.ofList ((o.1 ++ "://" ++ o.2).toList ++ ['/']) =
        o.1 ++ "://" ++ o.2 ++ "/" := String.toList_inj.mp (by simp)
    rw [hslash, hquote]
  have hquoted := requote_append hu base.percent_not_mem_origin
    (fun c hc => (isQueryChar_spec hc).2) htail
  rw [← ht, ← String.toList_append, String.ofList_toList, String.ofList_toList] at hquoted
  show Except.ok (requote _) = _
  rw [hquoted, String.append_assoc]

theorem text_ne_empty : base.text ≠ "" := by
  intro h
  have hlen := congrArg String.length h
  rcases base.http with hs | hs <;> simp [text, origin, hs, String.length_append] at hlen

end PreparedBase

end Url

open Url

section SuggestUrls

/-- The path segment that names the indices and types of a suggest request: the encoded index
names joined by commas, and straight after them the encoded type names joined by commas. -/
def suggestSegment (indices types : List String) : String :=
  ",".intercalate (indices.map Percent.encodeSegment) ++
    ",".intercalate (types.map Percent.encodeSegment)

theorem segmentGroup_strs (names : List String) :
    segmentGroup (names.map .str) = .ok (",".intercalate (names.map Percent.encodeSegment)) := by
  have hparts : (names.map Json.str).mapM Json.segment? = .ok (names.map Percent.encodeSegment) := by
    induction names with
    | nil => rfl
    | cons n ns ih => rw [List.map_cons, List.mapM_cons, ih]; rfl
  rw [segmentGroup, hparts]
  rfl

theorem suggestPath_strs (indices types : List String) :
    suggestPath (indices.map .str) (types.map .str) =
      .ok ("/" ++ suggestSegment indices types ++ "/_suggest") := by
  rw [suggestPath, segmentGroup_strs, segmentGroup_strs]
  show Except.ok ("/" ++ _ ++ _ ++ "/_suggest") = _
  simp only [suggestSegment, String.append_assoc]

theorem Builder.url_of_strs {b : Builder} {indices types : List String}
    (hidx : b.indices = indices.map .str) (htys : b.types = types.map .str) :
    b.url = .ok ("/" ++ suggestSegment indices types ++ "/_suggest" ++
      suggestQuery b.pretty b.routing b.preference) := by
  rw [Builder.url, hidx, htys, suggestPath_strs]
  rfl

theorem prepared_segmentGroup (names : List String) :
    Prepared (fun c => Percent.isUnreserved c || c == ',')
      (",".intercalate (names.map Percent.encodeSegment)).toList = true := by
  rw [String.toList_intercalate]
  apply prepared_intercalate (by decide)
  intro x hx
  obtain ⟨s, -, rfl⟩ := List.mem_map.mp (List.map_map ▸ hx)
  exact prepared_mono (fun c h => by simp [h]) (prepared_encodeSegment s)

theorem prepared_suggestSegment (indices types : List String) :
    Prepared (fun c => Percent.isUnreserved c || c == ',')
      (suggestSegment indices types).toList = true := by
  rw [suggestSegment, String.toList_append]
  exact prepared_append (prepared_segmentGroup indices) (prepared_segmentGroup types)

theorem suggestSegment_prepared (indices types : List String) :
    Prepared isPathChar (suggestSegment indices types).toList = true ∧
      '/' ∉ (suggestSegment indices types).toList := by
  have hjoined := prepared_suggestSegment indices types
  refine ⟨prepared_mono ?_ hjoined, fun hslash => ?_⟩
  · intro c hc
    rcases Bool.or_eq_true_iff.mp hc with hu | hcomma
    · exact isPathChar_of_isUnreserved hu
    · rw [beq_iff_eq] at hcomma
      subst hcomma
      decide
  · rcases mem_of_prepared hjoined '/' hslash with h | h | h
    · exact absurd h (by decide)
    · exact absurd h (by decide)
    · exact absurd h (by decide)

namespace Query

def isQueryText (c : Char) : Bool :=
  Percent.isUnreserved c || c == '+' || c == '&' || c == '='

def pairText (p : String × String) : String :=
  Percent.encodeForm p.1 ++ "=" ++ Percent.encodeForm p.2

theorem toList_pairText (p : String × String) :
    (pairText p).toList =
      (Percent.encodeForm p.1).toList ++ '=' :: (Percent.encodeForm p.2).toList := by
  simp [pairText]

theorem prepared_pairText (p : String × String) :
    Prepared isQueryText (pairText p).toList = true := by
  have hform : ∀ v, Prepared isQueryText (Percent.encodeForm v).toList = true := by
    intro v
    apply prepared_mono _ (prepared_encodeForm v)
    intro c hc
    simp only [isQueryText, Bool.or_eq_true] at hc ⊢
    exact Or.inl (Or.inl hc)
  have hvalue : Prepared isQueryText ('=' :: (Percent.encodeForm p.2).toList) = true := by
    rw [prepared_cons (by decide), hform]
    decide
  rw [toList_pairText]
  exact prepared_append (hform p.1) hvalue

theorem prepared_intercalate_pairText (ps : List (String × String)) :
    Prepared isQueryText ("&".intercalate (ps.map pairText)).toList = true := by
  rw [String.toList_intercalate, List.map_map]
  apply prepared_intercalate (by decide)
  intro x hx
  obtain ⟨p, -, rfl⟩ := List.mem_map.mp hx
  exact prepared_pairText p

end Query

theorem isQueryChar_of_isQueryText {c : Char} (h : Query.isQueryText c = true) :
    isQueryChar c = true := by
  simp only [Query.isQueryText, Bool.or_eq_true, beq_iff_eq] at h
  rcases h with ((hu | rfl) | rfl) | rfl
  · exact isQueryChar_of_isPathChar (isPathChar_of_isUnreserved hu)
  all_goals decide

/-- A rendered query is empty, or `?` and a prepared query that is not empty. -/
theorem renderQuery_prepared (params : List (String × String)) :
    ∃ query : Option String, renderQuery params = queryText query ∧
      ∀ q ∈ query, q ≠ "" ∧ Prepared isQueryChar q.toList = true := by
  unfold renderQuery
  split
  · exact ⟨none, rfl, by simp⟩
  · rename_i hne
    refine ⟨some _, rfl, fun q hq => ?_⟩
    cases Option.mem_some_iff.mp hq
    obtain ⟨⟨k, v⟩, ps, rfl⟩ := List.exists_cons_of_ne_nil (by simpa using hne)
    constructor
    · intro hempty
      have hmem : '=' ∈ ("&".intercalate (((k, v) :: ps).map fun p =>
          Percent.encodeForm p.1 ++ "=" ++ Percent.encodeForm p.2)).toList := by
        cases ps <;> simp [String.intercalate_cons_cons]
      rw [hempty] at hmem
      simp at hmem
    · exact prepared_mono (fun c => isQueryChar_of_isQueryText)
        (Query.prepared_intercalate_pairText ((k, v) :: ps))

theorem Client.create_base_of_ne {B : String} (hB : B ≠ "") (env : Environment)
    (token : Option String) (timeout : Json) :
    (Client.create env (some B) token timeout).base = dropTrailingSlashes B := by
  simp [Client.create, hB]

/-- A suggest request on text names goes to the client's base URL followed by the builder's
URL, as they are, when the base is in prepared form (given with or without trailing slashes)
and the names do not form the segment `.` or `..`: the names stand in one path segment before
`/_suggest`, preparing the URL changes nothing, and every request an execution hands the
transport has that URL. -/
theorem Builder.execute_sends_to_base_append_url (base : PreparedBase) (env : Environment)
    (B : String) (token : Option String) (timeout : Json) (hB : dropTrailingSlashes B = base.text)
    (b : Builder) (indices types : List String) (hidx : b.indices = indices.map .str)
    (htys : b.types = types.map .str)
    (hdot : suggestSegment indices types ≠ "." ∧ suggestSegment indices types ≠ "..") :
    let c := Client.create env (some B) token timeout
    let url := "/" ++ suggestSegment indices types ++ "/_suggest" ++
      suggestQuery b.pretty b.routing b.preference
    c.base = base.text ∧ b.url = .ok url ∧ prepare (c.base ++ url) = .ok (c.base ++ url) ∧
      ∀ o, ∀ r ∈ (b.execute c o).sent, r.url = c.base ++ url := by
  intro c url
  have hbase : c.base = base.text := by
    have hne : B ≠ "" := by
      rintro rfl
      exact base.text_ne_empty (hB ▸ rfl)
    rw [Client.create_base_of_ne hne, hB]
  have hurl := Builder.url_of_strs hidx htys
  obtain ⟨query, hquery, hq⟩ := renderQuery_prepared (queryParams b.pretty b.routing b.preference)
  have hseg := suggestSegment_prepared indices types
  have hext : base.text ++ url = base.origin ++
      pathOfSegments (base.segments ++ [suggestSegment indices types] ++ ["_suggest"]) ++
        queryText query := by
    simp [url, PreparedBase.text, pathOfSegments, suggestQuery, hquery, String.append_assoc]
  have hprep : prepare (base.text ++ url) = .ok (base.text ++ url) := by
    rw [hext]
    apply base.prepare_extend _ _ _ _ hq
    intro s hs
    rcases List.mem_append.mp hs with hs | hs
    · cases List.mem_singleton.mp hs
      exact ⟨⟨hseg.2, hdot⟩, hseg.1⟩
    · cases List.mem_singleton.mp hs
      decide
  refine ⟨hbase, hurl, hbase ▸ hprep, fun o r hr => ?_⟩
  have hout : b.outbound c = (c.newRequest "POST" url b.body).toOption := by
    simp only [Builder.outbound, hurl]
    rfl
  rw [execute_sent, hout] at hr
  cases hreq : c.newRequest "POST" url b.body with
  | error e => simp [hreq, Except.toOption] at hr
  | ok req =>
    simp only [hreq, Except.toOption, Option.toList_some, List.mem_singleton] at hr
    subst hr
    obtain ⟨-, hprepared, -⟩ := Client.newRequest_eq_ok hreq
    rw [hbase, hprep] at hprepared
    rw [hbase]
    exact (Except.ok.inj hprepared).symm

def apiBase : PreparedBase where
  scheme := "http"
  authority := "search.test"
  segments := ["api"]
  http := .inl rfl
  authority_plain := by decide
  origin_prepared := rfl
  segments_prepared := by decide

theorem execute_sends_to_api_base_append_url :
    dropTrailingSlashes "http://search.test/api/" = apiBase.text ∧
      (({} : Builder).addIndex (.str "products")).indices = ["products"].map .str ∧
      (({} : Builder).addIndex (.str "products")).types = ([] : List String).map .str ∧
      (suggestSegment ["products"] [] ≠ "." ∧ suggestSegment ["products"] [] ≠ "..") ∧
      let c := Client.create [] (some "http://search.test/api/") none .null
      let b := ({} : Builder).addIndex (.str "products")
      let url := "/" ++ suggestSegment ["products"] [] ++ "/_suggest" ++
        suggestQuery b.pretty b.routing b.preference
      c.base = apiBase.text ∧ b.url = .ok url ∧ prepare (c.base ++ url) = .ok (c.base ++ url) ∧
        ∀ o, ∀ r ∈ (b.execute c o).sent, r.url = c.base ++ url :=
  ⟨by decide, rfl, rfl, by decide,
    Builder.execute_sends_to_base_append_url apiBase [] "http://search.test/api/" none .null
      (by decide) _ ["products"] [] rfl rfl (by decide)⟩

/-- The two ways out of the law. An index named `..` is the dot segment `..`: preparation
removes it together with the base's last segment, and the request leaves the base's path. A base
whose host carries an IPv6 zone, escaped as `%25`, prepares to itself, yet its sent URLs do not
extend it: the host gives its zone back unescaped, that `%` starts no escape, so the whole URL is
quoted once more and the index's escaped space is escaped a second time. -/
theorem dot_index_and_zone_base_break_base_append_url :
    ((({} : Builder).addIndex (.str "..")).url = .ok "/../_suggest" ∧
      ((({} : Builder).addIndex (.str "..")).execute
        (Client.create [] (some "http://search.test/api") none .null) (.fail "refused")).sent.map
          Request.url = ["http://search.test/_suggest"]) ∧
    (prepare "http://[fe80::1%25eth0]/api" = .ok "http://[fe80::1%25eth0]/api" ∧
      (({} : Builder).addIndex (.str "my index")).url = .ok "/my%20index/_suggest" ∧
      ((({} : Builder).addIndex (.str "my index")).execute
        (Client.create [] (some "http://[fe80::1%25eth0]/api") none .null) (.fail "refused")).sent.map
          Request.url = ["http://[fe80::1%25eth0]/api/my%2520index/_suggest"]) :=
  ⟨⟨rfl, by decide⟩, rfl, rfl, by decide⟩

end SuggestUrls

end SuggestGateway
