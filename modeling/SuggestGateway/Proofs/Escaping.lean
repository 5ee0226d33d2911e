import Mathlib.Data.Set.Operations
import SuggestGateway.Proofs.SuggestUrl
/-!
# Escaped text reads back

Percent-decoding undoes both encoders: a path segment decodes to the text it was made from
(`decode_encodeSegment`), and so does a form value, whose spaces were written as `+`
(`decodeForm_encodeForm`). The argument is the one of UTF-8: each character is written as a
block that decoding reads back to the character's UTF-8 bytes whatever follows it
(`decodeBytes_encodeChar_append`), and the UTF-8 bytes of a text decode to the text.

Literal `+` is escaped by both encoders, so a decoder that turns `+` into a space before it
reads the escapes gets only the spaces back. Neither encoder writes a character that separates
the places its output goes to: an encoded text holds unreserved characters, `%` and upper-case
hex digits, and a form value also `+`.

So the path of a suggest request names its indices and types recoverably: the names of a group
are split back at the commas, which no segment holds, and each segment decodes to its name
(`escaped_names_read_back`). Only empty names are lost, as the empty segment adds nothing to
the path.
-/
namespace SuggestGateway

namespace Percent

theorem decodeBytes_cons {c : Char} (hc : c ≠ '%') (rest : List Char) :
    decodeBytes (c :: rest) = (decodeBytes rest).map (Utf8.encodeChar c ++ ·) := by
  simp [decodeBytes, hc]

theorem decodeBytes_escapeByte_append (b : UInt8) (rest : List Char) :
    decodeBytes (escapeByte b ++ rest) = (decodeBytes rest).map (b :: ·) := by
  have hb := b.toNat_lt
  obtain ⟨-, hhi⟩ := Url.hexDigit_spec (b.toNat / 16) (by omega)
  obtain ⟨-, hlo⟩ := Url.hexDigit_spec (b.toNat % 16) (by omega)
  have hbyte : UInt8.ofNat (16 * (b.toNat / 16) + b.toNat % 16) = b := by
    rw [Nat.div_add_mod, UInt8.ofNat_toNat]
  simp only [escapeByte, List.cons_append, List.nil_append, decodeBytes, hhi, hlo, hbyte]

theorem decodeBytes_escapes_append (bs : List UInt8) (rest : List Char) :
    decodeBytes (bs.flatMap escapeByte ++ rest) = (decodeBytes rest).map (bs ++ ·) := by
  induction bs with
  | nil => simp
  | cons b bs ih =>
    rw [List.flatMap_cons, List.append_assoc, decodeBytes_escapeByte_append, ih, Option.map_map]
    rfl

theorem decodeBytes_encodeChar_append (c : Char) (rest : List Char) :
    decodeBytes (encodeChar [] c ++ rest) = (decodeBytes rest).map (Utf8.encodeChar c ++ ·) := by
  cases hu : isUnreserved c with
  | true =>
    have hne : c ≠ '%' := by
      rintro rfl
      exact absurd hu (by decide)
    simp only [encodeChar, hu, Bool.true_or, if_true, List.cons_append, List.nil_append]
    exact decodeBytes_cons hne rest
  | false =>
    simp only [encodeChar, hu, List.contains_nil, Bool.or_false, Bool.false_eq_true, if_false]
    exact decodeBytes_escapes_append _ rest

theorem decodeBytes_flatMap {f : Char → List Char}
    (hf : ∀ c rest, decodeBytes (f c ++ rest) = (decodeBytes rest).map (Utf8.encodeChar c ++ ·))
    (l : List Char) : decodeBytes (l.flatMap f) = some (l.flatMap Utf8.encodeChar) := by
  induction l with
  | nil => rfl
  | cons c l ih => rw [List.flatMap_cons, hf, ih, List.flatMap_cons, Option.map_some]

theorem decode_of_decodeBytes {t s : String} (h : decodeBytes t.toList = some (Utf8.encode s)) :
    decode t = some s := by
  rw [decode, h, Option.bind_some, Utf8.decodeStrict?_encode, Option.map_some,
    String.ofList_toList]

theorem decode_encodeSegment (s : String) : decode (encodeSegment s) = some s := by
  apply decode_of_decodeBytes
  rw [encodeSegment, encode, String.toList_ofList, Utf8.encode]
  exact decodeBytes_flatMap decodeBytes_encodeChar_append _

theorem encodeSegment_injective : Function.Injective encodeSegment := fun a b h =>
  Option.some.inj (by rw [← decode_encodeSegment a, h, decode_encodeSegment])

theorem encodeSegment_eq_empty_iff {s : String} : encodeSegment s = "" ↔ s = "" := by
  have hempty : encodeSegment "" = "" := rfl
  rw [← hempty]
  exact encodeSegment_injective.eq_iff

theorem plus_not_mem_encodeChar (c : Char) : '+' ∉ encodeChar [] c :=
  Url.not_mem_of_prepared (Url.prepared_encodeChar c) (by decide) (by decide) (by decide)

/-- A form value decodes to the text it was made from. -/
theorem decodeForm_encodeForm (s : String) : decodeForm (encodeForm s) = some s := by
  have hspaces : ∀ c, (if c == ' ' then ['+'] else encodeChar [] c).map
      (fun d => if d == '+' then ' ' else d) = if c == ' ' then [' '] else encodeChar [] c := by
    intro c
    split
    · rfl
    · have hkeep : ∀ d ∈ encodeChar [] c, (if d == '+' then ' ' else d) = id d := by
        intro d hd
        have hne : d ≠ '+' := fun h => plus_not_mem_encodeChar c (h ▸ hd)
        simp [hne]
      rw [List.map_congr_left hkeep, List.map_id]
  apply decode_of_decodeBytes
  rw [String.toList_ofList, encodeForm, String.toList_ofList, List.map_flatMap, funext hspaces,
    Utf8.encode]
  apply decodeBytes_flatMap
  intro c rest
  split
  · rename_i hc
    rw [beq_iff_eq] at hc
    subst hc
    exact decodeBytes_cons (by decide) rest
  · exact decodeBytes_encodeChar_append c rest

end Percent

section SuggestPaths

open Url

theorem splitOn_joinedSegments {names : List String} (hne : names ≠ []) :
    (",".intercalate (names.map Percent.encodeSegment)).toList.splitOn ',' =
      names.map fun n => (Percent.encodeSegment n).toList := by
  rw [String.toList_intercalate, List.map_map]
  apply List.splitOn_intercalate
  · intro l hl
    obtain ⟨n, -, rfl⟩ := List.mem_map.mp hl
    exact not_mem_of_prepared (prepared_encodeSegment n) (by decide) (by decide) (by decide)
  · simpa using hne

theorem joinedSegments_ne_empty {names : List String} (hne : names ≠ [])
    (hnames : ∀ n ∈ names, n ≠ "") : ",".intercalate (names.map Percent.encodeSegment) ≠ "" := by
  intro hjoin
  have hsplit := splitOn_joinedSegments hne
  rw [hjoin, String.toList_empty, List.splitOn_nil, eq_comm, List.map_eq_singleton_iff] at hsplit
  obtain ⟨n, rfl, hn⟩ := hsplit
  have hempty : Percent.encodeSegment n = "" := String.toList_eq_nil_iff.mp hn
  exact hnames n List.mem_cons_self (Percent.encodeSegment_eq_empty_iff.mp hempty)

/-- Lists of non-empty names are told apart by their segments joined with commas. -/
theorem joinedSegments_injOn :
    Set.InjOn (fun names : List String => ",".intercalate (names.map Percent.encodeSegment))
      {names | ∀ n ∈ names, n ≠ ""} := by
  intro a ha b hb h
  simp only at h
  by_cases hna : a = [] <;> by_cases hnb : b = []
  · rw [hna, hnb]
  · subst hna
    exact absurd h.symm (joinedSegments_ne_empty hnb hb)
  · subst hnb
    exact absurd h (joinedSegments_ne_empty hna ha)
  · have hpieces := congrArg (fun t : String => t.toList.splitOn ',') h
    simp only [splitOn_joinedSegments hna, splitOn_joinedSegments hnb] at hpieces
    have hinj : ∀ x y, (Percent.encodeSegment x).toList = (Percent.encodeSegment y).toList →
        x = y :=
      fun x y hxy => Percent.encodeSegment_injective (String.toList_inj.mp hxy)
    exact (List.map_inj_right hinj).mp hpieces

/-- Two suggest paths on text names are equal exactly when their segments are. -/
theorem suggestPath_eq_iff (indices indices' types types' : List String) :
    suggestPath (indices.map .str) (types.map .str) =
        suggestPath (indices'.map .str) (types'.map .str) ↔
      suggestSegment indices types = suggestSegment indices' types' := by
  rw [suggestPath_strs, suggestPath_strs, Except.ok.injEq, String.append_left_inj,
    String.append_right_inj]

/-- A path segment holds only unreserved characters and upper-case escapes, and decodes back
to its name; so no two names share a segment, and no segment holds `,`, `/`, `?` or `#`. A
suggest path on text names is `/`, one segment free of `/`, `?` and `#`, and `/_suggest`;
with the types fixed it tells lists of non-empty index names apart, and with the indices
fixed lists of non-empty type names. -/
theorem escaped_names_read_back :
    (∀ s : String, Prepared Percent.isUnreserved (Percent.encodeSegment s).toList = true ∧
      Percent.decode (Percent.encodeSegment s) = some s ∧
      ∀ c ∈ [',', '/', '?', '#'], c ∉ (Percent.encodeSegment s).toList) ∧
    Function.Injective Percent.encodeSegment ∧
    (∀ indices types : List String, ∃ x : String,
      suggestPath (indices.map .str) (types.map .str) = .ok ("/" ++ x ++ "/_suggest") ∧
      ∀ c ∈ ['/', '?', '#'], c ∉ x.toList) ∧
    (∀ types : List String, Set.InjOn (fun indices : List String =>
      suggestPath (indices.map .str) (types.map .str)) {names | ∀ n ∈ names, n ≠ ""}) ∧
    ∀ indices : List String, Set.InjOn (fun types : List String =>
      suggestPath (indices.map .str) (types.map .str)) {names | ∀ n ∈ names, n ≠ ""} := by
  refine ⟨fun s => ⟨prepared_encodeSegment s, Percent.decode_encodeSegment s, ?_⟩,
    Percent.encodeSegment_injective, fun indices types => ?_, fun types => ?_, fun indices => ?_⟩
  · intro c hc
    simp only [List.mem_cons, List.not_mem_nil, or_false] at hc
    rcases hc with rfl | rfl | rfl | rfl <;>
      exact not_mem_of_prepared (prepared_encodeSegment s) (by decide) (by decide) (by decide)
  · refine ⟨suggestSegment indices types, suggestPath_strs indices types, ?_⟩
    intro c hc
    simp only [List.mem_cons, List.not_mem_nil, or_false] at hc
    rcases hc with rfl | rfl | rfl <;>
      exact not_mem_of_prepared (prepared_suggestSegment indices types) (by decide) (by decide)
        (by decide)
  · intro a ha b hb h
    rw [suggestPath_eq_iff, suggestSegment, suggestSegment, String.append_left_inj] at h
    exact joinedSegments_injOn ha hb h
  · intro a ha b hb h
    rw [suggestPath_eq_iff, suggestSegment, suggestSegment, String.append_right_inj] at h
    exact joinedSegments_injOn ha hb h

-- a blank and a comma inside names are escaped, the commas between names are not
example : suggestPath [.str "my index", .str "a,b"] [] = .ok "/my%20index,a%2Cb/_suggest" := by
  rfl

end SuggestPaths

end SuggestGateway
