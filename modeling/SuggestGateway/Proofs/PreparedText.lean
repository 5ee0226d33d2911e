import SuggestGateway.Url.Prepare
import SuggestGateway.Url.Suggest
import SuggestGateway.Proofs.Utf8
/-!
# Text that preparation leaves as it is

A text is *prepared* for a set of allowed characters when it holds only those characters, no
bare `%`, and escapes `%XY`, with upper-case hex digits, of bytes that are not unreserved
characters. The percent-encoders write such texts: a path segment is prepared for the
unreserved characters (`prepared_encodeSegment`), a form value for them and `+`
(`prepared_encodeForm`).

Each step of URL preparation leaves a prepared text as it is: escaping the characters that a
part may not hold (`encodeInvalid_prepared`), decoding the escapes of unreserved characters
(`decodeUnreserved_prepared_append`) and quoting the whole URL once more (`encode_prepared`).
Removing dot segments leaves a path of plain segments as it is (`removeDotSegments_plain`).
-/
namespace SuggestGateway

namespace Url

def upperHexDigits : List Char :=
  ['0', '1', '2', '3', '4', '5', '6', '7', '8', '9', 'A', 'B', 'C', 'D', 'E', 'F']

def escapedByte (a b : Char) : Nat :=
  16 * (Percent.hexValue? a).getD 0 + (Percent.hexValue? b).getD 0

/-- Text that preparation leaves as it is: characters that `allowed` accepts other than `%`,
and escapes of bytes that are not unreserved characters, written with upper-case hex digits. -/
def Prepared (allowed : Char → Bool) : List Char → Bool
  | '%' :: a :: b :: rest =>
    upperHexDigits.contains a && upperHexDigits.contains b &&
      !Percent.isUnreserved (Char.ofNat (escapedByte a b)) && Prepared allowed rest
  | c :: rest => c != '%' && allowed c && Prepared allowed rest
  | [] => true

section Digits

theorem upperHexDigits_spec : ∀ a ∈ upperHexDigits,
    isAlnumChar a = true ∧ hexDigitValue? a = Percent.hexValue? a ∧
      (Percent.hexValue? a).isSome = true ∧ a.toUpper = a ∧ a ≠ '%' ∧ a.toNat < 128 ∧
      Percent.isUnreserved a = true :=
  -- decided along the list: the instance that runs through every character would apply first
  @of_decide_eq_true _ (List.decidableBAll _ _) rfl

theorem hexDigit_spec : ∀ n < 16,
    Percent.hexDigit n ∈ upperHexDigits ∧ Percent.hexValue? (Percent.hexDigit n) = some n := by
  decide

theorem escapedByte_escapeByte (b : UInt8) :
    escapedByte (Percent.hexDigit (b.toNat / 16)) (Percent.hexDigit (b.toNat % 16)) =
      b.toNat := by
  have hb := b.toNat_lt
  rw [escapedByte, (hexDigit_spec _ (by omega)).2, (hexDigit_spec _ (by omega)).2]
  simp only [Option.getD_some]
  omega

theorem toNat_lt_of_isUnreserved {c : Char} (h : Percent.isUnreserved c = true) :
    c.toNat < 128 := by
  simp only [Percent.isUnreserved, Bool.or_eq_true, Bool.and_eq_true, decide_eq_true_eq,
    beq_iff_eq, Char.le_def, UInt32.le_iff_toNat_le] at h
  unfold Char.toNat
  rcases h with (((((h | h) | h) | rfl) | rfl) | rfl) | rfl
  · exact Nat.lt_of_le_of_lt h.2 (by decide)
  · exact Nat.lt_of_le_of_lt h.2 (by decide)
  · exact Nat.lt_of_le_of_lt h.2 (by decide)
  all_goals decide

theorem encodeChar_high {c : Char} (hc : ¬ c.toNat < 128) :
    ∀ b ∈ Utf8.encodeChar c, 128 ≤ b.toNat := by
  have hmax := Utf8.toNat_isValid c
  intro b hb
  simp only [Utf8.encodeChar, if_neg hc] at hb
  repeat' split at hb
  all_goals
    simp only [List.mem_cons, List.not_mem_nil, or_false] at hb
    rcases hb with rfl | rfl | rfl | rfl <;> rw [Utf8.toNat_byte (by omega)] <;> omega

theorem toNat_ofNat_byte {m : Nat} (h : m < 256) : (Char.ofNat m).toNat = m := by
  have hvalid : m.isValidChar := Or.inl (by omega)
  rw [Char.ofNat, dif_pos hvalid]
  rfl

theorem encodeChar_not_unreserved {c : Char} (hc : Percent.isUnreserved c = false) :
    ∀ b ∈ Utf8.encodeChar c, Percent.isUnreserved (Char.ofNat b.toNat) = false := by
  intro b hb
  by_cases hascii : c.toNat < 128
  · have hone : Utf8.encodeChar c = [c.toNat.toUInt8] := by simp [Utf8.encodeChar, hascii]
    rw [hone, List.mem_singleton] at hb
    subst hb
    rw [Utf8.toNat_byte (by omega), Char.ofNat_toNat]
    exact hc
  · have hhigh := encodeChar_high hascii b hb
    have hlt := b.toNat_lt
    cases hu : Percent.isUnreserved (Char.ofNat b.toNat) with
    | false => rfl
    | true =>
      have := toNat_lt_of_isUnreserved hu
      rw [toNat_ofNat_byte (by omega)] at this
      omega

end Digits

section Marks

/-! The character sets of preparation as lists of characters. -/

theorem reservedChars_eq : reservedChars =
    ['!', '#', '$', '%', '&', '\'', '(', ')', '*', '+', ',', '/', ':', ';', '=', '?', '@', '[',
      ']', '~'] := by
  unfold reservedChars
  simp

/-- The characters that may stand in a path besides the unreserved ones. -/
def pathMarks : List Char :=
  ['!', '$', '&', '\'', '(', ')', '*', '+', ',', ';', '=', ':', '@', '/']

theorem isPathChar_iff (c : Char) :
    isPathChar c = true ↔ Percent.isUnreserved c = true ∨ c ∈ pathMarks := by
  unfold isPathChar isUserinfoChar pathMarks
  simp [or_assoc]

theorem isQueryChar_iff (c : Char) :
    isQueryChar c = true ↔ Percent.isUnreserved c = true ∨ c ∈ pathMarks ∨ c = '?' := by
  rw [isQueryChar, Bool.or_eq_true, isPathChar_iff, beq_iff_eq, or_assoc]

theorem pathMarks_spec : ∀ c ∈ pathMarks, c.toNat < 128 ∧ c ∈ reservedChars := by
  rw [reservedChars_eq]
  exact @of_decide_eq_true _ (List.decidableBAll _ _) rfl

theorem isQueryChar_spec {c : Char} (h : isQueryChar c = true) :
    c.toNat < 128 ∧ (Percent.isUnreserved c = true ∨ c ∈ reservedChars) := by
  rcases (isQueryChar_iff c).mp h with hu | hmark | rfl
  · exact ⟨toNat_lt_of_isUnreserved hu, .inl hu⟩
  · exact ⟨(pathMarks_spec c hmark).1, .inr (pathMarks_spec c hmark).2⟩
  · exact ⟨by decide, .inr (by rw [reservedChars_eq]; decide)⟩

theorem isPathChar_of_isUnreserved {c : Char} (h : Percent.isUnreserved c = true) :
    isPathChar c = true :=
  (isPathChar_iff c).mpr (.inl h)

theorem isQueryChar_of_isPathChar {c : Char} (h : isPathChar c = true) : isQueryChar c = true := by
  simp [isQueryChar, h]

end Marks

section Steps

/-! The steps of preparation read a character other than `%` as itself. -/

theorem decodeUnreserved_cons {c : Char} (hc : c ≠ '%') (rest : List Char) :
    decodeUnreserved (c :: rest) = (decodeUnreserved rest).map (c :: ·) := by
  simp [decodeUnreserved, hc]

theorem decodeUnreserved_percent {w : List Char}
    (hw : ∀ a b r, w = a :: b :: r → (isAlnumChar a && isAlnumChar b) = false) :
    decodeUnreserved ('%' :: w) = (decodeUnreserved w).map ('%' :: ·) := by
  match w with
  | [] => rfl
  | [a] => simp [decodeUnreserved]
  | a :: b :: r => rw [decodeUnreserved, if_neg (by simp [hw a b r rfl])]

theorem upperEscapes_cons {c : Char} (hc : c ≠ '%') (rest : List Char) :
    upperEscapes (c :: rest) = (c :: (upperEscapes rest).1, (upperEscapes rest).2) := by
  simp [upperEscapes, hc]

theorem prepared_cons {allowed : Char → Bool} {c : Char} (hc : c ≠ '%') (rest : List Char) :
    Prepared allowed (c :: rest) = (allowed c && Prepared allowed rest) := by
  have hne : (c != '%') = true := bne_iff_ne.mpr hc
  simp [Prepared, hc, hne]

end Steps

section Prepared

variable {allowed allowed' : Char → Bool}

theorem mem_of_prepared {l : List Char} (h : Prepared allowed l = true) :
    ∀ c ∈ l, c = '%' ∨ c ∈ upperHexDigits ∨ allowed c = true := by
  fun_induction Prepared allowed l with
  | case1 a b rest ih =>
    simp only [Bool.and_eq_true, List.contains_iff_mem] at h
    intro c hc
    simp only [List.mem_cons] at hc
    rcases hc with rfl | rfl | rfl | hc
    · exact .inl rfl
    · exact .inr (.inl h.1.1.1)
    · exact .inr (.inl h.1.1.2)
    · exact ih h.2 c hc
  | case2 d rest hd ih =>
    simp only [Bool.and_eq_true] at h
    intro c hc
    rcases List.mem_cons.mp hc with rfl | hc
    · exact .inr (.inr h.1.2)
    · exact ih h.2 c hc
  | case3 => simp

theorem not_mem_of_prepared {l : List Char} (h : Prepared allowed l = true) {x : Char}
    (hpct : x ≠ '%') (hdigit : x ∉ upperHexDigits) (hx : allowed x = false) : x ∉ l := by
  intro hmem
  rcases mem_of_prepared h x hmem with h | h | h
  · exact hpct h
  · exact hdigit h
  · rw [hx] at h
    cases h

theorem prepared_append {l m : List Char} (hl : Prepared allowed l = true)
    (hm : Prepared allowed m = true) : Prepared allowed (l ++ m) = true := by
  fun_induction Prepared allowed l with
  | case1 a b rest ih =>
    simp only [Bool.and_eq_true] at hl
    simp only [List.cons_append, Prepared, Bool.and_eq_true]
    exact ⟨hl.1, ih hl.2⟩
  | case2 d rest _ ih =>
    simp only [Bool.and_eq_true, bne_iff_ne] at hl
    rw [List.cons_append, prepared_cons hl.1.1, hl.1.2, ih hl.2]
    rfl
  | case3 => exact hm

theorem prepared_mono (hmore : ∀ c, allowed c = true → allowed' c = true) {l : List Char}
    (h : Prepared allowed l = true) : Prepared allowed' l = true := by
  fun_induction Prepared allowed l with
  | case1 a b rest ih =>
    simp only [Bool.and_eq_true] at h
    simp only [Prepared, Bool.and_eq_true]
    exact ⟨h.1, ih h.2⟩
  | case2 d rest _ ih =>
    simp only [Bool.and_eq_true, bne_iff_ne] at h
    rw [prepared_cons h.1.1, hmore d h.1.2, ih h.2]
    rfl
  | case3 => rfl

theorem decodeUnreserved_prepared_append {l : List Char} (hl : Prepared allowed l = true)
    (m : List Char) : decodeUnreserved (l ++ m) = (decodeUnreserved m).map (l ++ ·) := by
  fun_induction Prepared allowed l with
  | case1 a b rest ih =>
    simp only [Bool.and_eq_true, List.contains_iff_mem, Bool.not_eq_true'] at hl
    obtain ⟨⟨⟨ha, hb⟩, hbyte⟩, hrest⟩ := hl
    obtain ⟨haln, hadig, hasome, -⟩ := upperHexDigits_spec a ha
    obtain ⟨hbaln, hbdig, hbsome, -⟩ := upperHexDigits_spec b hb
    obtain ⟨x, hx⟩ := Option.isSome_iff_exists.mp hasome
    obtain ⟨y, hy⟩ := Option.isSome_iff_exists.mp hbsome
    rw [escapedByte, hx, hy] at hbyte
    simp only [Option.getD_some] at hbyte
    simp [decodeUnreserved, haln, hbaln, hadig, hbdig, hx, hy, hbyte, ih hrest,
      Option.map_map, Function.comp_def]
  | case2 d rest _ ih =>
    simp only [Bool.and_eq_true, bne_iff_ne] at hl
    rw [List.cons_append, decodeUnreserved_cons hl.1.1, ih hl.2, Option.map_map]
    rfl
  | case3 => simp

theorem upperEscapes_prepared {l : List Char} (hl : Prepared allowed l = true) :
    upperEscapes l = (l, l.count '%') := by
  fun_induction Prepared allowed l with
  | case1 a b rest ih =>
    simp only [Bool.and_eq_true, List.contains_iff_mem] at hl
    obtain ⟨-, -, hasome, haup, hapct, -⟩ := upperHexDigits_spec a hl.1.1.1
    obtain ⟨-, -, hbsome, hbup, hbpct, -⟩ := upperHexDigits_spec b hl.1.1.2
    simp [upperEscapes, hasome, hbsome, haup, hbup, ih hl.2, hapct, hbpct]
  | case2 d rest _ ih =>
    simp only [Bool.and_eq_true, bne_iff_ne] at hl
    simp [upperEscapes_cons hl.1.1, ih hl.2, hl.1.1]
  | case3 => rfl

theorem flatMap_eq_self {f : Char → List Char} {l : List Char} (h : ∀ c ∈ l, f c = [c]) :
    l.flatMap f = l := by
  induction l with
  | nil => rfl
  | cons c l ih =>
    rw [List.flatMap_cons, h c List.mem_cons_self, ih fun x hx => h x (List.mem_cons_of_mem c hx)]
    rfl

theorem encodeInvalid_prepared {l : List Char}
    (hallowed : ∀ c, allowed c = true → c.toNat < 128 ∧ allowed' c = true)
    (hdigits : ∀ c ∈ upperHexDigits, allowed' c = true) (hl : Prepared allowed l = true) :
    encodeInvalid allowed' (String.ofList l) = String.ofList l := by
  simp only [encodeInvalid, String.toList_ofList, upperEscapes_prepared hl, beq_self_eq_true,
    Bool.true_and]
  congr 1
  apply flatMap_eq_self
  intro c hc
  rcases mem_of_prepared hl c hc with rfl | hdigit | hok
  · rfl
  · obtain ⟨-, -, -, -, -, hascii, -⟩ := upperHexDigits_spec c hdigit
    simp [hascii, hdigits c hdigit]
  · simp [hallowed c hok]

/-- Percent-encoding keeps a prepared text as it is when `%` and the characters the text allows
are safe or unreserved. -/
theorem encode_prepared {safe : List Char} {l : List Char} (hpct : '%' ∈ safe)
    (hallowed : ∀ c, allowed c = true → Percent.isUnreserved c = true ∨ c ∈ safe)
    (hl : Prepared allowed l = true) :
    Percent.encode safe (String.ofList l) = String.ofList l := by
  simp only [Percent.encode, String.toList_ofList]
  congr 1
  apply flatMap_eq_self
  intro c hc
  have hkeep : (Percent.isUnreserved c || safe.contains c) = true := by
    rcases mem_of_prepared hl c hc with rfl | hdigit | hok
    · simp [hpct]
    · simp [(upperHexDigits_spec c hdigit).2.2.2.2.2.2]
    · rcases hallowed c hok with h | h <;> simp [h]
  rw [Percent.encodeChar, if_pos hkeep]

end Prepared

section Encoders

variable {allowed : Char → Bool}

theorem prepared_escapes {bs : List UInt8}
    (h : ∀ b ∈ bs, Percent.isUnreserved (Char.ofNat b.toNat) = false) :
    Prepared allowed (bs.flatMap Percent.escapeByte) = true := by
  induction bs with
  | nil => rfl
  | cons b bs ih =>
    have hb := b.toNat_lt
    have hhi := (hexDigit_spec (b.toNat / 16) (by omega)).1
    have hlo := (hexDigit_spec (b.toNat % 16) (by omega)).1
    have hrest := ih fun x hx => h x (List.mem_cons_of_mem b hx)
    simp [Percent.escapeByte, Prepared, escapedByte_escapeByte, h b List.mem_cons_self, hhi, hlo,
      hrest]

theorem prepared_encodeChar (c : Char) :
    Prepared Percent.isUnreserved (Percent.encodeChar [] c) = true := by
  cases hu : Percent.isUnreserved c with
  | true =>
    have hne : c ≠ '%' := by
      rintro rfl
      exact absurd hu (by decide)
    simp [Percent.encodeChar, hu, prepared_cons hne, Prepared]
  | false =>
    simp only [Percent.encodeChar, hu, List.contains_nil, Bool.or_false, Bool.false_eq_true,
      if_false]
    exact prepared_escapes (encodeChar_not_unreserved hu)

theorem prepared_flatMap {f : Char → List Char} (h : ∀ c, Prepared allowed (f c) = true)
    (l : List Char) : Prepared allowed (l.flatMap f) = true := by
  induction l with
  | nil => rfl
  | cons c l ih => exact List.flatMap_cons ▸ prepared_append (h c) ih

theorem prepared_encodeSegment (s : String) :
    Prepared Percent.isUnreserved (Percent.encodeSegment s).toList = true := by
  simp only [Percent.encodeSegment, Percent.encode, String.toList_ofList]
  exact prepared_flatMap prepared_encodeChar _

theorem prepared_encodeForm (s : String) :
    Prepared (fun c => Percent.isUnreserved c || c == '+') (Percent.encodeForm s).toList =
      true := by
  simp only [Percent.encodeForm, String.toList_ofList]
  apply prepared_flatMap
  intro c
  split
  · rfl
  · exact prepared_mono (fun d h => by simp [h]) (prepared_encodeChar c)

theorem prepared_intercalate {sep : List Char} (hsep : Prepared allowed sep = true)
    {xs : List (List Char)} (hxs : ∀ x ∈ xs, Prepared allowed x = true) :
    Prepared allowed (sep.intercalate xs) = true := by
  induction xs with
  | nil => rfl
  | cons x rest ih =>
    cases rest with
    | nil => simpa using hxs x List.mem_cons_self
    | cons y rest =>
      rw [List.intercalate_cons_cons]
      refine prepared_append (prepared_append (hxs x List.mem_cons_self) hsep) (ih ?_)
      intro z hz
      exact hxs z (List.mem_cons_of_mem x hz)

end Encoders

section Quoting

theorem decodeUnreserved_append (u : List Char) {v : List Char}
    (hv : ∀ b ∈ v.head?, isAlnumChar b = false) :
    decodeUnreserved (u ++ v) =
      (decodeUnreserved u).bind fun cu => (decodeUnreserved v).map (cu ++ ·) := by
  fun_induction decodeUnreserved u with
  | case1 a b rest halnum x y hb ha c hc ih =>
    have hc' : Percent.isUnreserved (Char.ofNat (16 * x + y)) = true := hc
    simp only [List.cons_append, decodeUnreserved, halnum, ha, hb, if_pos hc', ih]
    cases decodeUnreserved rest <;> simp [Function.comp_def, c]
  | case2 a b rest halnum x y hb ha c hc ih =>
    have hc' : ¬ Percent.isUnreserved (Char.ofNat (16 * x + y)) = true := hc
    simp only [List.cons_append, decodeUnreserved, halnum, ha, hb, if_neg hc', ih]
    cases decodeUnreserved rest <;> simp [Function.comp_def]
  | case3 a b rest halnum hnone =>
    simp [decodeUnreserved, halnum]
  | case4 a b rest halnum ih =>
    simp only [List.cons_append] at ih
    simp only [List.cons_append, decodeUnreserved, halnum, Bool.false_eq_true, if_false, ih]
    cases decodeUnreserved (a :: b :: rest) <;> simp [Function.comp_def]
  | case5 c rest hmatch ih =>
    by_cases hc : c = '%'
    · subst hc
      rcases rest with _ | ⟨a, _ | ⟨b, r⟩⟩
      · rw [List.singleton_append, decodeUnreserved_percent]
        · cases decodeUnreserved v <;> simp [decodeUnreserved]
        · rintro a b r rfl
          simp [hv a rfl]
      · rw [List.cons_append, decodeUnreserved_percent, ih]
        · cases decodeUnreserved [a] <;> simp [Function.comp_def]
        · rintro a' b r hab
          rw [List.singleton_append, List.cons.injEq] at hab
          obtain ⟨rfl, rfl⟩ := hab
          simp [hv b rfl]
      · exact absurd rfl (hmatch a b r rfl)
    · simp only [List.cons_append, decodeUnreserved_cons hc, ih]
      cases decodeUnreserved rest <;> simp [Function.comp_def]
  | case6 => simp

theorem decodeUnreserved_of_percent_not_mem {l : List Char} (h : '%' ∉ l) :
    decodeUnreserved l = some l := by
  induction l with
  | nil => rfl
  | cons c l ih =>
    rw [decodeUnreserved_cons (fun hc => h (hc ▸ List.mem_cons_self)),
      ih fun hl => h (List.mem_cons_of_mem c hl)]
    rfl

theorem encode_append (safe l m : List Char) :
    Percent.encode safe (String.ofList (l ++ m)) =
      Percent.encode safe (String.ofList l) ++ Percent.encode safe (String.ofList m) := by
  simp [Percent.encode, List.flatMap_append, String.ofList_append]

theorem percent_mem_encode (safe : List Char) {l : List Char} (h : '%' ∈ l) :
    '%' ∈ (Percent.encode safe (String.ofList l)).toList := by
  simp only [Percent.encode, String.toList_ofList, List.mem_flatMap]
  refine ⟨'%', h, ?_⟩
  unfold Percent.encodeChar
  split
  · exact List.mem_singleton_self _
  · decide

theorem slash_head_not_alnum (t : List Char) : ∀ b ∈ ('/' :: t).head?, isAlnumChar b = false := by
  intro b hb
  cases Option.mem_some_iff.mp hb
  rfl

theorem requote_root {u : List Char} {origin : String}
    (hu : requote (String.ofList (u ++ ['/'])) = origin ++ "/") (horigin : '%' ∉ origin.toList) :
    ∃ cu, decodeUnreserved u = some cu ∧ Percent.encode reservedChars (String.ofList cu) = origin := by
  rw [requote, String.toList_ofList, decodeUnreserved_append u (slash_head_not_alnum [])] at hu
  cases hdu : decodeUnreserved u with
  | none =>
    exfalso
    have hmem : '%' ∈ u := by
      by_cases hin : '%' ∈ u
      · exact hin
      · rw [decodeUnreserved_of_percent_not_mem hin] at hdu
        cases hdu
    have hkept := percent_mem_encode (reservedChars.erase '%') (List.mem_append_left ['/'] hmem)
    rw [hdu] at hu
    simp only [Option.bind_none] at hu
    rw [hu, String.toList_append] at hkept
    simp [horigin] at hkept
  | some cu =>
    refine ⟨cu, rfl, ?_⟩
    have hdecoded : decodeUnreserved ['/'] = some ['/'] := rfl
    have hslash : (Percent.encode reservedChars (String.ofList ['/'])).toList = ['/'] := by
      rw [reservedChars_eq]
      decide
    rw [hdu, hdecoded] at hu
    simp only [Option.bind_some, Option.map_some] at hu
    have hlists := congrArg String.toList hu
    simp only [encode_append, String.toList_append, hslash] at hlists
    exact String.toList_inj.mp (by simpa using hlists)

/-- Quoting a URL once more keeps a prepared path and query after its origin, when it keeps
the origin with the root path: `u` is the scheme and network location as written, `origin`
their quoted form, free of `%`. -/
theorem requote_append {allowed : Char → Bool} {u t : List Char} {origin : String}
    (hu : requote (String.ofList (u ++ ['/'])) = origin ++ "/") (horigin : '%' ∉ origin.toList)
    (hallowed : ∀ c, allowed c = true → Percent.isUnreserved c = true ∨ c ∈ reservedChars)
    (ht : Prepared allowed ('/' :: t) = true) :
    requote (String.ofList (u ++ '/' :: t)) = origin ++ String.ofList ('/' :: t) := by
  obtain ⟨cu, hdu, hcu⟩ := requote_root hu horigin
  have hpct : '%' ∈ reservedChars := by rw [reservedChars_eq]; decide
  have htail : decodeUnreserved ('/' :: t) = some ('/' :: t) := by
    simpa [show decodeUnreserved ([] : List Char) = some [] from rfl] using
      decodeUnreserved_prepared_append ht []
  rw [requote, String.toList_ofList, decodeUnreserved_append u (slash_head_not_alnum t), hdu, htail]
  simp only [Option.bind_some, Option.map_some]
  rw [encode_append, hcu, encode_prepared hpct hallowed ht]

end Quoting

section Segments

/-- A path segment that removing dot segments keeps: it holds no `/` and is neither `.` nor
`..`. -/
def PlainSegment (s : String) : Prop := '/' ∉ s.toList ∧ s ≠ "." ∧ s ≠ ".."

instance : DecidablePred PlainSegment := fun s =>
  inferInstanceAs (Decidable ('/' ∉ s.toList ∧ s ≠ "." ∧ s ≠ ".."))

def pathOfSegments (segs : List String) : String := String.join (segs.map ("/" ++ ·))

theorem intercalate_slash_cons (a : String) (l : List String) :
    "/".intercalate (a :: l) = a ++ pathOfSegments l := by
  induction l generalizing a with
  | nil => simp [pathOfSegments]
  | cons b l ih =>
    rw [String.intercalate_cons_cons, ih]
    simp [pathOfSegments, String.append_assoc]

theorem foldl_plain (l : List String) (h : ∀ s ∈ l, s ≠ "." ∧ s ≠ "..") (acc : List String) :
    l.foldl (fun out s => if s == "." then out else if s == ".." then out.dropLast
      else out ++ [s]) acc = acc ++ l := by
  induction l generalizing acc with
  | nil => simp
  | cons s l ih =>
    have hs := h s List.mem_cons_self
    rw [List.foldl_cons, ih (fun x hx => h x (List.mem_cons_of_mem s hx))]
    simp [hs.1, hs.2]

theorem splitOn_pathOfSegments {segs : List String} (hslash : ∀ s ∈ segs, '/' ∉ s.toList) :
    (pathOfSegments segs).toList.splitOn '/' = [] :: segs.map String.toList := by
  have hpath : pathOfSegments segs = "/".intercalate ("" :: segs) := by
    rw [intercalate_slash_cons, String.empty_append]
  rw [hpath, String.toList_intercalate, List.map_cons]
  apply List.splitOn_intercalate
  · intro l hl
    rcases List.mem_cons.mp hl with rfl | hl
    · simp
    · obtain ⟨s, hs, rfl⟩ := List.mem_map.mp hl
      exact hslash s hs
  · simp

theorem dotSuffix_false {p : List Char} {last : String} (hlast : PlainSegment last) :
    ("/.".toList.isSuffixOf (p ++ '/' :: last.toList) ||
      "/..".toList.isSuffixOf (p ++ '/' :: last.toList)) = false := by
  obtain ⟨hslash, hdot, hdots⟩ := hlast
  have hdot' : last.toList ≠ ['.'] := fun h => hdot (by simpa using congrArg String.ofList h)
  have hdots' : last.toList ≠ ['.', '.'] := fun h => hdots (by simpa using congrArg String.ofList h)
  generalize last.toList = l at hslash hdot' hdots'
  simp only [List.isSuffixOf, List.reverse_append, List.reverse_cons]
  obtain ⟨r, rfl⟩ : ∃ r, l = r.reverse := ⟨l.reverse, by simp⟩
  rcases r with _ | ⟨a, _ | ⟨b, _ | ⟨d, r⟩⟩⟩
  · simp [List.isPrefixOf]
  · simp at hdot'
    simp [List.isPrefixOf, Ne.symm hdot']
  · simp at hslash hdots'
    simp [List.isPrefixOf]
    exact ⟨fun _ => hslash.1, fun ha hb => hdots' hb.symm ha.symm⟩
  · simp at hslash
    simp [List.isPrefixOf, hslash]

/-- Removing dot segments keeps a path of plain segments as it is. -/
theorem removeDotSegments_plain (segs : List String) (last : String)
    (hsegs : ∀ s ∈ segs, PlainSegment s) (hlast : PlainSegment last) :
    removeDotSegments (pathOfSegments (segs ++ [last])) = pathOfSegments (segs ++ [last]) := by
  have hall : ∀ s ∈ segs ++ [last], PlainSegment s := by
    intro s hs
    rcases List.mem_append.mp hs with hs | hs
    · exact hsegs s hs
    · exact (List.mem_singleton.mp hs) ▸ hlast
  have hsplit := splitOn_pathOfSegments fun s hs => (hall s hs).1
  have hpieces : ([] :: (segs ++ [last]).map String.toList).map String.ofList =
      "" :: (segs ++ [last]) := by
    simp [List.map_map, Function.comp_def]
  have hfold := foldl_plain ("" :: (segs ++ [last]))
    (fun s hs => by
      rcases List.mem_cons.mp hs with rfl | hs
      · simp
      · exact (hall s hs).2) []
  have hend : (pathOfSegments (segs ++ [last])).toList =
      (pathOfSegments segs).toList ++ '/' :: last.toList := by
    simp [pathOfSegments]
  unfold removeDotSegments
  dsimp only
  rw [hsplit, hpieces, hfold, hend, dotSuffix_false hlast]
  simp [intercalate_slash_cons]

end Segments

end Url

end SuggestGateway
