import SuggestGateway.Bytes.Utf8
/-!
# UTF-8 round trip

Decoding the UTF-8 bytes of a text gives the text back, with the replacing decoder and with the
strict one. The argument goes one character at a time: one step of the decoder reads exactly the
bytes of an encoded character, whatever follows them. For that the encoder must write no
overlong form and no surrogate, and its lead bytes must announce the right number of
continuation bytes; `sequenceLength?_lead` and `secondRange_lead` say so.
-/
namespace SuggestGateway

namespace Utf8

theorem toNat_isValid (c : Char) : c.toNat < 0xD800 ∨ (0xDFFF < c.toNat ∧ c.toNat < 0x110000) :=
  c.valid

theorem toNat_byte {n : Nat} (h : n < 256) : n.toUInt8.toNat = n := by
  simp [Nat.toUInt8_eq]; omega

theorem continuation?_byte {x : Nat} (h : x < 0x40) : continuation? (0x80 + x).toUInt8 = some x := by
  simp only [continuation?, toNat_byte (show 0x80 + x < 256 by omega)]
  have hrange : (decide (0x80 ≤ 0x80 + x) && decide (0x80 + x ≤ 0xBF)) = true := by
    simp only [Bool.and_eq_true, decide_eq_true_eq]
    omega
  rw [if_pos hrange, Nat.add_sub_cancel_left]

theorem sequenceLength?_lead {n : Nat} (h1 : ¬ n < 0x80) (hc : n < 0x110000) :
    sequenceLength? (if n < 0x800 then 0xC0 + n / 0x40
      else if n < 0x10000 then 0xE0 + n / 0x1000 else 0xF0 + n / 0x40000) =
      some (if n < 0x800 then 1 else if n < 0x10000 then 2 else 3) := by
  unfold sequenceLength?
  repeat' split
  all_goals simp only [Bool.and_eq_true, decide_eq_true_eq, Option.some.injEq, reduceCtorEq] at *
  all_goals omega

theorem secondRange_lead {n : Nat} (h2 : ¬ n < 0x800)
    (hc : n < 0xD800 ∨ (0xDFFF < n ∧ n < 0x110000)) :
    let lead := if n < 0x10000 then 0xE0 + n / 0x1000 else 0xF0 + n / 0x40000
    let second := if n < 0x10000 then 0x80 + n / 0x40 % 0x40 else 0x80 + n / 0x1000 % 0x40
    (secondRange lead).1 ≤ second ∧ second ≤ (secondRange lead).2 := by
  intro lead second
  simp only [lead, second, secondRange]
  repeat' split
  all_goals simp only [beq_iff_eq] at *; omega

theorem step_encodeChar (c : Char) (rest : List UInt8) :
    step (encodeChar c ++ rest) = (some c, rest) := by
  have hc := toNat_isValid c
  have hofNat := Char.ofNat_toNat c
  generalize hn : c.toNat = n at hc hofNat
  unfold encodeChar
  rw [hn]
  by_cases h1 : n < 0x80
  · simp only [h1, if_true, List.cons_append, List.nil_append, step, toNat_byte (by omega : n < 256)]
    simp [sequenceLength?, h1, hofNat]
  have hlen := sequenceLength?_lead h1 (by omega)
  by_cases h2 : n < 0x800
  · have hval : (0xC0 + n / 0x40 - 0xC0) * 0x40 + n % 0x40 = n := by omega
    simp only [h2, if_true] at hlen
    simp only [h1, h2, if_false, if_true, List.cons_append, List.nil_append, step,
      toNat_byte (show 0xC0 + n / 0x40 < 256 by omega), hlen,
      continuation?_byte (show n % 0x40 < 0x40 by omega), hval, hofNat]
  have hrange := secondRange_lead h2 hc
  by_cases h3 : n < 0x10000
  · have hval : ((0xE0 + n / 0x1000 - 0xE0) * 0x40 + (0x80 + n / 0x40 % 0x40 - 0x80)) * 0x40 +
        n % 0x40 = n := by
      omega
    simp only [h2, h3, if_true, if_false] at hlen hrange
    simp only [h1, h2, h3, if_false, if_true, List.cons_append, List.nil_append, step,
      toNat_byte (show 0xE0 + n / 0x1000 < 256 by omega), hlen,
      toNat_byte (show 0x80 + n / 0x40 % 0x40 < 256 by omega), hrange.1, hrange.2, Bool.and_self,
      continuation?_byte (show n % 0x40 < 0x40 by omega), hval, hofNat]
    rfl
  · have hval : (((0xF0 + n / 0x40000 - 0xF0) * 0x40 + (0x80 + n / 0x1000 % 0x40 - 0x80)) * 0x40 +
        n / 0x40 % 0x40) * 0x40 + n % 0x40 = n := by
      omega
    simp only [h2, h3, if_false] at hlen hrange
    simp only [h1, h2, h3, if_false, List.cons_append, List.nil_append, step,
      toNat_byte (show 0xF0 + n / 0x40000 < 256 by omega), hlen,
      toNat_byte (show 0x80 + n / 0x1000 % 0x40 < 256 by omega), hrange.1, hrange.2, Bool.and_self,
      continuation?_byte (show n / 0x40 % 0x40 < 0x40 by omega),
      continuation?_byte (show n % 0x40 < 0x40 by omega), hval, hofNat]
    rfl

theorem encodeChar_append_ne_nil (c : Char) (rest : List UInt8) : encodeChar c ++ rest ≠ [] := by
  intro h
  have hstep := step_encodeChar c rest
  rw [h] at hstep
  simp [step] at hstep

theorem decode_encodeChar_append (c : Char) (rest : List UInt8) :
    decode (encodeChar c ++ rest) = c :: decode rest := by
  obtain ⟨b, bs, hb⟩ : ∃ b bs, encodeChar c ++ rest = b :: bs :=
    List.exists_cons_of_ne_nil (encodeChar_append_ne_nil c rest)
  rw [hb, decode]
  simp only [← hb, step_encodeChar, Option.getD_some]

theorem decodeStrict?_encodeChar_append (c : Char) (rest : List UInt8) :
    decodeStrict? (encodeChar c ++ rest) = (decodeStrict? rest).map (c :: ·) := by
  obtain ⟨b, bs, hb⟩ : ∃ b bs, encodeChar c ++ rest = b :: bs :=
    List.exists_cons_of_ne_nil (encodeChar_append_ne_nil c rest)
  have hstep : step (b :: bs) = (some c, rest) := hb ▸ step_encodeChar c rest
  rw [hb, decodeStrict?]
  split
  rename_i x more heq
  rw [hstep, Prod.mk.injEq] at heq
  obtain ⟨rfl, rfl⟩ := heq
  rfl

theorem decode_encode (s : String) : decode (encode s) = s.toList := by
  unfold encode
  induction s.toList with
  | nil => simp [decode]
  | cons c cs ih => rw [List.flatMap_cons, decode_encodeChar_append, ih]

/-- What a dump shows of UTF-8 bytes a text was encoded to is the text itself. -/
theorem decodeText_encode (s : String) : decodeText (encode s) = s := by
  simp [decodeText, decode_encode]

theorem decodeStrict?_encode (s : String) : decodeStrict? (encode s) = some s.toList := by
  unfold encode
  induction s.toList with
  | nil => simp [decodeStrict?]
  | cons c cs ih => rw [List.flatMap_cons, decodeStrict?_encodeChar_append, ih]; rfl

end Utf8

end SuggestGateway
