import SuggestGateway.Json.Reader
import SuggestGateway.Json.Writer
import SuggestGateway.Json.Lemmas
/-!
# Written JSON reads back

The reader takes back what the writer writes: `Json.read v.write = .ok v` (`Json.read_write`)
for every value that its text determines. Strings read back whatever their characters: the
short escapes, `\uXXXX` below the first plane's end and surrogate pairs above it are undone one
character at a time (`Reader.stringBody_escapeChar`). Integers read back up to the reader's
limit on digits. Of the doubles, the tokens and the zeros read back as they are: NaN in the form
the reader makes, both infinities and both zeros; the other finite doubles are written in their
shortest decimal form, whose reading is not taken up here. Arrays and objects read back while
they nest no deeper than the reader follows and while each object's names are distinct, as a
repeated name would leave one entry (`Json.readsBack`).
-/
namespace SuggestGateway

namespace Json

def tokenDoubles : List Binary64 :=
  [.nan, .infinity false, .infinity true, .signedZero false, .signedZero true]

mutual

/-- Whether a value's text reads back as the value with `room` more levels of nesting allowed:
its integers within the reader's digit limit, its doubles tokens or zeros, its objects' names
distinct. -/
def readsBack (room : Nat) : Json → Bool
  | int n => decide ((Nat.toDigits 10 n.natAbs).length ≤ integerDigitLimit)
  | float x => decide (x ∈ tokenDoubles)
  | arr items => room != 0 && itemsReadBack (room - 1) items
  | obj members =>
    room != 0 && decide (Entries.keys members).Nodup && membersReadBack (room - 1) members
  | _ => true

def itemsReadBack (room : Nat) : List Json → Bool
  | [] => true
  | v :: vs => readsBack room v && itemsReadBack room vs

def membersReadBack (room : Nat) : List (String × Json) → Bool
  | [] => true
  | (_, v) :: ms => readsBack room v && membersReadBack room ms

end

end Json

namespace Reader

/-- What may follow a value's text: nothing, a comma or a closing bracket. -/
def endsValue : List Char → Bool
  | [] => true
  | c :: _ => c == ',' || c == ']' || c == '}'

theorem endsValue_cases {rest : List Char} (h : endsValue rest = true) :
    rest = [] ∨ ∃ c r, rest = c :: r ∧ (c = ',' ∨ c = ']' ∨ c = '}') := by
  cases rest with
  | nil => exact .inl rfl
  | cons c r =>
    simp only [endsValue, Bool.or_eq_true, beq_iff_eq] at h
    exact .inr ⟨c, r, rfl, by simpa [or_assoc] using h⟩

theorem skipBlank_of_not_blank {c : Char} (h : isBlank c = false) (cs : List Char) (p : Nat) :
    skipBlank (c :: cs) p = (c :: cs, p) := by
  simp [skipBlank, h]

theorem skipBlank_space (cs : List Char) (p : Nat) :
    skipBlank (' ' :: cs) p = skipBlank cs (p + 1) := by
  simp [skipBlank, isBlank]

section Strings

theorem hexDigit?_digitChar : ∀ k, k < 16 → hexDigit? (Nat.digitChar k) = some k := by
  decide

theorem hex4?_hex4 {n : Nat} (hn : n < 0x10000) :
    ∃ a b c d, (hex4 n).toList = [a, b, c, d] ∧ hex4? a b c d = some n := by
  refine ⟨_, _, _, _, String.toList_ofList, ?_⟩
  simp only [hex4?, Nat.pow_eq, hexDigit?_digitChar _ (Nat.mod_lt _ (by decide : 16 > 0))]
  simp
  omega

theorem length_unitEscape (n : Nat) : (unitEscape n).length = 6 := by
  simp [unitEscape, hex4, ← String.length_toList]

variable (b p : Nat) (acc : List Char)

theorem stringBody_short {e c : Char} (h : simpleEscape? e = some c) (more : List Char) :
    stringBody b ('\\' :: e :: more) p acc = stringBody b more (p + 2) (c :: acc) := by
  have hu : e ≠ 'u' := by rintro rfl; cases h
  rw [stringBody.eq_def]
  simp [hu, h]

theorem stringBody_plain {c : Char} (hq : c ≠ '"') (hb : c ≠ '\\') (hc : 0x20 ≤ c.toNat)
    (more : List Char) : stringBody b (c :: more) p acc = stringBody b more (p + 1) (c :: acc) := by
  have hctl : ¬ c.toNat ≤ 31 := by omega
  rw [stringBody.eq_def]
  simp [hctl]

theorem stringBody_unit {n : Nat} (hn : n < 0x10000) (hhigh : isHighSurrogate n = false)
    {more : List Char} (hmore : more ≠ []) :
    stringBody b ((unitEscape n).toList ++ more) p acc =
      stringBody b more (p + 6) (codePoint n :: acc) := by
  obtain ⟨a, b', c, d, hl, hx⟩ := hex4?_hex4 hn
  simp only [unitEscape, String.toList_append, hl]
  rw [stringBody.eq_def]
  simp [hx]
  split
  · contradiction
  · simp [hhigh]
  · rfl

theorem stringBody_pair {hi lo : Nat} (hhi : hi < 0x10000) (hlo : lo < 0x10000)
    (hhigh : isHighSurrogate hi = true) (hlow : isLowSurrogate lo = true) (y : Char)
    (ys : List Char) :
    stringBody b ((unitEscape hi).toList ++ (unitEscape lo).toList ++ y :: ys) p acc =
      stringBody b (y :: ys) (p + 12)
        (Char.ofNat (0x10000 + (hi - 0xD800) * 0x400 + (lo - 0xDC00)) :: acc) := by
  obtain ⟨a, b', c, d, hl, hx⟩ := hex4?_hex4 hhi
  obtain ⟨e, f, g, h, hl', hx'⟩ := hex4?_hex4 hlo
  simp only [unitEscape, String.toList_append, hl, hl']
  rw [stringBody.eq_def]
  simp [hx, hx', hhigh, hlow]

/-- The written form of a character reads back as the character, whatever follows it. -/
theorem stringBody_escapeChar (c : Char) {more : List Char} (hmore : more ≠ []) :
    stringBody b ((escapeChar c).toList ++ more) p acc =
      stringBody b more (p + (escapeChar c).length) (c :: acc) := by
  unfold escapeChar
  split
  · exact stringBody_short b p acc rfl more
  · exact stringBody_short b p acc rfl more
  · exact stringBody_short b p acc rfl more
  · exact stringBody_short b p acc rfl more
  · exact stringBody_short b p acc rfl more
  · exact stringBody_short b p acc rfl more
  · exact stringBody_short b p acc rfl more
  · rename_i hq hb _ _ _ _ _
    have hvalid : c.toNat < 0xD800 ∨ 0xDFFF < c.toNat ∧ c.toNat < 0x110000 := c.valid
    dsimp only
    split
    · rename_i hprint
      have hc : 0x20 ≤ c.toNat := by simp at hprint; omega
      simp only [Char.toString, String.toList_singleton, List.singleton_append,
        String.length_singleton]
      exact stringBody_plain b p acc hq hb hc more
    split
    · rename_i hunit
      have hhigh : isHighSurrogate c.toNat = false := by simp [isHighSurrogate]; omega
      have hpoint : codePoint c.toNat = c := by
        have hplain : ¬ (0xD800 ≤ c.toNat ∧ c.toNat ≤ 0xDFFF) := by omega
        simp [codePoint, hplain]
      rw [stringBody_unit b p acc hunit hhigh hmore, length_unitEscape, hpoint]
    · obtain ⟨y, ys, rfl⟩ := List.exists_cons_of_ne_nil hmore
      have hjoin : 0x10000 + (0xD800 + (c.toNat - 0x10000) / 0x400 - 0xD800) * 0x400 +
          (0xDC00 + (c.toNat - 0x10000) % 0x400 - 0xDC00) = c.toNat := by omega
      rw [String.toList_append, stringBody_pair b p acc (by omega) (by omega)
        (by simp [isHighSurrogate]; omega) (by simp [isLowSurrogate]; omega), hjoin,
        Char.ofNat_toNat, String.length_append, length_unitEscape, length_unitEscape]

theorem stringBody_escaped (cs rest : List Char) :
    stringBody b ((String.join (cs.map escapeChar)).toList ++ '"' :: rest) p acc =
      .ok (String.ofList (acc.reverse ++ cs), rest,
        p + (String.join (cs.map escapeChar)).length + 1) := by
  induction cs generalizing p acc with
  | nil =>
    rw [stringBody.eq_def]
    simp
  | cons c cs ih =>
    rw [List.map_cons, String.join_cons, String.toList_append, List.append_assoc,
      stringBody_escapeChar b p acc c (by simp), ih, String.length_append]
    simp only [List.reverse_cons, List.append_assoc, List.singleton_append]
    congr 3
    omega

end Strings

section Numbers

theorem digitChar_facts : ∀ k, k < 10 →
    isDigit (Nat.digitChar k) = true ∧ isBlank (Nat.digitChar k) = false ∧
      Nat.digitChar k ≠ '"' ∧ Nat.digitChar k ≠ '{' ∧ Nat.digitChar k ≠ '[' ∧
      Nat.digitChar k ≠ 'n' ∧ Nat.digitChar k ≠ 't' ∧ Nat.digitChar k ≠ 'f' ∧
      Nat.digitChar k ≠ 'N' ∧ Nat.digitChar k ≠ 'I' ∧ Nat.digitChar k ≠ '-' ∧
      Nat.digitChar k ≠ ']' ∧ Nat.digitChar k ≠ '\uFEFF' := by
  decide

theorem digitChar_eq_zero : ∀ k, k < 10 → Nat.digitChar k = '0' → k = 0 := by
  decide

theorem isDigit_eq (c : Char) : isDigit c = c.isDigit := by
  simp [isDigit, Char.isDigit, Char.le_def]

theorem toDigits_cons (m : Nat) :
    ∃ k ds, Nat.toDigits 10 m = Nat.digitChar k :: ds ∧ k < 10 ∧ (k = 0 → m = 0) := by
  induction m using Nat.strongRecOn with
  | ind m ih =>
    rw [Nat.toDigits_eq_if (by decide)]
    split
    · exact ⟨m, [], rfl, by omega, id⟩
    · obtain ⟨k, ds, hds, hk, hzero⟩ := ih (m / 10) (by omega)
      refine ⟨k, ds ++ [(m % 10).digitChar], by rw [hds]; rfl, hk, fun h => ?_⟩
      have := hzero h
      omega

theorem digitsValue_toDigits (m : Nat) : digitsValue (Nat.toDigits 10 m) = m :=
  Nat.ofDigitChars_ten_toDigits

theorem takeWhile_isDigit_of_endsValue {rest : List Char} (h : endsValue rest = true) :
    rest.takeWhile isDigit = [] := by
  rcases endsValue_cases h with rfl | ⟨c, r, rfl, rfl | rfl | rfl⟩ <;> rfl

theorem digitsPrefix_append {ds rest : List Char} (hds : ∀ c ∈ ds, isDigit c = true)
    (hrest : endsValue rest = true) : digitsPrefix (ds ++ rest) = ds := by
  rw [digitsPrefix, List.takeWhile_append_of_pos hds, takeWhile_isDigit_of_endsValue hrest,
    List.append_nil]

theorem number_digits {d : Char} {ds rest : List Char} (hds : ∀ c ∈ d :: ds, isDigit c = true)
    (hlead : d = '0' → ds = []) (hminus : d ≠ '-') (hrest : endsValue rest = true)
    (hlen : (d :: ds).length ≤ integerDigitLimit) (negative : Bool) (p : Nat) :
    number ((if negative then ['-'] else []) ++ d :: ds ++ rest) p =
      .ok (.int (if negative then -(digitsValue (d :: ds) : Int) else digitsValue (d :: ds)),
        rest, p + ((if negative then 1 else 0) + (d :: ds).length)) := by
  have hpre := digitsPrefix_append hds hrest
  have hd : isDigit d = true := hds d (by simp)
  have hlimit : ¬ integerDigitLimit < (d :: ds).length := by omega
  have hdrop : (d :: ds ++ rest).drop (d :: ds).length = rest := List.drop_left
  by_cases h0 : d = '0'
  · cases hlead h0
    subst h0
    rcases endsValue_cases hrest with rfl | ⟨c, r, rfl, rfl | rfl | rfl⟩ <;>
      cases negative <;> simp [number, integerDigitLimit]
  · rcases endsValue_cases hrest with rfl | ⟨c, r, rfl, rfl | rfl | rfl⟩ <;>
      simp only [List.cons_append, List.append_nil, List.length_cons] at hpre hdrop hlimit <;>
      cases negative <;> simp [number, h0, hd, hminus, hpre, hdrop, hlimit]

theorem toList_write_int (n : Int) :
    (Json.int n).write.toList = (if n < 0 then ['-'] else []) ++ Nat.toDigits 10 n.natAbs := by
  simp only [Json.write, Int.toString_eq_repr, Int.repr_eq_if]
  by_cases hn : 0 ≤ n
  · have hnat : n.toNat = n.natAbs := by omega
    simp [hn, hnat, Nat.toList_repr, show ¬ n < 0 by omega]
  · have hnat : (-n).toNat = n.natAbs := by omega
    simp [hn, hnat, Nat.toList_repr, show n < 0 by omega]

theorem value_of_digit {k : Nat} (hk : k < 10) (cs : List Char) (fuel depth p : Nat) :
    value (fuel + 1) depth (Nat.digitChar k :: cs) p = number (Nat.digitChar k :: cs) p := by
  obtain ⟨-, -, hq, hbrace, hbracket, hn, ht, hf, hN, hI, hminus, -, -⟩ := digitChar_facts k hk
  simp [value, hq, hbrace, hbracket, hn, ht, hf, hN, hI, hminus]

theorem value_of_minus_digit {k : Nat} (hk : k < 10) (cs : List Char) (fuel depth p : Nat) :
    value (fuel + 1) depth ('-' :: Nat.digitChar k :: cs) p =
      number ('-' :: Nat.digitChar k :: cs) p := by
  obtain ⟨-, -, -, -, -, -, -, -, -, hI, -, -, -⟩ := digitChar_facts k hk
  simp [value, hI]

theorem value_int {n : Int} (hlen : (Nat.toDigits 10 n.natAbs).length ≤ integerDigitLimit)
    {rest : List Char} (hrest : endsValue rest = true) (fuel depth p : Nat) :
    value (fuel + 1) depth ((Json.int n).write.toList ++ rest) p =
      .ok (.int n, rest, p + (Json.int n).write.length) := by
  obtain ⟨k, ds, hds, hk, hzero⟩ := toDigits_cons n.natAbs
  have hall : ∀ c ∈ Nat.digitChar k :: ds, isDigit c = true := by
    intro c hc
    rw [← hds] at hc
    rw [isDigit_eq]
    exact Nat.isDigit_of_mem_toDigits (by decide) (by decide) hc
  have hlead : Nat.digitChar k = '0' → ds = [] := by
    intro h0
    have hds0 := hds
    rw [hzero (digitChar_eq_zero k hk h0), Nat.toDigits_zero] at hds0
    exact (List.cons.inj hds0).2.symm
  have hminus := (digitChar_facts k hk).2.2.2.2.2.2.2.2.2.2.1
  have hlength : (Json.int n).write.length =
      (if n < 0 then 1 else 0) + (Nat.toDigits 10 n.natAbs).length := by
    rw [← String.length_toList, toList_write_int, List.length_append]
    split <;> rfl
  rw [hds] at hlen
  have hnum := number_digits hall hlead hminus hrest hlen (decide (n < 0)) p
  have hvalue : (if decide (n < 0) = true then -(digitsValue (Nat.digitChar k :: ds) : Int)
      else digitsValue (Nat.digitChar k :: ds)) = n := by
    rw [← hds, digitsValue_toDigits]
    split
    · rename_i hneg
      simp only [decide_eq_true_eq] at hneg
      omega
    · rename_i hneg
      simp only [decide_eq_true_eq] at hneg
      omega
  rw [hvalue] at hnum
  rw [toList_write_int, hds, hlength, hds]
  by_cases hneg : n < 0
  · simp only [hneg, decide_true, if_true, List.cons_append, List.nil_append] at hnum ⊢
    rw [value_of_minus_digit hk, hnum]
  · simp only [hneg, decide_false, if_false, Bool.false_eq_true, List.nil_append,
      List.cons_append] at hnum ⊢
    rw [value_of_digit hk, hnum]

end Numbers

section Values

variable (fuel depth p : Nat)

theorem value_null (rest : List Char) :
    value (fuel + 1) depth (Json.null.write.toList ++ rest) p =
      .ok (.null, rest, p + Json.null.write.length) := by
  show value (fuel + 1) depth ('n' :: 'u' :: 'l' :: 'l' :: rest) p = .ok (.null, rest, p + 4)
  simp [value]

theorem value_bool (b : Bool) (rest : List Char) :
    value (fuel + 1) depth ((Json.bool b).write.toList ++ rest) p =
      .ok (.bool b, rest, p + (Json.bool b).write.length) := by
  cases b
  · show value (fuel + 1) depth ('f' :: 'a' :: 'l' :: 's' :: 'e' :: rest) p =
      .ok (.bool false, rest, p + 5)
    simp [value]
  · show value (fuel + 1) depth ('t' :: 'r' :: 'u' :: 'e' :: rest) p =
      .ok (.bool true, rest, p + 4)
    simp [value]

theorem value_float {x : Binary64} (hx : x ∈ Json.tokenDoubles) {rest : List Char}
    (hrest : endsValue rest = true) :
    value (fuel + 1) depth ((Json.float x).write.toList ++ rest) p =
      .ok (.float x, rest, p + (Json.float x).write.length) := by
  simp only [Json.tokenDoubles, List.mem_cons, List.not_mem_nil, or_false] at hx
  rcases hx with rfl | rfl | rfl | rfl | rfl
  · show value (fuel + 1) depth ('N' :: 'a' :: 'N' :: rest) p =
      .ok (.float .nan, rest, p + 3)
    simp [value]
  · show value (fuel + 1) depth ("Infinity".toList ++ rest) p =
      .ok (.float (.infinity false), rest, p + 8)
    simp [value]
  · show value (fuel + 1) depth ("-Infinity".toList ++ rest) p =
      .ok (.float (.infinity true), rest, p + 9)
    simp [value]
  · show value (fuel + 1) depth ('0' :: '.' :: '0' :: rest) p =
      .ok (.float (.signedZero false), rest, p + 3)
    rcases endsValue_cases hrest with rfl | ⟨c, r, rfl, rfl | rfl | rfl⟩ <;>
      simp [value, number, digitsPrefix, digitsValue, isDigit, Binary64.ofDecimal]
  · show value (fuel + 1) depth ('-' :: '0' :: '.' :: '0' :: rest) p =
      .ok (.float (.signedZero true), rest, p + 4)
    rcases endsValue_cases hrest with rfl | ⟨c, r, rfl, rfl | rfl | rfl⟩ <;>
      simp [value, number, digitsPrefix, digitsValue, isDigit, Binary64.ofDecimal]

theorem value_str (s : String) (rest : List Char) :
    value (fuel + 1) depth ((Json.str s).write.toList ++ rest) p =
      .ok (.str s, rest, p + (Json.str s).write.length) := by
  have hw : (Json.str s).write = "\"" ++ String.join (s.toList.map escapeChar) ++ "\"" := rfl
  have hl : (Json.str s).write.toList ++ rest =
      '"' :: ((String.join (s.toList.map escapeChar)).toList ++ '"' :: rest) := by
    simp [hw]
  have hquote : "\"".length = 1 := rfl
  rw [hl]
  simp only [value]
  rw [stringBody_escaped, hw, String.length_append, String.length_append, hquote]
  simp
  omega

end Values

section Forms

theorem toList_quoteString (s : String) :
    (quoteString s).toList = '"' :: ((String.join (s.toList.map escapeChar)).toList ++ ['"']) := by
  simp [quoteString]

theorem length_quoteString (s : String) :
    (quoteString s).length = (String.join (s.toList.map escapeChar)).length + 2 := by
  rw [← String.length_toList, toList_quoteString, ← String.length_toList]
  simp

theorem toList_write_arr (items : List Json) :
    (Json.arr items).write.toList = '[' :: ((Json.writeItems items).toList ++ [']']) := by
  simp [Json.write]

theorem length_write_arr (items : List Json) :
    (Json.arr items).write.length = (Json.writeItems items).length + 2 := by
  rw [← String.length_toList, toList_write_arr, ← String.length_toList]
  simp

theorem toList_write_obj (members : List (String × Json)) :
    (Json.obj members).write.toList =
      '\x7b' :: ((Json.writeMembers members).toList ++ ['\x7d']) := by
  simp [Json.write]

theorem length_write_obj (members : List (String × Json)) :
    (Json.obj members).write.length = (Json.writeMembers members).length + 2 := by
  rw [← String.length_toList, toList_write_obj, ← String.length_toList]
  simp

theorem toList_writeItems_cons_cons (v w : Json) (ws : List Json) :
    (Json.writeItems (v :: w :: ws)).toList =
      v.write.toList ++ ',' :: ' ' :: (Json.writeItems (w :: ws)).toList := by
  simp [Json.writeItems]

theorem length_writeItems_cons_cons (v w : Json) (ws : List Json) :
    (Json.writeItems (v :: w :: ws)).length =
      v.write.length + 2 + (Json.writeItems (w :: ws)).length := by
  simp only [← String.length_toList, toList_writeItems_cons_cons, List.length_append,
    List.length_cons]
  omega

theorem toList_writeMembers_single (k : String) (v : Json) :
    (Json.writeMembers [(k, v)]).toList = (quoteString k).toList ++ ':' :: ' ' :: v.write.toList := by
  simp [Json.writeMembers]

theorem length_writeMembers_single (k : String) (v : Json) :
    (Json.writeMembers [(k, v)]).length =
      (String.join (k.toList.map escapeChar)).length + 4 + v.write.length := by
  simp only [← String.length_toList, toList_writeMembers_single, toList_quoteString,
    List.length_append, List.length_cons]
  simp
  omega

theorem toList_writeMembers_cons_cons (k : String) (v : Json) (m : String × Json)
    (ms : List (String × Json)) :
    (Json.writeMembers ((k, v) :: m :: ms)).toList =
      (quoteString k).toList ++ ':' :: ' ' :: (v.write.toList ++
        ',' :: ' ' :: (Json.writeMembers (m :: ms)).toList) := by
  simp [Json.writeMembers]

theorem length_writeMembers_cons_cons (k : String) (v : Json) (m : String × Json)
    (ms : List (String × Json)) :
    (Json.writeMembers ((k, v) :: m :: ms)).length =
      (String.join (k.toList.map escapeChar)).length + 4 + v.write.length + 2 +
        (Json.writeMembers (m :: ms)).length := by
  simp only [← String.length_toList, toList_writeMembers_cons_cons, toList_quoteString,
    List.length_append, List.length_cons]
  simp
  omega

end Forms

theorem write_cons {v : Json} {room : Nat} (hv : v.readsBack room = true) :
    ∃ c cs, v.write.toList = c :: cs ∧ isBlank c = false ∧ c ≠ ']' ∧ c ≠ '\uFEFF' := by
  cases v with
  | null => exact ⟨'n', _, rfl, by decide, by decide, by decide⟩
  | bool b =>
    cases b
    · exact ⟨'f', _, rfl, by decide, by decide, by decide⟩
    · exact ⟨'t', _, rfl, by decide, by decide, by decide⟩
  | int n =>
    rw [toList_write_int]
    obtain ⟨k, ds, hds, hk, -⟩ := toDigits_cons n.natAbs
    obtain ⟨-, hblank, -, -, -, -, -, -, -, -, -, hclose, hbom⟩ := digitChar_facts k hk
    by_cases hneg : n < 0
    · exact ⟨'-', Nat.toDigits 10 n.natAbs, by simp [hneg], by decide, by decide, by decide⟩
    · exact ⟨Nat.digitChar k, ds, by simp [hneg, hds], hblank, hclose, hbom⟩
  | float x =>
    simp only [Json.readsBack, Json.tokenDoubles, decide_eq_true_eq, List.mem_cons,
      List.not_mem_nil, or_false] at hv
    rcases hv with rfl | rfl | rfl | rfl | rfl
    · exact ⟨'N', _, rfl, by decide, by decide, by decide⟩
    · exact ⟨'I', _, rfl, by decide, by decide, by decide⟩
    · exact ⟨'-', _, rfl, by decide, by decide, by decide⟩
    · exact ⟨'0', _, rfl, by decide, by decide, by decide⟩
    · exact ⟨'-', _, rfl, by decide, by decide, by decide⟩
  | str s => exact ⟨'"', _, by simp [Json.write, quoteString]; rfl, by decide, by decide, by decide⟩
  | arr items => exact ⟨'[', _, by simp [Json.write]; rfl, by decide, by decide, by decide⟩
  | obj members => exact ⟨'\x7b', _, by simp [Json.write]; rfl, by decide, by decide, by decide⟩

theorem length_write_pos {v : Json} {room : Nat} (hv : v.readsBack room = true) :
    0 < v.write.length := by
  obtain ⟨c, cs, hcs, -⟩ := write_cons hv
  rw [← String.length_toList, hcs]
  simp

theorem writeItems_cons {v : Json} {room : Nat} (hv : v.readsBack room = true) (vs : List Json) :
    ∃ c cs, (Json.writeItems (v :: vs)).toList = c :: cs ∧ isBlank c = false ∧ c ≠ ']' := by
  obtain ⟨c, cs, hcs, hblank, hclose, -⟩ := write_cons hv
  cases vs with
  | nil => exact ⟨c, cs, by simp [Json.writeItems, hcs], hblank, hclose⟩
  | cons w ws => exact ⟨c, _, by simp [Json.writeItems, hcs]; rfl, hblank, hclose⟩

theorem writeMembers_cons (k : String) (v : Json) (ms : List (String × Json)) :
    ∃ cs, (Json.writeMembers ((k, v) :: ms)).toList = '"' :: cs := by
  cases ms with
  | nil => exact ⟨_, by simp [Json.writeMembers, quoteString]; rfl⟩
  | cons m ms => exact ⟨_, by simp [Json.writeMembers, quoteString]; rfl⟩

theorem skipBlank_separator {s c : Char} (hs : isBlank s = false) (hc : isBlank c = false)
    (more : List Char) (q : Nat) :
    skipBlank (s :: ' ' :: c :: more) q = (s :: ' ' :: c :: more, q) ∧
      skipBlank (' ' :: c :: more) (q + 1) = (c :: more, q + 2) := by
  refine ⟨skipBlank_of_not_blank hs _ _, ?_⟩
  rw [skipBlank_space, skipBlank_of_not_blank hc]

section Steps

variable (fuel depth p : Nat)

theorem value_bracket {c : Char} (hdepth : ¬ nestingLimit ≤ depth) (hc : isBlank c = false)
    (hclose : c ≠ ']') (cs : List Char) :
    value (fuel + 1) depth ('[' :: c :: cs) p = items fuel (depth + 1) (c :: cs) (p + 1) [] := by
  simp [value, hdepth, skipBlank_of_not_blank hc, hclose]

theorem value_empty_array (hdepth : ¬ nestingLimit ≤ depth) (rest : List Char) :
    value (fuel + 1) depth ('[' :: ']' :: rest) p = .ok (.arr [], rest, p + 2) := by
  simp [value, hdepth, skipBlank, isBlank]

theorem value_brace (hdepth : ¬ nestingLimit ≤ depth) (cs : List Char) :
    value (fuel + 1) depth ('\x7b' :: '"' :: cs) p =
      members fuel (depth + 1) ('"' :: cs) (p + 1) [] := by
  simp [value, hdepth, skipBlank, isBlank]

theorem value_empty_object (hdepth : ¬ nestingLimit ≤ depth) (rest : List Char) :
    value (fuel + 1) depth ('\x7b' :: '\x7d' :: rest) p = .ok (.obj [], rest, p + 2) := by
  simp [value, hdepth, skipBlank, isBlank]

theorem items_last {cs rest : List Char} {v : Json} {q : Nat}
    (h : value fuel depth cs p = .ok (v, ']' :: rest, q)) (acc : List Json) :
    items (fuel + 1) depth cs p acc = .ok (.arr (v :: acc).reverse, rest, q + 1) := by
  simp [items, h, skipBlank, isBlank]

theorem items_next {cs more : List Char} {v : Json} {q : Nat} {c : Char}
    (h : value fuel depth cs p = .ok (v, ',' :: ' ' :: c :: more, q)) (hc : isBlank c = false)
    (acc : List Json) :
    items (fuel + 1) depth cs p acc = items fuel depth (c :: more) (q + 2) (v :: acc) := by
  obtain ⟨hcomma, hspace⟩ := skipBlank_separator (s := ',') (by decide) hc more q
  simp [items, h, hcomma, hspace]

theorem members_last {rest more rest' : List Char} {k : String} {v : Json} {q q' : Nat} {c : Char}
    (hk : stringBody p rest (p + 1) [] = .ok (k, ':' :: ' ' :: c :: more, q))
    (hc : isBlank c = false) (hv : value fuel depth (c :: more) (q + 2) = .ok (v, '\x7d' :: rest', q'))
    (acc : List (String × Json)) :
    members (fuel + 1) depth ('"' :: rest) p acc = .ok (.obj (Entries.set acc k v), rest', q' + 1) := by
  obtain ⟨hcolon, hspace⟩ := skipBlank_separator (s := ':') (by decide) hc more q
  have hclose := skipBlank_of_not_blank (c := '\x7d') (by decide) rest' q'
  simp [members, hk, hcolon, hspace, hv, hclose]

theorem members_next {rest more more' : List Char} {k : String} {v : Json} {q q' : Nat}
    {c d : Char} (hk : stringBody p rest (p + 1) [] = .ok (k, ':' :: ' ' :: c :: more, q))
    (hc : isBlank c = false)
    (hv : value fuel depth (c :: more) (q + 2) = .ok (v, ',' :: ' ' :: d :: more', q'))
    (hd : isBlank d = false) (acc : List (String × Json)) :
    members (fuel + 1) depth ('"' :: rest) p acc =
      members fuel depth (d :: more') (q' + 2) (Entries.set acc k v) := by
  obtain ⟨hcolon, hspace⟩ := skipBlank_separator (s := ':') (by decide) hc more q
  obtain ⟨hcomma, hspace'⟩ := skipBlank_separator (s := ',') (by decide) hd more' q'
  simp [members, hk, hcolon, hspace, hv, hcomma, hspace']

end Steps

theorem not_mem_keys_of_nodup {acc ms : List (String × Json)} {k : String} {v : Json}
    (h : (Entries.keys (acc ++ (k, v) :: ms)).Nodup) : k ∉ Entries.keys acc := by
  intro hk
  simp only [Entries.keys, List.map_append, List.map_cons, List.nodup_append] at h
  exact h.2.2 k hk k (by simp) rfl

section Run

/-- On `fuel`, a value's text followed by what may end a value reads as the value, the position
moved past the text. -/
def ValueReads (fuel : Nat) : Prop :=
  ∀ (v : Json) (room depth p : Nat) (rest : List Char),
    v.readsBack room = true → depth + room ≤ nestingLimit → v.write.length ≤ fuel →
    endsValue rest = true →
    value fuel depth (v.write.toList ++ rest) p = .ok (v, rest, p + v.write.length)

/-- On `fuel`, the items of an array after its bracket, followed by the closing bracket, read as
the array of the items already read and these. -/
def ItemsRead (fuel : Nat) : Prop :=
  ∀ (vs : List Json) (room depth p : Nat) (rest : List Char) (acc : List Json),
    vs ≠ [] → Json.itemsReadBack room vs = true → depth + room ≤ nestingLimit →
    (Json.writeItems vs).length < fuel →
    items fuel depth ((Json.writeItems vs).toList ++ ']' :: rest) p acc =
      .ok (.arr (acc.reverse ++ vs), rest, p + (Json.writeItems vs).length + 1)

/-- On `fuel`, the members of an object after its brace, followed by the closing brace, read as
the object of the members already read and these, when no name repeats. -/
def MembersRead (fuel : Nat) : Prop :=
  ∀ (ms : List (String × Json)) (room depth p : Nat) (rest : List Char)
    (acc : List (String × Json)),
    ms ≠ [] → Json.membersReadBack room ms = true → (Entries.keys (acc ++ ms)).Nodup →
    depth + room ≤ nestingLimit → (Json.writeMembers ms).length < fuel →
    members fuel depth ((Json.writeMembers ms).toList ++ '\x7d' :: rest) p acc =
      .ok (.obj (acc ++ ms), rest, p + (Json.writeMembers ms).length + 1)

variable {fuel : Nat}

theorem valueReads_zero : ValueReads 0 := by
  intro v room depth p rest hv _ hfuel _
  have := length_write_pos hv
  omega

theorem valueReads_succ (hitems : ItemsRead fuel) (hmembers : MembersRead fuel) :
    ValueReads (fuel + 1) := by
  intro v room depth p rest hv hdepth hfuel hrest
  cases v with
  | null => exact value_null fuel depth p rest
  | bool b => exact value_bool fuel depth p b rest
  | int n => exact value_int (by simpa [Json.readsBack] using hv) hrest fuel depth p
  | float x => exact value_float fuel depth p (by simpa [Json.readsBack] using hv) hrest
  | str s => exact value_str fuel depth p s rest
  | arr vs =>
    simp only [Json.readsBack, Bool.and_eq_true, bne_iff_ne, ne_eq] at hv
    obtain ⟨hroom, hvs⟩ := hv
    cases vs with
    | nil =>
      rw [toList_write_arr, length_write_arr]
      exact value_empty_array fuel depth p (by omega) rest
    | cons v vs =>
      have hv1 : v.readsBack (room - 1) = true := by
        simp only [Json.itemsReadBack, Bool.and_eq_true] at hvs
        exact hvs.1
      obtain ⟨c, cs, hcs, hblank, hclose⟩ := writeItems_cons hv1 vs
      rw [length_write_arr] at hfuel
      have hread := hitems (v :: vs) (room - 1) (depth + 1) (p + 1) rest []
        (by simp) hvs (by omega) (by omega)
      rw [hcs] at hread
      have hl : (Json.arr (v :: vs)).write.toList ++ rest = '[' :: c :: (cs ++ ']' :: rest) := by
        rw [toList_write_arr, hcs]
        simp
      have hpos : p + 1 + (Json.writeItems (v :: vs)).length + 1 =
          p + (Json.arr (v :: vs)).write.length := by
        rw [length_write_arr]
        omega
      rw [hl, value_bracket fuel depth p (by omega) hblank hclose, ← List.cons_append, hread,
        hpos]
      rfl
  | obj ms =>
    simp only [Json.readsBack, Bool.and_eq_true, bne_iff_ne, ne_eq, decide_eq_true_eq] at hv
    obtain ⟨⟨hroom, hkeys⟩, hms⟩ := hv
    cases ms with
    | nil =>
      rw [toList_write_obj, length_write_obj]
      exact value_empty_object fuel depth p (by omega) rest
    | cons m ms =>
      obtain ⟨k, v⟩ := m
      obtain ⟨cs, hcs⟩ := writeMembers_cons k v ms
      rw [length_write_obj] at hfuel
      have hread := hmembers ((k, v) :: ms) (room - 1) (depth + 1) (p + 1) rest []
        (by simp) hms (by simpa using hkeys) (by omega) (by omega)
      rw [hcs] at hread
      have hl : (Json.obj ((k, v) :: ms)).write.toList ++ rest =
          '\x7b' :: '"' :: (cs ++ '\x7d' :: rest) := by
        rw [toList_write_obj, hcs]
        simp
      have hpos : p + 1 + (Json.writeMembers ((k, v) :: ms)).length + 1 =
          p + (Json.obj ((k, v) :: ms)).write.length := by
        rw [length_write_obj]
        omega
      rw [hl, value_brace fuel depth p (by omega), ← List.cons_append, hread, hpos]
      rfl

theorem itemsRead_zero : ItemsRead 0 := by
  intro _ _ _ _ _ _ _ _ _ hfuel
  omega

theorem itemsRead_succ (hvalue : ValueReads fuel) (hitems : ItemsRead fuel) :
    ItemsRead (fuel + 1) := by
  intro vs room depth p rest acc hne hv hdepth hfuel
  obtain ⟨v, vs, rfl⟩ := List.exists_cons_of_ne_nil hne
  cases vs with
  | nil =>
    have hv1 : v.readsBack room = true := by simpa [Json.itemsReadBack] using hv
    have hw : Json.writeItems [v] = v.write := by simp [Json.writeItems]
    rw [hw] at hfuel ⊢
    rw [items_last fuel depth p (hvalue v room depth p (']' :: rest) hv1 hdepth (by omega) rfl)]
    simp
  | cons w ws =>
    simp only [Json.itemsReadBack, Bool.and_eq_true] at hv
    obtain ⟨hv1, hw1, hws⟩ := hv
    obtain ⟨c, cs, hcs, hblank, -⟩ := writeItems_cons hw1 ws
    rw [length_writeItems_cons_cons] at hfuel ⊢
    have hval := hvalue v room depth p (',' :: ' ' :: c :: (cs ++ ']' :: rest)) hv1 hdepth
      (by omega) rfl
    have hread := hitems (w :: ws) room depth (p + v.write.length + 2) rest (v :: acc)
      (by simp) (by simp [Json.itemsReadBack, hw1, hws]) hdepth (by omega)
    rw [hcs] at hread
    have hl : (Json.writeItems (v :: w :: ws)).toList ++ ']' :: rest =
        v.write.toList ++ ',' :: ' ' :: c :: (cs ++ ']' :: rest) := by
      rw [toList_writeItems_cons_cons, hcs]
      simp
    have hpos : p + v.write.length + 2 + (Json.writeItems (w :: ws)).length + 1 =
        p + (v.write.length + 2 + (Json.writeItems (w :: ws)).length) + 1 := by
      omega
    rw [hl, items_next fuel depth p hval hblank, ← List.cons_append, hread, hpos]
    simp

theorem member_reads (hvalue : ValueReads fuel) (k : String) {v : Json} {room depth : Nat}
    (hv : v.readsBack room = true) (hdepth : depth + room ≤ nestingLimit)
    (hfuel : v.write.length ≤ fuel) (p : Nat) (after : List Char)
    (hafter : endsValue after = true) :
    ∃ c cs, v.write.toList = c :: cs ∧ isBlank c = false ∧
      stringBody p ((String.join (k.toList.map escapeChar)).toList ++
          '"' :: ':' :: ' ' :: c :: (cs ++ after)) (p + 1) [] =
        .ok (k, ':' :: ' ' :: c :: (cs ++ after),
          p + 1 + (String.join (k.toList.map escapeChar)).length + 1) ∧
      value fuel depth (c :: (cs ++ after))
          (p + 1 + (String.join (k.toList.map escapeChar)).length + 1 + 2) =
        .ok (v, after,
          p + 1 + (String.join (k.toList.map escapeChar)).length + 1 + 2 + v.write.length) := by
  obtain ⟨c, cs, hcs, hblank, -, -⟩ := write_cons hv
  have hkey := stringBody_escaped p (p + 1) [] k.toList (':' :: ' ' :: c :: (cs ++ after))
  simp only [List.reverse_nil, List.nil_append, String.ofList_toList] at hkey
  have hval := hvalue v room depth
    (p + 1 + (String.join (k.toList.map escapeChar)).length + 1 + 2) after hv hdepth hfuel hafter
  rw [hcs, List.cons_append] at hval
  exact ⟨c, cs, hcs, hblank, hkey, hval⟩

theorem membersRead_zero : MembersRead 0 := by
  intro _ _ _ _ _ _ _ _ _ _ hfuel
  omega

theorem membersRead_succ (hvalue : ValueReads fuel) (hmembers : MembersRead fuel) :
    MembersRead (fuel + 1) := by
  intro ms room depth p rest acc hne hv hkeys hdepth hfuel
  have hquote : isBlank '"' = false := by decide
  obtain ⟨⟨k, v⟩, ms, rfl⟩ := List.exists_cons_of_ne_nil hne
  cases ms with
  | nil =>
    have hv1 : v.readsBack room = true := by simpa [Json.membersReadBack] using hv
    rw [length_writeMembers_single] at hfuel ⊢
    obtain ⟨c, cs, hcs, hblank, hkey, hval⟩ :=
      member_reads hvalue k hv1 hdepth (by omega) p ('\x7d' :: rest) rfl
    have hl : (Json.writeMembers [(k, v)]).toList ++ '\x7d' :: rest =
        '"' :: ((String.join (k.toList.map escapeChar)).toList ++
          '"' :: ':' :: ' ' :: c :: (cs ++ '\x7d' :: rest)) := by
      rw [toList_writeMembers_single, toList_quoteString, hcs]
      simp
    have hpos : p + 1 + (String.join (k.toList.map escapeChar)).length + 1 + 2 +
        v.write.length + 1 =
          p + ((String.join (k.toList.map escapeChar)).length + 4 + v.write.length) + 1 := by
      omega
    rw [hl, members_last fuel depth p hkey hblank hval,
      Entries.set_of_not_mem acc k v (@not_mem_keys_of_nodup acc [] k v hkeys), hpos]
  | cons m ms =>
    obtain ⟨k', v'⟩ := m
    simp only [Json.membersReadBack, Bool.and_eq_true] at hv
    obtain ⟨hv1, hv2, hms⟩ := hv
    obtain ⟨ds, hds⟩ := writeMembers_cons k' v' ms
    rw [length_writeMembers_cons_cons] at hfuel ⊢
    obtain ⟨c, cs, hcs, hblank, hkey, hval⟩ :=
      member_reads hvalue k hv1 hdepth (by omega) p
        (',' :: ' ' :: '"' :: (ds ++ '\x7d' :: rest)) rfl
    have hread := hmembers ((k', v') :: ms) room depth
      (p + 1 + (String.join (k.toList.map escapeChar)).length + 1 + 2 + v.write.length + 2) rest
      (acc ++ [(k, v)]) (by simp) (by simp [Json.membersReadBack, hv2, hms])
      (by simpa using hkeys) hdepth (by omega)
    rw [hds] at hread
    have hl : (Json.writeMembers ((k, v) :: (k', v') :: ms)).toList ++ '\x7d' :: rest =
        '"' :: ((String.join (k.toList.map escapeChar)).toList ++
          '"' :: ':' :: ' ' :: c :: (cs ++ ',' :: ' ' :: '"' :: (ds ++ '\x7d' :: rest))) := by
      rw [toList_writeMembers_cons_cons, toList_quoteString, hcs, hds]
      simp
    rw [hl, members_next fuel depth p hkey hblank hval hquote,
      Entries.set_of_not_mem acc k v (not_mem_keys_of_nodup hkeys), ← List.cons_append, hread]
    have hpos : p + 1 + (String.join (k.toList.map escapeChar)).length + 1 + 2 + v.write.length +
        2 + (Json.writeMembers ((k', v') :: ms)).length + 1 =
          p + ((String.join (k.toList.map escapeChar)).length + 4 + v.write.length + 2 +
            (Json.writeMembers ((k', v') :: ms)).length) + 1 := by
      omega
    rw [hpos, List.append_assoc, List.singleton_append]

/-- On any fuel, written values, items and members read back; each unit of fuel is one level of
the reader's recursion. -/
theorem reads_write (fuel : Nat) : ValueReads fuel ∧ ItemsRead fuel ∧ MembersRead fuel := by
  induction fuel with
  | zero => exact ⟨valueReads_zero, itemsRead_zero, membersRead_zero⟩
  | succ fuel ih =>
    obtain ⟨hvalue, hitems, hmembers⟩ := ih
    exact ⟨valueReads_succ hitems hmembers, itemsRead_succ hvalue hitems,
      membersRead_succ hvalue hmembers⟩

end Run

end Reader

/-- Reading a written value gives the value back, whenever the value's text determines it. -/
theorem Json.read_write {v : Json} (hv : v.readsBack nestingLimit = true) :
    Json.read v.write = .ok v := by
  obtain ⟨c, cs, hcs, hblank, -, hbom⟩ := Reader.write_cons hv
  have hlen : v.write.length ≤ 2 * v.write.toList.length + 2 := by
    rw [String.length_toList]
    omega
  have hvalue := (Reader.reads_write (2 * v.write.toList.length + 2)).1 v nestingLimit 0 0 []
    hv (by omega) hlen rfl
  rw [List.append_nil, hcs, List.length_cons] at hvalue
  unfold Json.read
  simp only [hcs]
  rw [Reader.skipBlank_of_not_blank hblank]
  split
  · rename_i heq
    cases heq
    exact absurd rfl hbom
  · simp [hvalue, Reader.skipBlank]

end SuggestGateway
