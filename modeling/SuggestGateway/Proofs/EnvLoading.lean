import Mathlib.Data.List.Basic
import SuggestGateway.Client.EnvFile
import SuggestGateway.Json.Lemmas
/-!
# Loading an environment file

The lines of a file end at a line feed, a carriage return and line feed, or a lone carriage
return (`lines_break`). A line of a `.env` file sets a variable when, stripped, it is neither empty nor a comment, and
what is left after one leading `export ` holds an `=`: the name is the part before the first
`=`, stripped, and the value the part after it, stripped and without one pair of matching
quotes (`parseLine_eq_some_iff`, `unquote_quoted`).

Loading a file never overrides the environment: a variable that is set keeps its value, and
each name the file sets that the environment lacks gets the value of the first line that sets
it. Loading sets nothing else and counts the distinct names it set; a missing file sets
nothing (`loadFile_sets_first_occurrences`). This holds for every file whose names are not
empty and whose names and values hold no NUL: such a file can be loaded to its end. The
invariant of the loading loop couples the environment with the lines still to come
(`loadLines_eq`); each line keeps it by one of three steps: it sets nothing, its name is set
already, or its name is new (`loadLines_cons_of_none`, `_of_isSome`, `_of_new`).
-/
namespace SuggestGateway

namespace EnvFile

/-- The name and value pairs of a file's lines, in order, repeats included. -/
def pairs (text : String) : List (String × String) := (lines text).filterMap parseLine

def filePairs (file : Option String) : List (String × String) := (file.map pairs).getD []

/-- A pair that can be set: a name that is not empty, and no NUL in the name or the value. -/
def Settable (p : String × String) : Prop := p.1 ≠ "" ∧ '\x00' ∉ p.1.toList ∧ '\x00' ∉ p.2.toList

instance (p : String × String) : Decidable (Settable p) := inferInstanceAs (Decidable (_ ∧ _))

section Steps

variable {l k v : String} (rest : List String) (n : Nat) (env : Environment)

theorem loadLines_cons_of_none (hl : parseLine l = none) :
    loadLines (l :: rest) n env = loadLines rest n env := by
  rw [loadLines.eq_def]
  simp only [hl]

theorem loadLines_cons_of_isSome (hl : parseLine l = some (k, v))
    (hset : (Entries.get? env k).isSome = true) :
    loadLines (l :: rest) n env = loadLines rest n env := by
  rw [loadLines.eq_def]
  simp only [hl, hset, if_true]

theorem loadLines_cons_of_new (hl : parseLine l = some (k, v))
    (hnew : Entries.get? env k = none) (hk : Settable (k, v)) :
    loadLines (l :: rest) n env = loadLines rest (n + 1) (env ++ [(k, v)]) := by
  obtain ⟨hname, hnulk, hnulv⟩ := hk
  have hnul : (k.contains '\x00' || v.contains '\x00') = false := by
    simpa [String.contains_char_eq] using And.intro hnulk hnulv
  have hempty : k.isEmpty = false := by simpa using hname
  rw [loadLines.eq_def]
  simp only [hl, hnew, Option.isSome_none, Bool.false_eq_true, if_false, hnul, hempty]

end Steps

section Lookups

variable {env : Environment} {k : String}

theorem get?_or_cons_of_isSome (hset : (Entries.get? env k).isSome = true) (v : String)
    (ps : List (String × String)) (k' : String) :
    (Entries.get? env k').or (Entries.get? ((k, v) :: ps) k') =
      (Entries.get? env k').or (Entries.get? ps k') := by
  rw [Entries.get?_cons]
  by_cases hk : k = k'
  · subst hk
    obtain ⟨w, hw⟩ := Option.isSome_iff_exists.mp hset
    simp [hw]
  · simp [hk]

theorem get?_append_or_of_none (hnew : Entries.get? env k = none) (v : String)
    (ps : List (String × String)) (k' : String) :
    (Entries.get? (env ++ [(k, v)]) k').or (Entries.get? ps k') =
      (Entries.get? env k').or (Entries.get? ((k, v) :: ps) k') := by
  rw [Entries.get?_append_single, Entries.get?_cons]
  by_cases hk : k = k'
  · subst hk
    simp [hnew]
  · simp [hk]

theorem filter_isNone_append_single (ks : List String) (v : String) :
    ks.filter (fun k' => (Entries.get? (env ++ [(k, v)]) k').isNone) =
      (ks.filter fun k' => (Entries.get? env k').isNone).filter (fun b => !b == k) := by
  rw [List.filter_filter]
  apply List.filter_congr
  intro k' _
  by_cases hk : k = k'
  · subst hk
    simp [Entries.get?_append_single]
  · simp [Entries.get?_append_single, hk, Ne.symm hk]

end Lookups

/-- Loading lines whose pairs can all be set runs to the end: it sets each name that the
environment lacks to the value of its first line, and counts the distinct names it set. -/
theorem loadLines_eq (ls : List String) (n : Nat) (env : Environment)
    (hsettable : ∀ p ∈ ls.filterMap parseLine, Settable p) :
    ∃ env', loadLines ls n env =
        ⟨n + (((ls.filterMap parseLine).map (·.1)).filter
          fun k => (Entries.get? env k).isNone).eraseDups.length, env', none⟩ ∧
      ∀ k, Entries.get? env' k = (Entries.get? env k).or (Entries.get? (ls.filterMap parseLine) k) := by
  induction ls generalizing n env with
  | nil => exact ⟨env, rfl, fun k => by simp [Entries.get?]⟩
  | cons l rest ih =>
    cases hl : parseLine l with
    | none =>
      have hps : (l :: rest).filterMap parseLine = rest.filterMap parseLine := by simp [hl]
      rw [hps] at hsettable ⊢
      rw [loadLines_cons_of_none rest n env hl]
      exact ih n env hsettable
    | some kv =>
      obtain ⟨k, v⟩ := kv
      have hps : (l :: rest).filterMap parseLine = (k, v) :: rest.filterMap parseLine := by
        simp [hl]
      rw [hps] at hsettable ⊢
      have hrest : ∀ p ∈ rest.filterMap parseLine, Settable p :=
        fun p hp => hsettable p (List.mem_cons_of_mem _ hp)
      cases hget : Entries.get? env k with
      | some w =>
        have hset : (Entries.get? env k).isSome = true := by simp [hget]
        obtain ⟨env', hload, hlook⟩ := ih n env hrest
        refine ⟨env', ?_, fun k' => ?_⟩
        · rw [loadLines_cons_of_isSome rest n env hl hset, hload]
          simp [hget]
        · rw [hlook, get?_or_cons_of_isSome hset]
      | none =>
        obtain ⟨env', hload, hlook⟩ := ih (n + 1) (env ++ [(k, v)]) hrest
        refine ⟨env', ?_, fun k' => ?_⟩
        · rw [loadLines_cons_of_new rest n env hl hget (hsettable (k, v) List.mem_cons_self),
            hload, filter_isNone_append_single]
          simp only [List.map_cons, List.filter_cons, hget, Option.isNone_none, if_true,
            List.eraseDups_cons, List.length_cons, Loaded.mk.injEq, and_true]
          omega
        · rw [hlook, get?_append_or_of_none hget]

section Lines

def NoBreak (cs : List Char) : Prop := '\r' ∉ cs ∧ '\n' ∉ cs

theorem go_no_break (line rest acc : List Char) (h : NoBreak line) :
    lines.go (line ++ rest) acc = lines.go rest (line.reverse ++ acc) := by
  induction line generalizing acc with
  | nil => rfl
  | cons c line ih =>
    obtain ⟨hcr, hlf⟩ := h
    have hc : c ≠ '\r' := fun h => hcr (h ▸ List.mem_cons_self)
    have hc' : c ≠ '\n' := fun h => hlf (h ▸ List.mem_cons_self)
    rw [List.cons_append, lines.go.eq_5 acc c _ (fun _ h _ => hc h) hc hc',
      ih _ ⟨fun h => hcr (List.mem_cons_of_mem _ h), fun h => hlf (List.mem_cons_of_mem _ h)⟩]
    simp

theorem lines_break (line sep rest : List Char) (hline : NoBreak line)
    (hsep : sep = ['\n'] ∨ sep = ['\r', '\n'] ∨ sep = ['\r'] ∧ rest.head? ≠ some '\n') :
    lines (String.ofList (line ++ sep ++ rest)) = String.ofList line :: lines (String.ofList rest) := by
  simp only [lines, String.toList_ofList, List.append_assoc]
  rw [go_no_break _ _ _ hline, List.append_nil]
  rcases hsep with rfl | rfl | ⟨rfl, hrest⟩
  · simp [lines.go]
  · simp [lines.go]
  · rw [List.singleton_append, lines.go.eq_3 _ _ (fun r h => hrest (by simp [h])), List.reverse_reverse]

theorem lines_no_break (line : List Char) (hline : NoBreak line) :
    lines (String.ofList line) = if line = [] then [] else [String.ofList line] := by
  have h := go_no_break line [] [] hline
  simp only [List.append_nil] at h
  simp only [lines, String.toList_ofList, h]
  cases line <;> simp [lines.go]

end Lines

section Line

/-- What a line sets, as the format reads it: the line stripped is neither empty nor a
comment; after one leading `export ` it is a name part, an `=` and a value part, with no `=`
in the name part; the name is the name part stripped, and the value the value part stripped
and unquoted. -/
def LineSets (line k v : String) : Prop :=
  let s := (strip line).toList
  s ≠ [] ∧ ¬ ['#'] <+: s ∧
    ∃ body key raw : List Char,
      (s = "export ".toList ++ body ∨ ¬ "export ".toList <+: s ∧ body = s) ∧
      body = key ++ '=' :: raw ∧ '=' ∉ key ∧
      k = strip (String.ofList key) ∧ v = unquote (strip (String.ofList raw))

theorem toList_dropExport (t : String) :
    (if t.startsWith "export " then (t.drop 7).toString else t).toList =
      if "export ".toList <+: t.toList then t.toList.drop 7 else t.toList := by
  by_cases h : "export ".toList <+: t.toList
  · rw [if_pos (String.startsWith_string_iff.mpr h), if_pos h]
    simp [String.toList_copy_drop]
  · rw [if_neg (fun hs => h (String.startsWith_string_iff.mp hs)), if_neg h]

theorem dropExport_iff (s body : List Char) :
    (s = "export ".toList ++ body ∨ ¬ "export ".toList <+: s ∧ body = s) ↔
      body = if "export ".toList <+: s then s.drop 7 else s := by
  by_cases h : "export ".toList <+: s
  · obtain ⟨u, rfl⟩ := h
    have hlength : "export ".toList.length = 7 := rfl
    have hdrop : ("export ".toList ++ u).drop 7 = u := by
      rw [← hlength]
      exact List.drop_left
    rw [if_pos (List.prefix_append _ _), hdrop, List.append_cancel_left_eq]
    constructor
    · rintro (h | ⟨h, -⟩)
      · exact h.symm
      · exact absurd (List.prefix_append _ _) h
    · intro h
      exact .inl h.symm
  · rw [if_neg h]
    constructor
    · rintro (rfl | ⟨-, h⟩)
      · exact absurd (List.prefix_append _ _) h
      · exact h
    · intro hb
      exact .inr ⟨h, hb⟩

theorem split_at_first_eq (key raw : List Char) (hkey : '=' ∉ key) :
    (key ++ '=' :: raw).takeWhile (· != '=') = key ∧
      ((key ++ '=' :: raw).dropWhile (· != '=')).drop 1 = raw := by
  induction key with
  | nil => simp
  | cons c key ih =>
    have hc : c ≠ '=' := fun h => hkey (h ▸ List.mem_cons_self)
    have hrest := ih fun h => hkey (List.mem_cons_of_mem _ h)
    simp [hc, hrest]

theorem exists_split_at_first_eq {cs : List Char} (h : '=' ∈ cs) :
    ∃ key raw, cs = key ++ '=' :: raw ∧ '=' ∉ key := by
  induction cs with
  | nil => cases h
  | cons c cs ih =>
    by_cases hc : c = '='
    · exact ⟨[], cs, by simp [hc], by simp⟩
    · have hmem : '=' ∈ cs := by
        rcases List.mem_cons.mp h with h | h
        · exact absurd h.symm hc
        · exact h
      obtain ⟨key, raw, rfl, hkey⟩ := ih hmem
      exact ⟨c :: key, raw, rfl, by simp [hkey, Ne.symm hc]⟩

/-- A line sets a variable exactly as the format reads it. -/
theorem parseLine_eq_some_iff (line k v : String) : parseLine line = some (k, v) ↔ LineSets line k v := by
  unfold parseLine LineSets
  generalize strip line = t
  by_cases hskip : t.toList = [] ∨ ['#'] <+: t.toList
  · have hnone : (t.isEmpty || t.startsWith "#") = true := by
      rcases hskip with h | h
      · simp [String.isEmpty_iff, ← String.toList_inj, h]
      · simp [String.startsWith_string_iff, h]
    simp only [hnone, if_true, reduceCtorEq, false_iff]
    rintro ⟨hne, hcomment, -⟩
    exact hskip.elim hne hcomment
  · have hline : (t.isEmpty || t.startsWith "#") = false := by
      simp only [not_or] at hskip
      simp [← String.toList_inj, hskip.1, hskip.2]
    simp only [hline, Bool.false_eq_true, if_false, toList_dropExport]
    simp only [not_or] at hskip
    simp only [hskip.1, hskip.2, ne_eq, not_false_eq_true, true_and, dropExport_iff,
      exists_and_left, exists_eq_left]
    generalize (if "export ".toList <+: t.toList then t.toList.drop 7 else t.toList) = body
    by_cases heq : '=' ∈ body
    · obtain ⟨key, raw, rfl, hkey⟩ := exists_split_at_first_eq heq
      obtain ⟨htake, hdrop⟩ := split_at_first_eq key raw hkey
      simp only [List.contains_iff_mem, heq, if_true, htake, hdrop, Option.some.injEq,
        Prod.mk.injEq]
      constructor
      · rintro ⟨rfl, rfl⟩
        exact ⟨key, raw, rfl, hkey, rfl, rfl⟩
      · rintro ⟨key', raw', hsplit, hkey', hk, hv⟩
        obtain ⟨htake', hdrop'⟩ := split_at_first_eq key' raw' hkey'
        rw [← hsplit, htake] at htake'
        rw [← hsplit, hdrop] at hdrop'
        rw [hk, hv, htake', hdrop']
        exact ⟨rfl, rfl⟩
    · have hcontains : body.contains '=' = false := by simpa using heq
      simp only [hcontains, Bool.false_eq_true, if_false, reduceCtorEq, false_iff]
      rintro ⟨key, raw, rfl, -, -, -⟩
      exact heq (by simp)

theorem unquote_quoted (q : Char) (inner : List Char) (hq : q = '\'' ∨ q = '"') :
    unquote (String.ofList (q :: inner ++ [q])) = String.ofList inner := by
  have hlast : (q :: inner ++ [q]).getLast? = some q := List.getLast?_concat
  have hquote : (q == '\'' || q == '"') = true := by rcases hq with rfl | rfl <;> rfl
  simp only [unquote, String.toList_ofList, hlast]
  simp [hquote]

theorem eq_head_middle_last {cs : List Char} {a b : Char} (hlength : 2 ≤ cs.length)
    (ha : cs.head? = some a) (hb : cs.getLast? = some b) : cs = a :: ((cs.drop 1).dropLast ++ [b]) := by
  match cs, hlength with
  | c :: d :: rest, _ =>
    simp only [List.head?_cons, Option.some.injEq] at ha
    subst ha
    rw [List.getLast?_cons_cons] at hb
    simp [List.dropLast_append_getLast? b hb]

theorem unquote_of_not_quoted (s : String)
    (h : ∀ q inner, (q = '\'' ∨ q = '"') → s.toList ≠ q :: inner ++ [q]) : unquote s = s := by
  unfold unquote
  dsimp only
  split
  · rename_i a b ha hb
    split
    · rename_i hcond
      simp only [Bool.and_eq_true, beq_iff_eq, Bool.or_eq_true, decide_eq_true_eq] at hcond
      obtain ⟨⟨hlength, rfl⟩, hq⟩ := hcond
      exact absurd (eq_head_middle_last hlength ha hb) (h a _ hq)
    · rfl
  · rfl

end Line

/-- Loading a file whose pairs can all be set runs to its end, as `loadLines_eq` says of its
lines; a missing file sets nothing. -/
theorem loadFile_eq (file : Option String) (env : Environment)
    (hsettable : ∀ p ∈ filePairs file, Settable p) :
    ∃ env', loadFile file env =
        ⟨(((filePairs file).map (·.1)).filter fun k => (Entries.get? env k).isNone).eraseDups.length,
          env', none⟩ ∧
      ∀ k, Entries.get? env' k = (Entries.get? env k).or (Entries.get? (filePairs file) k) := by
  cases file with
  | none => exact ⟨env, rfl, fun k => by simp [filePairs, Entries.get?]⟩
  | some text =>
    simpa [loadFile, load, filePairs, pairs] using loadLines_eq (lines text) 0 env hsettable

/-- Loading a file whose names are not empty and whose names and values hold no NUL: the
loading runs to the end; a variable already set keeps its value, a name the environment lacks
gets the value of the first line that sets it, nothing else is set, and the count is the
number of distinct names set; a missing file sets nothing. The file's lines end at a line feed,
a carriage return and line feed, or a lone carriage return; a line sets what `LineSets` says,
and a quoted value loses one pair of matching quotes. -/
theorem loadFile_sets_first_occurrences (file : Option String) (env : Environment)
    (hsettable : ∀ p ∈ filePairs file, Settable p) :
    let loaded := loadFile file env
    loaded.error = none ∧
      (∀ k, Entries.get? loaded.env k = (Entries.get? env k).or (Entries.get? (filePairs file) k)) ∧
      loaded.count =
        (((filePairs file).map (·.1)).filter fun k => (Entries.get? env k).isNone).eraseDups.length ∧
      (∀ line sep rest, NoBreak line →
        (sep = ['\n'] ∨ sep = ['\r', '\n'] ∨ sep = ['\r'] ∧ rest.head? ≠ some '\n') →
        lines (String.ofList (line ++ sep ++ rest)) = String.ofList line :: lines (String.ofList rest)) ∧
      (∀ line, NoBreak line → lines (String.ofList line) = if line = [] then [] else [String.ofList line]) ∧
      (∀ line k v, parseLine line = some (k, v) ↔ LineSets line k v) ∧
      (∀ q inner, (q = '\'' ∨ q = '"') → unquote (String.ofList (q :: inner ++ [q])) = String.ofList inner) ∧
      (∀ s : String, (∀ q inner, (q = '\'' ∨ q = '"') → s.toList ≠ q :: inner ++ [q]) → unquote s = s) := by
  obtain ⟨env', hload, hget⟩ := loadFile_eq file env hsettable
  intro loaded
  rw [show loaded = _ from hload]
  exact ⟨rfl, hget, rfl, lines_break, lines_no_break, parseLine_eq_some_iff, unquote_quoted,
    unquote_of_not_quoted⟩

/-- A sample file: a comment, a quoted value after `export`, a name set twice, a name the
environment has, lines ending in each of the three ways, and a line without `=`. -/
def sampleFile : String := "# c\nexport Q=\"a b\"\nP=v\r\nR=f\rno pair\nP=w\n"

/-- Loading the sample file over an environment that sets `R` sets `Q` and `P` from their
first lines, keeps `R`, and counts two. -/
theorem loadFile_sample_sets_two :
    (∀ p ∈ filePairs (some sampleFile), Settable p) ∧
      let loaded := loadFile (some sampleFile) [("R", "e")]
      loaded.count = 2 ∧ Entries.get? loaded.env "Q" = some "a b" ∧
        Entries.get? loaded.env "P" = some "v" ∧ Entries.get? loaded.env "R" = some "e" := by
  have hpairs : filePairs (some sampleFile) = [("Q", "a b"), ("P", "v"), ("R", "f"), ("P", "w")] := by
    decide +kernel
  have hsettable : ∀ p ∈ filePairs (some sampleFile), Settable p := by
    rw [hpairs]
    decide
  obtain ⟨-, hget, hcount, -⟩ := loadFile_sets_first_occurrences (some sampleFile) [("R", "e")] hsettable
  refine ⟨hsettable, ?_, ?_, ?_, ?_⟩
  · rw [hcount, hpairs]
    decide
  all_goals rw [hget, hpairs]; decide

end EnvFile

end SuggestGateway
