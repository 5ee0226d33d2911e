import SuggestGateway.Json.Value
/-!
# Laws of ordered entries

Writing a key into `Entries` follows one rule: a present key keeps its place and takes the
new value, a new key goes to the end. Two laws say it completely for a whole list of
writes (`Entries.ofList`): the keys are the distinct written keys in order of their first
write (`keys_ofList`), and the value under a key is the one of its last write
(`get?_ofList`). A script that also removes keys (`Edit`) gives the map of the writes that no
later edit removes (`foldl_apply_eq_ofList_surviving`): a removed key that is written again
goes to the end. Nothing here needs more than the core library.
-/
namespace SuggestGateway

namespace Entries

variable {α : Type}

def keys (es : List (String × α)) : List String := es.map (·.1)

theorem keys_set (es : List (String × α)) (k : String) (v : α) :
    keys (set es k v) = if k ∈ keys es then keys es else keys es ++ [k] := by
  induction es with
  | nil => simp [keys, set]
  | cons e rest ih =>
    obtain ⟨k', v'⟩ := e
    by_cases h : k' = k
    · subst h
      simp [keys, set]
    · simp only [keys] at ih
      simp only [keys, set, if_neg h, List.map_cons, ih, List.mem_cons]
      by_cases hk : k ∈ List.map (·.1) rest
      · simp [hk]
      · have hne : ¬ k = k' := fun e => h e.symm
        simp [hk, hne]

/-- The value under a key of entries that start with one: that entry's, when it is the key. -/
theorem get?_cons (k : String) (v : α) (es : List (String × α)) (k' : String) :
    get? ((k, v) :: es) k' = if k = k' then some v else get? es k' := by
  by_cases h : k = k'
  · subst h
    simp [get?]
  · have h' : (k' == k) = false := by simp [Ne.symm h]
    simp [get?, List.lookup_cons, h', h]

theorem get?_set (es : List (String × α)) (k : String) (v : α) (k' : String) :
    get? (set es k v) k' = if k = k' then some v else get? es k' := by
  induction es with
  | nil => exact get?_cons k v [] k'
  | cons e rest ih =>
    obtain ⟨j, w⟩ := e
    by_cases hj : j = k
    · subst hj
      rw [set, if_pos rfl, get?_cons, get?_cons]
      by_cases h : j = k' <;> simp [h]
    · rw [set, if_neg hj, get?_cons, get?_cons, ih]
      by_cases h : k = k'
      · subst h
        simp [hj]
      · simp [h]

/-- Appending one entry adds a value only under a key that had none. -/
theorem get?_append_single (es : List (String × α)) (k : String) (v : α) (k' : String) :
    get? (es ++ [(k, v)]) k' = (get? es k').or (if k = k' then some v else none) := by
  have hsingle := get?_cons k v [] k'
  simp only [get?] at hsingle ⊢
  rw [List.lookup_append, hsingle]
  rfl

/-- A key that is not present is written at the end. -/
theorem set_of_not_mem (es : List (String × α)) (k : String) (v : α) (h : k ∉ keys es) :
    set es k v = es ++ [(k, v)] := by
  induction es with
  | nil => rfl
  | cons e rest ih =>
    obtain ⟨k', v'⟩ := e
    have hne : k' ≠ k := fun hk => h (by simp [keys, hk])
    have hrest : k ∉ keys rest := fun hk => h (by simp only [keys] at hk ⊢; simp [hk])
    simp [set, hne, ih hrest]

theorem ofList_append_single (es : List (String × α)) (e : String × α) :
    ofList (es ++ [e]) = set (ofList es) e.1 e.2 := by
  simp [ofList, List.foldl_append]

theorem eraseDups_append_single (l : List String) (a : String) :
    (l ++ [a]).eraseDups = if a ∈ l then l.eraseDups else l.eraseDups ++ [a] := by
  rw [List.eraseDups_append]
  by_cases h : a ∈ l
  · have hr : [a].removeAll l = [] := by simp [List.removeAll, h]
    simp [hr, h, List.eraseDups_nil]
  · have hr : [a].removeAll l = [a] := by simp [List.removeAll, h]
    simp [hr, h, List.eraseDups_cons, List.eraseDups_nil]

/-- The keys of a list of writes are the distinct written keys, in order of first write. -/
theorem keys_ofList (es : List (String × α)) : keys (ofList es) = (keys es).eraseDups := by
  rw [← List.reverse_reverse es]
  generalize es.reverse = rs
  induction rs with
  | nil => simp [keys, ofList, List.eraseDups_nil]
  | cons e rs ih =>
    rw [List.reverse_cons, ofList_append_single, keys_set, ih]
    simp only [keys, List.map_append, List.map_cons, List.map_nil, eraseDups_append_single,
      List.mem_eraseDups]

/-- Writing entries with distinct keys one after another gives them back in order. -/
theorem ofList_of_nodup (es : List (String × α)) (h : (keys es).Nodup) : ofList es = es := by
  rw [← List.reverse_reverse es] at h ⊢
  generalize es.reverse = rs at h ⊢
  induction rs with
  | nil => rfl
  | cons e rs ih =>
    rw [List.reverse_cons] at h ⊢
    have hsplit : (keys rs.reverse).Nodup ∧ e.1 ∉ keys rs.reverse := by
      simp only [keys, List.map_append, List.map_cons, List.map_nil, List.nodup_append] at h
      exact ⟨h.1, fun hmem => h.2.2 _ hmem _ (List.mem_singleton_self _) rfl⟩
    rw [ofList_append_single, ih hsplit.1, set_of_not_mem _ e.1 e.2 hsplit.2]

/-- The value under a key after a list of writes is the value of its last write. -/
theorem get?_ofList (es : List (String × α)) (k : String) :
    get? (ofList es) k = (es.reverse.find? (·.1 == k)).map (·.2) := by
  rw [← List.reverse_reverse es]
  generalize es.reverse = rs
  induction rs with
  | nil => simp [get?, ofList]
  | cons e rs ih =>
    rw [List.reverse_cons, ofList_append_single, get?_set, ih]
    by_cases h : e.1 = k
    · simp [h]
    · have h' : (e.1 == k) = false := by simp [h]
      simp [h, h']

theorem erase_set (es : List (String × α)) (k : String) (v : α) (j : String) :
    erase (set es k v) j = if k = j then erase es j else set (erase es j) k v := by
  induction es with
  | nil => by_cases h : k = j <;> simp [set, erase, h]
  | cons e rest ih =>
    obtain ⟨k', v'⟩ := e
    simp only [erase] at ih
    by_cases hk : k' = k
    · subst hk
      by_cases h : k' = j <;> simp [set, erase, h]
    · by_cases hj : k' = j
      · subst hj
        simp [set, erase, hk, ih, Ne.symm hk]
      · simp only [set, erase, if_neg hk, List.filter_cons, bne_iff_ne, ne_eq, hj,
          not_false_eq_true, if_true, ih]
        by_cases hkj : k = j <;> simp [hkj]

/-- Removing a key from the map of a list of writes forgets every write of that key. -/
theorem erase_ofList (ws : List (String × α)) (j : String) :
    erase (ofList ws) j = ofList (ws.filter (·.1 != j)) := by
  rw [← List.reverse_reverse ws]
  generalize ws.reverse = rs
  induction rs with
  | nil => rfl
  | cons e rs ih =>
    rw [List.reverse_cons, ofList_append_single, erase_set, List.filter_append]
    by_cases h : e.1 = j
    · simp [h, ih]
    · simp [h, ih, ofList_append_single]

/-- One edit of ordered entries: write a key, or remove it. -/
inductive Edit (α : Type) where
  | write (k : String) (v : α)
  | erase (k : String)

namespace Edit

def apply (es : List (String × α)) : Edit α → List (String × α)
  | write k v => set es k v
  | erase k => Entries.erase es k

def erases (k : String) : Edit α → Bool
  | write _ _ => false
  | erase k' => k' == k

end Edit

/-- The writes of a script that no later edit of it removes, in order. -/
def surviving : List (Edit α) → List (String × α)
  | [] => []
  | .write k v :: rest =>
    if rest.any (Edit.erases k) then surviving rest else (k, v) :: surviving rest
  | .erase _ :: rest => surviving rest

theorem surviving_append_write (es : List (Edit α)) (k : String) (v : α) :
    surviving (es ++ [.write k v]) = surviving es ++ [(k, v)] := by
  induction es with
  | nil => simp [surviving]
  | cons e es ih =>
    cases e with
    | write k' v' => simp [surviving, ih, Edit.erases]; split <;> simp
    | erase k' => simp [surviving, ih]

theorem surviving_append_erase (es : List (Edit α)) (k : String) :
    surviving (es ++ [.erase k]) = (surviving es).filter (·.1 != k) := by
  induction es with
  | nil => simp [surviving]
  | cons e es ih =>
    cases e with
    | erase k' => simp [surviving, ih]
    | write k' v' =>
      by_cases hlater : es.any (Edit.erases k') = true
      · simp [surviving, ih, hlater]
      · by_cases hk : k = k'
        · subst hk
          simp [surviving, ih, hlater, Edit.erases]
        · simp [surviving, ih, hlater, Edit.erases, hk, Ne.symm hk]

/-- A script of writes and removals run on empty entries gives the map of the writes that no
later edit removes. -/
theorem foldl_apply_eq_ofList_surviving (es : List (Edit α)) :
    es.foldl Edit.apply [] = ofList (surviving es) := by
  rw [← List.reverse_reverse es]
  generalize es.reverse = rs
  induction rs with
  | nil => rfl
  | cons e rs ih =>
    rw [List.reverse_cons, List.foldl_append, ih]
    cases e with
    | write k v => simp [Edit.apply, surviving_append_write, ofList_append_single]
    | erase k => simp [Edit.apply, surviving_append_erase, erase_ofList]

end Entries

end SuggestGateway
