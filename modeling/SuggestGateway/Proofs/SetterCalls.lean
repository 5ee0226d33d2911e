import SuggestGateway.Json.Lemmas
import SuggestGateway.Suggester.Basic
/-!
# What setter calls leave in a suggester's body

A suggester's setters are called one after another, and its request body shows the outcome.
The text is the argument of the last call of `text`, and the body shows it first unless that
argument is `null` or `text` was never called. Every other call is one edit of the options
(`optionEdit`): a write of the setter's value under its name, except that a completion
suggester's `fuzzy` writes `{}` for `true`, removes the key for `false`, and writes any other
value, `1` and `0` included, as `{"fuzziness": v}`. So the options are the map of the writes
that no later call removes (`Entries.foldl_apply_eq_ofList_surviving`): their keys come in the
order of their first surviving write, a key rewritten in place keeps its position, and a
`fuzzy` written again after `fuzzy(false)` goes to the end. With metadata the body is wrapped
under the suggester's name. Building the body is a function of the suggester, so it changes
nothing in it.
-/
namespace SuggestGateway

namespace Suggester

/-- The edit of the options that a setter call makes: none for `text`. -/
def optionEdit (f : Family) (setter : String) (v : Json) : Option (Entries.Edit Json) :=
  if setter = "text" then none
  else if f = .completion ∧ setter = "fuzzy" then
    match v with
    | .bool true => some (.write "fuzzy" (.obj []))
    | .bool false => some (.erase "fuzzy")
    | v => some (.write "fuzzy" (.obj [("fuzziness", v)]))
  else some (.write setter v)

/-- The edits of the options that a list of setter calls makes, in order. -/
def optionEdits (f : Family) (calls : List (String × Json)) : List (Entries.Edit Json) :=
  calls.filterMap fun c => optionEdit f c.1 c.2

/-- The argument of the last call of a setter, if it was called. -/
def lastArgument (calls : List (String × Json)) (setter : String) : Option Json :=
  (calls.reverse.find? (·.1 == setter)).map (·.2)

/-- The `text` member of a body, for the last argument of `text`: none when `text` was never
called or last called with `null`. -/
def textMember : Option Json → List (String × Json)
  | none => []
  | some .null => []
  | some t => [("text", t)]

def callAll (s : Suggester) (calls : List (String × Json)) : Suggester :=
  calls.foldl (fun s c => s.call c.1 c.2) s

/-- A call sets the text when it is `text`, and otherwise makes its edit of the options. -/
theorem call_eq (s : Suggester) (setter : String) (v : Json) :
    s.call setter v = { s with
      text := if setter = "text" then v else s.text,
      options := match optionEdit s.family setter v with
        | some e => e.apply s.options
        | none => s.options } := by
  unfold call optionEdit
  split
  · rfl
  · split
    · cases v with
      | bool b => cases b <;> rfl
      | _ => rfl
    · rfl

theorem family_name_callAll (s : Suggester) (calls : List (String × Json)) :
    (s.callAll calls).family = s.family ∧ (s.callAll calls).name = s.name := by
  induction calls generalizing s with
  | nil => exact ⟨rfl, rfl⟩
  | cons c calls ih =>
    rw [callAll, List.foldl_cons, ← callAll, (ih _).1, (ih _).2, call_eq]
    exact ⟨rfl, rfl⟩

theorem lastArgument_cons (c : String × Json) (calls : List (String × Json)) (setter : String) :
    lastArgument (c :: calls) setter =
      (lastArgument calls setter).or (if c.1 = setter then some c.2 else none) := by
  by_cases h : c.1 = setter <;> simp [lastArgument, List.find?_append, h]

theorem text_callAll (s : Suggester) (calls : List (String × Json)) :
    (s.callAll calls).text = (lastArgument calls "text").getD s.text := by
  induction calls generalizing s with
  | nil => rfl
  | cons c calls ih =>
    rw [callAll, List.foldl_cons, ← callAll, ih, call_eq, lastArgument_cons]
    by_cases h : c.1 = "text" <;> cases lastArgument calls "text" <;> simp [h]

theorem options_callAll (s : Suggester) (calls : List (String × Json)) :
    (s.callAll calls).options = (optionEdits s.family calls).foldl Entries.Edit.apply s.options := by
  induction calls generalizing s with
  | nil => rfl
  | cons c calls ih =>
    rw [callAll, List.foldl_cons, ← callAll, ih, call_eq]
    cases h : optionEdit s.family c.1 c.2 <;> simp [optionEdits, h]

theorem body_eq (s : Suggester) :
    s.body = .obj (textMember (some s.text) ++ [(s.family.key, .obj s.options)]) := by
  unfold body textMember
  cases s.text <;> rfl

/-- The request body of a suggester after any setter calls: the text member when the last
`text` call gave a text that is not `null`, then under the family's key the map of the option
writes that no later call removes, whose keys come in the order of their first surviving write
and hold the value of their last one; with metadata, that body under the suggester's name. -/
theorem requestBody_after_calls (f : Family) (n : String) (calls : List (String × Json)) :
    let s := (Suggester.empty f n).callAll calls
    let writes := Entries.surviving (optionEdits f calls)
    let options := Entries.ofList writes
    s.requestBody false =
        .obj (textMember (lastArgument calls "text") ++ [(f.key, .obj options)]) ∧
      s.requestBody true = .obj [(n, s.requestBody false)] ∧
      Entries.keys options = (writes.map (·.1)).eraseDups ∧
      ∀ k, Entries.get? options k = (writes.reverse.find? (·.1 == k)).map (·.2) := by
  intro s writes options
  have htext : textMember (some s.text) = textMember (lastArgument calls "text") := by
    rw [text_callAll]
    cases lastArgument calls "text" <;> rfl
  have hoptions : s.options = options := by
    rw [options_callAll]
    exact Entries.foldl_apply_eq_ofList_surviving _
  have hfamily : s.family = f := (family_name_callAll _ calls).1
  have hname : s.name = n := (family_name_callAll _ calls).2
  refine ⟨?_, ?_, Entries.keys_ofList writes, Entries.get?_ofList writes⟩
  · simp only [requestBody, Bool.false_eq_true, if_false, body_eq, htext, hoptions, hfamily]
  · simp only [requestBody, if_true, Bool.false_eq_true, if_false, hname]

-- `fuzzy` written again after `fuzzy(false)` goes behind `size`
example : ((Suggester.empty .completion "c").callAll [("fuzzy", .bool true), ("size", .int 3),
    ("fuzzy", .bool false), ("fuzzy", .int 1)]).requestBody false =
      .obj [("completion", .obj [("size", .int 3), ("fuzzy", .obj [("fuzziness", .int 1)])])] := by
  rfl

end Suggester

end SuggestGateway
