import MiniExpr.Proofs.Expr.Faults
import MiniExpr.Proofs.Expr.RoundTrip
/-!
# One document, in memory or as text

A document reaches the loader either as an object in memory or as JSON text, a string or its
UTF-8 bytes.  Both are checked by the same walk; the one fault whose kind depends on where the
document comes from is a node that is not an object, `model_attributes_type` in memory and
`dict_type` in text (`Issue.asText`).

* `faults_text`: the faults of a document read as text are its faults in memory, relabelled.
* `loadValue_text`: so, as text, a document loads as the same tree, or is refused with the
  relabelled faults.
* `load_text_eq_load_mapping`: a text the reader accepts within `treeLimits` loads, as a string
  and as bytes, as the object it reads does in memory, up to that relabelling.
* `load_text_refused`: a text the reader refuses within `treeLimits` loads, as a string and as
  bytes, as the one fault `json_invalid`, whatever the object it holds.
* `load_text_deep_duplicate`: the limits bound the whole text, a value that a later duplicate key
  replaces included, so a text can be refused while the object it reads loads.
-/

namespace MiniExpr

open Json (Value)

/-- A fault as JSON text reports it: a node that is not an object is `dict_type` there, where a
document in memory has `model_attributes_type`. -/
def Issue.asText (i : Issue) : Issue :=
  if i.kind = .modelAttributesType then ⟨.dictType, i.loc⟩ else i

namespace Issue

@[simp]
theorem asText_under (parts : List LocPart) (i : Issue) :
    (i.under parts).asText = i.asText.under parts := by
  unfold asText under
  split <;> rfl

theorem asText_here {k : IssueKind} (hk : k ≠ .modelAttributesType) : (here k).asText = here k := by
  simp [asText, here, hk]

/-- Faults of a single kind other than `model_attributes_type` read the same as text. -/
theorem map_asText_here {k : Option IssueKind} (hk : k ≠ some .modelAttributesType) :
    (k.toList.map here).map asText = k.toList.map here := by
  cases k with
  | none => rfl
  | some k =>
    have hk' : k ≠ .modelAttributesType := fun h => hk (by rw [h])
    simp [asText_here hk']

end Issue

namespace Expr

open Issue (asText)

theorem nameFault_ne (w : Value) : nameFault w ≠ some .modelAttributesType := by
  unfold nameFault
  split <;> (repeat' split) <;> simp

theorem opFault_ne (w : Value) : opFault w ≠ some .modelAttributesType := by
  unfold opFault
  split <;> (repeat' split) <;> simp

mutual

/-- **As text, a document has its faults in memory, relabelled.** -/
theorem faults_text (v : Value) : faults .text v = (faults .mapping v).map asText := by
  cases v with
  | object fs =>
    unfold faults
    rcases member? fs "kind" with _ | k
    · rfl
    · dsimp only
      rcases Tag.ofValue? k.1 with _ | t
      · rfl
      · dsimp only
        rw [List.map_flatMap]
        congr 1
        funext ⟨f, kind⟩
        rw [fieldFaults_text fs kind f, List.map_map, List.map_map]
        exact List.map_congr_left fun i _ => (Issue.asText_under _ i).symm
  | _ => unfold faults; rfl
termination_by sizeOf v
decreasing_by all_goals simp only [Value.object.sizeOf_spec]; omega

/-- As text, a field has its faults in memory, relabelled. -/
theorem fieldFaults_text (fs : List (String × Value)) (kind : FieldKind) (f : String) :
    fieldFaults .text fs kind f = (fieldFaults .mapping fs kind f).map asText := by
  cases hm : member? fs f with
  | none =>
    rw [fieldFaults_of_none hm, fieldFaults_of_none hm]
    split <;> rfl
  | some w =>
    cases kind with
    | name => rw [fieldFaults_name hm, fieldFaults_name hm, Issue.map_asText_here (nameFault_ne _)]
    | op => rw [fieldFaults_op hm, fieldFaults_op hm, Issue.map_asText_here (opFault_ne _)]
    | child => rw [fieldFaults_child hm, fieldFaults_child hm, faults_text w.1]
    | args =>
      obtain ⟨w, hw⟩ := w
      cases w with
      | array items => rw [fieldFaults_args_array hm, fieldFaults_args_array hm, argFaults_text items 0]
      | _ =>
        rw [fieldFaults_args_of_not_array hm (by simp), fieldFaults_args_of_not_array hm (by simp)]
        rfl
termination_by sizeOf fs
decreasing_by
  all_goals first
    | exact w.2
    | (simp only [Value.array.sizeOf_spec] at hw; omega)

/-- As text, a call's arguments have their faults in memory, relabelled. -/
theorem argFaults_text (items : List Value) (i : Nat) :
    argFaults .text items i = (argFaults .mapping items i).map asText := by
  cases items with
  | nil => rw [argFaults, argFaults]; rfl
  | cons x xs =>
    rw [argFaults, argFaults, faults_text x, argFaults_text xs (i + 1), List.map_append, List.map_map,
      List.map_map]
    congr 1
    exact List.map_congr_left fun j _ => (Issue.asText_under _ j).symm
termination_by sizeOf items
decreasing_by all_goals simp only [List.cons.sizeOf_spec]; omega

end

/-- **Text and memory load alike.**  Read as text, a document loads as the same tree as in memory,
or is refused with the same faults, a node that is not an object relabelled. -/
theorem loadValue_text (v : Value) :
    loadValue .text v = (loadValue .mapping v).mapError (List.map asText) := by
  cases hm : loadValue .mapping v with
  | ok e => exact loadValue_of_describes (describes_of_loadValue hm)
  | error es =>
    cases ht : loadValue .text v with
    | ok e =>
      rw [loadValue_of_describes (describes_of_loadValue ht)] at hm
      cases hm
    | error es' =>
      have h := issues_loadValue .text v
      rw [ht, faults_text, ← issues_loadValue, hm, Checked.issues_error, Checked.issues_error] at h
      rw [h]
      rfl

/-- A text loads alike as a string and as its UTF-8 bytes. -/
theorem load_string_and_bytes {t : String} {x : Checked Expr} (h : loadText t = x) :
    load (.value (.string t)) = x ∧ load (.bytes t.toUTF8) = x :=
  ⟨h, by rw [load_bytes_toUTF8]; exact h⟩

/-- **A text loads as the object it reads.**  When the reader accepts a text within `treeLimits` as
an object, the text, as a string or as UTF-8 bytes, loads as that object does in memory: both give
the same tree, or both are refused with the same faults, in order, save that a node that is not an
object is `dict_type` in the text and `model_attributes_type` in memory. -/
theorem load_text_eq_load_mapping {t : String} {fs : List (String × Value)}
    (h : Json.parseTextWithin treeLimits t = .ok (.object fs)) :
    load (.value (.string t)) = (load (.value (.object fs))).mapError (List.map asText) ∧
      load (.bytes t.toUTF8) = (load (.value (.object fs))).mapError (List.map asText) := by
  apply load_string_and_bytes
  rw [load_object, ← loadValue_text, loadText, h]

/-- A call whose function is a string, not a node. -/
def callOfString : List (String × Value) := [("kind", .string "call"), ("function", .string "f")]

/-- The compact text of `callOfString` reads back as it within the limits, so it loads as the
object does, up to the relabelling. -/
theorem load_text_eq_load_mapping_callOfString :
    Json.parseTextWithin treeLimits ((Value.object callOfString).render .compact) =
        .ok (.object callOfString) ∧
      load (.value (.string ((Value.object callOfString).render .compact))) =
        (load (.value (.object callOfString))).mapError (List.map asText) := by
  have hread : Json.parseTextWithin treeLimits ((Value.object callOfString).render .compact) =
      .ok (.object callOfString) := by
    rw [Json.parseTextWithin, Json.parseWithin_render .compact (by decide), if_pos (by decide)]
  exact ⟨hread, (load_text_eq_load_mapping hread).1⟩

/-! ## The limits bound the whole text -/

/-- **A text the reader refuses within the limits is refused whole.**  Whether it nests too deep,
spells too long an integer or is no JSON at all, it loads, as a string and as bytes, as the one
fault `json_invalid` at the document, whatever object it holds. -/
theorem load_text_refused {t : String} {r : Json.ReadError}
    (h : Json.parseTextWithin treeLimits t = .error r) :
    load (.value (.string t)) = Checked.fail .jsonInvalid ∧
      load (.bytes t.toUTF8) = Checked.fail .jsonInvalid := by
  apply load_string_and_bytes
  rw [loadText, h]

/-- `{"kind":"name","name":"a","x":[[…]],"x":null}`, its first `x` nested 201 arrays deep. -/
def deepDuplicateChars : List Char :=
  "\x7b\"kind\":\"name\",\"name\":\"a\",\"x\":".toList ++ List.replicate 201 '[' ++
    List.replicate 201 ']' ++ ",\"x\":null\x7d".toList

/-- The object `deepDuplicateChars` holds, its second `x` in place of the first. -/
def deepDuplicateObject : List (String × Value) :=
  [("kind", .string "name"), ("name", .string "a"), ("x", .null)]

/-- **A text can be refused while the object it holds loads.**  The reader keeps the last of two
duplicate keys, but the nesting bound counts the value it drops: the text below holds a name
node one level deep, which loads in memory, and is refused as malformed JSON, as a string and as
bytes. -/
theorem load_text_deep_duplicate :
    Json.parseText (String.ofList deepDuplicateChars) = .ok (.object deepDuplicateObject) ∧
      (Value.object deepDuplicateObject).depth ≤ 150 ∧
      (∃ e, load (.value (.object deepDuplicateObject)) = .ok e) ∧
      load (.value (.string (String.ofList deepDuplicateChars))) = Checked.fail .jsonInvalid ∧
      load (.bytes (String.ofList deepDuplicateChars).toUTF8) = Checked.fail .jsonInvalid := by
  -- The reader's answer is compared through its text: a plain value is fixed by its rendering.
  have hread : (Json.parse deepDuplicateChars).toOption.map (fun v => (v.plain, v.render .compact)) =
      some (true, (Value.object deepDuplicateObject).render .compact) := by
    decide +kernel
  have hrefused : (Json.parseWithin treeLimits deepDuplicateChars).toBool = false := by
    decide +kernel
  have hparse :
      Json.parseText (String.ofList deepDuplicateChars) = .ok (.object deepDuplicateObject) := by
    rw [Json.parseText, String.toList_ofList]
    cases hp : Json.parse deepDuplicateChars with
    | error _ => rw [hp] at hread; cases hread
    | ok v =>
      rw [hp] at hread
      simp only [Except.toOption, Option.map_some, Option.some.injEq, Prod.mk.injEq] at hread
      rw [Json.render_injective _ hread.1 (by decide) hread.2]
  have hrefusedText : ∃ r, Json.parseTextWithin treeLimits (String.ofList deepDuplicateChars) =
      .error r := by
    rw [Json.parseTextWithin, String.toList_ofList]
    cases hp : Json.parseWithin treeLimits deepDuplicateChars with
    | ok _ => rw [hp] at hrefused; cases hrefused
    | error r => exact ⟨r, rfl⟩
  obtain ⟨r, hr⟩ := hrefusedText
  obtain ⟨hload, hbytes⟩ := load_text_refused hr
  have hname :
      Describes (.object deepDuplicateObject) (.name ⟨"a", by simp [isNameText, isLetter]⟩) :=
    .name rfl rfl
  refine ⟨hparse, by decide, ?_, hload, hbytes⟩
  rw [load_object]
  exact ⟨_, loadValue_of_describes hname⟩

end Expr

end MiniExpr
