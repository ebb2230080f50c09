import MiniExpr.Proofs.Expr.Grammar
/-!
# The faults of a refused document

A document that describes no tree is refused with a list of faults.  This file says which list,
without the loader's combinators.  `faults` walks the document: a node that is not an object, has
no `kind` or has an unknown one is a single fault at that node; a node with a known tag contributes,
field after field in the order the tag declares them (`Tag.fields`), the faults of each field under
the path `[tag, field]`.  A missing field is `missing`, except a call's `args`, which may be left
out; a name field has at most one fault, the first of not text, empty and not a name; an operator
field is faulty when it is not the text of a punctuator; a child is walked in turn; and a call's
`args` is faulty when it is not a list, and otherwise contributes the faults of each argument under
its index.

* `issues_loadValue`: the loader reports exactly these faults, in this order.
* `load_mapping_faults`: a mapping loads exactly when it has no fault, and a refused mapping comes
  with exactly its faults.
-/

namespace MiniExpr

open Json (Value)

namespace Checked

variable {α β : Type}

/-- The faults a check reports; none when it succeeds. -/
def issues : Checked α → List Issue
  | .ok _ => []
  | .error es => es

@[simp] theorem issues_ok (x : α) : issues (.ok x : Checked α) = [] := rfl

@[simp] theorem issues_error (es : List Issue) : issues (.error es : Checked α) = es := rfl

@[simp] theorem issues_fail (k : IssueKind) : issues (fail k : Checked α) = [Issue.here k] := rfl

@[simp]
theorem issues_under (parts : List LocPart) (a : Checked α) :
    issues (a.under parts) = (issues a).map (Issue.under parts) := by
  cases a <;> rfl

/-- Two independent checks report the faults of the first, then those of the second. -/
@[simp]
theorem issues_both (a : Checked α) (b : Checked β) :
    issues (both a b) = issues a ++ issues b := by
  cases a <;> cases b <;> simp [both, issues]

@[simp]
theorem issues_map (a : Checked α) (f : α → β) : issues (a.map f) = issues a := by
  cases a <;> rfl

/-- A check that names a fault whenever it fails succeeds exactly when it reports none. -/
theorem exists_eq_ok_iff_issues_eq_nil {a : Checked α} (h : a.NamesIssue) :
    (∃ x, a = .ok x) ↔ issues a = [] := by
  cases a with
  | ok x => simp
  | error es => simpa using h es rfl

end Checked

namespace Expr

/-! ## The faults, field by field -/

/-- What a declared field of a node holds. -/
inductive FieldKind where
  /-- The text of a name. -/
  | name
  /-- The text of a punctuator. -/
  | op
  /-- A child node. -/
  | child
  /-- A call's arguments, a list of nodes; the one field that may be left out. -/
  | args
  deriving DecidableEq, Repr

/-- The fields a tag declares, in the order they are declared and checked. -/
def Tag.fields : Tag → List (String × FieldKind)
  | .name => [("name", .name)]
  | .assign => [("name", .name), ("right", .child)]
  | .op => [("left", .child), ("op", .op), ("right", .child)]
  | .prefixed => [("op", .op), ("right", .child)]
  | .postfixed => [("left", .child), ("op", .op)]
  | .conditional => [("condition", .child), ("then_arm", .child), ("else_arm", .child)]
  | .call => [("function", .child), ("args", .args)]

/-- The fault of the value of a name field: the first of not text, empty, and not a name. -/
def nameFault : Value → Option IssueKind
  | .string s =>
    if s = "" then some .stringTooShort
    else if isNameText s then none
    else some .stringPatternMismatch
  | _ => some .stringType

/-- The fault of the value of an operator field: anything but the text of a punctuator. -/
def opFault : Value → Option IssueKind
  | .string s => if Punctuator.all.any (fun p => p.text = s) then none else some .enumMember
  | _ => some .enumMember

mutual

/-- The faults of a document read as a node, in the order they are reported. -/
def faults (o : Origin) (v : Value) : List Issue :=
  match v with
  | .object fs =>
    match member? fs "kind" with
    | none => [.here .unionTagNotFound]
    | some k =>
      match Tag.ofValue? k.1 with
      | none => [.here .unionTagInvalid]
      | some t => t.fields.flatMap fun (f, kind) =>
          (fieldFaults o fs kind f).map (Issue.under (fieldLoc t f))
  | _ => [.here o.notObject]
termination_by sizeOf v

/-- The faults of field `f` of the node with members `fs`, seen from the field. -/
def fieldFaults (o : Origin) (fs : List (String × Value)) (kind : FieldKind) (f : String) :
    List Issue :=
  match kind, member? fs f with
  | .args, none => []
  | _, none => [.here .missing]
  | .name, some w => (nameFault w.1).toList.map .here
  | .op, some w => (opFault w.1).toList.map .here
  | .child, some w => faults o w.1
  | .args, some ⟨.array items, _⟩ => argFaults o items 0
  | .args, some _ => [.here .tupleType]
termination_by sizeOf fs
decreasing_by
  all_goals first
    | exact (‹{w // sizeOf w < sizeOf fs}›).2
    | (have h := ‹sizeOf (Value.array items) < sizeOf fs›
       simp only [Value.array.sizeOf_spec] at h
       omega)

/-- The faults of a call's arguments `items`, the first of them at index `i`. -/
def argFaults (o : Origin) (items : List Value) (i : Nat) : List Issue :=
  match items with
  | [] => []
  | x :: xs => (faults o x).map (Issue.under [.index i]) ++ argFaults o xs (i + 1)
termination_by sizeOf items

end

section FieldFaults

variable {o : Origin} {fs : List (String × Value)} {f : String}

theorem fieldFaults_of_none {kind : FieldKind} (hm : member? fs f = none) :
    fieldFaults o fs kind f = if kind = .args then [] else [.here .missing] := by
  unfold fieldFaults
  rw [hm]
  cases kind <;> rfl

theorem fieldFaults_name {w : {w // sizeOf w < sizeOf fs}} (hm : member? fs f = some w) :
    fieldFaults o fs .name f = (nameFault w.1).toList.map .here := by
  unfold fieldFaults
  rw [hm]

theorem fieldFaults_op {w : {w // sizeOf w < sizeOf fs}} (hm : member? fs f = some w) :
    fieldFaults o fs .op f = (opFault w.1).toList.map .here := by
  unfold fieldFaults
  rw [hm]

theorem fieldFaults_child {w : {w // sizeOf w < sizeOf fs}} (hm : member? fs f = some w) :
    fieldFaults o fs .child f = faults o w.1 := by
  unfold fieldFaults
  rw [hm]

theorem fieldFaults_args_array {items : List Value} {hw : sizeOf (Value.array items) < sizeOf fs}
    (hm : member? fs f = some ⟨.array items, hw⟩) : fieldFaults o fs .args f = argFaults o items 0 := by
  unfold fieldFaults
  rw [hm]

theorem fieldFaults_args_of_not_array {w : {w // sizeOf w < sizeOf fs}}
    (hm : member? fs f = some w) (h : ∀ items, w.1 ≠ .array items) :
    fieldFaults o fs .args f = [.here .tupleType] := by
  unfold fieldFaults
  rw [hm]
  obtain ⟨w, hw⟩ := w
  cases w <;> simp_all

end FieldFaults

/-! ## The loader reports the faults -/

theorem issues_checkName (w : Value) :
    Checked.issues (checkName (some w)) = (nameFault w).toList.map Issue.here := by
  cases w with
  | string s =>
    by_cases he : s = ""
    · simp [checkName, nameFault, he]
    · have hne : s.isEmpty = false := by simpa [String.isEmpty_iff] using he
      by_cases hn : isNameText s = true
      · simp [checkName, nameFault, he, hne, hn]
      · simp [checkName, nameFault, he, hne, hn]
  | _ => rfl

theorem ofString?_isSome_iff (s : String) :
    (Punctuator.ofString? s).isSome = Punctuator.all.any (fun p => p.text = s) := by
  cases hs : Punctuator.ofString? s with
  | none =>
    symm
    simp only [Option.isSome_none, List.any_eq_false, decide_eq_true_eq]
    rintro p - rfl
    rw [Punctuator.ofString?_text] at hs
    cases hs
  | some p =>
    symm
    simp only [Option.isSome_some, List.any_eq_true, decide_eq_true_eq]
    exact ⟨p, Punctuator.mem_all p, (Punctuator.eq_text_of_ofString? hs).symm⟩

theorem issues_checkOp (w : Value) :
    Checked.issues (checkOp (some w)) = (opFault w).toList.map Issue.here := by
  cases w with
  | string s =>
    rw [checkOp, opFault, ← ofString?_isSome_iff]
    cases Punctuator.ofString? s <;> rfl
  | _ => rfl

section Fields

variable (o : Origin) (t : Tag) (fs : List (String × Value))

theorem issues_nameAt :
    Checked.issues (nameAt t fs) =
      (fieldFaults o fs .name "name").map (Issue.under (fieldLoc t "name")) := by
  rw [nameAt]
  cases hm : member? fs "name" with
  | none => rw [fieldFaults_of_none hm]; rfl
  | some w => simp [fieldFaults_name hm, issues_checkName]

theorem issues_opAt :
    Checked.issues (opAt t fs) = (fieldFaults o fs .op "op").map (Issue.under (fieldLoc t "op")) := by
  rw [opAt]
  cases hm : member? fs "op" with
  | none => rw [fieldFaults_of_none hm]; rfl
  | some w => simp [fieldFaults_op hm, issues_checkOp]

end Fields

mutual

/-- **The loader reports exactly the faults of a document, in order.** -/
theorem issues_loadValue (o : Origin) (v : Value) : Checked.issues (loadValue o v) = faults o v := by
  cases v with
  | object fs =>
    -- A child field reports the child's faults by recursion; the arguments each theirs.
    have child : ∀ (t : Tag) (f : String), Checked.issues (childAt o t f fs) =
        (fieldFaults o fs .child f).map (Issue.under (fieldLoc t f)) := by
      intro t f
      rw [childAt]
      cases hm : member? fs f with
      | none => rw [fieldFaults_of_none hm]; rfl
      | some w => rw [fieldFaults_child hm, Checked.issues_under, issues_loadValue o w.1]
    have args : Checked.issues (argsAt o fs) =
        (fieldFaults o fs .args "args").map (Issue.under (fieldLoc .call "args")) := by
      rw [argsAt]
      cases hm : member? fs "args" with
      | none => rw [fieldFaults_of_none hm]; rfl
      | some w =>
        obtain ⟨w, hw⟩ := w
        cases w with
        | array items =>
          rw [fieldFaults_args_array hm, Checked.issues_under, issues_loadArgs o items 0]
        | _ => rw [fieldFaults_args_of_not_array hm (by simp)]; rfl
    rw [loadValue_object, loadObject_eq, faults]
    rcases member? fs "kind" with _ | k
    · rfl
    · dsimp only
      rcases Tag.ofValue? k.1 with _ | t
      · rfl
      · dsimp only
        cases t <;> simp [loadNode, Tag.fields, child, args, issues_nameAt o, issues_opAt o]
  | _ =>
    rw [loadValue_of_not_object o (by simp)]
    unfold faults
    rfl
termination_by sizeOf v
decreasing_by
  all_goals
    subst_vars
    first
    | have := (‹{w // sizeOf w < sizeOf fs}›).2
      simp only [Value.object.sizeOf_spec]
      omega
    | have hitems := ‹sizeOf (Value.array _) < sizeOf fs›
      simp only [Value.array.sizeOf_spec, Value.object.sizeOf_spec] at hitems ⊢
      omega

/-- The loader reports exactly the faults of a call's arguments, in order. -/
theorem issues_loadArgs (o : Origin) (items : List Value) (i : Nat) :
    Checked.issues (loadArgs o items i) = argFaults o items i := by
  cases items with
  | nil => rw [loadArgs, argFaults]; rfl
  | cons x xs =>
    rw [loadArgs, argFaults, Checked.issues_map, Checked.issues_both, Checked.issues_under,
      issues_loadValue o x, issues_loadArgs o xs (i + 1)]
termination_by sizeOf items
decreasing_by all_goals subst_vars; simp only [List.cons.sizeOf_spec]; omega

end

/-- An object given as a value is loaded as a node in memory. -/
theorem load_object (fs : List (String × Value)) :
    load (.value (.object fs)) = loadValue .mapping (.object fs) := by
  rw [loadValue_object]
  rfl

/-- **A mapping is refused with exactly its faults.**  Loaded as a mapping, an object gives a tree
exactly when it has no fault; when it is refused, the faults reported are, in order, those of
`faults`: one fault for a node without a tag or with an unknown one, and otherwise the faults of
each declared field of the tag in declaration order, a missing field as `missing`, a name field by
its first fault, an operator field as `enum`, a child by its own faults and a call's arguments as
`tuple_type` or by the faults of each argument under its index, every fault under the path of its
field. -/
theorem load_mapping_faults (fs : List (String × Value)) :
    ((∃ e, load (.value (.object fs)) = .ok e) ↔ faults .mapping (.object fs) = []) ∧
    ∀ es, load (.value (.object fs)) = .error es → es = faults .mapping (.object fs) := by
  rw [load_object, ← issues_loadValue]
  refine ⟨Checked.exists_eq_ok_iff_issues_eq_nil (namesIssue_loadValue .mapping _), ?_⟩
  intro es hes
  rw [hes, Checked.issues_error]

end Expr

end MiniExpr
