import MiniExpr.Expr.Load
import MiniExpr.Proofs.Expr.Linearization
/-!
# The grammar of tree documents

A document describes a tree when it is an object whose `kind` is one of the seven tags and whose
declared fields spell the tree's parts: a name field holds the text of a name, an operator field
the text of a punctuator, a child field a document that describes the child, and a call's `args`,
when present, a list of such documents.  `Describes` says this node by node, with no word about
how a loader reports faults; keys a tag does not declare play no part in it.

The loader accepts exactly the documents of the grammar and returns the tree they describe
(`loadValue_eq_ok_iff`); when it refuses one, it names at least one fault
(`namesIssue_loadValue`).  To state this without the subtypes the loader carries for its
termination, `loadObject_eq` puts a node's check in the form `loadNode`, where each field has a
check of its own.

Names come first: the name fields take the same texts the lexer reads as a single name token, the
non-empty runs of ASCII letters (`name_grammar`).
-/

namespace MiniExpr

open Json (Value)

/-! ## Names -/

theorem isLetter_iff (c : Char) : isLetter c = true ↔ ('A' ≤ c ∧ c ≤ 'Z') ∨ ('a' ≤ c ∧ c ≤ 'z') := by
  -- `Char.isAlpha` is read off by unfolding; the bounds on both sides are the same comparisons.
  have key : isLetter c = (decide (c.val ≥ 'A'.val ∧ c.val ≤ 'Z'.val) ||
      (decide (c.val ≥ 'a'.val) && decide (c.val ≤ 'z'.val))) := rfl
  rw [key]
  simp only [Bool.or_eq_true, Bool.and_eq_true, decide_eq_true_eq]
  rfl

theorem isNameText_iff_ascii (s : String) :
    isNameText s = true ↔ s ≠ "" ∧ ∀ c ∈ s.toList, ('A' ≤ c ∧ c ≤ 'Z') ∨ ('a' ≤ c ∧ c ≤ 'z') := by
  simp only [Lexer.isNameText_iff, ne_eq, String.toList_eq_nil_iff, isLetter_iff]

/-- The lexer reads a text as the single name token of that text exactly when it spells a name. -/
theorem tokenize_eq_ofName_iff (s : String) : tokenize s = [Token.ofName s] ↔ isNameText s = true := by
  constructor
  · intro h
    unfold tokenize at h
    cases hscan : Lexer.scan s.toList with
    | none => rw [Lexer.tokensOf_of_scan_none hscan] at h; cases h
    | some tr =>
      obtain ⟨t, r⟩ := tr
      rw [Lexer.tokensOf_of_scan_some hscan, List.cons.injEq] at h
      obtain ⟨rfl, -⟩ := h
      rcases Lexer.scan_token_shape hscan with ⟨p, hp⟩ | ⟨w, hw, hname⟩
      · cases congrArg Token.kind hp
      · rw [show s = w from congrArg Token.value hw]
        exact hname
  · intro h
    have := @Name.tokensOf_append ⟨s, h⟩ [] rfl
    rwa [List.append_nil, Lexer.tokensOf_nil] at this

theorem checkName_string_ok_iff (s : String) :
    (∃ n, Expr.checkName (some (.string s)) = .ok n) ↔ isNameText s = true := by
  constructor
  · rintro ⟨n, hn⟩
    simp only [Expr.checkName] at hn
    split at hn
    · cases hn
    · split at hn
      · assumption
      · cases hn
  · intro h
    have hne : s.isEmpty = false := by
      cases hs : s.isEmpty with
      | false => rfl
      | true => simp [isNameText, hs] at h
    exact ⟨⟨s, h⟩, by simp [Expr.checkName, hne, h]⟩

/-- **The name fields and the name tokens have one grammar.**  A name field accepts a text, a
`Name` can hold it, and the lexer reads it as exactly one name token of that text, all three for
the same texts: the non-empty ones made of ASCII letters.  A line break at the end is no letter,
so `"a\n"` is refused by all three. -/
theorem name_grammar (s : String) :
    ((∃ n, Expr.checkName (some (.string s)) = .ok n) ↔ tokenize s = [Token.ofName s]) ∧
    ((∃ n : Name, n.text = s) ↔ tokenize s = [Token.ofName s]) ∧
    (tokenize s = [Token.ofName s] ↔
      s ≠ "" ∧ ∀ c ∈ s.toList, ('A' ≤ c ∧ c ≤ 'Z') ∨ ('a' ≤ c ∧ c ≤ 'z')) := by
  rw [tokenize_eq_ofName_iff, checkName_string_ok_iff, isNameText_iff_ascii]
  refine ⟨Iff.rfl, ?_, Iff.rfl⟩
  constructor
  · rintro ⟨n, rfl⟩
    exact (isNameText_iff_ascii _).mp n.valid
  · intro h
    exact ⟨⟨s, (isNameText_iff_ascii s).mpr h⟩, rfl⟩

/-! ## Checks that succeed -/

namespace Checked

variable {α β : Type}

@[simp]
theorem under_eq_ok {parts : List LocPart} {a : Checked α} {x : α} :
    under parts a = .ok x ↔ a = .ok x := by
  cases a <;> simp [under]

@[simp]
theorem both_eq_ok {a : Checked α} {b : Checked β} {p : α × β} :
    both a b = .ok p ↔ a = .ok p.1 ∧ b = .ok p.2 := by
  obtain ⟨x, y⟩ := p
  cases a <;> cases b <;> simp [both]

@[simp]
theorem fail_ne_ok {k : IssueKind} {x : α} : (fail k : Checked α) ≠ .ok x := by
  simp [fail]

theorem map_eq_ok {a : Checked α} {f : α → β} {y : β} :
    a.map f = .ok y ↔ ∃ x, a = .ok x ∧ f x = y := by
  cases a <;> simp [Except.map]

/-- A check that fails names at least one issue. -/
def NamesIssue (c : Checked α) : Prop := ∀ es, c = .error es → es ≠ []

namespace NamesIssue

theorem ok (x : α) : NamesIssue (.ok x : Checked α) := by
  intro es h
  cases h

theorem fail (k : IssueKind) : NamesIssue (fail k : Checked α) := by
  intro es h
  cases h
  simp

theorem under {a : Checked α} (h : NamesIssue a) (parts : List LocPart) :
    NamesIssue (a.under parts) := by
  intro es hes
  cases a with
  | ok x => cases hes
  | error es' =>
    cases hes
    simpa using h es' rfl

theorem both {a : Checked α} {b : Checked β} (ha : NamesIssue a) (hb : NamesIssue b) :
    NamesIssue (Checked.both a b) := by
  intro es hes
  cases a with
  | ok x =>
    cases b with
    | ok y => cases hes
    | error e => cases hes; exact hb _ rfl
  | error e =>
    cases b with
    | ok y => cases hes; exact ha _ rfl
    | error e' =>
      cases hes
      exact fun hnil => ha _ rfl (List.append_eq_nil_iff.mp hnil).1

theorem map {a : Checked α} (h : NamesIssue a) (f : α → β) : NamesIssue (a.map f) := by
  intro es hes
  cases a with
  | ok x => cases hes
  | error es' =>
    cases hes
    exact h _ rfl

end NamesIssue

end Checked

namespace Expr

/-! ## A node, field by field -/

theorem member?_map_val : ∀ (fs : List (String × Value)) (k : String),
    (member? fs k).map (·.1) = (Value.object fs).field? k
  | [], _ => rfl
  | (k', w) :: rest, k => by
    by_cases h : k' = k
    · subst h
      simp [member?, Value.field?]
    · have ih := member?_map_val rest k
      simp only [Value.field?] at ih
      simp [member?, Value.field?, h, Option.map_map, Function.comp_def, ih]

theorem member?_eq_some {fs : List (String × Value)} {k : String} {w : Value}
    (h : (Value.object fs).field? k = some w) : ∃ hw, member? fs k = some ⟨w, hw⟩ := by
  rw [← member?_map_val] at h
  obtain ⟨⟨w', hw⟩, hm, rfl⟩ := Option.map_eq_some_iff.mp h
  exact ⟨hw, hm⟩

/-- A member is smaller than the object that holds it. -/
theorem sizeOf_lt_of_field? {fs : List (String × Value)} {k : String} {w : Value}
    (h : (Value.object fs).field? k = some w) : sizeOf w < sizeOf (Value.object fs) := by
  obtain ⟨hw, -⟩ := member?_eq_some h
  simp only [Value.object.sizeOf_spec]
  omega

theorem loadValue_object (o : Origin) (fs : List (String × Value)) :
    loadValue o (.object fs) = loadObject o fs := by
  rw [loadValue]

theorem loadValue_of_not_object (o : Origin) {v : Value} (h : ∀ fs, v ≠ .object fs) :
    loadValue o v = Checked.fail o.notObject := by
  rw [loadValue]
  exact h

/-- The check of a field that holds a child node. -/
def childAt (o : Origin) (t : Tag) (f : String) (fs : List (String × Value)) : Checked Expr :=
  match member? fs f with
  | none => (Checked.fail .missing).under (fieldLoc t f)
  | some w => (loadValue o w.1).under (fieldLoc t f)

/-- The check of a node's `name` field. -/
def nameAt (t : Tag) (fs : List (String × Value)) : Checked Name :=
  (checkName ((member? fs "name").map (·.1))).under (fieldLoc t "name")

/-- The check of a node's `op` field. -/
def opAt (t : Tag) (fs : List (String × Value)) : Checked Punctuator :=
  (checkOp ((member? fs "op").map (·.1))).under (fieldLoc t "op")

/-- The check of a call's `args` field, which may be left out. -/
def argsAt (o : Origin) (fs : List (String × Value)) : Checked (List Expr) :=
  match member? fs "args" with
  | none => .ok []
  | some ⟨.array items, _⟩ => (loadArgs o items 0).under (fieldLoc .call "args")
  | some _ => (Checked.fail .tupleType).under (fieldLoc .call "args")

/-- The check of a node with tag `t`: every field of the tag, in order. -/
def loadNode (o : Origin) (fs : List (String × Value)) : Tag → Checked Expr
  | .name => (nameAt .name fs).map .name
  | .assign => (Checked.both (nameAt .assign fs) (childAt o .assign "right" fs)).map
      fun (n, r) => .assign n r
  | .op =>
    (Checked.both (childAt o .op "left" fs)
      (Checked.both (opAt .op fs) (childAt o .op "right" fs))).map fun (l, p, r) => .binary l p r
  | .prefixed => (Checked.both (opAt .prefixed fs) (childAt o .prefixed "right" fs)).map
      fun (p, r) => .prefixed p r
  | .postfixed => (Checked.both (childAt o .postfixed "left" fs) (opAt .postfixed fs)).map
      fun (l, p) => .postfixed l p
  | .conditional =>
    (Checked.both (childAt o .conditional "condition" fs)
      (Checked.both (childAt o .conditional "then_arm" fs)
        (childAt o .conditional "else_arm" fs))).map fun (c, t, e) => .conditional c t e
  | .call => (Checked.both (childAt o .call "function" fs) (argsAt o fs)).map
      fun (f, as) => .call f as

/-- A node is checked by its tag, each field on its own. -/
theorem loadObject_eq (o : Origin) (fs : List (String × Value)) :
    loadObject o fs =
      match member? fs "kind" with
      | none => Checked.fail .unionTagNotFound
      | some k =>
        match Tag.ofValue? k.1 with
        | none => Checked.fail .unionTagInvalid
        | some t => loadNode o fs t := by
  rw [loadObject]
  rcases member? fs "kind" with _ | k
  · rfl
  · dsimp only
    rcases Tag.ofValue? k.1 with _ | t
    · rfl
    · cases t <;> rfl

theorem Tag.ofValue?_string_label (t : Tag) : Tag.ofValue? (.string t.label) = some t := by
  cases t <;> rfl

theorem Tag.eq_string_label {k : Value} {t : Tag} (h : Tag.ofValue? k = some t) :
    k = .string t.label := by
  cases k with
  | string s =>
    have hfind := List.find?_some h
    simp only [beq_iff_eq] at hfind
    rw [hfind]
  | _ => cases h

theorem loadObject_of_kind {o : Origin} {fs : List (String × Value)} {t : Tag}
    (h : (Value.object fs).field? "kind" = some (.string t.label)) :
    loadObject o fs = loadNode o fs t := by
  obtain ⟨hw, hm⟩ := member?_eq_some h
  rw [loadObject_eq, hm]
  dsimp only
  rw [Tag.ofValue?_string_label]

theorem kind_of_loadObject_eq_ok {o : Origin} {fs : List (String × Value)} {e : Expr}
    (h : loadObject o fs = .ok e) :
    ∃ t, (Value.object fs).field? "kind" = some (.string t.label) ∧ loadNode o fs t = .ok e := by
  rw [loadObject_eq] at h
  split at h
  · exact absurd h Checked.fail_ne_ok
  · next k hk =>
    split at h
    · exact absurd h Checked.fail_ne_ok
    · next t ht =>
      refine ⟨t, ?_, h⟩
      rw [← member?_map_val, hk, ← Tag.eq_string_label ht]
      rfl

/-! ## Fields that pass -/

section Fields

variable {o : Origin} {t : Tag} {fs : List (String × Value)}

theorem childAt_eq_ok {f : String} {e : Expr} :
    childAt o t f fs = .ok e ↔ ∃ w, (Value.object fs).field? f = some w ∧ loadValue o w = .ok e := by
  rw [← member?_map_val, childAt]
  rcases member? fs f with _ | ⟨w, hw⟩ <;> simp

theorem nameAt_eq_ok {n : Name} :
    nameAt t fs = .ok n ↔ (Value.object fs).field? "name" = some (.string n.text) := by
  rw [nameAt, Checked.under_eq_ok, member?_map_val]
  constructor
  · intro h
    unfold checkName at h
    split at h
    · exact absurd h Checked.fail_ne_ok
    · next s hs =>
      split at h
      · exact absurd h Checked.fail_ne_ok
      · split at h
        · cases h
          exact hs
        · exact absurd h Checked.fail_ne_ok
    · exact absurd h Checked.fail_ne_ok
  · intro h
    rw [h]
    have hv := n.valid
    have hne : n.text.isEmpty = false := by
      cases hs : n.text.isEmpty with
      | false => rfl
      | true => simp [isNameText, hs] at hv
    simp [checkName, hne, hv]

theorem Punctuator.ofString?_text (p : Punctuator) : Punctuator.ofString? p.text = some p := by
  cases p <;> rfl

theorem Punctuator.eq_text_of_ofString? {s : String} {p : Punctuator}
    (h : Punctuator.ofString? s = some p) : s = p.text := by
  unfold Punctuator.ofString? at h
  split at h
  · next c hc =>
    rw [← @String.ofList_toList s, hc, ← Punctuator.symbol_of_ofChar? h]
    rfl
  · cases h

theorem opAt_eq_ok {p : Punctuator} :
    opAt t fs = .ok p ↔ (Value.object fs).field? "op" = some (.string p.text) := by
  rw [opAt, Checked.under_eq_ok, member?_map_val]
  constructor
  · intro h
    unfold checkOp at h
    split at h
    · exact absurd h Checked.fail_ne_ok
    · next s hs =>
      split at h
      · next q hq =>
        cases h
        rw [hs, Punctuator.eq_text_of_ofString? hq]
      · exact absurd h Checked.fail_ne_ok
    · exact absurd h Checked.fail_ne_ok
  · intro h
    rw [h]
    simp [checkOp, Punctuator.ofString?_text]

theorem loadArgs_nil_eq_ok {i : Nat} {as : List Expr} : loadArgs o [] i = .ok as ↔ as = [] := by
  rw [loadArgs]
  simp [eq_comm]

theorem loadArgs_cons_eq_ok {x : Value} {xs : List Value} {i : Nat} {as : List Expr} :
    loadArgs o (x :: xs) i = .ok as ↔
      ∃ a as', as = a :: as' ∧ loadValue o x = .ok a ∧ loadArgs o xs (i + 1) = .ok as' := by
  rw [loadArgs, Checked.map_eq_ok]
  constructor
  · rintro ⟨⟨a, as'⟩, hboth, rfl⟩
    rw [Checked.both_eq_ok, Checked.under_eq_ok] at hboth
    exact ⟨a, as', rfl, hboth⟩
  · rintro ⟨a, as', rfl, ha, has⟩
    exact ⟨(a, as'), by simp [ha, has], rfl⟩

theorem argsAt_eq_ok {as : List Expr} :
    argsAt o fs = .ok as ↔ ((Value.object fs).field? "args" = none ∧ as = []) ∨
      ∃ items, (Value.object fs).field? "args" = some (.array items) ∧
        loadArgs o items 0 = .ok as := by
  rw [← member?_map_val, argsAt]
  rcases member? fs "args" with _ | ⟨w, hw⟩
  · simp [eq_comm]
  · cases w <;> simp

end Fields

/-! ## The grammar -/

mutual

/-- `Describes v e`: the document `v` is a node whose declared fields spell the tree `e`.  Only the
fields of its tag are read; a call's `args`, when absent, stands for no arguments. -/
inductive Describes : Value → Expr → Prop
  | name {fs : List (String × Value)} {n : Name} :
    (Value.object fs).field? "kind" = some (.string "name") →
    (Value.object fs).field? "name" = some (.string n.text) →
    Describes (.object fs) (.name n)
  | assign {fs : List (String × Value)} {n : Name} {w : Value} {r : Expr} :
    (Value.object fs).field? "kind" = some (.string "assign") →
    (Value.object fs).field? "name" = some (.string n.text) →
    (Value.object fs).field? "right" = some w → Describes w r →
    Describes (.object fs) (.assign n r)
  | binary {fs : List (String × Value)} {wl wr : Value} {l r : Expr} {p : Punctuator} :
    (Value.object fs).field? "kind" = some (.string "op") →
    (Value.object fs).field? "left" = some wl → Describes wl l →
    (Value.object fs).field? "op" = some (.string p.text) →
    (Value.object fs).field? "right" = some wr → Describes wr r →
    Describes (.object fs) (.binary l p r)
  | prefixed {fs : List (String × Value)} {w : Value} {r : Expr} {p : Punctuator} :
    (Value.object fs).field? "kind" = some (.string "prefix") →
    (Value.object fs).field? "op" = some (.string p.text) →
    (Value.object fs).field? "right" = some w → Describes w r →
    Describes (.object fs) (.prefixed p r)
  | postfixed {fs : List (String × Value)} {w : Value} {l : Expr} {p : Punctuator} :
    (Value.object fs).field? "kind" = some (.string "postfix") →
    (Value.object fs).field? "left" = some w → Describes w l →
    (Value.object fs).field? "op" = some (.string p.text) →
    Describes (.object fs) (.postfixed l p)
  | conditional {fs : List (String × Value)} {wc wt we : Value} {c t e : Expr} :
    (Value.object fs).field? "kind" = some (.string "conditional") →
    (Value.object fs).field? "condition" = some wc → Describes wc c →
    (Value.object fs).field? "then_arm" = some wt → Describes wt t →
    (Value.object fs).field? "else_arm" = some we → Describes we e →
    Describes (.object fs) (.conditional c t e)
  | call {fs : List (String × Value)} {w : Value} {f : Expr} :
    (Value.object fs).field? "kind" = some (.string "call") →
    (Value.object fs).field? "function" = some w → Describes w f →
    (Value.object fs).field? "args" = none →
    Describes (.object fs) (.call f [])
  | callWith {fs : List (String × Value)} {w : Value} {f : Expr} {items : List Value}
      {as : List Expr} :
    (Value.object fs).field? "kind" = some (.string "call") →
    (Value.object fs).field? "function" = some w → Describes w f →
    (Value.object fs).field? "args" = some (.array items) → DescribesEach items as →
    Describes (.object fs) (.call f as)

/-- `DescribesEach ws es`: the documents `ws` describe the trees `es`, one by one. -/
inductive DescribesEach : List Value → List Expr → Prop
  | nil : DescribesEach [] []
  | cons {w : Value} {e : Expr} {ws : List Value} {es : List Expr} :
    Describes w e → DescribesEach ws es → DescribesEach (w :: ws) (e :: es)

end

/-! ## The loader takes exactly the grammar -/

mutual

/-- Every document of the grammar loads as the tree it describes. -/
theorem loadValue_of_describes {o : Origin} : ∀ {v : Value} {e : Expr}, Describes v e →
    loadValue o v = .ok e
  | _, _, .name hk hn => by
    rw [loadValue_object, @loadObject_of_kind _ _ .name hk]
    simp only [loadNode, Checked.map_eq_ok]
    exact ⟨_, nameAt_eq_ok.mpr hn, rfl⟩
  | _, _, .assign hk hn hw hr => by
    rw [loadValue_object, @loadObject_of_kind _ _ .assign hk]
    simp only [loadNode, Checked.map_eq_ok, Checked.both_eq_ok]
    exact ⟨(_, _), ⟨nameAt_eq_ok.mpr hn, childAt_eq_ok.mpr ⟨_, hw, loadValue_of_describes hr⟩⟩, rfl⟩
  | _, _, .binary hk hwl hl hp hwr hr => by
    rw [loadValue_object, @loadObject_of_kind _ _ .op hk]
    simp only [loadNode, Checked.map_eq_ok, Checked.both_eq_ok]
    exact ⟨(_, _, _), ⟨childAt_eq_ok.mpr ⟨_, hwl, loadValue_of_describes hl⟩, opAt_eq_ok.mpr hp,
      childAt_eq_ok.mpr ⟨_, hwr, loadValue_of_describes hr⟩⟩, rfl⟩
  | _, _, .prefixed hk hp hw hr => by
    rw [loadValue_object, @loadObject_of_kind _ _ .prefixed hk]
    simp only [loadNode, Checked.map_eq_ok, Checked.both_eq_ok]
    exact ⟨(_, _), ⟨opAt_eq_ok.mpr hp, childAt_eq_ok.mpr ⟨_, hw, loadValue_of_describes hr⟩⟩, rfl⟩
  | _, _, .postfixed hk hw hl hp => by
    rw [loadValue_object, @loadObject_of_kind _ _ .postfixed hk]
    simp only [loadNode, Checked.map_eq_ok, Checked.both_eq_ok]
    exact ⟨(_, _), ⟨childAt_eq_ok.mpr ⟨_, hw, loadValue_of_describes hl⟩, opAt_eq_ok.mpr hp⟩, rfl⟩
  | _, _, .conditional hk hwc hc hwt ht hwe he => by
    rw [loadValue_object, @loadObject_of_kind _ _ .conditional hk]
    simp only [loadNode, Checked.map_eq_ok, Checked.both_eq_ok]
    exact ⟨(_, _, _), ⟨childAt_eq_ok.mpr ⟨_, hwc, loadValue_of_describes hc⟩,
      childAt_eq_ok.mpr ⟨_, hwt, loadValue_of_describes ht⟩,
      childAt_eq_ok.mpr ⟨_, hwe, loadValue_of_describes he⟩⟩, rfl⟩
  | _, _, .call hk hw hf hargs => by
    rw [loadValue_object, @loadObject_of_kind _ _ .call hk]
    simp only [loadNode, Checked.map_eq_ok, Checked.both_eq_ok]
    exact ⟨(_, _), ⟨childAt_eq_ok.mpr ⟨_, hw, loadValue_of_describes hf⟩,
      argsAt_eq_ok.mpr (.inl ⟨hargs, rfl⟩)⟩, rfl⟩
  | _, _, .callWith hk hw hf hargs has => by
    rw [loadValue_object, @loadObject_of_kind _ _ .call hk]
    simp only [loadNode, Checked.map_eq_ok, Checked.both_eq_ok]
    exact ⟨(_, _), ⟨childAt_eq_ok.mpr ⟨_, hw, loadValue_of_describes hf⟩,
      argsAt_eq_ok.mpr (.inr ⟨_, hargs, loadArgs_of_describesEach has 0⟩)⟩, rfl⟩

/-- Documents of the grammar, one by one, load as the trees they describe. -/
theorem loadArgs_of_describesEach {o : Origin} : ∀ {ws : List Value} {es : List Expr},
    DescribesEach ws es → ∀ i, loadArgs o ws i = .ok es
  | _, _, .nil, _ => loadArgs_nil_eq_ok.mpr rfl
  | _, _, .cons hw hws, i =>
    loadArgs_cons_eq_ok.mpr ⟨_, _, rfl, loadValue_of_describes hw, loadArgs_of_describesEach hws (i + 1)⟩

end

mutual

/-- Every tree the loader returns is described by the document it was loaded from. -/
theorem describes_of_loadValue {o : Origin} {v : Value} {e : Expr} (h : loadValue o v = .ok e) :
    Describes v e := by
  cases v with
  | object fs =>
    rw [loadValue_object] at h
    obtain ⟨t, hk, ht⟩ := kind_of_loadObject_eq_ok h
    -- One case per tag: take each field's check apart, then read the children back by recursion.
    cases t with
    | name =>
      simp only [loadNode, Checked.map_eq_ok] at ht
      obtain ⟨n, hn, rfl⟩ := ht
      exact .name hk (nameAt_eq_ok.mp hn)
    | assign =>
      simp only [loadNode, Checked.map_eq_ok, Checked.both_eq_ok] at ht
      obtain ⟨⟨n, r⟩, ⟨hn, hr⟩, rfl⟩ := ht
      obtain ⟨w, hw, hwr⟩ := childAt_eq_ok.mp hr
      exact .assign hk (nameAt_eq_ok.mp hn) hw (describes_of_loadValue hwr)
    | op =>
      simp only [loadNode, Checked.map_eq_ok, Checked.both_eq_ok] at ht
      obtain ⟨⟨l, p, r⟩, ⟨hl, hp, hr⟩, rfl⟩ := ht
      obtain ⟨wl, hwl, hwll⟩ := childAt_eq_ok.mp hl
      obtain ⟨wr, hwr, hwrr⟩ := childAt_eq_ok.mp hr
      exact .binary hk hwl (describes_of_loadValue hwll) (opAt_eq_ok.mp hp) hwr
        (describes_of_loadValue hwrr)
    | prefixed =>
      simp only [loadNode, Checked.map_eq_ok, Checked.both_eq_ok] at ht
      obtain ⟨⟨p, r⟩, ⟨hp, hr⟩, rfl⟩ := ht
      obtain ⟨w, hw, hwr⟩ := childAt_eq_ok.mp hr
      exact .prefixed hk (opAt_eq_ok.mp hp) hw (describes_of_loadValue hwr)
    | postfixed =>
      simp only [loadNode, Checked.map_eq_ok, Checked.both_eq_ok] at ht
      obtain ⟨⟨l, p⟩, ⟨hl, hp⟩, rfl⟩ := ht
      obtain ⟨w, hw, hwl⟩ := childAt_eq_ok.mp hl
      exact .postfixed hk hw (describes_of_loadValue hwl) (opAt_eq_ok.mp hp)
    | conditional =>
      simp only [loadNode, Checked.map_eq_ok, Checked.both_eq_ok] at ht
      obtain ⟨⟨c, t, e⟩, ⟨hc, ht, he⟩, rfl⟩ := ht
      obtain ⟨wc, hwc, hwcc⟩ := childAt_eq_ok.mp hc
      obtain ⟨wt, hwt, hwtt⟩ := childAt_eq_ok.mp ht
      obtain ⟨we, hwe, hwee⟩ := childAt_eq_ok.mp he
      exact .conditional hk hwc (describes_of_loadValue hwcc) hwt (describes_of_loadValue hwtt) hwe
        (describes_of_loadValue hwee)
    | call =>
      simp only [loadNode, Checked.map_eq_ok, Checked.both_eq_ok] at ht
      obtain ⟨⟨f, as⟩, ⟨hf, has⟩, rfl⟩ := ht
      obtain ⟨w, hw, hwf⟩ := childAt_eq_ok.mp hf
      rcases argsAt_eq_ok.mp has with ⟨hnone, rfl⟩ | ⟨items, hitems, hload⟩
      · exact .call hk hw (describes_of_loadValue hwf) hnone
      · exact .callWith hk hw (describes_of_loadValue hwf) hitems (describesEach_of_loadArgs hload)
  | _ => rw [loadValue_of_not_object o (by simp)] at h; exact absurd h Checked.fail_ne_ok
termination_by sizeOf v
decreasing_by
  all_goals
    subst_vars
    first
    | exact sizeOf_lt_of_field? ‹_›
    | have hargs := sizeOf_lt_of_field? ‹(Value.object _).field? "args" = some (.array _)›
      simp only [Value.array.sizeOf_spec] at hargs
      omega

/-- Every list of trees the loader returns for a call's arguments is described by its documents. -/
theorem describesEach_of_loadArgs {o : Origin} {items : List Value} {i : Nat} {as : List Expr}
    (h : loadArgs o items i = .ok as) : DescribesEach items as := by
  cases items with
  | nil =>
    rw [loadArgs_nil_eq_ok.mp h]
    exact .nil
  | cons x xs =>
    obtain ⟨a, as', rfl, hx, hxs⟩ := loadArgs_cons_eq_ok.mp h
    exact .cons (describes_of_loadValue hx) (describesEach_of_loadArgs hxs)
termination_by sizeOf items
decreasing_by all_goals subst_vars; simp only [List.cons.sizeOf_spec]; omega

end

/-- **The loader takes exactly the grammar.**  A node loads as a tree exactly when it describes
that tree. -/
theorem loadValue_eq_ok_iff {o : Origin} {v : Value} {e : Expr} :
    loadValue o v = .ok e ↔ Describes v e :=
  ⟨describes_of_loadValue, loadValue_of_describes⟩

/-! ## Refusals name their faults -/

theorem namesIssue_checkName (w : Option Value) : (checkName w).NamesIssue := by
  unfold checkName
  split
  · exact .fail _
  · split
    · exact .fail _
    · split
      · exact .ok _
      · exact .fail _
  · exact .fail _

theorem namesIssue_checkOp (w : Option Value) : (checkOp w).NamesIssue := by
  unfold checkOp
  split
  · exact .fail _
  · split
    · exact .ok _
    · exact .fail _
  · exact .fail _

mutual

/-- A node the loader refuses comes with at least one issue. -/
theorem namesIssue_loadValue (o : Origin) (v : Value) : (loadValue o v).NamesIssue := by
  cases v with
  | object fs =>
    -- Each field's check names its faults: a missing field or a bad name or operator by a single
    -- issue, a child node by recursion.
    have child : ∀ (t : Tag) (f : String), (childAt o t f fs).NamesIssue := by
      intro t f
      unfold childAt
      split
      · exact (Checked.NamesIssue.fail _).under _
      · next w _ => exact (namesIssue_loadValue o w.1).under _
    have args : (argsAt o fs).NamesIssue := by
      unfold argsAt
      split
      · exact .ok _
      · next items _ _ => exact (namesIssue_loadArgs o items 0).under _
      · exact (Checked.NamesIssue.fail _).under _
    have name : ∀ t, (nameAt t fs).NamesIssue := fun t => (namesIssue_checkName _).under _
    have op : ∀ t, (opAt t fs).NamesIssue := fun t => (namesIssue_checkOp _).under _
    rw [loadValue_object, loadObject_eq]
    split
    · exact .fail _
    · split
      · exact .fail _
      · next t _ =>
        cases t with
        | name => exact (name _).map _
        | assign => exact ((name _).both (child _ _)).map _
        | op => exact ((child _ _).both ((op _).both (child _ _))).map _
        | prefixed => exact ((op _).both (child _ _)).map _
        | postfixed => exact ((child _ _).both (op _)).map _
        | conditional => exact ((child _ _).both ((child _ _).both (child _ _))).map _
        | call => exact ((child _ _).both args).map _
  | _ => rw [loadValue_of_not_object o (by simp)]; exact .fail _
termination_by sizeOf v
decreasing_by
  all_goals
    subst_vars
    first
    | have := (‹{w // sizeOf w < sizeOf fs}›).2
      simp only [Value.object.sizeOf_spec]
      omega
    | have hitems := ‹sizeOf (Value.array _) < sizeOf fs›
      simp only [Value.array.sizeOf_spec, Value.object.sizeOf_spec] at hitems ⊢
      omega

/-- A call's arguments the loader refuses come with at least one issue. -/
theorem namesIssue_loadArgs (o : Origin) (items : List Value) (i : Nat) :
    (loadArgs o items i).NamesIssue := by
  cases items with
  | nil =>
    rw [loadArgs]
    exact .ok _
  | cons x xs =>
    rw [loadArgs]
    exact (((namesIssue_loadValue o x).under _).both (namesIssue_loadArgs o xs (i + 1))).map _
termination_by sizeOf items
decreasing_by all_goals subst_vars; simp only [List.cons.sizeOf_spec]; omega

end

/-- **A mapping loads exactly when it is a document of the tree grammar.**  Loaded as a mapping, an
object gives a tree exactly when it describes that tree: its `kind` is one of the seven tags, the
fields of the tag are all present but a call's `args`, names and operators are valid, and every
child is again such a document; keys no tag declares are not read.  An object that describes no
tree is refused with at least one issue. -/
theorem load_mapping_iff_describes (fs : List (String × Value)) :
    (∀ e, load (.value (.object fs)) = .ok e ↔ Describes (.object fs) e) ∧
    (∀ es, load (.value (.object fs)) = .error es → es ≠ []) := by
  have hload : load (.value (.object fs)) = loadValue .mapping (.object fs) := by
    rw [loadValue_object]
    rfl
  rw [hload]
  exact ⟨fun _ => loadValue_eq_ok_iff, namesIssue_loadValue .mapping (.object fs)⟩

end Expr

end MiniExpr
