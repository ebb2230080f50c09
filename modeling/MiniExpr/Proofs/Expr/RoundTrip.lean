import MiniExpr.Expr.Dump
import MiniExpr.Proofs.Expr.Grammar
import MiniExpr.Proofs.Json.Reread
/-!
# Dumping a tree and loading it back

`Expr.toValue` writes a tree as a document of the loader's grammar (`describes_toValue`), built
from strings, arrays and objects with distinct keys (`toValue_plain`), so its text reads back as
that document whenever the reader's bounds allow (`Json.parseWithin_render`).  The bound that
matters is the depth: a call's argument list is an array of its own, so a document nests deeper
than its tree, up to twice as deep less one along a chain of calls (`depth_toValue_le`).

The text of a dump, in either layout and from its bytes as well, loads back as the tree exactly
when its document nests at most 200 levels, and is refused as malformed JSON otherwise
(`load_dumpWith`).  Trees of depth at most 100 always pass (`depth_toValue_le_of_depth_le`);
`nestedCalls 100`, of depth 101, is refused.  Without the bound the text still determines the tree (`dump_injective`).
-/

namespace MiniExpr.Expr

open Json (Value)

/-! ## The dumped document -/

/-- A node is plain when its keys are distinct and its fields' values are plain. -/
theorem plain_node (t : Tag) {fields : List (String × Value)}
    (hkeys : ("kind" :: fields.map (·.1)).Nodup) (hvals : Json.plainMembers fields = true) :
    (node t fields).plain = true := by
  simp only [node, Json.Value.plain, Json.plainMembers, List.map_cons, Bool.and_eq_true,
    decide_eq_true_eq]
  exact ⟨hkeys, trivial, hvals⟩

mutual

/-- A dumped document has no numbers and no key twice in one object. -/
theorem toValue_plain : ∀ e : Expr, (toValue e).plain = true
  | .name _ => plain_node _ (by simp) rfl
  | .assign _ r =>
    plain_node _ (by simp) (by simp [Json.plainMembers, Json.Value.plain, toValue_plain r])
  | .binary l _ r =>
    plain_node _ (by simp)
      (by simp [Json.plainMembers, Json.Value.plain, toValue_plain l, toValue_plain r])
  | .prefixed _ r =>
    plain_node _ (by simp) (by simp [Json.plainMembers, Json.Value.plain, toValue_plain r])
  | .postfixed l _ =>
    plain_node _ (by simp) (by simp [Json.plainMembers, Json.Value.plain, toValue_plain l])
  | .conditional c t e =>
    plain_node _ (by simp)
      (by simp [Json.plainMembers, toValue_plain c, toValue_plain t, toValue_plain e])
  | .call f as =>
    plain_node _ (by simp)
      (by simp [Json.plainMembers, Json.Value.plain, toValue_plain f, plainItems_toValues as])

theorem plainItems_toValues : ∀ es : List Expr, Json.plainItems (toValues es) = true
  | [] => rfl
  | e :: es => by simp [toValues, Json.plainItems, toValue_plain e, plainItems_toValues es]

end

mutual

/-- A dumped document describes its tree: the `kind` first, then every declared field. -/
theorem describes_toValue : ∀ e : Expr, Describes (toValue e) e
  | .name _ => .name rfl rfl
  | .assign _ r => .assign rfl rfl rfl (describes_toValue r)
  | .binary l _ r => .binary rfl rfl (describes_toValue l) rfl rfl (describes_toValue r)
  | .prefixed _ r => .prefixed rfl rfl rfl (describes_toValue r)
  | .postfixed l _ => .postfixed rfl rfl (describes_toValue l) rfl
  | .conditional c t e =>
    .conditional rfl rfl (describes_toValue c) rfl (describes_toValue t) rfl (describes_toValue e)
  | .call f as => .callWith rfl rfl (describes_toValue f) rfl (describesEach_toValues as)

theorem describesEach_toValues : ∀ es : List Expr, DescribesEach (toValues es) es
  | [] => .nil
  | e :: es => .cons (describes_toValue e) (describesEach_toValues es)

end

/-- The loader reads a dumped document back as its tree. -/
theorem loadValue_toValue (o : Origin) (e : Expr) : loadValue o (toValue e) = .ok e :=
  loadValue_of_describes (describes_toValue e)

theorem toValue_injective {e e' : Expr} (h : toValue e = toValue e') : e = e' := by
  have hload := loadValue_toValue .text e
  rw [h, loadValue_toValue] at hload
  exact (Except.ok.inj hload).symm

/-! ## Depth -/

mutual

/-- How many nodes deep a tree is: a name is one level, and any other node one more than its
deepest part, a call's function and arguments alike. -/
def depth : Expr → Nat
  | name _ => 1
  | assign _ r => depth r + 1
  | binary l _ r => max (depth l) (depth r) + 1
  | prefixed _ r => depth r + 1
  | postfixed l _ => depth l + 1
  | conditional c t e => max (depth c) (max (depth t) (depth e)) + 1
  | call f as => max (depth f) (depthArgs as) + 1

/-- The greatest depth of a list of trees. -/
def depthArgs : List Expr → Nat
  | [] => 0
  | a :: as => max (depth a) (depthArgs as)

end

theorem depth_pos (e : Expr) : 0 < e.depth := by
  cases e <;> simp [depth]

mutual

/-- A document nests at most twice as deep as its tree, less one: each node is an object, and a
call's arguments add an array. -/
theorem depth_toValue_le : ∀ e : Expr, (toValue e).depth ≤ 2 * e.depth - 1
  | .name _ => by simp [toValue, node, Json.Value.depth, Json.depthMembers, depth]
  | .assign _ r => by
    have := depth_toValue_le r
    simp only [toValue, node, Json.Value.depth, Json.depthMembers, depth]
    omega
  | .binary l _ r => by
    have := depth_toValue_le l
    have := depth_toValue_le r
    simp only [toValue, node, Json.Value.depth, Json.depthMembers, depth]
    omega
  | .prefixed _ r => by
    have := depth_toValue_le r
    simp only [toValue, node, Json.Value.depth, Json.depthMembers, depth]
    omega
  | .postfixed l _ => by
    have := depth_toValue_le l
    simp only [toValue, node, Json.Value.depth, Json.depthMembers, depth]
    omega
  | .conditional c t e => by
    have := depth_toValue_le c
    have := depth_toValue_le t
    have := depth_toValue_le e
    simp only [toValue, node, Json.Value.depth, Json.depthMembers, depth]
    omega
  | .call f [] => by
    have := depth_toValue_le f
    simp only [toValue, toValues, node, Json.Value.depth, Json.depthMembers, depth, depthArgs]
    omega
  | .call f (a :: as) => by
    have := depth_toValue_le f
    have := depthItems_toValues_le (a :: as)
    have := depth_pos a
    simp only [toValue, toValues, node, Json.Value.depth, Json.depthMembers, depth,
      depthArgs] at *
    omega

theorem depthItems_toValues_le : ∀ es : List Expr,
    Json.depthItems (toValues es) ≤ 2 * depthArgs es - 1
  | [] => by simp [toValues, Json.depthItems]
  | e :: es => by
    have := depth_toValue_le e
    have := depthItems_toValues_le es
    simp only [toValues, Json.depthItems, depthArgs]
    omega

end

/-- Trees at most 100 levels deep dump within the reader's depth bound. -/
theorem depth_toValue_le_of_depth_le {e : Expr} (h : e.depth ≤ 100) : (toValue e).depth ≤ 200 := by
  have := depth_toValue_le e
  omega

/-! ## Dumping with a whole-number indent -/

theorem indentOf_isOk_iff (n : Int) : (∃ w, indentOf n = .ok w) ↔ 0 ≤ n ∧ n < Int.pow 2 64 := by
  constructor
  · rintro ⟨w, hw⟩
    unfold indentOf at hw
    by_cases hneg : n < 0
    · rw [if_pos hneg] at hw
      cases hw
    · by_cases hbig : n ≥ Int.pow 2 64
      · rw [if_neg hneg, if_pos hbig] at hw
        cases hw
      · omega
  · rintro ⟨hlo, hhi⟩
    exact ⟨n.toNat, by rw [indentOf, if_neg (by omega), if_neg (by omega)]⟩

/-- A dump that succeeds is the text of the tree in one layout, the layout the indent gives any
other tree too. -/
theorem dumpWith_eq_ok {e : Expr} {indent : Option Int} {text : String}
    (h : dumpWith e indent = .ok text) :
    ∃ w : Option Nat, text = e.dump w ∧ ∀ e', dumpWith e' indent = .ok (e'.dump w) := by
  cases indent with
  | none => exact ⟨none, (Except.ok.inj h).symm, fun _ => rfl⟩
  | some n =>
    cases hn : indentOf n with
    | error k => simp [dumpWith, hn, Except.map] at h
    | ok w =>
      simp only [dumpWith, hn, Except.map, Except.ok.injEq] at h
      exact ⟨some w, h.symm, fun e' => by simp [dumpWith, hn, Except.map]⟩

theorem dumpWith_isOk_iff (e : Expr) (indent : Option Int) :
    (∃ text, dumpWith e indent = .ok text) ↔ ∀ n, indent = some n → 0 ≤ n ∧ n < Int.pow 2 64 := by
  cases indent with
  | none => simp [dumpWith]
  | some n =>
    have hok : (∃ text, dumpWith e (some n) = .ok text) ↔ ∃ w, indentOf n = .ok w := by
      cases hn : indentOf n <;> simp [dumpWith, hn, Except.map]
    rw [hok, indentOf_isOk_iff]
    simp

/-! ## Loading a dump -/

/-- The text of a dump, in either layout, loads back as its tree exactly when its document nests
within the bound. -/
theorem loadText_dump (e : Expr) (w : Option Nat) :
    loadText (e.dump w) =
      if (toValue e).depth ≤ 200 then .ok e else Checked.fail .jsonInvalid := by
  rw [loadText, dump.eq_def, Json.parseTextWithin, Json.parseWithin_render _ (toValue_plain e),
    treeLimits]
  by_cases hd : (toValue e).depth ≤ 200
  · rw [if_pos hd, if_pos hd]
    exact loadValue_toValue .text e
  · rw [if_neg hd, if_neg hd]

/-- The UTF-8 bytes of a text load as the text does. -/
theorem load_bytes_toUTF8 (s : String) : load (.bytes s.toUTF8) = loadText s := by
  rw [load, Json.parseBytesWithin, Json.fromUTF8?_toUTF8]
  rfl

/-- The same from the text's UTF-8 bytes. -/
theorem loadBytes_dump (e : Expr) (w : Option Nat) :
    load (.bytes (e.dump w).toUTF8) =
      if (toValue e).depth ≤ 200 then .ok e else Checked.fail .jsonInvalid := by
  rw [load_bytes_toUTF8, loadText_dump]

/-- Two trees with the same dump in one layout are equal, however deep. -/
theorem dump_injective (w : Option Nat) {e e' : Expr} (h : e.dump w = e'.dump w) : e = e' :=
  toValue_injective (Json.render_injective _ (toValue_plain e) (toValue_plain e') h)

/-- **Dumping and loading.**  A dump succeeds exactly for no indent or an indent below `2^64`.  Its
text, and its UTF-8 bytes, load back as the tree when the document nests at most 200 arrays and
objects deep, and are refused as malformed JSON otherwise; no other tree has the same dump. -/
theorem load_dumpWith (e : Expr) (indent : Option Int) :
    ((∃ text, dumpWith e indent = .ok text) ↔ ∀ n, indent = some n → 0 ≤ n ∧ n < Int.pow 2 64) ∧
    ∀ text, dumpWith e indent = .ok text →
      load (.value (.string text)) =
        (if (toValue e).depth ≤ 200 then .ok e else Checked.fail .jsonInvalid) ∧
      load (.bytes text.toUTF8) =
        (if (toValue e).depth ≤ 200 then .ok e else Checked.fail .jsonInvalid) ∧
      ∀ e', dumpWith e' indent = .ok text → e' = e := by
  refine ⟨dumpWith_isOk_iff e indent, fun text h => ?_⟩
  obtain ⟨w, rfl, hsame⟩ := dumpWith_eq_ok h
  refine ⟨loadText_dump e w, loadBytes_dump e w, fun e' h' => ?_⟩
  rw [hsame e', Except.ok.injEq] at h'
  exact dump_injective w h'

/-- A chain of calls, each the only argument of the next: `f(f(…f(a)…))`. -/
def nestedCalls : Nat → Expr
  | 0 => name ⟨"a", by simp [isNameText, isLetter]⟩
  | k + 1 => call (name ⟨"f", by simp [isNameText, isLetter]⟩) [nestedCalls k]

theorem depth_nestedCalls (k : Nat) : (nestedCalls k).depth = k + 1 := by
  induction k with
  | zero => rfl
  | succ k ih => simp [nestedCalls, depth, depthArgs, ih]

theorem depth_toValue_nestedCalls (k : Nat) : (toValue (nestedCalls k)).depth = 2 * k + 1 := by
  induction k with
  | zero => rfl
  | succ k ih =>
    simp only [nestedCalls, toValue, toValues, node, Json.Value.depth, Json.depthMembers,
      Json.depthItems, ih]
    omega

theorem load_dump_nestedCalls_one :
    load (.value (.string ((nestedCalls 1).dump (some 2)))) = .ok (nestedCalls 1) := by
  have hdump : dumpWith (nestedCalls 1) (some 2) = .ok ((nestedCalls 1).dump (some 2)) := rfl
  rw [((load_dumpWith (nestedCalls 1) (some 2)).2 _ hdump).1, depth_toValue_nestedCalls,
    if_pos (by omega)]

/-- A tree 101 levels deep whose dump the loader refuses, and an indent of `2^64`, which no dump
takes. -/
theorem load_dump_nestedCalls :
    (nestedCalls 100).depth ≤ 150 ∧
      load (.value (.string ((nestedCalls 100).dump none))) = Checked.fail .jsonInvalid ∧
      dumpWith (nestedCalls 0) (some (Int.pow 2 64)) = .error .tooBig := by
  refine ⟨by rw [depth_nestedCalls]; omega, ?_, rfl⟩
  rw [load, loadText_dump, depth_toValue_nestedCalls, if_neg (by omega)]

end MiniExpr.Expr
