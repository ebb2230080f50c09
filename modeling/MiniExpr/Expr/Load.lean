import MiniExpr.Expr.Basic
import MiniExpr.Json.Reader
/-!
# Loading expression trees

A tree is written as nested objects, each with a `kind` tag and the fields of its tag:

* `name`: `name`;  `assign`: `name`, `right`;  `op`: `left`, `op`, `right`;
* `prefix`: `op`, `right`;  `postfix`: `left`, `op`;
* `conditional`: `condition`, `then_arm`, `else_arm`;  `call`: `function`, `args`.

`args` may be left out and then is empty; every other field is required.  Keys a tag does not
declare are ignored.

Loading checks every field of a node, in the order above, and reports every fault it finds: a
node without a tag, or with an unknown tag, is one fault at that node; otherwise each field adds
its own faults, under the path `[tag, field]` (and the index, for an argument).  A node that is
not an object at all is a fault whose kind depends on where the tree comes from: a value already
in memory (`Origin.mapping`) or JSON text (`Origin.text`).
-/

namespace MiniExpr.Expr

open Json (Value)

/-- Where a tree comes from, which decides how a node that is not an object is reported. -/
inductive Origin where
  /-- A value already in memory. -/
  | mapping
  /-- JSON text. -/
  | text
  deriving DecidableEq, Repr

/-- The fault of a node that is not an object. -/
def Origin.notObject : Origin → IssueKind
  | .mapping => .modelAttributesType
  | .text => .dictType

/-- The tag of a node. -/
inductive Tag where
  | name | assign | op | prefixed | postfixed | conditional | call
  deriving DecidableEq, Repr

namespace Tag

/-- The text of a tag. -/
def label : Tag → String
  | name => "name"
  | assign => "assign"
  | op => "op"
  | prefixed => "prefix"
  | postfixed => "postfix"
  | conditional => "conditional"
  | call => "call"

/-- All tags. -/
def all : List Tag := [name, assign, op, prefixed, postfixed, conditional, call]

/-- The tag a value names: it must be the text of one of the seven. -/
def ofValue? : Value → Option Tag
  | .string s => all.find? fun t => t.label == s
  | _ => none

end Tag

/-- The value of member `k`, with the fact that it is smaller than the members it came from. -/
def member? : (fs : List (String × Value)) → String → Option {w : Value // sizeOf w < sizeOf fs}
  | [], _ => none
  | (k', w) :: rest, k =>
    if k' = k then some ⟨w, by simp only [Prod.mk.sizeOf_spec, List.cons.sizeOf_spec]; omega⟩
    else (member? rest k).map fun x =>
      ⟨x.1, by have := x.2; simp only [List.cons.sizeOf_spec]; omega⟩

/-- Checks a name field. -/
def checkName : Option Value → Checked Name
  | none => Checked.fail .missing
  | some (.string s) =>
    if s.isEmpty then Checked.fail .stringTooShort
    else if h : isNameText s = true then .ok ⟨s, h⟩
    else Checked.fail .stringPatternMismatch
  | some _ => Checked.fail .stringType

/-- Checks an operator field: the text of one of the punctuators. -/
def checkOp : Option Value → Checked Punctuator
  | none => Checked.fail .missing
  | some (.string s) =>
    match Punctuator.ofString? s with
    | some p => .ok p
    | none => Checked.fail .enumMember
  | some _ => Checked.fail .enumMember

/-- The path of field `f` of a node tagged `t`. -/
def fieldLoc (t : Tag) (f : String) : List LocPart := [.key t.label, .key f]

mutual

/-- Loads a node. -/
def loadValue (o : Origin) (v : Value) : Checked Expr :=
  match v with
  | .object fs => loadObject o fs
  | _ => Checked.fail o.notObject
termination_by sizeOf v

/-- Loads the node with members `fs`. -/
def loadObject (o : Origin) (fs : List (String × Value)) : Checked Expr :=
  match member? fs "kind" with
  | none => Checked.fail .unionTagNotFound
  | some k =>
    match Tag.ofValue? k.1 with
    | none => Checked.fail .unionTagInvalid
    | some .name =>
      (Checked.under (fieldLoc .name "name") (checkName ((member? fs "name").map (·.1)))).map .name
    | some .assign =>
      let n := Checked.under (fieldLoc .assign "name") (checkName ((member? fs "name").map (·.1)))
      let r : Checked Expr := match member? fs "right" with
        | none => Checked.fail .missing |>.under (fieldLoc .assign "right")
        | some w => (loadValue o w.1).under (fieldLoc .assign "right")
      (Checked.both n r).map fun (n, r) => .assign n r
    | some .op =>
      let l : Checked Expr := match member? fs "left" with
        | none => Checked.fail .missing |>.under (fieldLoc .op "left")
        | some w => (loadValue o w.1).under (fieldLoc .op "left")
      let p := Checked.under (fieldLoc .op "op") (checkOp ((member? fs "op").map (·.1)))
      let r : Checked Expr := match member? fs "right" with
        | none => Checked.fail .missing |>.under (fieldLoc .op "right")
        | some w => (loadValue o w.1).under (fieldLoc .op "right")
      (Checked.both l (Checked.both p r)).map fun (l, p, r) => .binary l p r
    | some .prefixed =>
      let p := Checked.under (fieldLoc .prefixed "op") (checkOp ((member? fs "op").map (·.1)))
      let r : Checked Expr := match member? fs "right" with
        | none => Checked.fail .missing |>.under (fieldLoc .prefixed "right")
        | some w => (loadValue o w.1).under (fieldLoc .prefixed "right")
      (Checked.both p r).map fun (p, r) => .prefixed p r
    | some .postfixed =>
      let l : Checked Expr := match member? fs "left" with
        | none => Checked.fail .missing |>.under (fieldLoc .postfixed "left")
        | some w => (loadValue o w.1).under (fieldLoc .postfixed "left")
      let p := Checked.under (fieldLoc .postfixed "op") (checkOp ((member? fs "op").map (·.1)))
      (Checked.both l p).map fun (l, p) => .postfixed l p
    | some .conditional =>
      let c : Checked Expr := match member? fs "condition" with
        | none => Checked.fail .missing |>.under (fieldLoc .conditional "condition")
        | some w => (loadValue o w.1).under (fieldLoc .conditional "condition")
      let t : Checked Expr := match member? fs "then_arm" with
        | none => Checked.fail .missing |>.under (fieldLoc .conditional "then_arm")
        | some w => (loadValue o w.1).under (fieldLoc .conditional "then_arm")
      let e : Checked Expr := match member? fs "else_arm" with
        | none => Checked.fail .missing |>.under (fieldLoc .conditional "else_arm")
        | some w => (loadValue o w.1).under (fieldLoc .conditional "else_arm")
      (Checked.both c (Checked.both t e)).map fun (c, t, e) => .conditional c t e
    | some .call =>
      let f : Checked Expr := match member? fs "function" with
        | none => Checked.fail .missing |>.under (fieldLoc .call "function")
        | some w => (loadValue o w.1).under (fieldLoc .call "function")
      let as : Checked (List Expr) := match member? fs "args" with
        | none => .ok []
        | some ⟨.array items, _h⟩ => (loadArgs o items 0).under (fieldLoc .call "args")
        | some _ => Checked.fail .tupleType |>.under (fieldLoc .call "args")
      (Checked.both f as).map fun (f, as) => .call f as
termination_by sizeOf fs
decreasing_by
  all_goals first
    | exact w.2
    | (simp only [Value.array.sizeOf_spec] at _h; omega)

/-- Loads the arguments `items` of a call, the first of them at index `i`. -/
def loadArgs (o : Origin) (items : List Value) (i : Nat) : Checked (List Expr) :=
  match items with
  | [] => .ok []
  | x :: xs =>
    (Checked.both ((loadValue o x).under [.index i]) (loadArgs o xs (i + 1))).map
      fun (a, as) => a :: as
termination_by sizeOf items

end

/-- What a tree is loaded from. -/
inductive Source where
  /-- A value in memory: an object is checked as it is, a string is read as JSON text, and
  anything else is refused. -/
  | value (v : Value)
  /-- Bytes of JSON text. -/
  | bytes (b : ByteArray)

/-- The bounds on JSON text that holds a tree: arrays and objects that are not empty nest at most
200 deep, and the integer part of a number has at most 4300 digits. -/
def treeLimits : Json.Limits := ⟨200, 4300⟩

/-- Loads a tree from JSON text: a text that is not one JSON document within `treeLimits` is a
single fault. -/
def loadText (s : String) : Checked Expr :=
  match Json.parseTextWithin treeLimits s with
  | .ok v => loadValue .text v
  | .error _ => Checked.fail .jsonInvalid

/-- Loads a tree. -/
def load : Source → Checked Expr
  | .value (.object fs) => loadObject .mapping fs
  | .value (.string s) => loadText s
  | .value _ => Checked.fail .jsonType
  | .bytes b =>
    match Json.parseBytesWithin treeLimits b with
    | .ok v => loadValue .text v
    | .error _ => Checked.fail .jsonInvalid

end MiniExpr.Expr
