import MiniExpr.Expr.Load
import MiniExpr.Json.Writer
/-!
# Writing expression trees as JSON

`Expr.toValue` writes a tree in the form that `Expr.load` reads: each node an object whose first
member is its `kind` tag, followed by every field of the tag in order, a call's `args` included even
when empty.  `Expr.dump` renders that value compactly or indented; an indent is a count of spaces
that fits in an unsigned 64-bit word (`indentOf`).
-/

namespace MiniExpr.Expr

open Json (Value)

/-- A tagged node with its fields, in order. -/
def node (t : Tag) (fields : List (String × Value)) : Value :=
  .object (("kind", .string t.label) :: fields)

mutual

/-- The JSON value of a tree. -/
def toValue : Expr → Value
  | name n => node .name [("name", .string n.text)]
  | assign n r => node .assign [("name", .string n.text), ("right", toValue r)]
  | binary l o r => node .op [("left", toValue l), ("op", .string o.text), ("right", toValue r)]
  | prefixed o r => node .prefixed [("op", .string o.text), ("right", toValue r)]
  | postfixed l o => node .postfixed [("left", toValue l), ("op", .string o.text)]
  | conditional c t e =>
    node .conditional [("condition", toValue c), ("then_arm", toValue t), ("else_arm", toValue e)]
  | call f as => node .call [("function", toValue f), ("args", .array (toValues as))]

/-- The JSON values of a list of trees. -/
def toValues : List Expr → List Value
  | [] => []
  | a :: as => toValue a :: toValues as

end

/-- The JSON text of a tree: compact without an indent, else indented by `indent` spaces per
level. -/
def dump (e : Expr) (indent : Option Nat) : String :=
  let layout := match indent with
    | none => Json.Layout.compact
    | some w => Json.Layout.indented w
  e.toValue.render layout

/-- Why a whole number cannot be an indent. -/
inductive IndentError where
  /-- It is negative. -/
  | negative
  /-- It does not fit in 64 bits. -/
  | tooBig
  deriving DecidableEq, Repr

/-- The message of an indent error. -/
def IndentError.message : IndentError → String
  | .negative => "can't convert negative int to unsigned"
  | .tooBig => "int too big to convert"

/-- The indent a whole number asks for: a count of spaces below `2^64`. -/
def indentOf (n : Int) : Except IndentError Nat :=
  if n < 0 then .error .negative
  else if n ≥ Int.pow 2 64 then .error .tooBig
  else .ok n.toNat

/-- The JSON text of a tree for an indent given as a whole number, or why that number cannot be an
indent. -/
def dumpWith (e : Expr) (indent : Option Int) : Except IndentError String :=
  match indent with
  | none => .ok (e.dump none)
  | some n => (indentOf n).map fun w => e.dump (some w)

end MiniExpr.Expr
