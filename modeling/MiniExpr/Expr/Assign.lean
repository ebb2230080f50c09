import MiniExpr.Expr.Load
import MiniExpr.Json.Display
import MiniExpr.Json.Writer
/-!
# Assigning attributes of a tree

Trees are frozen.  Assigning one of a node's fields, or any other public name, is refused with a
`frozen_instance` issue located at the name.  A name that starts with an underscore is private: the
value is kept beside the node, and what the node holds, its rendering and its dump, stay as they
were.

A few private names are built in.  The node's class cannot be a plain value, and its weak-reference
slot and the deprecated set of given fields cannot be written at all: these raise an error of
their own instead of answering.  The node's attribute table can be replaced, but only by a table:
a JSON object.  The node is then *detached*: it keeps its kind, but every attribute it reads comes
from the new table, as a plain JSON value.

A detached node renders by the rule of its kind applied to those plain values, each shown as a
printed value shows (`Json.Value.display`).  An attribute missing from the table, an operator
read off a plain value, arguments that cannot be gone through, or a name that is not text raise an
error, in the order the rule reads them.  Its dump is the JSON object of the table's members
whose keys are fields of its kind, in the table's order.
-/

namespace MiniExpr.Expr

/-- The tag of a node. -/
def tag : Expr → Tag
  | .name _ => .name
  | .assign _ _ => .assign
  | .binary _ _ _ => .op
  | .prefixed _ _ => .prefixed
  | .postfixed _ _ => .postfixed
  | .conditional _ _ _ => .conditional
  | .call _ _ => .call

namespace Tag

/-- The class name of a kind of node, as error messages give it. -/
def className : Tag → String
  | .name => "NameExpr"
  | .assign => "AssignExpr"
  | .op => "OperatorExpr"
  | .prefixed => "PrefixExpr"
  | .postfixed => "PostfixExpr"
  | .conditional => "ConditionalExpr"
  | .call => "CallExpr"

/-- The fields of a kind of node, in the order they are declared, its `kind` first. -/
def fieldNames : Tag → List String
  | .name => ["kind", "name"]
  | .assign => ["kind", "name", "right"]
  | .op => ["kind", "left", "op", "right"]
  | .prefixed => ["kind", "op", "right"]
  | .postfixed => ["kind", "left", "op"]
  | .conditional => ["kind", "condition", "then_arm", "else_arm"]
  | .call => ["kind", "function", "args"]

end Tag

/-- An error raised while assigning or showing: its kind and message. -/
structure Raised where
  kind : String
  message : String
  deriving DecidableEq, Repr

/-- A node whose attribute table was replaced: the kind it keeps, and the new table. -/
structure Detached where
  tag : Tag
  table : List (String × Json.Value)

namespace Detached

open Text.Quote (quote)

/-- The attribute `name` of a detached node, read from its table. -/
def attr (d : Detached) (name : String) : Except Raised Json.Value :=
  match d.table.find? (·.1 == name) with
  | some (_, v) => .ok v
  | none =>
    .error ⟨"AttributeError", quote d.tag.className ++ " object has no attribute " ++ quote name⟩

/-- The text of the operator a value holds: a plain value holds none. -/
def operatorText (v : Json.Value) : Except Raised String :=
  .error ⟨"AttributeError", quote v.typeName ++ " object has no attribute 'value'"⟩

/-- The items a value is gone through as: an array's items, a string's characters, an object's
keys.  Nothing else can be gone through. -/
def items : Json.Value → Except Raised (List Json.Value)
  | .array vs => .ok vs
  | .string s => .ok (s.toList.map fun c => .string (String.singleton c))
  | .object fs => .ok (fs.map fun (k, _) => .string k)
  | v => .error ⟨"TypeError", quote v.typeName ++ " object is not iterable"⟩

/-- The rendering of a detached node, or the error its rule raises first. -/
def render (d : Detached) : Except Raised String := do
  match d.tag with
  | .name =>
    match ← d.attr "name" with
    | .string s => pure s
    | v => throw ⟨"TypeError", "__str__ returned non-string (type " ++ v.typeName ++ ")"⟩
  | .assign =>
    let n ← d.attr "name"
    let r ← d.attr "right"
    pure ("(" ++ n.display ++ " = " ++ r.display ++ ")")
  | .op =>
    let l ← d.attr "left"
    let o ← operatorText (← d.attr "op")
    let r ← d.attr "right"
    pure ("(" ++ l.display ++ " " ++ o ++ " " ++ r.display ++ ")")
  | .prefixed =>
    let o ← operatorText (← d.attr "op")
    let r ← d.attr "right"
    pure ("(" ++ o ++ r.display ++ ")")
  | .postfixed =>
    let l ← d.attr "left"
    let o ← operatorText (← d.attr "op")
    pure ("(" ++ l.display ++ o ++ ")")
  | .conditional =>
    let c ← d.attr "condition"
    let t ← d.attr "then_arm"
    let e ← d.attr "else_arm"
    pure ("(" ++ c.display ++ " ? " ++ t.display ++ " : " ++ e.display ++ ")")
  | .call =>
    let as ← items (← d.attr "args")
    let f ← d.attr "function"
    pure (f.display ++ "(" ++ ", ".intercalate (as.map Json.Value.display) ++ ")")

/-- The JSON value a detached node dumps as: the members of its table that are fields of its
kind, in the table's order. -/
def toValue (d : Detached) : Json.Value :=
  .object (d.table.filter fun (k, _) => d.tag.fieldNames.contains k)

/-- The compact JSON text of a detached node. -/
def dump (d : Detached) : String := d.toValue.render .compact

end Detached

/-- What an attempt to assign an attribute of a tree does. -/
inductive Assignment where
  /-- The value is kept beside the node; the tree is unchanged. -/
  | kept
  /-- The attribute table is replaced: the node is detached. -/
  | detached (d : Detached)
  /-- The tree is frozen: the assignment is an invalid one. -/
  | frozen (i : Issue)
  /-- The assignment raises an error. -/
  | raises (r : Raised)

open Text.Quote (quote)

/-- The outcome of assigning `value` to attribute `field` of tree `e`. -/
def setAttribute (e : Expr) (field : String) (value : Json.Value) : Assignment :=
  if !field.startsWith "_" then .frozen ⟨.frozenInstance, [.key field]⟩
  else if field = "__class__" then
    .raises ⟨"TypeError", "__class__ must be set to a class, not " ++ quote value.typeName ++ " object"⟩
  else if field = "__dict__" then
    match value with
    | .object fs => .detached ⟨e.tag, fs⟩
    | v => .raises ⟨"TypeError", "__dict__ must be set to a dictionary, not a " ++ quote v.typeName⟩
  else if field = "__weakref__" then
    .raises ⟨"AttributeError", "attribute " ++ quote field ++ " of " ++ quote e.tag.className
      ++ " objects is not writable"⟩
  else if field = "__fields_set__" then
    .raises ⟨"AttributeError", "property " ++ quote field ++ " of " ++ quote e.tag.className
      ++ " object has no setter"⟩
  else .kept

end MiniExpr.Expr
