/-!
# Validation issues

When a document does not describe a value of the expected shape, validation reports every fault it
finds, each as an `Issue`: what is wrong (`IssueKind`) and where (`loc`, the path of keys and list
indices from the document's root).  Both expression trees and configuration files report their
faults this way; `IssueKind.label` gives the fixed name of each kind of fault.

`Checked` accumulates: `Checked.both` keeps the issues of two independent checks, the first one's
first, which is how every field of a record is checked and reported in order.
-/

namespace MiniExpr

/-- One step of a path into a document: a key, or an index into a list. -/
inductive LocPart where
  | key (name : String)
  | index (i : Nat)
  deriving DecidableEq, Repr

/-- The kinds of fault validation reports. -/
inductive IssueKind where
  /-- A node has no `kind` tag. -/
  | unionTagNotFound
  /-- A node's `kind` tag is none of the known tags. -/
  | unionTagInvalid
  /-- A child node given as a value is not a mapping. -/
  | modelAttributesType
  /-- A node read from JSON text is not an object. -/
  | dictType
  /-- A section of a configuration is not a mapping. -/
  | modelType
  /-- A required field is absent. -/
  | missing
  /-- A field that holds text holds something else. -/
  | stringType
  /-- A name is empty. -/
  | stringTooShort
  /-- A name is not made of ASCII letters only. -/
  | stringPatternMismatch
  /-- An operator is none of the punctuators. -/
  | enumMember
  /-- A list of arguments is not a list. -/
  | tupleType
  /-- Text is not one well-formed JSON document. -/
  | jsonInvalid
  /-- What was given is neither a mapping nor text. -/
  | jsonType
  /-- A whole number is needed and the value is of another type. -/
  | intType
  /-- A whole number is needed and the text does not spell one. -/
  | intParsing
  /-- A whole number is needed and the number has a fraction. -/
  | intFromFloat
  /-- A whole number is needed and the double is too large for 64 bits. -/
  | intParsingSize
  /-- A number is infinite or not a number. -/
  | finiteNumber
  /-- A number lies below its least allowed value. -/
  | greaterThanEqual
  /-- A value fails a check of its own field. -/
  | valueError
  /-- A section holds a key it does not declare. -/
  | extraForbidden
  /-- A field of an immutable value was to be set. -/
  | frozenInstance
  deriving DecidableEq, Repr

/-- The fixed name of a kind of fault. -/
def IssueKind.label : IssueKind → String
  | .unionTagNotFound => "union_tag_not_found"
  | .unionTagInvalid => "union_tag_invalid"
  | .modelAttributesType => "model_attributes_type"
  | .dictType => "dict_type"
  | .modelType => "model_type"
  | .missing => "missing"
  | .stringType => "string_type"
  | .stringTooShort => "string_too_short"
  | .stringPatternMismatch => "string_pattern_mismatch"
  | .enumMember => "enum"
  | .tupleType => "tuple_type"
  | .jsonInvalid => "json_invalid"
  | .jsonType => "json_type"
  | .intType => "int_type"
  | .intParsing => "int_parsing"
  | .intFromFloat => "int_from_float"
  | .intParsingSize => "int_parsing_size"
  | .finiteNumber => "finite_number"
  | .greaterThanEqual => "greater_than_equal"
  | .valueError => "value_error"
  | .extraForbidden => "extra_forbidden"
  | .frozenInstance => "frozen_instance"

/-- A fault and where it is. -/
structure Issue where
  kind : IssueKind
  loc : List LocPart
  deriving DecidableEq, Repr

namespace Issue

/-- A fault at the root of what is being checked. -/
def here (k : IssueKind) : Issue := ⟨k, []⟩

/-- The same fault seen from one level up, under `parts`. -/
def under (parts : List LocPart) (i : Issue) : Issue := ⟨i.kind, parts ++ i.loc⟩

end Issue

/-- The result of a check: a value, or every fault found, in order. -/
abbrev Checked (α : Type) := Except (List Issue) α

namespace Checked

/-- Two independent checks: both values, or the faults of both, the first one's first. -/
def both {α β : Type} (a : Checked α) (b : Checked β) : Checked (α × β) :=
  match a, b with
  | .ok x, .ok y => .ok (x, y)
  | .error e, .ok _ => .error e
  | .ok _, .error e => .error e
  | .error e, .error e' => .error (e ++ e')

/-- A check whose faults are moved under `parts`. -/
def under {α : Type} (parts : List LocPart) (a : Checked α) : Checked α :=
  match a with
  | .ok x => .ok x
  | .error e => .error (e.map (Issue.under parts))

/-- A single fault at the root. -/
def fail {α : Type} (k : IssueKind) : Checked α := .error [Issue.here k]

@[simp]
theorem both_ok {α β : Type} (x : α) (y : β) : both (.ok x) (.ok y) = .ok (x, y) := rfl

end Checked

end MiniExpr
