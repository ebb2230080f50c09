import MiniExpr.Json.Value
import MiniExpr.Number.Shortest
import MiniExpr.Text.Quote
/-!
# Values as text

How a value of a JSON document shows when it is printed, and what its type is called in messages.
`null`, `true` and `false` show as `None`, `True` and `False`; integers in decimal; doubles by
their shortest decimal (`displayStyle`); a string as it is; an array in brackets and an object in
braces, items and members separated by `", "`.  Inside an array or an object a string is quoted
(`Text.Quote.quote`), and a member shows as its quoted key, `": "` and its value.
-/

namespace MiniExpr.Json

/-- Doubles as printed values show them: positionally while the decimal point is at most three
places before the first digit and at most sixteen after it, else with an exponent of a sign and at
least two digits; `nan`, `inf` and `-inf` for the special values. -/
def displayStyle : DecimalStyle :=
  ⟨-3, 16, true, 2, "nan", "inf", "-inf"⟩

namespace Value

/-- The type name messages give a value: `NoneType`, `bool`, `int`, `float`, `str`, `list` or
`dict`. -/
def typeName : Value → String
  | .null => "NoneType"
  | .bool _ => "bool"
  | .int _ => "int"
  | .float _ => "float"
  | .string _ => "str"
  | .array _ => "list"
  | .object _ => "dict"

mutual

/-- The text of a value, with a string quoted when `quoted`: printed values show strings as they
are, the items and members inside an array or an object quoted. -/
def shown (quoted : Bool) : Value → String
  | .null => "None"
  | .bool true => "True"
  | .bool false => "False"
  | .int n => toString n
  | .float x => displayStyle.write x
  | .string s => if quoted then Text.Quote.quote s else s
  | .array vs => "[" ++ shownItems vs ++ "]"
  | .object fs => "\x7b" ++ shownMembers fs ++ "\x7d"

/-- The items of an array, quoted and separated by `", "`. -/
def shownItems : List Value → String
  | [] => ""
  | [v] => shown true v
  | v :: vs => shown true v ++ ", " ++ shownItems vs

/-- The members of an object, each as its quoted key, `": "` and its value, separated by `", "`. -/
def shownMembers : List (String × Value) → String
  | [] => ""
  | [(k, v)] => Text.Quote.quote k ++ ": " ++ shown true v
  | (k, v) :: fs => Text.Quote.quote k ++ ": " ++ shown true v ++ ", " ++ shownMembers fs

end

/-- The text a value shows when printed. -/
def display (v : Value) : String := shown false v

/-- The text of a value inside an array or an object: a string quoted, anything else shown. -/
def literal (v : Value) : String := shown true v

end Value

end MiniExpr.Json
