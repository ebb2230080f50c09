import MiniExpr.Number.Binary64
/-!
# JSON values

A JSON value as documents hold it.  Numbers come in two kinds, as readers tell them apart: a
number written without a fraction or an exponent is an integer of any size, every other number is
a double.  An object keeps its members in the order they were first written, with one member per
key: a key written again replaces the value in place (`setField`).
-/

namespace MiniExpr.Json

/-- A JSON value. -/
inductive Value where
  | null
  | bool (b : Bool)
  | int (n : Int)
  | float (x : Binary64)
  | string (s : String)
  | array (items : List Value)
  | object (fields : List (String × Value))
  deriving Repr, Inhabited

namespace Value

/-- The value of member `key` of an object; `none` for a missing key or a value that is not an
object. -/
def field? (v : Value) (key : String) : Option Value :=
  match v with
  | object fs => (fs.find? fun p => p.1 == key).map (·.2)
  | _ => none

/-- Whether a value is an object. -/
def isObject : Value → Bool
  | object _ => true
  | _ => false

end Value

/-- Members with `key` set to `v`: the value of an existing member is replaced in place, and a new
key goes last. -/
def setField (fs : List (String × Value)) (key : String) (v : Value) : List (String × Value) :=
  if fs.any (fun p => p.1 == key) then fs.map (fun p => if p.1 == key then (key, v) else p)
  else fs ++ [(key, v)]

end MiniExpr.Json
