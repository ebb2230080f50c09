import MiniExpr.Number.Binary64
/-!
# TOML values

The values a TOML document holds: strings, integers of any size, doubles, booleans, dates, times and
date-times, arrays and tables.  A table keeps its keys in the order they were first defined.

`Table.update` walks a dotted path of keys down from a table, creating empty tables for keys that
are missing, and changes the table it reaches.  On the way, an array stands for its last element
when `throughArrays` is set (an array of tables opened by `[[...]]` is extended at its end); any
other value on the path is an error.
-/

namespace MiniExpr.Toml

/-- A calendar date. -/
structure Date where
  year : Nat
  month : Nat
  day : Nat
  deriving DecidableEq, Repr

/-- A time of day, to the microsecond. -/
structure Time where
  hour : Nat
  minute : Nat
  second : Nat
  micros : Nat
  deriving DecidableEq, Repr

/-- A TOML value. -/
inductive Value where
  | string (s : String)
  | int (n : Int)
  | float (x : Binary64)
  | bool (b : Bool)
  | date (d : Date)
  | time (t : Time)
  /-- A date and time, with its offset from UTC in minutes when one is given. -/
  | dateTime (d : Date) (t : Time) (offset : Option Int)
  | array (items : List Value)
  | table (fields : List (String × Value))
  deriving Repr, Inhabited

/-- The members of a table, in order. -/
abbrev Table := List (String × Value)

namespace Value

/-- Whether a value is a table or an array, which TOML does not let later lines extend. -/
def isContainer : Value → Bool
  | .array _ | .table _ => true
  | _ => false

end Value

namespace Table

/-- The value under `k`. -/
def get? (t : Table) (k : String) : Option Value :=
  (t.find? fun p => p.1 == k).map (·.2)

/-- Whether `k` is defined. -/
def contains (t : Table) (k : String) : Bool := t.any fun p => p.1 == k

/-- The table with the value under `k` replaced, or added last when `k` is new. -/
def set (t : Table) (k : String) (v : Value) : Table :=
  if t.contains k then t.map fun p => if p.1 == k then (k, v) else p else t ++ [(k, v)]

/-- Walks `path` down from `t` and applies `f` to the table reached; `none` when the path runs into
a value that is not a table (or, with `throughArrays`, an array whose last element is a table). -/
def update (throughArrays : Bool) (f : Table → Option Table) : List String → Table → Option Table
  | [], t => f t
  | k :: ks, t =>
    match t.get? k with
    | none => do
      let sub ← update throughArrays f ks []
      pure (t.set k (.table sub))
    | some (.table sub) => do
      let sub' ← update throughArrays f ks sub
      pure (t.set k (.table sub'))
    | some (.array items) =>
      if throughArrays then
        match items.getLast? with
        | some (.table sub) => do
          let sub' ← update throughArrays f ks sub
          pure (t.set k (.array (items.dropLast ++ [.table sub'])))
        | _ => none
      else none
    | some _ => none

end Table

end MiniExpr.Toml
