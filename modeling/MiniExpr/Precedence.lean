import MiniExpr.Token
/-!
# Operator precedence

Which punctuators act as operators, where, and how tightly they bind.  A rule names a punctuator,
its fixity (before its operand, between two, or after one), a level and an associativity.  The
eight levels run from assignment, the loosest, to call, the tightest; a climbing parser holding a
punctuator looks it up under the fixity its place calls for, so `-a` and `a - b` find different
rules.

`table` lists the thirteen rules in a fixed order: the four operators that go before an operand,
then the infix ones from loosest to tightest, then `!` after an operand.  `lookup` finds the rule
of a punctuator at a fixity, `rulesAt` the rules of a level, in table order.
-/

namespace MiniExpr

/-- The binding levels, loosest first. -/
inductive Level where
  | assignment | conditional | sum | product | exponent | prefixed | postfixed | call
  deriving DecidableEq, Repr, Inhabited

namespace Level

/-- All levels, loosest first. -/
def all : List Level := [assignment, conditional, sum, product, exponent, prefixed, postfixed, call]

/-- The rank of a level: 1 for the loosest up to 8 for the tightest. -/
def rank : Level → Nat
  | assignment => 1
  | conditional => 2
  | sum => 3
  | product => 4
  | exponent => 5
  | prefixed => 6
  | postfixed => 7
  | call => 8

/-- The name of a level, in capitals. -/
def name : Level → String
  | assignment => "ASSIGNMENT"
  | conditional => "CONDITIONAL"
  | sum => "SUM"
  | product => "PRODUCT"
  | exponent => "EXPONENT"
  | prefixed => "PREFIX"
  | postfixed => "POSTFIX"
  | call => "CALL"

end Level

/-- How operators of one level group: `a = b = c` is `a = (b = c)` for a right-associative `=`. -/
inductive Associativity where
  | left | right
  deriving DecidableEq, Repr, Inhabited

/-- The label of an associativity. -/
def Associativity.label : Associativity → String
  | .left => "left"
  | .right => "right"

/-- Where an operator stands: before its operand, between two operands, or after one. -/
inductive Fixity where
  | prefixed | infixed | postfixed
  deriving DecidableEq, Repr, Inhabited

namespace Fixity

/-- The label of a fixity. -/
def label : Fixity → String
  | prefixed => "prefix"
  | infixed => "infix"
  | postfixed => "postfix"

/-- The fixity a label names exactly. -/
def ofLabel? (s : String) : Option Fixity :=
  [prefixed, infixed, postfixed].find? fun f => f.label == s

end Fixity

/-- How one punctuator binds at one fixity. -/
structure Rule where
  punctuator : Punctuator
  fixity : Fixity
  level : Level
  associativity : Associativity := .left
  deriving DecidableEq, Repr, Inhabited

namespace Rule

/-- The rank of the rule's level. -/
def precedence (r : Rule) : Nat := r.level.rank

/-- Operators to the right join the right operand only above this power: a right-associative rule
lets its own level through. -/
def rightBindingPower (r : Rule) : Nat :=
  match r.associativity with
  | .right => r.precedence - 1
  | .left => r.precedence

end Rule

/-- The operator rules in table order. -/
def table : List Rule :=
  [⟨.plus, .prefixed, .prefixed, .left⟩,
   ⟨.minus, .prefixed, .prefixed, .left⟩,
   ⟨.tilde, .prefixed, .prefixed, .left⟩,
   ⟨.bang, .prefixed, .prefixed, .left⟩,
   ⟨.assign, .infixed, .assignment, .right⟩,
   ⟨.question, .infixed, .conditional, .right⟩,
   ⟨.plus, .infixed, .sum, .left⟩,
   ⟨.minus, .infixed, .sum, .left⟩,
   ⟨.star, .infixed, .product, .left⟩,
   ⟨.slash, .infixed, .product, .left⟩,
   ⟨.caret, .infixed, .exponent, .right⟩,
   ⟨.openParen, .infixed, .call, .left⟩,
   ⟨.bang, .postfixed, .postfixed, .left⟩]

/-- The rule of punctuator `p` at fixity `f`, if it is an operator there. -/
def lookup (p : Punctuator) (f : Fixity) : Option Rule :=
  table.find? fun r => r.punctuator == p && r.fixity == f

/-- The precedence of `p` at `f`, or 0, which ends a climbing loop, when it is no operator there. -/
def bindingPower (p : Punctuator) (f : Fixity) : Nat :=
  match lookup p f with
  | some r => r.precedence
  | none => 0

/-- The rules whose rank is `n`, in table order. -/
def rulesAt (n : Int) : List Rule :=
  table.filter fun r => (r.precedence : Int) == n

/-- The punctuators that only delimit expressions and never act as operators, in order of their
symbols. -/
def structural : List Punctuator := [.closeParen, .comma, .colon]

theorem structural_not_operator (p : Punctuator) (hp : p ∈ structural) (f : Fixity) :
    lookup p f = none := by
  simp only [structural, List.mem_cons, List.not_mem_nil, or_false] at hp
  rcases hp with rfl | rfl | rfl <;> cases f <;> rfl

end MiniExpr
