import MiniExpr.Text.Quote
/-!
# Tokens

The language has thirteen one-character punctuators and names made of ASCII letters.  A token is
a kind and the text it stands for.  Tokens built by hand may carry any kind label, so the kind has
a third form for labels other than `name` and `punctuator`; the lexer never produces it.

A token is immutable: `Token.reassign` says which error an attempt to set one of its attributes
raises, and nothing ever changes a token.
-/

namespace MiniExpr

/-- The thirteen punctuators, in their fixed order. -/
inductive Punctuator where
  | openParen | closeParen | comma | assign | plus | minus | star | slash | caret | tilde
  | bang | question | colon
  deriving DecidableEq, Repr, Hashable, Inhabited

namespace Punctuator

/-- All punctuators in their fixed order. -/
def all : List Punctuator :=
  [openParen, closeParen, comma, assign, plus, minus, star, slash, caret, tilde, bang, question,
    colon]

/-- The character a punctuator is written as. -/
def symbol : Punctuator → Char
  | openParen => '('
  | closeParen => ')'
  | comma => ','
  | assign => '='
  | plus => '+'
  | minus => '-'
  | star => '*'
  | slash => '/'
  | caret => '^'
  | tilde => '~'
  | bang => '!'
  | question => '?'
  | colon => ':'

/-- The one-character text of a punctuator. -/
def text (p : Punctuator) : String := String.singleton p.symbol

/-- The punctuator written as `c`, if any. -/
def ofChar? (c : Char) : Option Punctuator :=
  all.find? fun p => p.symbol == c

/-- The punctuator whose text is exactly `s`, if any. -/
def ofString? (s : String) : Option Punctuator :=
  match s.toList with
  | [c] => ofChar? c
  | _ => none

theorem mem_all (p : Punctuator) : p ∈ all := by
  cases p <;> decide

@[simp]
theorem ofChar?_symbol (p : Punctuator) : ofChar? p.symbol = some p := by
  cases p <;> rfl

theorem symbol_of_ofChar? {c : Char} {p : Punctuator} (h : ofChar? c = some p) : p.symbol = c := by
  unfold ofChar? at h
  have := List.find?_some h
  simpa using this

theorem symbol_injective {p q : Punctuator} (h : p.symbol = q.symbol) : p = q := by
  have hp := ofChar?_symbol p
  rw [h, ofChar?_symbol] at hp
  exact (Option.some.inj hp).symm

end Punctuator

/-- The kind of a token: a name, a punctuator, or any other label given by hand. -/
inductive TokenKind where
  | name
  | punctuator
  | other (label : String)
  deriving DecidableEq, Repr, Hashable, Inhabited

namespace TokenKind

/-- The label a kind is shown with. -/
def label : TokenKind → String
  | name => "name"
  | punctuator => "punctuator"
  | other l => l

/-- The kind a label names; a label other than the two known ones stays a label. -/
def ofLabel (s : String) : TokenKind :=
  if s = "name" then name else if s = "punctuator" then punctuator else other s

end TokenKind

/-- A token: its kind and the text it stands for. -/
structure Token where
  kind : TokenKind
  value : String
  deriving DecidableEq, Repr, Hashable, Inhabited

/-- What goes wrong when a token is asked for its punctuator or told to change. -/
inductive TokenError where
  /-- The token is of kind punctuator, but its text is none of the thirteen. -/
  | notPunctuator (value : String)
  /-- An attribute the token has cannot be set. -/
  | immutable (attr : String)
  /-- The token has no attribute of that name, and none can be added. -/
  | noAttribute (attr : String)
  deriving DecidableEq, Repr

namespace TokenError

/-- The text of an error. -/
def message : TokenError → String
  | notPunctuator v => Text.Quote.quote v ++ " is not a valid Punctuator"
  | immutable a => "Token is immutable; cannot reassign " ++ Text.Quote.quote a
  | noAttribute a => "'Token' object has no attribute " ++ Text.Quote.quote a

end TokenError

namespace Token

/-- The name token for `w`. -/
def ofName (w : String) : Token := ⟨.name, w⟩

/-- The token of a punctuator. -/
def ofPunctuator (p : Punctuator) : Token := ⟨.punctuator, p.text⟩

/-- A token built from two labels, as a caller writes them. -/
def ofLabels (kind value : String) : Token := ⟨TokenKind.ofLabel kind, value⟩

/-- The description of a token: its kind label and its quoted text, as in `Token(name, 'a')`. -/
def describe (t : Token) : String :=
  "Token(" ++ t.kind.label ++ ", " ++ Text.Quote.quote t.value ++ ")"

/-- The punctuator a token carries: `none` for a token that is not of kind punctuator, and an
error for one whose text is not a punctuator. -/
def punctuator? (t : Token) : Option (Except TokenError Punctuator) :=
  match t.kind with
  | .punctuator =>
    match Punctuator.ofString? t.value with
    | some p => some (.ok p)
    | none => some (.error (.notPunctuator t.value))
  | _ => none

/-- The attributes a token has: its two fields, its punctuator view, its two constructors and the
attributes every object has. -/
def attributes : List String :=
  ["kind", "value", "punct", "from_name", "from_punctuator", "__class__", "__delattr__",
    "__dir__", "__doc__", "__eq__", "__format__", "__ge__", "__getattribute__", "__getstate__",
    "__gt__", "__hash__", "__init__", "__init_subclass__", "__le__", "__lt__", "__module__",
    "__ne__", "__new__", "__reduce__", "__reduce_ex__", "__repr__", "__setattr__", "__sizeof__",
    "__slots__", "__str__", "__subclasshook__"]

/-- The error an attempt to set attribute `attr` raises.  An attribute the token has is refused as
immutable; asking for the punctuator view first reads it, so a punctuator token with a bad text
fails with that error; any other name has no slot to hold it. -/
def reassign (t : Token) (attr : String) : TokenError :=
  if attr = "punct" then
    match t.punctuator? with
    | some (.error e) => e
    | _ => .immutable attr
  else if attr ∈ attributes then .immutable attr
  else .noAttribute attr

/-- Two tokens hash alike when their hash codes agree; equal tokens always do. -/
def sameHash (t u : Token) : Bool := hash t == hash u

@[simp]
theorem ofPunctuator_value (p : Punctuator) : (ofPunctuator p).value = p.text := rfl

@[simp]
theorem ofName_value (w : String) : (ofName w).value = w := rfl

end Token

end MiniExpr
