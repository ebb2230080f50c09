import MiniExpr.Lexer
import MiniExpr.Issue
/-!
# Expression trees

An expression is a name, an assignment of an expression to a name, an operator between two
expressions, an operator before or after one, a conditional with three parts, or a call of an
expression on a list of arguments.  Any of the thirteen punctuators may stand as an operator in a
tree; which of them a parser would produce is not the tree's concern.

A name is a non-empty run of ASCII letters, the same text the lexer reads as one name token, and the
type `Name` carries that fact, so every tree is a valid one.

`Expr.render` writes the canonical text of a tree: every node but a name and a call is wrapped in
parentheses, binary operators and the conditional's marks have a blank on each side, and a call
writes its arguments after its callee, separated by `", "`.
-/

namespace MiniExpr

/-- Whether a text can be a name: non-empty and made of ASCII letters only. -/
def isNameText (s : String) : Bool := !s.isEmpty && s.all isLetter

/-- A name: a non-empty text of ASCII letters. -/
structure Name where
  text : String
  valid : isNameText text = true

instance : DecidableEq Name := fun a b =>
  if h : a.text = b.text then
    isTrue (by cases a; cases b; simp only at h; subst h; rfl)
  else isFalse (fun e => h (e ▸ rfl))

instance : Repr Name := ⟨fun n _ => repr n.text⟩

/-- An expression tree. -/
inductive Expr where
  /-- A name on its own. -/
  | name (n : Name)
  /-- `n = right`. -/
  | assign (n : Name) (right : Expr)
  /-- `left op right`. -/
  | binary (left : Expr) (op : Punctuator) (right : Expr)
  /-- `op right`. -/
  | prefixed (op : Punctuator) (right : Expr)
  /-- `left op`. -/
  | postfixed (left : Expr) (op : Punctuator)
  /-- `condition ? thenArm : elseArm`. -/
  | conditional (condition thenArm elseArm : Expr)
  /-- `function(args)`. -/
  | call (function : Expr) (args : List Expr)
  deriving Repr

namespace Expr

mutual

/-- Decides whether two trees are equal, node by node. -/
def decEq : (a b : Expr) → Decidable (a = b)
  | name m, name n =>
    if h : m = n then isTrue (h ▸ rfl) else isFalse (fun e => by injection e; contradiction)
  | assign m r, assign n s =>
    if h : m = n then
      match decEq r s with
      | isTrue h' => isTrue (h ▸ h' ▸ rfl)
      | isFalse h' => isFalse (fun e => by injection e; contradiction)
    else isFalse (fun e => by injection e; contradiction)
  | binary l o r, binary l' o' r' =>
    match decEq l l', decEq r r' with
    | isTrue hl, isTrue hr =>
      if ho : o = o' then isTrue (hl ▸ hr ▸ ho ▸ rfl)
      else isFalse (fun e => by injection e; contradiction)
    | isFalse h, _ => isFalse (fun e => by injection e; contradiction)
    | _, isFalse h => isFalse (fun e => by injection e; contradiction)
  | prefixed o r, prefixed o' r' =>
    match decEq r r' with
    | isTrue hr =>
      if ho : o = o' then isTrue (hr ▸ ho ▸ rfl)
      else isFalse (fun e => by injection e; contradiction)
    | isFalse h => isFalse (fun e => by injection e; contradiction)
  | postfixed l o, postfixed l' o' =>
    match decEq l l' with
    | isTrue hl =>
      if ho : o = o' then isTrue (hl ▸ ho ▸ rfl)
      else isFalse (fun e => by injection e; contradiction)
    | isFalse h => isFalse (fun e => by injection e; contradiction)
  | conditional c t e, conditional c' t' e' =>
    match decEq c c', decEq t t', decEq e e' with
    | isTrue hc, isTrue ht, isTrue he => isTrue (hc ▸ ht ▸ he ▸ rfl)
    | isFalse h, _, _ => isFalse (fun e => by injection e; contradiction)
    | _, isFalse h, _ => isFalse (fun e => by injection e; contradiction)
    | _, _, isFalse h => isFalse (fun e => by injection e; contradiction)
  | call f as, call f' as' =>
    match decEq f f', decEqList as as' with
    | isTrue hf, isTrue ha => isTrue (hf ▸ ha ▸ rfl)
    | isFalse h, _ => isFalse (fun e => by injection e; contradiction)
    | _, isFalse h => isFalse (fun e => by injection e; contradiction)
  | name _, assign _ _ | name _, binary _ _ _ | name _, prefixed _ _ | name _, postfixed _ _
  | name _, conditional _ _ _ | name _, call _ _
  | assign _ _, name _ | assign _ _, binary _ _ _ | assign _ _, prefixed _ _
  | assign _ _, postfixed _ _ | assign _ _, conditional _ _ _ | assign _ _, call _ _
  | binary _ _ _, name _ | binary _ _ _, assign _ _ | binary _ _ _, prefixed _ _
  | binary _ _ _, postfixed _ _ | binary _ _ _, conditional _ _ _ | binary _ _ _, call _ _
  | prefixed _ _, name _ | prefixed _ _, assign _ _ | prefixed _ _, binary _ _ _
  | prefixed _ _, postfixed _ _ | prefixed _ _, conditional _ _ _ | prefixed _ _, call _ _
  | postfixed _ _, name _ | postfixed _ _, assign _ _ | postfixed _ _, binary _ _ _
  | postfixed _ _, prefixed _ _ | postfixed _ _, conditional _ _ _ | postfixed _ _, call _ _
  | conditional _ _ _, name _ | conditional _ _ _, assign _ _ | conditional _ _ _, binary _ _ _
  | conditional _ _ _, prefixed _ _ | conditional _ _ _, postfixed _ _
  | conditional _ _ _, call _ _
  | call _ _, name _ | call _ _, assign _ _ | call _ _, binary _ _ _ | call _ _, prefixed _ _
  | call _ _, postfixed _ _ | call _ _, conditional _ _ _ => isFalse (fun e => by cases e)

/-- Decides whether two lists of trees are equal. -/
def decEqList : (a b : List Expr) → Decidable (a = b)
  | [], [] => isTrue rfl
  | x :: xs, y :: ys =>
    match decEq x y, decEqList xs ys with
    | isTrue h, isTrue h' => isTrue (h ▸ h' ▸ rfl)
    | isFalse h, _ => isFalse (fun e => by injection e; contradiction)
    | _, isFalse h => isFalse (fun e => by injection e; contradiction)
  | [], _ :: _ => isFalse (fun e => by cases e)
  | _ :: _, [] => isFalse (fun e => by cases e)

end

instance : DecidableEq Expr := decEq

mutual

/-- The canonical text of a tree. -/
def render : Expr → String
  | name n => n.text
  | assign n r => "(" ++ n.text ++ " = " ++ render r ++ ")"
  | binary l o r => "(" ++ render l ++ " " ++ o.text ++ " " ++ render r ++ ")"
  | prefixed o r => "(" ++ o.text ++ render r ++ ")"
  | postfixed l o => "(" ++ render l ++ o.text ++ ")"
  | conditional c t e => "(" ++ render c ++ " ? " ++ render t ++ " : " ++ render e ++ ")"
  | call f as => render f ++ "(" ++ renderArgs as ++ ")"

/-- The canonical text of a list of arguments, separated by `", "`. -/
def renderArgs : List Expr → String
  | [] => ""
  | [a] => render a
  | a :: as => render a ++ ", " ++ renderArgs as

end

end Expr

end MiniExpr
