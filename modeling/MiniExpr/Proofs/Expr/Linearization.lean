import MiniExpr.Proofs.Lexer.Scan
/-!
# The tokens of a rendered tree

`Expr.render` writes the canonical text of a tree.  `Expr.tokens` lists the tokens that text is
meant to be read as, node by node: the parentheses around every node but a name and a call, the
node's own punctuators and names, and the tokens of its children in order.  `Expr.names` lists
the names of a tree in source order.

The main statement, `tokenize_render`, says that the lexer reads the canonical text of every tree
back as exactly its tokens, and so finds the tree's names in source order.  It rests on
`tokensOf_render_append`: the text of a tree followed by any text that does not continue a name
reads as the tree's tokens followed by the tokens of that text.  In the canonical text a name is
followed only by a blank, a punctuator or the end, and no code point of it attaches to another.
-/

namespace MiniExpr

open Lexer

@[simp]
theorem Punctuator.toList_text (p : Punctuator) : p.text.toList = [p.symbol] := by
  simp [Punctuator.text]

@[simp]
theorem Token.kind_ofPunctuator (p : Punctuator) : (Token.ofPunctuator p).kind = .punctuator := rfl

@[simp] theorem Token.kind_ofName (w : String) : (Token.ofName w).kind = .name := rfl

namespace Name

theorem marked_append (n : Name) (cs : List Char) : marked (n.text.toList ++ cs) = false := by
  obtain ⟨hne, hletters⟩ := isNameText_iff.mp n.valid
  obtain ⟨c, w, hcw⟩ := List.exists_cons_of_ne_nil hne
  rw [hcw, List.cons_append, marked_cons]
  exact attaches_eq_false_of_isLetter (hletters c (by rw [hcw]; exact List.mem_cons_self))

theorem tokensOf_append (n : Name) {cs : List Char} (h : closesName cs = true) :
    tokensOf (n.text.toList ++ cs) = .ofName n.text :: tokensOf cs := by
  have := tokensOf_name_append (by rw [String.ofList_toList]; exact n.valid) h
  rwa [String.ofList_toList] at this

end Name

namespace Expr

mutual

/-- The tokens of a tree, in the order its canonical text writes them. -/
def tokens : Expr → List Token
  | name n => [.ofName n.text]
  | assign n r =>
    [.ofPunctuator .openParen, .ofName n.text, .ofPunctuator .assign] ++ tokens r ++
      [.ofPunctuator .closeParen]
  | binary l o r =>
    [.ofPunctuator .openParen] ++ tokens l ++ [.ofPunctuator o] ++ tokens r ++
      [.ofPunctuator .closeParen]
  | prefixed o r =>
    [.ofPunctuator .openParen, .ofPunctuator o] ++ tokens r ++ [.ofPunctuator .closeParen]
  | postfixed l o =>
    [.ofPunctuator .openParen] ++ tokens l ++ [.ofPunctuator o, .ofPunctuator .closeParen]
  | conditional c t e =>
    [.ofPunctuator .openParen] ++ tokens c ++ [.ofPunctuator .question] ++ tokens t ++
      [.ofPunctuator .colon] ++ tokens e ++ [.ofPunctuator .closeParen]
  | call f as =>
    tokens f ++ [.ofPunctuator .openParen] ++ argTokens as ++ [.ofPunctuator .closeParen]

/-- The tokens of a list of arguments, with a comma between two arguments. -/
def argTokens : List Expr → List Token
  | [] => []
  | [a] => tokens a
  | a :: as => tokens a ++ [.ofPunctuator .comma] ++ argTokens as

end

mutual

/-- The names of a tree in source order: an assignment's own name before its right side, a call's
function before its arguments. -/
def names : Expr → List Name
  | name n => [n]
  | assign n r => n :: names r
  | binary l _ r => names l ++ names r
  | prefixed _ r => names r
  | postfixed l _ => names l
  | conditional c t e => names c ++ names t ++ names e
  | call f as => names f ++ argNames as

/-- The names of a list of arguments, in order. -/
def argNames : List Expr → List Name
  | [] => []
  | a :: as => names a ++ argNames as

end

/-! ## The canonical text, code point by code point -/

section Text

open Punctuator (symbol)

variable (cs : List Char)

theorem toList_render_name_append (n : Name) :
    (name n).render.toList ++ cs = n.text.toList ++ cs := by
  rw [render]

theorem toList_render_assign_append (n : Name) (r : Expr) :
    (assign n r).render.toList ++ cs =
      symbol .openParen :: (n.text.toList ++ ' ' :: symbol .assign :: ' ' ::
        (r.render.toList ++ symbol .closeParen :: cs)) := by
  simp only [render, String.toList_append, String.reduceToList, List.append_assoc, List.cons_append,
    List.nil_append]
  rfl

theorem toList_render_binary_append (l : Expr) (o : Punctuator) (r : Expr) :
    (binary l o r).render.toList ++ cs =
      symbol .openParen :: (l.render.toList ++ ' ' :: symbol o :: ' ' ::
        (r.render.toList ++ symbol .closeParen :: cs)) := by
  simp only [render, String.toList_append, String.reduceToList, Punctuator.toList_text,
    List.append_assoc, List.cons_append, List.nil_append]
  rfl

theorem toList_render_prefixed_append (o : Punctuator) (r : Expr) :
    (prefixed o r).render.toList ++ cs =
      symbol .openParen :: symbol o :: (r.render.toList ++ symbol .closeParen :: cs) := by
  simp only [render, String.toList_append, String.reduceToList, Punctuator.toList_text,
    List.append_assoc, List.cons_append, List.nil_append]
  rfl

theorem toList_render_postfixed_append (l : Expr) (o : Punctuator) :
    (postfixed l o).render.toList ++ cs =
      symbol .openParen :: (l.render.toList ++ symbol o :: symbol .closeParen :: cs) := by
  simp only [render, String.toList_append, String.reduceToList, Punctuator.toList_text,
    List.append_assoc, List.cons_append, List.nil_append]
  rfl

theorem toList_render_conditional_append (c t e : Expr) :
    (conditional c t e).render.toList ++ cs =
      symbol .openParen :: (c.render.toList ++ ' ' :: symbol .question :: ' ' ::
        (t.render.toList ++ ' ' :: symbol .colon :: ' ' ::
          (e.render.toList ++ symbol .closeParen :: cs))) := by
  simp only [render, String.toList_append, String.reduceToList, List.append_assoc, List.cons_append,
    List.nil_append]
  rfl

theorem toList_render_call_append (f : Expr) (as : List Expr) :
    (call f as).render.toList ++ cs =
      f.render.toList ++
        symbol .openParen :: ((renderArgs as).toList ++ symbol .closeParen :: cs) := by
  simp only [render, String.toList_append, String.reduceToList, List.append_assoc, List.cons_append,
    List.nil_append]
  rfl

theorem toList_renderArgs_cons_cons_append (a b : Expr) (as : List Expr) :
    (renderArgs (a :: b :: as)).toList ++ cs =
      a.render.toList ++ symbol .comma :: ' ' :: ((renderArgs (b :: as)).toList ++ cs) := by
  simp only [renderArgs, String.toList_append, String.reduceToList, List.append_assoc,
    List.cons_append, List.nil_append]
  rfl

end Text

/-! ## Reading the canonical text -/

/-- The canonical text of a tree opens with a letter or a parenthesis: nothing in it attaches to
what stands before it. -/
theorem marked_render_append : ∀ (e : Expr) (cs : List Char),
    marked (e.render.toList ++ cs) = false
  | name n, cs => by rw [toList_render_name_append]; exact n.marked_append cs
  | assign n r, cs => by rw [toList_render_assign_append]; rfl
  | binary l o r, cs => by rw [toList_render_binary_append]; rfl
  | prefixed o r, cs => by rw [toList_render_prefixed_append]; rfl
  | postfixed l o, cs => by rw [toList_render_postfixed_append]; rfl
  | conditional c t e, cs => by rw [toList_render_conditional_append]; rfl
  | call f as, cs => by rw [toList_render_call_append]; exact marked_render_append f _

theorem marked_renderArgs_append : ∀ (as : List Expr) (cs : List Char), marked cs = false →
    marked ((renderArgs as).toList ++ cs) = false
  | [], cs, h => by simpa [renderArgs] using h
  | [a], cs, _ => by rw [renderArgs]; exact marked_render_append a cs
  | a :: b :: as, cs, _ => by
    rw [toList_renderArgs_cons_cons_append]
    exact marked_render_append a _

mutual

/-- **The text of a tree reads as its tokens.**  Followed by any text that does not continue a
name, the canonical text of a tree reads as the tree's tokens and then the tokens of that text.
Each case reads the node's text from left to right. -/
theorem tokensOf_render_append : ∀ (e : Expr) (cs : List Char), closesName cs = true →
    tokensOf (e.render.toList ++ cs) = e.tokens ++ tokensOf cs
  | name n, cs, h => by
    rw [toList_render_name_append, n.tokensOf_append h]
    rfl
  | assign n r, cs, h => by
    rw [toList_render_assign_append,
      tokensOf_symbol_cons .openParen (n.marked_append _),
      n.tokensOf_append (closesName_blank_cons _),
      tokensOf_blank_cons (marked_symbol_cons .assign _),
      tokensOf_symbol_cons .assign (marked_blank_cons _),
      tokensOf_blank_cons (marked_render_append r _),
      tokensOf_render_append r _ (closesName_symbol_cons .closeParen _),
      tokensOf_symbol_cons .closeParen (marked_eq_false_of_closesName h)]
    simp [tokens]
  | binary l o r, cs, h => by
    rw [toList_render_binary_append,
      tokensOf_symbol_cons .openParen (marked_render_append l _),
      tokensOf_render_append l _ (closesName_blank_cons _),
      tokensOf_blank_cons (marked_symbol_cons o _),
      tokensOf_symbol_cons o (marked_blank_cons _),
      tokensOf_blank_cons (marked_render_append r _),
      tokensOf_render_append r _ (closesName_symbol_cons .closeParen _),
      tokensOf_symbol_cons .closeParen (marked_eq_false_of_closesName h)]
    simp [tokens]
  | prefixed o r, cs, h => by
    rw [toList_render_prefixed_append,
      tokensOf_symbol_cons .openParen (marked_symbol_cons o _),
      tokensOf_symbol_cons o (marked_render_append r _),
      tokensOf_render_append r _ (closesName_symbol_cons .closeParen _),
      tokensOf_symbol_cons .closeParen (marked_eq_false_of_closesName h)]
    simp [tokens]
  | postfixed l o, cs, h => by
    rw [toList_render_postfixed_append,
      tokensOf_symbol_cons .openParen (marked_render_append l _),
      tokensOf_render_append l _ (closesName_symbol_cons o _),
      tokensOf_symbol_cons o (marked_symbol_cons .closeParen _),
      tokensOf_symbol_cons .closeParen (marked_eq_false_of_closesName h)]
    simp [tokens]
  | conditional c t e, cs, h => by
    rw [toList_render_conditional_append,
      tokensOf_symbol_cons .openParen (marked_render_append c _),
      tokensOf_render_append c _ (closesName_blank_cons _),
      tokensOf_blank_cons (marked_symbol_cons .question _),
      tokensOf_symbol_cons .question (marked_blank_cons _),
      tokensOf_blank_cons (marked_render_append t _),
      tokensOf_render_append t _ (closesName_blank_cons _),
      tokensOf_blank_cons (marked_symbol_cons .colon _),
      tokensOf_symbol_cons .colon (marked_blank_cons _),
      tokensOf_blank_cons (marked_render_append e _),
      tokensOf_render_append e _ (closesName_symbol_cons .closeParen _),
      tokensOf_symbol_cons .closeParen (marked_eq_false_of_closesName h)]
    simp [tokens]
  | call f as, cs, h => by
    rw [toList_render_call_append,
      tokensOf_render_append f _ (closesName_symbol_cons .openParen _),
      tokensOf_symbol_cons .openParen
        (marked_renderArgs_append as _ (marked_symbol_cons .closeParen _)),
      tokensOf_renderArgs_append as _ (closesName_symbol_cons .closeParen _),
      tokensOf_symbol_cons .closeParen (marked_eq_false_of_closesName h)]
    simp [tokens]

/-- The text of a list of arguments reads as their tokens, a comma between two of them. -/
theorem tokensOf_renderArgs_append : ∀ (as : List Expr) (cs : List Char), closesName cs = true →
    tokensOf ((renderArgs as).toList ++ cs) = argTokens as ++ tokensOf cs
  | [], cs, _ => by simp [renderArgs, argTokens]
  | [a], cs, h => by
    rw [renderArgs, tokensOf_render_append a cs h]
    rfl
  | a :: b :: as, cs, h => by
    rw [toList_renderArgs_cons_cons_append,
      tokensOf_render_append a _ (closesName_symbol_cons .comma _),
      tokensOf_symbol_cons .comma (marked_blank_cons _),
      tokensOf_blank_cons (marked_renderArgs_append (b :: as) _ (marked_eq_false_of_closesName h)),
      tokensOf_renderArgs_append (b :: as) cs h]
    simp [argTokens]

end

/-! ## Names in source order -/

mutual

theorem filter_tokens : ∀ e : Expr,
    e.tokens.filter (·.kind = .name) = e.names.map (fun n => Token.ofName n.text)
  | name n => by simp [tokens, names]
  | assign n r => by simp [tokens, names, filter_tokens r]
  | binary l o r => by simp [tokens, names, filter_tokens l, filter_tokens r]
  | prefixed o r => by simp [tokens, names, filter_tokens r]
  | postfixed l o => by simp [tokens, names, filter_tokens l]
  | conditional c t e => by
    simp [tokens, names, filter_tokens c, filter_tokens t, filter_tokens e]
  | call f as => by simp [tokens, names, filter_tokens f, filter_argTokens as]

theorem filter_argTokens : ∀ as : List Expr,
    (argTokens as).filter (·.kind = .name) = (argNames as).map (fun n => Token.ofName n.text)
  | [] => rfl
  | [a] => by simp [argTokens, argNames, filter_tokens a]
  | a :: b :: as => by simp [argTokens, argNames, filter_tokens a, filter_argTokens (b :: as)]

end

/-- **The lexer reads the canonical text of a tree back as its tokens.**  For every tree, the
tokens of its canonical text are `tokens`, node by node, and the name tokens among them are the
tree's names in source order. -/
theorem tokenize_render (e : Expr) :
    tokenize e.render = e.tokens ∧
    (tokenize e.render).filter (·.kind = .name) = e.names.map (fun n => Token.ofName n.text) := by
  have h : tokenize e.render = e.tokens := by
    have hread := tokensOf_render_append e [] rfl
    rw [List.append_nil, tokensOf_nil, List.append_nil] at hread
    exact hread
  exact ⟨h, by rw [h]; exact filter_tokens e⟩

end Expr

end MiniExpr
