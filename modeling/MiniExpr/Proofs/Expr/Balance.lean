import MiniExpr.Proofs.Expr.Linearization
/-!
# Balanced parentheses in the canonical text

`Text.surplus` counts how many more opening than closing parentheses a text holds.  A text is
`Balanced` when, read from the left, the surplus never drops below zero and is zero at the end.
It is `Matched` when besides it opens with `(`, ends with `)`, and the surplus stays positive
strictly between the two: the first parenthesis is closed by the last one and by no other.

The main statement, `render_balanced`, says that the canonical text of a tree in which no operator
is a parenthesis balances, and that the text of each of its nodes but names and calls, a piece of
the tree's text, is matched.  It rests on three facts about texts: pieces that balance join into
a text that balances (`Balanced.append`), a balanced text put in parentheses is matched
(`matched_wrap`), and a text without parentheses balances (`balanced_of_forall`).  A parenthesis
as an operator breaks it: a prefix `(` before `a` writes `((a)`.
-/

namespace MiniExpr

namespace Text

/-- How many more opening than closing parentheses a text holds. -/
def surplus (cs : List Char) : Int := (cs.count '(' : Int) - cs.count ')'

/-- A text whose parentheses balance: read from the left, the closing parentheses never outnumber
the opening ones, and at the end there are as many of each. -/
def Balanced (cs : List Char) : Prop := (∀ k, 0 ≤ surplus (cs.take k)) ∧ surplus cs = 0

/-- A text in parentheses whose first one is closed by its last: it opens with `(`, ends with `)`,
balances, and every front part of it that stops before the end has more opening than closing
parentheses. -/
def Matched (cs : List Char) : Prop :=
  cs.head? = some '(' ∧ cs.getLast? = some ')' ∧ Balanced cs ∧
    ∀ k, 0 < k → k < cs.length → 0 < surplus (cs.take k)

/-! ## Counting parentheses -/

@[simp] theorem surplus_nil : surplus [] = 0 := rfl

@[simp]
theorem surplus_append (a b : List Char) : surplus (a ++ b) = surplus a + surplus b := by
  simp only [surplus, List.count_append]
  omega

theorem surplus_open_cons (cs : List Char) : surplus ('(' :: cs) = surplus cs + 1 := by
  simp only [surplus, List.count_cons]
  simp
  omega

theorem surplus_eq_zero {cs : List Char} (h : ∀ c ∈ cs, c ≠ '(' ∧ c ≠ ')') : surplus cs = 0 := by
  have hopen : cs.count '(' = 0 := List.count_eq_zero.mpr fun hm => (h _ hm).1 rfl
  have hclose : cs.count ')' = 0 := List.count_eq_zero.mpr fun hm => (h _ hm).2 rfl
  simp [surplus, hopen, hclose]

/-- The front part of a joined text: a front part of the first text, then, once all of it is
read, a front part of the second. -/
theorem surplus_take_append (a b : List Char) (k : Nat) :
    surplus ((a ++ b).take k) = surplus (a.take k) + surplus (b.take (k - a.length)) := by
  rw [List.take_append, surplus_append]

/-! ## Balanced texts -/

theorem Balanced.nil : Balanced [] := ⟨fun k => by simp, rfl⟩

/-- A text without parentheses balances. -/
theorem balanced_of_forall {cs : List Char} (h : ∀ c ∈ cs, c ≠ '(' ∧ c ≠ ')') : Balanced cs :=
  ⟨fun k => by
    have : surplus (cs.take k) = 0 := surplus_eq_zero fun c hc => h c (List.mem_of_mem_take hc)
    omega,
    surplus_eq_zero h⟩

/-- Two balanced texts, one after the other, balance. -/
theorem Balanced.append {a b : List Char} (ha : Balanced a) (hb : Balanced b) :
    Balanced (a ++ b) := by
  refine ⟨fun k => ?_, by rw [surplus_append, ha.2, hb.2]; rfl⟩
  rw [surplus_take_append]
  by_cases hk : k ≤ a.length
  · -- the front part lies within `a`
    rw [Nat.sub_eq_zero_of_le hk, List.take_zero, surplus_nil]
    have := ha.1 k
    omega
  · -- the front part covers `a`, which adds nothing
    rw [List.take_of_length_le (by omega), ha.2]
    have := hb.1 (k - a.length)
    omega

theorem Balanced.cons {c : Char} {cs : List Char} (hc : c ≠ '(' ∧ c ≠ ')') (h : Balanced cs) :
    Balanced (c :: cs) :=
  (balanced_of_forall (by simpa using hc) : Balanced [c]).append h

/-- A balanced text in a pair of parentheses is matched. -/
theorem matched_wrap {inner : List Char} (h : Balanced inner) :
    Matched ('(' :: (inner ++ [')'])) := by
  -- past the opening parenthesis and within `inner`, the surplus is one more than in `inner`
  have hinside : ∀ k, k ≤ inner.length →
      0 < surplus (('(' :: (inner ++ [')'])).take (k + 1)) := by
    intro k hk
    rw [List.take_succ_cons, surplus_open_cons, List.take_append_of_le_length hk]
    have := h.1 k
    omega
  have hwhole : surplus ('(' :: (inner ++ [')'])) = 0 := by
    rw [surplus_open_cons, surplus_append, h.2]
    rfl
  refine ⟨rfl, by rw [← List.cons_append, List.getLast?_concat], ⟨fun k => ?_, hwhole⟩, fun k hk0 hk => ?_⟩
  · cases k with
    | zero => simp
    | succ k =>
      by_cases hk : k ≤ inner.length
      · exact Int.le_of_lt (hinside k hk)
      · rw [List.take_of_length_le (by simp; omega)]
        exact Int.le_of_eq hwhole.symm
  · obtain ⟨j, rfl⟩ : ∃ j, k = j + 1 := ⟨k - 1, by omega⟩
    exact hinside j (by simp at hk; omega)

theorem Matched.balanced {cs : List Char} (h : Matched cs) : Balanced cs := h.2.2.1

end Text

open Text

theorem ne_parens_of_isLetter {c : Char} (h : isLetter c = true) : c ≠ '(' ∧ c ≠ ')' := by
  constructor <;> rintro rfl <;> exact absurd h (by decide)

theorem Name.balanced (n : Name) : Balanced n.text.toList :=
  balanced_of_forall fun c hc => ne_parens_of_isLetter ((Lexer.isNameText_iff.mp n.valid).2 c hc)

theorem Punctuator.symbol_ne_parens {o : Punctuator} (h : o ≠ .openParen ∧ o ≠ .closeParen) :
    o.symbol ≠ '(' ∧ o.symbol ≠ ')' :=
  ⟨fun he => h.1 (Punctuator.symbol_injective he), fun he => h.2 (Punctuator.symbol_injective he)⟩

namespace Expr

/-! ## Operators, nodes and the text of each node -/

mutual

/-- The operators of a tree's binary, prefix and postfix nodes, in source order. -/
def ops : Expr → List Punctuator
  | name _ => []
  | assign _ r => ops r
  | binary l o r => ops l ++ o :: ops r
  | prefixed o r => o :: ops r
  | postfixed l o => ops l ++ [o]
  | conditional c t e => ops c ++ ops t ++ ops e
  | call f as => ops f ++ argOps as

/-- The operators of a list of trees, in order. -/
def argOps : List Expr → List Punctuator
  | [] => []
  | a :: as => ops a ++ argOps as

end

mutual

/-- Every node of a tree: the tree itself, then the nodes of its parts in source order. -/
def nodes : Expr → List Expr
  | name n => [name n]
  | assign n r => assign n r :: nodes r
  | binary l o r => binary l o r :: (nodes l ++ nodes r)
  | prefixed o r => prefixed o r :: nodes r
  | postfixed l o => postfixed l o :: nodes l
  | conditional c t e => conditional c t e :: (nodes c ++ nodes t ++ nodes e)
  | call f as => call f as :: (nodes f ++ argNodes as)

/-- The nodes of a list of trees, in order. -/
def argNodes : List Expr → List Expr
  | [] => []
  | a :: as => nodes a ++ argNodes as

end

/-- Whether a node is written in a pair of parentheses of its own: every node but a name and a
call is. -/
def isWrapped : Expr → Bool
  | name _ | call _ _ => false
  | _ => true

section Text

open Punctuator (symbol)

theorem toList_render_assign (n : Name) (r : Expr) :
    (assign n r).render.toList =
      '(' :: ((n.text.toList ++ ' ' :: symbol .assign :: ' ' :: r.render.toList) ++ [')']) := by
  have h := toList_render_assign_append [] n r
  rw [List.append_nil] at h
  rw [h]
  simp only [List.append_assoc, List.cons_append]
  rfl

theorem toList_render_binary (l : Expr) (o : Punctuator) (r : Expr) :
    (binary l o r).render.toList =
      '(' :: ((l.render.toList ++ ' ' :: symbol o :: ' ' :: r.render.toList) ++ [')']) := by
  have h := toList_render_binary_append [] l o r
  rw [List.append_nil] at h
  rw [h]
  simp only [List.append_assoc, List.cons_append]
  rfl

theorem toList_render_prefixed (o : Punctuator) (r : Expr) :
    (prefixed o r).render.toList = '(' :: ((symbol o :: r.render.toList) ++ [')']) := by
  have h := toList_render_prefixed_append [] o r
  rw [List.append_nil] at h
  rw [h]
  simp only [List.cons_append]
  rfl

theorem toList_render_postfixed (l : Expr) (o : Punctuator) :
    (postfixed l o).render.toList = '(' :: ((l.render.toList ++ [symbol o]) ++ [')']) := by
  have h := toList_render_postfixed_append [] l o
  rw [List.append_nil] at h
  rw [h]
  simp only [List.append_assoc, List.cons_append]
  rfl

theorem toList_render_conditional (c t e : Expr) :
    (conditional c t e).render.toList =
      '(' :: ((c.render.toList ++ ' ' :: symbol .question :: ' ' :: (t.render.toList ++
        ' ' :: symbol .colon :: ' ' :: e.render.toList)) ++ [')']) := by
  have h := toList_render_conditional_append [] c t e
  rw [List.append_nil] at h
  rw [h]
  simp only [List.append_assoc, List.cons_append]
  rfl

theorem toList_render_call (f : Expr) (as : List Expr) :
    (call f as).render.toList =
      f.render.toList ++ '(' :: ((renderArgs as).toList ++ [')']) := by
  have h := toList_render_call_append [] f as
  rw [List.append_nil] at h
  exact h

theorem toList_renderArgs_cons_cons (a b : Expr) (as : List Expr) :
    (renderArgs (a :: b :: as)).toList =
      a.render.toList ++ symbol .comma :: ' ' :: (renderArgs (b :: as)).toList := by
  have h := toList_renderArgs_cons_cons_append [] a b as
  rw [List.append_nil, List.append_nil] at h
  exact h

end Text

/-! ## The text of a tree balances -/

theorem blank_ne_parens : (' ' : Char) ≠ '(' ∧ ' ' ≠ ')' := by decide

mutual

/-- **The text of a tree balances.**  In a tree whose operators are no parentheses, the text of
every node balances, and that of a node in parentheses is matched.  Each case joins the texts of
the node's parts, balanced by induction, with separators that hold no parenthesis. -/
theorem balanced_render : ∀ e : Expr, (∀ o ∈ e.ops, o ≠ .openParen ∧ o ≠ .closeParen) →
    Balanced e.render.toList ∧ (e.isWrapped = true → Matched e.render.toList)
  | name n, _ => ⟨n.balanced, nofun⟩
  | assign n r, h => by
    have hr := (balanced_render r h).1
    have hm : Matched (assign n r).render.toList := by
      rw [toList_render_assign]
      exact matched_wrap (n.balanced.append
        (.cons blank_ne_parens (.cons (by decide) (.cons blank_ne_parens hr))))
    exact ⟨hm.balanced, fun _ => hm⟩
  | binary l o r, h => by
    have hl := (balanced_render l fun x hx => h x (List.mem_append_left _ hx)).1
    have hr := (balanced_render r fun x hx =>
      h x (List.mem_append_right _ (List.mem_cons_of_mem _ hx))).1
    have ho := Punctuator.symbol_ne_parens (h o (List.mem_append_right _ List.mem_cons_self))
    have hm : Matched (binary l o r).render.toList := by
      rw [toList_render_binary]
      exact matched_wrap (hl.append (.cons blank_ne_parens (.cons ho (.cons blank_ne_parens hr))))
    exact ⟨hm.balanced, fun _ => hm⟩
  | prefixed o r, h => by
    have hr := (balanced_render r fun x hx => h x (List.mem_cons_of_mem _ hx)).1
    have ho := Punctuator.symbol_ne_parens (h o List.mem_cons_self)
    have hm : Matched (prefixed o r).render.toList := by
      rw [toList_render_prefixed]
      exact matched_wrap (.cons ho hr)
    exact ⟨hm.balanced, fun _ => hm⟩
  | postfixed l o, h => by
    have hl := (balanced_render l fun x hx => h x (List.mem_append_left _ hx)).1
    have ho := Punctuator.symbol_ne_parens (h o (List.mem_append_right _ List.mem_cons_self))
    have hm : Matched (postfixed l o).render.toList := by
      rw [toList_render_postfixed]
      exact matched_wrap (hl.append (.cons ho .nil))
    exact ⟨hm.balanced, fun _ => hm⟩
  | conditional c t e, h => by
    have hc := (balanced_render c fun x hx =>
      h x (List.mem_append_left _ (List.mem_append_left _ hx))).1
    have ht := (balanced_render t fun x hx =>
      h x (List.mem_append_left _ (List.mem_append_right _ hx))).1
    have he := (balanced_render e fun x hx => h x (List.mem_append_right _ hx)).1
    have hm : Matched (conditional c t e).render.toList := by
      rw [toList_render_conditional]
      exact matched_wrap (hc.append (.cons blank_ne_parens (.cons (by decide)
        (.cons blank_ne_parens (ht.append (.cons blank_ne_parens (.cons (by decide)
          (.cons blank_ne_parens he))))))))
    exact ⟨hm.balanced, fun _ => hm⟩
  | call f as, h => by
    have hf := (balanced_render f fun x hx => h x (List.mem_append_left _ hx)).1
    have has := balanced_renderArgs as fun x hx => h x (List.mem_append_right _ hx)
    rw [toList_render_call]
    exact ⟨hf.append (matched_wrap has).balanced, nofun⟩

/-- The text of a list of arguments without parenthesis operators balances. -/
theorem balanced_renderArgs : ∀ as : List Expr,
    (∀ o ∈ argOps as, o ≠ .openParen ∧ o ≠ .closeParen) → Balanced (renderArgs as).toList
  | [], _ => Balanced.nil
  | [a], h => (balanced_render a fun x hx => h x (List.mem_append_left _ hx)).1
  | a :: b :: as, h => by
    have ha := (balanced_render a fun x hx => h x (List.mem_append_left _ hx)).1
    have hrest := balanced_renderArgs (b :: as) fun x hx => h x (List.mem_append_right _ hx)
    rw [toList_renderArgs_cons_cons]
    exact ha.append (.cons (by decide) (.cons blank_ne_parens hrest))

end

/-! ## The nodes of a tree -/

/-- A node inside a part of a tree whose operators are `os` and whose text is `cs`: the node's
operators are among `os`, and its text is a piece of `cs`. -/
structure Inside (n : Expr) (os : List Punctuator) (cs : List Char) : Prop where
  ops_subset : n.ops ⊆ os
  piece : n.render.toList <:+: cs

theorem Inside.self (n : Expr) : Inside n n.ops n.render.toList := ⟨List.Subset.refl _, List.infix_refl _⟩

theorem Inside.mono {n : Expr} {os os' : List Punctuator} {cs cs' : List Char} (h : Inside n os cs)
    (hos : os ⊆ os') (hcs : cs <:+: cs') : Inside n os' cs' :=
  ⟨List.Subset.trans h.ops_subset hos, h.piece.trans hcs⟩

open Punctuator (symbol) in
mutual

/-- Every node of a tree lies inside it. -/
theorem inside_of_mem_nodes : ∀ (e n : Expr), n ∈ e.nodes → Inside n e.ops e.render.toList
  | name m, n, h => by
    rw [List.mem_singleton.mp h]
    exact .self _
  | assign m r, n, h => by
    rcases List.mem_cons.mp h with rfl | h
    · exact .self _
    refine (inside_of_mem_nodes r n h).mono (List.Subset.refl _) ?_
    rw [toList_render_assign]
    exact ⟨'(' :: (m.text.toList ++ [' ', symbol .assign, ' ']), [')'], by simp⟩
  | binary l o r, n, h => by
    rcases List.mem_cons.mp h with rfl | h
    · exact .self _
    rw [ops, toList_render_binary]
    rcases List.mem_append.mp h with h | h
    · exact (inside_of_mem_nodes l n h).mono (fun _ hx => by simp [hx])
        ⟨['('], ' ' :: symbol o :: ' ' :: (r.render.toList ++ [')']), by simp⟩
    · exact (inside_of_mem_nodes r n h).mono (fun _ hx => by simp [hx])
        ⟨'(' :: (l.render.toList ++ [' ', symbol o, ' ']), [')'], by simp⟩
  | prefixed o r, n, h => by
    rcases List.mem_cons.mp h with rfl | h
    · exact .self _
    rw [ops, toList_render_prefixed]
    exact (inside_of_mem_nodes r n h).mono (fun _ hx => by simp [hx])
      ⟨['(', symbol o], [')'], by simp⟩
  | postfixed l o, n, h => by
    rcases List.mem_cons.mp h with rfl | h
    · exact .self _
    rw [ops, toList_render_postfixed]
    exact (inside_of_mem_nodes l n h).mono (fun _ hx => by simp [hx])
      ⟨['('], [symbol o, ')'], by simp⟩
  | conditional c t e, n, h => by
    rcases List.mem_cons.mp h with rfl | h
    · exact .self _
    rw [ops, toList_render_conditional]
    rcases List.mem_append.mp h with h | h
    · rcases List.mem_append.mp h with h | h
      · exact (inside_of_mem_nodes c n h).mono (fun _ hx => by simp [hx])
          ⟨['('], ' ' :: symbol .question :: ' ' :: (t.render.toList ++
            ' ' :: symbol .colon :: ' ' :: (e.render.toList ++ [')'])), by simp⟩
      · exact (inside_of_mem_nodes t n h).mono (fun _ hx => by simp [hx])
          ⟨'(' :: (c.render.toList ++ [' ', symbol .question, ' ']),
            ' ' :: symbol .colon :: ' ' :: (e.render.toList ++ [')']), by simp⟩
    · exact (inside_of_mem_nodes e n h).mono (fun _ hx => by simp [hx])
        ⟨'(' :: (c.render.toList ++ ' ' :: symbol .question :: ' ' :: (t.render.toList ++
          [' ', symbol .colon, ' '])), [')'], by simp⟩
  | call f as, n, h => by
    rcases List.mem_cons.mp h with rfl | h
    · exact .self _
    rw [ops, toList_render_call]
    rcases List.mem_append.mp h with h | h
    · exact (inside_of_mem_nodes f n h).mono (fun _ hx => by simp [hx])
        ⟨[], '(' :: ((renderArgs as).toList ++ [')']), by simp⟩
    · exact (inside_of_mem_argNodes as n h).mono (fun _ hx => by simp [hx])
        ⟨f.render.toList ++ ['('], [')'], by simp⟩

/-- Every node of a list of arguments lies inside the list. -/
theorem inside_of_mem_argNodes : ∀ (as : List Expr) (n : Expr), n ∈ argNodes as →
    Inside n (argOps as) (renderArgs as).toList
  | [], _, h => absurd h List.not_mem_nil
  | [a], n, h => by
    rw [argNodes, argNodes, List.append_nil] at h
    rw [argOps, argOps, List.append_nil]
    exact inside_of_mem_nodes a n h
  | a :: b :: as, n, h => by
    rw [argOps, toList_renderArgs_cons_cons]
    rcases List.mem_append.mp h with h | h
    · exact (inside_of_mem_nodes a n h).mono (fun _ hx => by simp [hx])
        ⟨[], symbol .comma :: ' ' :: (renderArgs (b :: as)).toList, by simp⟩
    · exact (inside_of_mem_argNodes (b :: as) n h).mono (fun _ hx => by simp [hx])
        ⟨a.render.toList ++ [symbol .comma, ' '], [], by simp⟩

end

/-- **The canonical text balances.**  In a tree whose operators are no parentheses, reading the
text from the left, the closing parentheses never outnumber the opening ones and the two counts
agree at the end; and the text of every node but names and calls is a piece of the tree's text
whose opening parenthesis is closed by its last one. -/
theorem render_balanced (e : Expr) (h : ∀ o ∈ e.ops, o ≠ .openParen ∧ o ≠ .closeParen) :
    Balanced e.render.toList ∧
      ∀ n ∈ e.nodes, n.isWrapped = true →
        n.render.toList <:+: e.render.toList ∧ Matched n.render.toList := by
  refine ⟨(balanced_render e h).1, fun n hn hw => ?_⟩
  have hin := inside_of_mem_nodes e n hn
  exact ⟨hin.piece, (balanced_render n fun o ho => h o (hin.ops_subset ho)).2 hw⟩

/-- `f((a + b), (-c))` balances, and the texts of its sum and its negation are matched. -/
theorem render_balanced_call :
    let e := call (name ⟨"f", by simp [isNameText, isLetter]⟩)
      [binary (name ⟨"a", by simp [isNameText, isLetter]⟩) .plus
        (name ⟨"b", by simp [isNameText, isLetter]⟩),
       prefixed .minus (name ⟨"c", by simp [isNameText, isLetter]⟩)]
    (∀ o ∈ e.ops, o ≠ .openParen ∧ o ≠ .closeParen) ∧
      Balanced e.render.toList ∧
        ∀ n ∈ e.nodes, n.isWrapped = true →
          n.render.toList <:+: e.render.toList ∧ Matched n.render.toList :=
  ⟨by decide, render_balanced _ (by decide)⟩

/-- A prefix `(` writes `((a)`, which does not balance. -/
example : ¬ Balanced (prefixed .openParen (name ⟨"a", by simp [isNameText, isLetter]⟩)).render.toList :=
  fun h => absurd h.2 (by decide)

end Expr

end MiniExpr
