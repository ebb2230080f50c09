import MiniExpr.Proofs.Expr.Grammar
/-!
# Reading a rendered tree back

The canonical text of a tree puts every node but a name and a call in parentheses, and a call's
arguments in parentheses after its function.  Read token by token it tells the nodes apart: after
an opening parenthesis a punctuator makes a prefix node, while a name or another parenthesis starts
a first operand; after the operand a punctuator followed by the closing parenthesis makes a postfix
node, `=` an assignment, `?` a condition when a `:` follows its second operand, and any other
punctuator a binary node.  An opening parenthesis right after a complete tree always starts a
call's arguments, so a reader takes calls greedily.

This holds when no operator of a node is a parenthesis and no binary node has the operator `=`
(`readable`).  Without that, `(x = b)` is both an assignment and a binary node, and `(((x)))` both a
prefix `(` around a postfix `)` and the other way round (`render_assign_eq_render_binary`,
`render_prefixed_postfixed_comm`).

`readExpr` reads a tree from the front of a token list; `readExpr_tokens` says it reads the tokens of
every readable tree back, whatever follows them that does not open a call.  The statement carries
the argument lists of calls still to come, since a call's text starts with its function's.  With
the lexer's reading of the canonical text (`tokensOf_render_append`), equal texts of readable trees
make equal trees (`eq_of_render_eq`).
-/

namespace MiniExpr

/-- What the reader makes of a token: a name, a punctuator, or neither. -/
inductive Sym where
  | name (n : Name)
  | punct (p : Punctuator)
  | other

namespace Token

/-- How the reader sees a token. -/
def sym (t : Token) : Sym :=
  match t.kind with
  | .name => if h : isNameText t.value = true then .name ⟨t.value, h⟩ else .other
  | .punctuator =>
    match Punctuator.ofString? t.value with
    | some p => .punct p
    | none => .other
  | .other _ => .other

@[simp]
theorem sym_ofName (n : Name) : (ofName n.text).sym = .name n := by
  rw [sym, ofName]
  exact dif_pos n.valid

@[simp]
theorem sym_ofPunctuator (p : Punctuator) : (ofPunctuator p).sym = .punct p := by
  simp only [sym, ofPunctuator, Expr.Punctuator.ofString?_text]

end Token

namespace Expr

/-! ## The reader -/

/-- The tokens after a leading punctuator `p`, if the list starts with it. -/
def expect (p : Punctuator) : List Token → Option (List Token)
  | t :: rest =>
    match t.sym with
    | .punct q => if q = p then some rest else none
    | _ => none
  | [] => none

mutual

/-- Reads a tree, with the calls that follow it, from the front of a token list; `n` bounds how
deep the reading goes. -/
def readExpr : Nat → List Token → Option (Expr × List Token)
  | 0, _ => none
  | _ + 1, [] => none
  | n + 1, t :: rest =>
    match t.sym with
    | .name w => readCalls n (.name w) rest
    | .punct .openParen => (readGroup n rest).bind fun (x, r) => readCalls n x r
    | _ => none

/-- Applies `x` to each argument list that follows. -/
def readCalls : Nat → Expr → List Token → Option (Expr × List Token)
  | 0, _, _ => none
  | n + 1, x, ts =>
    match expect .openParen ts with
    | some rest => (readArgs n rest).bind fun (as, r) => readCalls n (.call x as) r
    | none => some (x, ts)

/-- Reads arguments separated by commas, through the closing parenthesis. -/
def readArgs : Nat → List Token → Option (List Expr × List Token)
  | 0, _ => none
  | n + 1, ts =>
    match expect .closeParen ts with
    | some rest => some ([], rest)
    | none =>
      (readExpr n ts).bind fun (a, r) =>
        match expect .comma r with
        | some r' => (readArgs n r').map fun (as, r'') => (a :: as, r'')
        | none => (expect .closeParen r).map fun r' => ([a], r')

/-- Reads the inside of a node in parentheses, through the closing one: a punctuator first makes a
prefix node, anything else is the node's first operand. -/
def readGroup : Nat → List Token → Option (Expr × List Token)
  | 0, _ => none
  | _ + 1, [] => none
  | n + 1, t :: rest =>
    match t.sym with
    | .punct o =>
      if o = .openParen then (readExpr n (t :: rest)).bind fun (x, r) => readAfter n x r
      else
        (readExpr n rest).bind fun (y, r) =>
          (expect .closeParen r).map fun r' => (.prefixed o y, r')
    | _ => (readExpr n (t :: rest)).bind fun (x, r) => readAfter n x r

/-- Reads the rest of a node in parentheses after its first operand `x`, through the closing
parenthesis. -/
def readAfter : Nat → Expr → List Token → Option (Expr × List Token)
  | 0, _, _ => none
  | _ + 1, _, [] => none
  | n + 1, x, t :: rest =>
    match t.sym with
    | .punct o =>
      match expect .closeParen rest with
      | some r => some (.postfixed x o, r)
      | none =>
        if o = .assign then
          match x with
          | .name w =>
            (readExpr n rest).bind fun (y, r) =>
              (expect .closeParen r).map fun r' => (.assign w y, r')
          | _ => none
        else if o = .question then
          (readExpr n rest).bind fun (y, r) =>
            match expect .colon r with
            | some r' =>
              (readExpr n r').bind fun (z, r'') =>
                (expect .closeParen r'').map fun r''' => (.conditional x y z, r''')
            | none => (expect .closeParen r).map fun r' => (.binary x .question y, r')
        else
          (readExpr n rest).bind fun (y, r) =>
            (expect .closeParen r).map fun r' => (.binary x o y, r')
    | _ => none

end

/-- Reads a whole token list as one tree. -/
def read (ts : List Token) : Option Expr :=
  match readExpr (2 * ts.length + 1) ts with
  | some (e, []) => some e
  | _ => none

/-! ## Readable trees -/

/-- Whether a punctuator can be the operator of a node the reader tells apart: neither
parenthesis. -/
def readableOp (o : Punctuator) : Bool := o != .openParen && o != .closeParen

mutual

/-- Whether a tree's text reads back as that tree: no operator is a parenthesis and no binary node
has the operator `=`. -/
def readable : Expr → Bool
  | name _ => true
  | assign _ r => readable r
  | binary l o r => readableOp o && o != .assign && readable l && readable r
  | prefixed o r => readableOp o && readable r
  | postfixed l o => readableOp o && readable l
  | conditional c t e => readable c && readable t && readable e
  | call f as => readable f && readableArgs as

/-- Whether every tree of a list is readable. -/
def readableArgs : List Expr → Bool
  | [] => true
  | a :: as => readable a && readableArgs as

end

/-! ## Shapes of the tokens -/

/-- The tokens of an argument list in its parentheses. -/
def callTokens (as : List Expr) : List Token :=
  .ofPunctuator .openParen :: (argTokens as ++ [.ofPunctuator .closeParen])

/-- The first token of a tree's text: its leftmost name, or an opening parenthesis. -/
def lead : Expr → Token
  | name n => .ofName n.text
  | call f _ => lead f
  | _ => .ofPunctuator .openParen

theorem tokens_eq_lead_cons : ∀ e : Expr, ∃ rest, e.tokens = e.lead :: rest
  | name n => ⟨[], rfl⟩
  | call f as => by
    obtain ⟨rest, h⟩ := tokens_eq_lead_cons f
    exact ⟨rest ++ callTokens as, by simp [tokens, lead, h, callTokens]⟩
  | assign .. | binary .. | prefixed .. | postfixed .. | conditional .. => by simp [tokens, lead]

theorem lead_sym : ∀ e : Expr, e.lead.sym = .punct .openParen ∨ ∃ n, e.lead.sym = .name n
  | name n => .inr ⟨n, by simp [lead]⟩
  | call f _ => lead_sym f
  | assign .. | binary .. | prefixed .. | postfixed .. | conditional .. => .inl (by simp [lead])

theorem tokens_call_append (f : Expr) (as : List Expr) (X : List Token) :
    (call f as).tokens ++ X = f.tokens ++ (callTokens as ++ X) := by
  simp [tokens, callTokens]

theorem expect_ofPunctuator (p q : Punctuator) (rest : List Token) :
    expect p (.ofPunctuator q :: rest) = if q = p then some rest else none := by
  simp [expect]

theorem expect_openParen_ofPunctuator {p : Punctuator} (hp : p ≠ .openParen) (ts : List Token) :
    expect .openParen (.ofPunctuator p :: ts) = none := by
  rw [expect_ofPunctuator, if_neg hp]

/-- The text of a tree starts with neither a closing parenthesis nor any punctuator but an opening
one. -/
theorem expect_tokens_append {p : Punctuator} (hp : p ≠ .openParen) (e : Expr) (X : List Token) :
    expect p (e.tokens ++ X) = none := by
  obtain ⟨rest, h⟩ := tokens_eq_lead_cons e
  rw [h, List.cons_append]
  rcases lead_sym e with hs | ⟨n, hs⟩
  · simp [expect, hs, Ne.symm hp]
  · simp [expect, hs]

theorem expect_closeParen_tokens (e : Expr) (X : List Token) :
    expect .closeParen (e.tokens ++ X) = none :=
  expect_tokens_append (by decide) e X

/-- A node in parentheses whose text starts with a tree reads that tree first. -/
theorem readGroup_operand (e : Expr) (X : List Token) (n : Nat) :
    readGroup (n + 1) (e.tokens ++ X) =
      (readExpr n (e.tokens ++ X)).bind fun (x, r) => readAfter n x r := by
  obtain ⟨rest, h⟩ := tokens_eq_lead_cons e
  rw [h, List.cons_append, readGroup]
  rcases lead_sym e with hs | ⟨w, hs⟩
  · simp only [hs, if_pos]
  · simp only [hs]

/-! ## Reading the tokens of a tree -/

/-- The argument list `as` reads back from its tokens, through its closing parenthesis. -/
def ArgsRead (as : List Expr) : Prop :=
  ∀ n rest, 2 * (argTokens as).length + 1 < n →
    readArgs n (argTokens as ++ .ofPunctuator .closeParen :: rest) = some (as, rest)

/-- The argument lists that follow a tree apply to it in turn. -/
theorem readCalls_callTokens (x : Expr) :
    ∀ (L : List (List Expr)), (∀ as ∈ L, ArgsRead as) → ∀ (r : List Token),
      expect .openParen r = none → ∀ n, 2 * (L.flatMap callTokens).length < n →
      readCalls n x (L.flatMap callTokens ++ r) = some (L.foldl call x, r)
  | [], _, r, hr, n + 1, _ => by simp [readCalls, hr]
  | as :: L, hL, r, hr, n + 1, hn => by
    rw [List.flatMap_cons, List.length_append, callTokens, List.length_cons, List.length_append,
      List.length_singleton] at hn
    have hargs := hL as List.mem_cons_self n (L.flatMap callTokens ++ r) (by omega)
    rw [List.flatMap_cons, callTokens, readCalls, List.cons_append, List.cons_append,
      expect_ofPunctuator, if_pos rfl]
    simp only [List.append_assoc, List.cons_append, List.nil_append, hargs, Option.bind_some]
    exact readCalls_callTokens (call x as) L (fun bs hb => hL bs (List.mem_cons_of_mem _ hb)) r hr
      n (by omega)

/-- A name reads as itself when no argument list follows. -/
theorem readExpr_name (w : Name) {r : List Token} (hr : expect .openParen r = none) (n : Nat) :
    readExpr (n + 2) (.ofName w.text :: r) = some (name w, r) := by
  simp [readExpr, readCalls, hr]

/-- A node in parentheses is followed by the argument lists applied to it. -/
theorem readExpr_openParen {x : Expr} {ts : List Token} {L : List (List Expr)} {r : List Token}
    {n : Nat} (h : readGroup n ts = some (x, L.flatMap callTokens ++ r))
    (hL : ∀ as ∈ L, ArgsRead as) (hr : expect .openParen r = none)
    (hn : 2 * (L.flatMap callTokens).length < n) :
    readExpr (n + 1) (.ofPunctuator .openParen :: ts) = some (L.foldl call x, r) := by
  simp only [readExpr, Token.sym_ofPunctuator, h, Option.bind_some]
  exact readCalls_callTokens x L hL r hr n hn

/-! ### One lemma for each node in parentheses

Each reads the inside of a node, through its closing parenthesis, given that its parts read back. -/

/-- A tree reads back from its tokens when nothing that opens a call follows. -/
def ReadsBack (e : Expr) : Prop :=
  ∀ r, expect .openParen r = none → ∀ n, 2 * e.tokens.length < n →
    readExpr n (e.tokens ++ r) = some (e, r)

/-- A tree reads back when it does with no argument lists after it. -/
theorem ReadsBack.of_calls {e : Expr}
    (h : ∀ r, expect .openParen r = none → ∀ n,
      2 * (e.tokens ++ ([] : List (List Expr)).flatMap callTokens).length < n →
      readExpr n (e.tokens ++ (([] : List (List Expr)).flatMap callTokens ++ r)) =
        some (([] : List (List Expr)).foldl call e, r)) :
    ReadsBack e := by
  intro r hr n hn
  simpa using h r hr n (by simpa using hn)

/-- A tree followed by a punctuator other than `(` reads back. -/
theorem ReadsBack.punct {e : Expr} (h : ReadsBack e) (p : Punctuator) (hp : p ≠ .openParen)
    (rest : List Token) (n : Nat) (hn : 2 * e.tokens.length < n) :
    readExpr n (e.tokens ++ .ofPunctuator p :: rest) = some (e, .ofPunctuator p :: rest) :=
  h _ (expect_openParen_ofPunctuator hp rest) n hn

section Nodes

variable {n : Nat} (rest : List Token)

theorem readGroup_assign {w : Name} {b : Expr} (hb : ReadsBack b)
    (hn : 2 * b.tokens.length + 6 < n) :
    readGroup n (.ofName w.text :: .ofPunctuator .assign ::
      (b.tokens ++ .ofPunctuator .closeParen :: rest)) = some (assign w b, rest) := by
  obtain ⟨k, rfl⟩ : ∃ k, n = k + 1 := ⟨n - 1, by omega⟩
  obtain ⟨j, rfl⟩ : ∃ j, k = j + 2 := ⟨k - 2, by omega⟩
  have hname := readGroup_operand (name w)
    (.ofPunctuator .assign :: (b.tokens ++ .ofPunctuator .closeParen :: rest)) (j + 2)
  simp only [tokens, List.singleton_append] at hname
  rw [hname, readExpr_name w (expect_openParen_ofPunctuator (by decide) _), Option.bind_some]
  simp only [readAfter, Token.sym_ofPunctuator, expect_closeParen_tokens b, ↓reduceIte]
  rw [hb.punct .closeParen (by decide) rest (j + 1) (by omega), Option.bind_some,
    expect_ofPunctuator, if_pos rfl]
  rfl

theorem readGroup_binary {l r : Expr} {o : Punctuator} (hl : ReadsBack l) (hr : ReadsBack r)
    (hopen : o ≠ .openParen) (hassign : o ≠ .assign)
    (hn : 2 * (l.tokens.length + r.tokens.length) + 4 < n) :
    readGroup n (l.tokens ++ .ofPunctuator o :: (r.tokens ++ .ofPunctuator .closeParen :: rest)) =
      some (binary l o r, rest) := by
  obtain ⟨k, rfl⟩ : ∃ k, n = k + 2 := ⟨n - 2, by omega⟩
  rw [readGroup_operand, hl.punct o hopen _ (k + 1) (by omega),
    Option.bind_some]
  simp only [readAfter, Token.sym_ofPunctuator, expect_closeParen_tokens r, if_neg hassign]
  have hread := hr.punct .closeParen (by decide) rest k (by omega)
  -- a `?` node waits for a `:` after its second operand, and finds the closing parenthesis
  by_cases hq : o = .question
  · subst hq
    simp only [↓reduceIte, hread, Option.bind_some, expect_ofPunctuator]
    rfl
  · simp only [if_neg hq, hread, Option.bind_some, expect_ofPunctuator, ↓reduceIte]
    rfl

theorem readGroup_prefixed {o : Punctuator} {r : Expr} (hr : ReadsBack r) (hopen : o ≠ .openParen)
    (hn : 2 * r.tokens.length + 2 < n) :
    readGroup n (.ofPunctuator o :: (r.tokens ++ .ofPunctuator .closeParen :: rest)) =
      some (prefixed o r, rest) := by
  obtain ⟨k, rfl⟩ : ∃ k, n = k + 1 := ⟨n - 1, by omega⟩
  simp only [readGroup, Token.sym_ofPunctuator, if_neg hopen]
  rw [hr.punct .closeParen (by decide) rest k (by omega), Option.bind_some,
    expect_ofPunctuator, if_pos rfl]
  rfl

theorem readGroup_postfixed {l : Expr} {o : Punctuator} (hl : ReadsBack l) (hopen : o ≠ .openParen)
    (hn : 2 * l.tokens.length + 4 < n) :
    readGroup n (l.tokens ++ .ofPunctuator o :: .ofPunctuator .closeParen :: rest) =
      some (postfixed l o, rest) := by
  obtain ⟨k, rfl⟩ : ∃ k, n = k + 2 := ⟨n - 2, by omega⟩
  rw [readGroup_operand, hl.punct o hopen _ (k + 1) (by omega),
    Option.bind_some]
  simp only [readAfter, Token.sym_ofPunctuator, expect_ofPunctuator, ↓reduceIte]

theorem readGroup_conditional {c t e : Expr} (hc : ReadsBack c) (ht : ReadsBack t)
    (he : ReadsBack e) (hn : 2 * (c.tokens.length + t.tokens.length + e.tokens.length) + 6 < n) :
    readGroup n (c.tokens ++ .ofPunctuator .question :: (t.tokens ++ .ofPunctuator .colon ::
      (e.tokens ++ .ofPunctuator .closeParen :: rest))) = some (conditional c t e, rest) := by
  obtain ⟨k, rfl⟩ : ∃ k, n = k + 2 := ⟨n - 2, by omega⟩
  rw [readGroup_operand, hc.punct .question (by decide) _ (k + 1) (by omega),
    Option.bind_some]
  simp only [readAfter, Token.sym_ofPunctuator, expect_closeParen_tokens t, ↓reduceIte]
  rw [ht.punct .colon (by decide) _ k (by omega), Option.bind_some]
  simp only [expect_ofPunctuator, ↓reduceIte]
  rw [he.punct .closeParen (by decide) rest k (by omega), Option.bind_some]
  simp only [expect_ofPunctuator, ↓reduceIte]
  rfl

end Nodes

/-! ### Every readable tree -/

mutual

/-- **A readable tree reads back from its tokens.**  Followed by argument lists that read back and
then by tokens that do not open a call, the tokens of a readable tree read as the tree applied to
those lists.  The lists are what a call hands to its function, whose text comes first. -/
theorem readExpr_tokens : ∀ (e : Expr), e.readable = true → ∀ (L : List (List Expr)),
    (∀ as ∈ L, ArgsRead as) → ∀ (r : List Token), expect .openParen r = none →
    ∀ n, 2 * (e.tokens ++ L.flatMap callTokens).length < n →
    readExpr n (e.tokens ++ (L.flatMap callTokens ++ r)) = some (L.foldl call e, r)
  | name w, _, L, hL, r, hr, n + 1, hn => by
    simp only [tokens, List.length_append, List.length_singleton] at hn
    simp only [tokens, List.singleton_append, readExpr, Token.sym_ofName]
    exact readCalls_callTokens (name w) L hL r hr n (by omega)
  | assign w b, h, L, hL, r, hr, n + 1, hn => by
    simp only [readable] at h
    simp only [tokens, List.length_append, List.length_cons, List.length_nil] at hn
    simp only [tokens, List.cons_append, List.append_assoc]
    exact readExpr_openParen
      (readGroup_assign _ (ReadsBack.of_calls (readExpr_tokens b h [] (by simp))) (by omega))
      hL hr (by omega)
  | binary x o y, h, L, hL, r, hr, n + 1, hn => by
    simp only [readable, readableOp, Bool.and_eq_true, bne_iff_ne, ne_eq] at h
    obtain ⟨⟨⟨⟨hopen, -⟩, hassign⟩, hx⟩, hy⟩ := h
    simp only [tokens, List.length_append, List.length_cons, List.length_nil] at hn
    simp only [tokens, List.cons_append, List.append_assoc]
    exact readExpr_openParen
      (readGroup_binary _ (ReadsBack.of_calls (readExpr_tokens x hx [] (by simp)))
        (ReadsBack.of_calls (readExpr_tokens y hy [] (by simp))) hopen hassign (by omega))
      hL hr (by omega)
  | prefixed o y, h, L, hL, r, hr, n + 1, hn => by
    simp only [readable, readableOp, Bool.and_eq_true, bne_iff_ne, ne_eq] at h
    obtain ⟨⟨hopen, -⟩, hy⟩ := h
    simp only [tokens, List.length_append, List.length_cons, List.length_nil] at hn
    simp only [tokens, List.cons_append, List.append_assoc]
    exact readExpr_openParen
      (readGroup_prefixed _ (ReadsBack.of_calls (readExpr_tokens y hy [] (by simp))) hopen
        (by omega))
      hL hr (by omega)
  | postfixed x o, h, L, hL, r, hr, n + 1, hn => by
    simp only [readable, readableOp, Bool.and_eq_true, bne_iff_ne, ne_eq] at h
    obtain ⟨⟨hopen, -⟩, hx⟩ := h
    simp only [tokens, List.length_append, List.length_cons, List.length_nil] at hn
    simp only [tokens, List.cons_append, List.append_assoc]
    exact readExpr_openParen
      (readGroup_postfixed _ (ReadsBack.of_calls (readExpr_tokens x hx [] (by simp))) hopen
        (by omega))
      hL hr (by omega)
  | conditional c t e, h, L, hL, r, hr, n + 1, hn => by
    simp only [readable, Bool.and_eq_true] at h
    obtain ⟨⟨hc, ht⟩, he⟩ := h
    simp only [tokens, List.length_append, List.length_cons, List.length_nil] at hn
    simp only [tokens, List.cons_append, List.append_assoc]
    exact readExpr_openParen
      (readGroup_conditional _ (ReadsBack.of_calls (readExpr_tokens c hc [] (by simp)))
        (ReadsBack.of_calls (readExpr_tokens t ht [] (by simp)))
        (ReadsBack.of_calls (readExpr_tokens e he [] (by simp))) (by omega))
      hL hr (by omega)
  | call f as, h, L, hL, r, hr, n, hn => by
    simp only [readable, Bool.and_eq_true] at h
    -- the call's own arguments join the lists waiting for its function
    have has := argsRead as h.2
    have hL' : ∀ bs ∈ as :: L, ArgsRead bs := by
      intro bs hbs
      rcases List.mem_cons.mp hbs with rfl | hbs
      · exact has
      · exact hL bs hbs
    rw [tokens_call_append, ← List.append_assoc (callTokens as), ← List.flatMap_cons]
    rw [tokens_call_append, ← List.flatMap_cons] at hn
    exact readExpr_tokens f h.1 (as :: L) hL' r hr n hn
  | name _, _, _, _, _, _, 0, hn | assign .., _, _, _, _, _, 0, hn | binary .., _, _, _, _, _, 0, hn
  | prefixed .., _, _, _, _, _, 0, hn | postfixed .., _, _, _, _, _, 0, hn
  | conditional .., _, _, _, _, _, 0, hn => absurd hn (Nat.not_lt_zero _)

/-- The arguments of a call read back, one after another, through the closing parenthesis. -/
theorem argsRead : ∀ (as : List Expr), readableArgs as = true → ArgsRead as
  | [], _, n + 1, rest, _ => by
    simp [argTokens, readArgs, expect_ofPunctuator]
  | [a], h, n + 1, rest, hn => by
    simp only [readableArgs, Bool.and_eq_true] at h
    simp only [argTokens] at hn ⊢
    rw [readArgs, expect_closeParen_tokens,
      (ReadsBack.of_calls (readExpr_tokens a h.1 [] (by simp))).punct .closeParen (by decide)
        rest n (by omega), Option.bind_some]
    simp [expect_ofPunctuator]
  | a :: b :: bs, h, n + 1, rest, hn => by
    simp only [readableArgs, Bool.and_eq_true] at h
    simp only [argTokens, List.length_append, List.length_cons, List.length_nil] at hn
    have hargs := argsRead (b :: bs) (by simp only [readableArgs, Bool.and_eq_true]; exact h.2) n
      rest (by omega)
    simp only [argTokens, List.append_assoc, List.cons_append] at hargs ⊢
    rw [readArgs, expect_closeParen_tokens,
      (ReadsBack.of_calls (readExpr_tokens a h.1 [] (by simp))).punct .comma (by decide) _ n
        (by omega), Option.bind_some]
    simp [expect_ofPunctuator, hargs]
  | _, _, 0, _, hn => absurd hn (Nat.not_lt_zero _)

end

/-- The reader takes the tokens of a readable tree, and nothing else, as that tree. -/
theorem read_tokens {e : Expr} (h : e.readable = true) : read e.tokens = some e := by
  have hread := readExpr_tokens e h [] (by simp) [] rfl (2 * e.tokens.length + 1) (by simp)
  simp only [List.flatMap_nil, List.append_nil, List.foldl_nil] at hread
  rw [read, hread]

/-! ## The canonical text -/

theorem tokensOf_render (e : Expr) : Lexer.tokensOf e.render.toList = e.tokens := by
  have hread := tokensOf_render_append e [] rfl
  rw [List.append_nil, Lexer.tokensOf_nil, List.append_nil] at hread
  exact hread

/-- **The canonical text is unambiguous.**  Two readable trees with the same text are the same
tree. -/
theorem eq_of_render_eq {e₁ e₂ : Expr} (h₁ : e₁.readable = true) (h₂ : e₂.readable = true)
    (h : e₁.render = e₂.render) : e₁ = e₂ := by
  have htokens : e₁.tokens = e₂.tokens := by
    rw [← tokensOf_render, h, tokensOf_render]
  have hread := read_tokens h₁
  rw [htokens, read_tokens h₂] at hread
  exact (Option.some.inj hread).symm

theorem eq_of_render_eq_question :
    (binary (name ⟨"a", by simp [isNameText, isLetter]⟩) .question
        (name ⟨"b", by simp [isNameText, isLetter]⟩)).readable = true ∧
      binary (name ⟨"a", by simp [isNameText, isLetter]⟩) .question
          (name ⟨"b", by simp [isNameText, isLetter]⟩) =
        binary (name ⟨"a", by simp [isNameText, isLetter]⟩) .question
          (name ⟨"b", by simp [isNameText, isLetter]⟩) :=
  ⟨rfl, eq_of_render_eq rfl rfl rfl⟩

/-- Without the restriction on `=`: an assignment and a binary `=` node write the same text. -/
theorem render_assign_eq_render_binary (w : Name) (b : Expr) :
    (assign w b).render = (binary (name w) .assign b).render := by
  simp [render, Punctuator.text, Punctuator.symbol, String.append_assoc]

/-- Without the restriction on parentheses: a prefix `(` around a postfix `)` writes the same text
as a postfix `)` around a prefix `(`. -/
theorem render_prefixed_postfixed_comm (x : Expr) :
    (prefixed .openParen (postfixed x .closeParen)).render =
      (postfixed (prefixed .openParen x) .closeParen).render := by
  rw [← String.toList_inj]
  simp [render, Punctuator.text, Punctuator.symbol]

end Expr

end MiniExpr
