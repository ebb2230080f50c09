import MiniExpr.Proofs.Lexer.Characters
/-!
# The cursor

A `Lexer` is a text with a cursor, and the steps `next`, `iter` and `rest` read tokens from the
cursor on.  This file relates a run of such steps to the tokens of the text.

* `run_eq_map_run_drop`: the steps only look forward from the cursor.  A lexer with cursor `p`
  answers every run of reading steps as a fresh lexer on its text from `p` on, with every cursor
  moved by `p`; a cursor at or past the end reports the end and stays where it is.
* `run_ofString_answers`: a fresh lexer on `s` hands out the tokens of `s` in order, each step
  leaving the cursor just past the token it took; it reports the end only when every token has
  been handed out, and from then on it reports nothing else and its cursor stays at the end.

Both rest on one lemma per step, `Shifted.step` and `Reading.step`, and on the fact that a
lexer at the end of its text is left as it is (`step_of_length_le`).
-/

namespace MiniExpr.Lexer

/-- Whether a step reads the text: `next`, `iter` and `rest` do; `seek` and `setText` move the
lexer instead. -/
def Step.reads : Step → Bool
  | .next | .iter | .rest => true
  | .seek _ | .setText _ => false

/-- The tokens a reply hands out. -/
def Reply.handed : Reply → List Token
  | .token t => [t]
  | .tokens ts => ts
  | .none | .stop | .moved => []

/-- Whether a reply reports that no token is left: `next` found none, `iter` stopped, or `rest`
took none. -/
def Reply.atEnd : Reply → Bool
  | .none | .stop | .tokens [] => true
  | .token _ | .tokens (_ :: _) | .moved => false

/-- The tokens handed out along a run, in order. -/
def handedOut (rs : List (Reply × Nat)) : List Token := rs.flatMap (·.1.handed)

@[simp] theorem handedOut_nil : handedOut [] = [] := rfl

@[simp]
theorem handedOut_cons (x : Reply × Nat) (rs : List (Reply × Nat)) :
    handedOut (x :: rs) = x.1.handed ++ handedOut rs := rfl

theorem run_cons (l : Lexer) (st : Step) (ss : List Step) :
    l.run (st :: ss) = ((l.step st).1, (l.step st).2.pos) :: (l.step st).2.run ss := rfl

/-! ## One step -/

section Steps

variable {l : Lexer} {t : Token} {r : List Char}

theorem step_next_of_scan_some (h : scan (l.text.drop l.pos) = some (t, r)) :
    l.step .next = (.token t, { l with pos := l.text.length - r.length }) := by
  simp [step, next, h]

theorem step_iter_of_scan_some (h : scan (l.text.drop l.pos) = some (t, r)) :
    l.step .iter = (.token t, { l with pos := l.text.length - r.length }) := by
  simp [step, next, h]

theorem step_next_of_scan_none (h : scan (l.text.drop l.pos) = none) :
    l.step .next = (.none, { l with pos := max l.pos l.text.length }) := by
  simp [step, next, h]

theorem step_iter_of_scan_none (h : scan (l.text.drop l.pos) = none) :
    l.step .iter = (.stop, { l with pos := max l.pos l.text.length }) := by
  simp [step, next, h]

theorem step_rest (l : Lexer) :
    l.step .rest =
      (.tokens (tokensOf (l.text.drop l.pos)), { l with pos := max l.pos l.text.length }) :=
  rfl

/-- **A lexer at the end stays there.**  With its cursor at or past the end of its text, a
reading step reports the end and leaves the lexer as it is. -/
theorem step_of_length_le (h : l.text.length ≤ l.pos) {st : Step} (hst : st.reads = true) :
    (l.step st).1.atEnd = true ∧ (l.step st).2 = l := by
  have hdrop : l.text.drop l.pos = [] := List.drop_eq_nil_of_le h
  have hscan : scan (l.text.drop l.pos) = none := by rw [hdrop, scan]
  have hstay : { l with pos := max l.pos l.text.length } = l := by
    rw [Nat.max_eq_left h]
  cases st with
  | next => rw [step_next_of_scan_none hscan, hstay]; exact ⟨rfl, rfl⟩
  | iter => rw [step_iter_of_scan_none hscan, hstay]; exact ⟨rfl, rfl⟩
  | rest => rw [step_rest, hdrop, tokensOf_nil, hstay]; exact ⟨rfl, rfl⟩
  | seek _ => exact absurd hst Bool.false_ne_true
  | setText _ => exact absurd hst Bool.false_ne_true

end Steps

theorem run_of_length_le : ∀ (ss : List Step) (l : Lexer), l.text.length ≤ l.pos →
    (∀ st ∈ ss, st.reads = true) → ∀ x ∈ l.run ss, x.1.atEnd = true ∧ x.2 = l.pos := by
  intro ss
  induction ss with
  | nil => intro l _ _ x hx; simp [run] at hx
  | cons st ss ih =>
    intro l h hss x hx
    obtain ⟨hend, hstay⟩ := step_of_length_le h (hss st List.mem_cons_self)
    rw [run_cons, hstay] at hx
    rcases List.mem_cons.mp hx with rfl | hx
    · rw [← hstay] at hend ⊢
      exact ⟨by simpa [hstay] using hend, rfl⟩
    · exact ih l h (fun st' h' => hss st' (List.mem_cons_of_mem st h')) x hx

/-! ## Reading from the cursor on -/

/-- `l₁` is `l₂` with the first `p` code points of its text before it: `l₂` reads the text of
`l₁` from offset `p` on, and the cursors agree on that text. -/
structure Shifted (p : Nat) (l₁ l₂ : Lexer) : Prop where
  text : l₂.text = l₁.text.drop p
  pos : l₁.pos = p + l₂.pos

theorem Shifted.drop_eq {p : Nat} {l₁ l₂ : Lexer} (h : Shifted p l₁ l₂) :
    l₁.text.drop l₁.pos = l₂.text.drop l₂.pos := by
  rw [h.text, List.drop_drop, h.pos]

/-- **One step only looks forward.**  Two lexers that read the same text from their cursors on
give the same reply, and stay shifted against each other. -/
theorem Shifted.step {p : Nat} {l₁ l₂ : Lexer} (h : Shifted p l₁ l₂) {st : Step}
    (hst : st.reads = true) :
    (l₁.step st).1 = (l₂.step st).1 ∧ Shifted p (l₁.step st).2 (l₂.step st).2 := by
  have hd := h.drop_eq
  have hpos := h.pos
  have hlen : l₂.text.length = l₁.text.length - p := by rw [h.text, List.length_drop]
  -- A scan that hands out a token leaves less than the text after both cursors.
  have hfound : ∀ {t : Token} {r : List Char}, scan (l₂.text.drop l₂.pos) = some (t, r) →
      Shifted p { l₁ with pos := l₁.text.length - r.length }
        { l₂ with pos := l₂.text.length - r.length } := by
    intro t r hs
    have hr := scan_rest_lt hs
    simp only [List.length_drop] at hr
    exact ⟨h.text, by simp only; omega⟩
  have hended : Shifted p { l₁ with pos := max l₁.pos l₁.text.length }
      { l₂ with pos := max l₂.pos l₂.text.length } := ⟨h.text, by simp only; omega⟩
  cases st with
  | next =>
    cases hs : scan (l₂.text.drop l₂.pos) with
    | none =>
      rw [step_next_of_scan_none hs, step_next_of_scan_none (hd ▸ hs)]
      exact ⟨rfl, hended⟩
    | some tr =>
      rw [step_next_of_scan_some hs, step_next_of_scan_some (hd ▸ hs)]
      exact ⟨rfl, hfound hs⟩
  | iter =>
    cases hs : scan (l₂.text.drop l₂.pos) with
    | none =>
      rw [step_iter_of_scan_none hs, step_iter_of_scan_none (hd ▸ hs)]
      exact ⟨rfl, hended⟩
    | some tr =>
      rw [step_iter_of_scan_some hs, step_iter_of_scan_some (hd ▸ hs)]
      exact ⟨rfl, hfound hs⟩
  | rest =>
    rw [step_rest, step_rest, hd]
    exact ⟨rfl, hended⟩
  | seek _ => exact absurd hst Bool.false_ne_true
  | setText _ => exact absurd hst Bool.false_ne_true

theorem Shifted.run {p : Nat} : ∀ (ss : List Step) {l₁ l₂ : Lexer}, Shifted p l₁ l₂ →
    (∀ st ∈ ss, st.reads = true) →
      l₁.run ss = (l₂.run ss).map fun x => (x.1, p + x.2) := by
  intro ss
  induction ss with
  | nil => intro l₁ l₂ _ _; rfl
  | cons st ss ih =>
    intro l₁ l₂ h hss
    obtain ⟨hreply, hnext⟩ := h.step (hss st List.mem_cons_self)
    rw [run_cons, run_cons, List.map_cons, hreply, hnext.pos,
      ih hnext (fun st' h' => hss st' (List.mem_cons_of_mem st h'))]

/-- **A lexer reads from its cursor on.**  However its cursor was reached, a lexer with cursor `p`
answers every run of reading steps exactly as a fresh lexer on its text from offset `p` on, with
every cursor moved by `p`.  In particular a cursor at or past the end of the text only ever
reports the end, and stays where it is. -/
theorem run_eq_map_run_drop (l : Lexer) (ss : List Step) (hss : ∀ st ∈ ss, st.reads = true) :
    l.run ss =
      ((ofString (String.ofList (l.text.drop l.pos))).run ss).map (fun x => (x.1, l.pos + x.2)) ∧
    (l.text.length ≤ l.pos → ∀ x ∈ l.run ss, x.1.atEnd = true ∧ x.2 = l.pos) := by
  have h : Shifted l.pos l (ofString (String.ofList (l.text.drop l.pos))) :=
    ⟨by simp [ofString], rfl⟩
  exact ⟨h.run ss hss, fun hend => run_of_length_le ss l hend hss⟩

/-- A cursor between a letter and the mark on it starts a new character at the mark. -/
theorem run_inside_character :
    (⟨"e\u0301a".toList, 1⟩ : Lexer).run [.next, .rest] =
      ((ofString "\u0301a").run [.next, .rest]).map (fun x => (x.1, 1 + x.2)) ∧
    ("e\u0301a".toList.length ≤ 1 →
      ∀ x ∈ (⟨"e\u0301a".toList, 1⟩ : Lexer).run [.next, .rest],
        x.1.atEnd = true ∧ x.2 = 1) :=
  run_eq_map_run_drop ⟨"e\u0301a".toList, 1⟩ [.next, .rest] (by decide)

/-! ## Reading a text from its start -/

/-- A lexer on `s` that has handed out the tokens `hs`: they are the first tokens of `s`, the
cursor lies within the text, and what is left from the cursor on reads as the lexemes of `s`
after them. -/
structure Reading (s : String) (hs : List Token) (l : Lexer) : Prop where
  text : l.text = s.toList
  pos_le : l.pos ≤ s.length
  handed : hs = ((lexemes s).take hs.length).map Lexeme.token
  rest : lexemesFrom l.pos (characters (l.text.drop l.pos)) = (lexemes s).drop hs.length

/-- What a reply `r`, with the cursor `q` after it, tells about `s` when the tokens `before` have
been handed out already. -/
structure Answers (s : String) (before : List Token) (r : Reply) (q : Nat) : Prop where
  /-- The tokens handed out so far, those of this reply included, begin the tokens of `s`. -/
  begins : before ++ r.handed <+: tokenize s
  /-- A token taken by `next` or `iter` is the next lexeme, and the cursor stops where that lexeme
  stops, just past its text (`lexemes_stop`). -/
  stops : ∀ t, r = .token t → (lexemes s)[before.length]? = some ⟨t, q⟩
  /-- The end is reported only once every token has been handed out. -/
  complete : r.atEnd = true → before = tokenize s
  /-- `rest` takes every token not handed out yet. -/
  takesRest : ∀ ts, r = .tokens ts → before ++ ts = tokenize s
  /-- Once the end is reported, the cursor is at the end of the text. -/
  endPos : r.atEnd = true → q = s.length

section Reading

variable {s : String} {hs : List Token} {l : Lexer}

theorem reading_ofString (s : String) : Reading s [] (ofString s) :=
  ⟨rfl, Nat.zero_le _, rfl, by simp [ofString, lexemes]⟩

/-- A lexer at the end of `s` has handed out every token of `s`. -/
theorem reading_end (h : l.text = s.toList) :
    Reading s (tokenize s) { l with pos := s.length } := by
  have hlen : (tokenize s).length = (lexemes s).length := by
    rw [tokenize_eq_map_lexemes, List.length_map]
  refine ⟨h, Nat.le_refl _, ?_, ?_⟩
  · rw [hlen, List.take_length, ← tokenize_eq_map_lexemes]
  · show lexemesFrom s.length (characters (l.text.drop s.length)) = (lexemes s).drop _
    rw [h, hlen, List.drop_eq_nil_of_le (Nat.le_of_eq String.length_toList), List.drop_length]
    simp [characters, lexemesFrom]

theorem Reading.begins (h : Reading s hs l) : hs <+: tokenize s := by
  rw [h.handed, tokenize_eq_map_lexemes]
  exact (List.take_prefix _ _).map _

theorem Reading.length_eq (h : Reading s hs l) : l.text.length = s.length := by
  rw [h.text, String.length_toList]

/-- A step that finds no token, and `rest`, put the cursor at the end of `s`. -/
theorem Reading.max_pos_eq (h : Reading s hs l) : max l.pos l.text.length = s.length := by
  have := h.pos_le
  rw [h.length_eq]
  omega

/-- A scan that finds a token hands out the next lexeme and moves the cursor just past it. -/
theorem Reading.found {t : Token} {r : List Char} (h : Reading s hs l)
    (hscan : scan (l.text.drop l.pos) = some (t, r)) :
    (lexemes s)[hs.length]? = some ⟨t, l.text.length - r.length⟩ ∧
    Reading s (hs ++ [t]) { l with pos := l.text.length - r.length } := by
  have hr := scan_rest_lt hscan
  rw [List.length_drop] at hr
  have hpos : l.pos + ((l.text.drop l.pos).length - r.length) = l.text.length - r.length := by
    rw [List.length_drop]
    omega
  -- what the scan leaves is the text after the new cursor
  have hleft : l.text.drop (l.text.length - r.length) = r :=
    (List.suffix_iff_eq_drop.mp ((scan_suffix hscan).trans (List.drop_suffix _ _))).symm
  have hdrop : (lexemes s).drop hs.length =
      ⟨t, l.text.length - r.length⟩ ::
        lexemesFrom (l.text.length - r.length)
          (characters (l.text.drop (l.text.length - r.length))) := by
    rw [← h.rest, lexemesFrom_characters_of_scan_some hscan, hpos, hleft]
  have hget : (lexemes s)[hs.length]? = some ⟨t, l.text.length - r.length⟩ := by
    rw [← List.head?_drop, hdrop, List.head?_cons]
  have hle : l.text.length - r.length ≤ s.length := by
    rw [← h.length_eq]
    omega
  refine ⟨hget, h.text, hle, ?_, ?_⟩
  · rw [List.length_append, List.length_singleton, List.take_add_one, hget, List.map_append,
      ← h.handed]
    rfl
  · rw [List.length_append, List.length_singleton, ← List.drop_drop, hdrop]
    rfl

/-- A scan that finds nothing comes after every token, and the cursor goes to the end. -/
theorem Reading.ended (h : Reading s hs l) (hscan : scan (l.text.drop l.pos) = none) :
    hs = tokenize s ∧ max l.pos l.text.length = s.length := by
  have hnil := h.rest
  rw [lexemesFrom_characters_of_scan_none hscan, eq_comm, List.drop_eq_nil_iff] at hnil
  refine ⟨?_, h.max_pos_eq⟩
  rw [h.handed, List.take_of_length_le hnil, tokenize_eq_map_lexemes]

/-- `rest` takes every token that was not handed out, and the cursor goes to the end. -/
theorem Reading.drained (h : Reading s hs l) :
    hs ++ tokensOf (l.text.drop l.pos) = tokenize s ∧ max l.pos l.text.length = s.length := by
  refine ⟨?_, h.max_pos_eq⟩
  rw [tokensOf_eq_map_lexemesFrom _ l.pos, h.rest]
  conv => lhs; lhs; rw [h.handed]
  rw [← List.map_append, List.take_append_drop, tokenize_eq_map_lexemes]

theorem answers_token {l' : Lexer} {t : Token} {q : Nat} (h : Reading s (hs ++ [t]) l')
    (hget : (lexemes s)[hs.length]? = some ⟨t, q⟩) : Answers s hs (.token t) q where
  begins := h.begins
  stops := fun _ ht => by cases ht; exact hget
  complete := fun hend => absurd hend Bool.false_ne_true
  takesRest := fun _ ht => by cases ht
  endPos := fun hend => absurd hend Bool.false_ne_true

theorem answers_end {r : Reply} (hr : r = .none ∨ r = .stop) (hall : hs = tokenize s) :
    Answers s hs r s.length := by
  have hnil : r.handed = [] := by rcases hr with rfl | rfl <;> rfl
  refine ⟨?_, ?_, fun _ => hall, ?_, fun _ => rfl⟩
  · rw [hnil, List.append_nil]
    exact hall ▸ List.prefix_refl _
  · rintro t rfl
    simp at hr
  · rintro ts rfl
    simp at hr

theorem answers_rest {ts : List Token} (hall : hs ++ ts = tokenize s) :
    Answers s hs (.tokens ts) s.length := by
  refine ⟨hall ▸ List.prefix_refl _, (fun _ ht => by cases ht), ?_, ?_, fun _ => rfl⟩
  · intro hend
    cases ts with
    | nil => simpa using hall
    | cons _ _ => exact absurd hend Bool.false_ne_true
  · rintro ts' ⟨⟩
    exact hall

/-- **One step of a reading from the start.**  A reading step answers as `Answers` says, and the
lexer goes on reading with the tokens of its reply handed out too. -/
theorem Reading.step (h : Reading s hs l) {st : Step} (hst : st.reads = true) :
    Answers s hs (l.step st).1 (l.step st).2.pos ∧
    Reading s (hs ++ (l.step st).1.handed) (l.step st).2 := by
  cases st with
  | next =>
    cases hscan : scan (l.text.drop l.pos) with
    | none =>
      obtain ⟨hall, hmax⟩ := h.ended hscan
      rw [step_next_of_scan_none hscan, hmax]
      refine ⟨answers_end (.inl rfl) hall, ?_⟩
      show Reading s (hs ++ []) _
      rw [List.append_nil, hall]
      exact reading_end h.text
    | some tr =>
      obtain ⟨hget, hread⟩ := h.found hscan
      rw [step_next_of_scan_some hscan]
      exact ⟨answers_token hread hget, hread⟩
  | iter =>
    cases hscan : scan (l.text.drop l.pos) with
    | none =>
      obtain ⟨hall, hmax⟩ := h.ended hscan
      rw [step_iter_of_scan_none hscan, hmax]
      refine ⟨answers_end (.inr rfl) hall, ?_⟩
      show Reading s (hs ++ []) _
      rw [List.append_nil, hall]
      exact reading_end h.text
    | some tr =>
      obtain ⟨hget, hread⟩ := h.found hscan
      rw [step_iter_of_scan_some hscan]
      exact ⟨answers_token hread hget, hread⟩
  | rest =>
    obtain ⟨hall, hmax⟩ := h.drained
    rw [step_rest, hmax]
    refine ⟨answers_rest hall, ?_⟩
    show Reading s (hs ++ tokensOf (l.text.drop l.pos)) _
    rw [hall]
    exact reading_end h.text
  | seek _ => exact absurd hst Bool.false_ne_true
  | setText _ => exact absurd hst Bool.false_ne_true

/-- Along a run, every reply answers for the tokens handed out before it, and once one reports
the end, every later one does, with the cursor at the end. -/
theorem Reading.run : ∀ (ss : List Step) {hs : List Token} {l : Lexer}, Reading s hs l →
    (∀ st ∈ ss, st.reads = true) → ∀ (i : Nat) (r : Reply) (q : Nat),
      (l.run ss)[i]? = some (r, q) →
      Answers s (hs ++ handedOut ((l.run ss).take i)) r q ∧
      (r.atEnd = true → ∀ j r' q', i ≤ j → (l.run ss)[j]? = some (r', q') →
        r'.atEnd = true ∧ q' = s.length) := by
  intro ss
  induction ss with
  | nil => intro hs l _ _ i r q hi; simp [Lexer.run] at hi
  | cons st ss ih =>
    intro hs l h hss i r q hi
    have hss' : ∀ st' ∈ ss, st'.reads = true :=
      fun st' h' => hss st' (List.mem_cons_of_mem st h')
    obtain ⟨hans, hread⟩ := h.step (hss st List.mem_cons_self)
    rw [run_cons] at hi ⊢
    cases i with
    | zero =>
      simp only [List.getElem?_cons_zero, Option.some.injEq, Prod.mk.injEq] at hi
      obtain ⟨rfl, rfl⟩ := hi
      refine ⟨by simpa using hans, fun hend j r' q' _ hj => ?_⟩
      -- the step reported the end, so the lexer after it sits at the end of its text
      have hq := hans.endPos hend
      cases j with
      | zero =>
        simp only [List.getElem?_cons_zero, Option.some.injEq, Prod.mk.injEq] at hj
        obtain ⟨rfl, rfl⟩ := hj
        exact ⟨hend, hq⟩
      | succ j =>
        rw [List.getElem?_cons_succ] at hj
        have hlen : (l.step st).2.text.length ≤ (l.step st).2.pos :=
          Nat.le_of_eq (hread.length_eq.trans hq.symm)
        obtain ⟨hend', hpos⟩ := run_of_length_le ss _ hlen hss' _ (List.mem_of_getElem? hj)
        exact ⟨hend', hpos.trans hq⟩
    | succ i =>
      rw [List.getElem?_cons_succ] at hi
      obtain ⟨hans', hlater⟩ := ih hread hss' i r q hi
      refine ⟨by simpa [List.append_assoc] using hans', fun hend j r' q' hij hj => ?_⟩
      cases j with
      | zero => omega
      | succ j =>
        rw [List.getElem?_cons_succ] at hj
        exact hlater hend j r' q' (by omega) hj

end Reading

/-- **A fresh lexer hands out the tokens of its text in order.**  Along any run of reading steps
on a fresh lexer on `s`, each reply answers for the tokens handed out before it: with them it
begins the tokens of `s`; a token it takes is the next lexeme of `s`, with the cursor just past
it; it reports the end only once every token has been handed out; `rest` takes exactly the
tokens left.  From the first report of the end on, every reply reports the end and the cursor
stays at the end of `s`. -/
theorem run_ofString_answers (s : String) (ss : List Step) (hss : ∀ st ∈ ss, st.reads = true)
    (i : Nat) (r : Reply) (q : Nat) (hi : ((ofString s).run ss)[i]? = some (r, q)) :
    Answers s (handedOut (((ofString s).run ss).take i)) r q ∧
    (r.atEnd = true → ∀ j r' q', i ≤ j → ((ofString s).run ss)[j]? = some (r', q') →
      r'.atEnd = true ∧ q' = s.length) := by
  have h := (reading_ofString s).run ss hss i r q hi
  rw [List.nil_append] at h
  exact h

/-- After `next` and `rest` have taken every token of `"a+b "`, `iter` stops with the cursor at
the end, past the blank that follows the last token. -/
theorem run_ofString_answers_stop :
    Answers "a+b " (handedOut (((ofString "a+b ").run [.next, .rest, .iter]).take 2)) .stop 4 ∧
    (Reply.stop.atEnd = true → ∀ j r' q', 2 ≤ j →
      ((ofString "a+b ").run [.next, .rest, .iter])[j]? = some (r', q') →
        r'.atEnd = true ∧ q' = "a+b ".length) :=
  run_ofString_answers "a+b " [.next, .rest, .iter] (by decide) 2 .stop 4 (by decide +kernel)

end MiniExpr.Lexer
