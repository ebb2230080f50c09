import MiniExpr.Proofs.Lexer.Scan
/-!
# Reading text character by character

The lexer reads a text in one pass and looks ahead for marks.  The language describes it in two
stages instead.  First the text is cut into characters (`characters`): a code point and the run
of code points after it that attach to it.  Then the characters are read in order
(`lexemesFrom`): a character that is one punctuator is a punctuator token, a character that is
one letter starts a name that runs over every following character that is one letter, and every
other character is passed over.  Each token of this reading comes with the offset just past its
last code point (a `Lexeme`).

The main statement, `tokenize_eq_lexemes`, says that the lexer hands out exactly the tokens of
this reading, and that each of them is one of the thirteen punctuators or a non-empty name of
ASCII letters.  On the way, `lexemesFrom_characters` says where a single scan stops: just past
the last code point of the token it hands out, at a boundary between characters; and
`lexemes_stop` says that the offset of each lexeme is just past its own text.
-/

namespace MiniExpr.Lexer

open Text.Mark (attaches)

/-- The characters of a list of code points, in order: each code point together with the run of
code points after it that attach to it. -/
def characters : List Char → List (List Char)
  | [] => []
  | c :: cs => (c :: cs.takeWhile attaches) :: characters (cs.dropWhile attaches)
termination_by cs => cs.length
decreasing_by
  have := (@List.dropWhile_suffix _ cs attaches).length_le
  simp only [List.length_cons]
  omega

/-- Whether a character is one ASCII letter and nothing else. -/
def letterChar (ch : List Char) : Bool := isLetterText (String.ofList ch)

/-- A token of a text, with the offset just past its last code point. -/
structure Lexeme where
  token : Token
  stop : Nat
  deriving DecidableEq, Repr

/-- The lexemes of the characters `chs`, the first of which starts at offset `i`. -/
def lexemesFrom (i : Nat) : List (List Char) → List Lexeme
  | [] => []
  | ch :: chs =>
    match Punctuator.ofString? (String.ofList ch) with
    | some p => ⟨.ofPunctuator p, i + ch.length⟩ :: lexemesFrom (i + ch.length) chs
    | none =>
      if letterChar ch then
        let name := ch ++ (chs.takeWhile letterChar).flatten
        ⟨.ofName (String.ofList name), i + name.length⟩ ::
          lexemesFrom (i + name.length) (chs.dropWhile letterChar)
      else lexemesFrom (i + ch.length) chs
termination_by chs => chs.length
decreasing_by
  all_goals simp only [List.length_cons]
  · omega
  · have := (@List.dropWhile_suffix _ chs letterChar).length_le
    omega
  · omega

/-- The lexemes of a text. -/
def lexemes (s : String) : List Lexeme := lexemesFrom 0 (characters s.toList)

/-! ## Cutting into characters -/

theorem characters_cons_of_marked_eq_false {c : Char} {cs : List Char} (h : marked cs = false) :
    characters (c :: cs) = [c] :: characters cs := by
  cases cs with
  | nil => simp [characters]
  | cons d ds =>
    simp only [marked_cons] at h
    rw [characters, List.takeWhile_cons_of_neg (by simp [h]),
      List.dropWhile_cons_of_neg (by simp [h])]

theorem ofString?_ofList_singleton (c : Char) :
    Punctuator.ofString? (String.ofList [c]) = Punctuator.ofChar? c := by
  simp [Punctuator.ofString?]

@[simp]
theorem letterChar_singleton (c : Char) : letterChar [c] = isLetter c := by
  simp [letterChar, isLetterText]

theorem lexemesFrom_singleton_of_punctuator {i : Nat} {c : Char} {chs : List (List Char)}
    {p : Punctuator} (hp : Punctuator.ofChar? c = some p) :
    lexemesFrom i ([c] :: chs) = ⟨.ofPunctuator p, i + 1⟩ :: lexemesFrom (i + 1) chs := by
  rw [lexemesFrom, ofString?_ofList_singleton, hp]
  rfl

theorem lexemesFrom_singleton_of_letter {i : Nat} {c : Char} {chs : List (List Char)}
    (hl : isLetter c = true) :
    lexemesFrom i ([c] :: chs) =
      ⟨.ofName (String.ofList (c :: (chs.takeWhile letterChar).flatten)),
        i + 1 + (chs.takeWhile letterChar).flatten.length⟩ ::
      lexemesFrom (i + 1 + (chs.takeWhile letterChar).flatten.length)
        (chs.dropWhile letterChar) := by
  rw [lexemesFrom, ofString?_ofList_singleton, ofChar?_eq_none_of_isLetter hl]
  simp only [letterChar_singleton, hl, if_true, List.singleton_append, List.length_cons,
    Nat.add_assoc, Nat.add_comm 1]

/-- A character that is neither a punctuator nor a letter is passed over. -/
theorem lexemesFrom_cons_of_skipped {i : Nat} {ch : List Char} {chs : List (List Char)}
    (hp : Punctuator.ofString? (String.ofList ch) = none) (hl : letterChar ch = false) :
    lexemesFrom i (ch :: chs) = lexemesFrom (i + ch.length) chs := by
  rw [lexemesFrom, hp]
  simp [hl]

theorem lexemesFrom_singleton_of_skipped {i : Nat} {c : Char} {chs : List (List Char)}
    (hp : Punctuator.ofChar? c = none) (hl : isLetter c = false) :
    lexemesFrom i ([c] :: chs) = lexemesFrom (i + 1) chs :=
  lexemesFrom_cons_of_skipped (by rw [ofString?_ofList_singleton, hp]) (by simpa using hl)

/-- A character of more than one code point is neither a punctuator nor a letter. -/
theorem lexemesFrom_cons_of_two_le {i : Nat} {ch : List Char} {chs : List (List Char)}
    (h : 2 ≤ ch.length) : lexemesFrom i (ch :: chs) = lexemesFrom (i + ch.length) chs := by
  match ch, h with
  | _ :: _ :: _, _ =>
    exact lexemesFrom_cons_of_skipped (by simp [Punctuator.ofString?])
      (by simp [letterChar, isLetterText])

/-- The first character of `c :: cs` is a letter exactly when `c` is one and nothing attaches
to it. -/
theorem letterChar_first (c : Char) (cs : List Char) :
    letterChar (c :: cs.takeWhile attaches) = (isLetter c && !marked cs) := by
  cases cs with
  | nil => simp
  | cons d ds =>
    cases hd : attaches d
    · simp [hd]
    · simp [hd, letterChar, isLetterText]

/-- The lone letters that continue a name are the characters that continue it. -/
theorem characters_takeWhile_letterChar : ∀ cs : List Char,
    (characters cs).takeWhile letterChar = (nameTail cs).map (fun c => [c]) ∧
    (characters cs).dropWhile letterChar = characters (cs.drop (nameTail cs).length) := by
  intro cs
  induction cs with
  | nil => simp [characters, nameTail]
  | cons c cs ih =>
    by_cases hc : isLetter c && !marked cs
    · obtain ⟨hl, hm⟩ : isLetter c = true ∧ marked cs = false := by simpa using hc
      rw [characters_cons_of_marked_eq_false hm, nameTail, if_pos hc,
        List.takeWhile_cons_of_pos (by simp [hl]), List.dropWhile_cons_of_pos (by simp [hl]),
        ih.1, ih.2]
      simp
    · have hnot : letterChar (c :: cs.takeWhile attaches) = false := by
        simpa [letterChar_first] using hc
      rw [characters, nameTail, if_neg hc, List.takeWhile_cons_of_neg (by simp [hnot]),
        List.dropWhile_cons_of_neg (by simp [hnot])]
      simp [characters]

/-! ## Where a lexeme stands -/

/-- Cutting into characters loses no code point and adds none. -/
theorem flatten_characters : ∀ cs : List Char, (characters cs).flatten = cs := by
  intro cs
  induction cs using characters.induct with
  | case1 => simp [characters]
  | case2 c cs ih =>
    rw [characters, List.flatten_cons, ih, List.cons_append, List.takeWhile_append_dropWhile]

theorem eq_symbol_of_ofString?_ofList {ch : List Char} {p : Punctuator}
    (h : Punctuator.ofString? (String.ofList ch) = some p) : ch = [p.symbol] := by
  match ch with
  | [] => simp [Punctuator.ofString?] at h
  | [c] =>
    rw [ofString?_ofList_singleton] at h
    rw [Punctuator.symbol_of_ofChar? h]
  | _ :: _ :: _ => simp [Punctuator.ofString?] at h

theorem eq_singleton_of_letterChar {ch : List Char} (h : letterChar ch = true) :
    ∃ c, ch = [c] ∧ isLetter c = true := by
  match ch with
  | [] => simp [letterChar, isLetterText] at h
  | [c] => exact ⟨c, rfl, by simpa using h⟩
  | _ :: _ :: _ => simp [letterChar, isLetterText] at h

/-- Read from offset `pre.length`, the text of each lexeme ends just before its `stop`, and the
`stop` lies within the text. -/
theorem lexemesFrom_stop : ∀ (i : Nat) (chs : List (List Char)) (pre : List Char),
    pre.length = i → ∀ x ∈ lexemesFrom i chs,
      x.token.value.toList <:+ (pre ++ chs.flatten).take x.stop ∧
      x.stop ≤ i + chs.flatten.length := by
  intro i chs
  induction i, chs using lexemesFrom.induct with
  | case1 i => intro pre _ x hx; simp [lexemesFrom] at hx
  | case2 i ch chs p hp ih =>
    intro pre hpre x hx
    rw [lexemesFrom, hp] at hx
    have hch := eq_symbol_of_ofString?_ofList hp
    rcases List.mem_cons.mp hx with rfl | hx
    · refine ⟨?_, by simp⟩
      rw [List.flatten_cons, ← List.append_assoc, List.take_left' (by simp [hpre])]
      simp [hch, Token.ofPunctuator, Punctuator.text]
    · have := ih (pre ++ ch) (by simp [hpre]) x hx
      simpa [List.append_assoc, Nat.add_assoc] using this
  | case3 i ch chs _ hl name ih =>
    intro pre hpre x hx
    obtain ⟨c, rfl, hc⟩ := eq_singleton_of_letterChar hl
    -- the name runs over the letters that follow; the characters after them are read on
    have hsplit : ([c] :: chs).flatten = name ++ (chs.dropWhile letterChar).flatten := by
      have hchs := congrArg List.flatten (@List.takeWhile_append_dropWhile _ letterChar chs)
      rw [List.flatten_append] at hchs
      rw [List.flatten_cons, ← hchs]
      simp [name]
    rw [lexemesFrom_singleton_of_letter hc] at hx
    rcases List.mem_cons.mp hx with rfl | hx
    · refine ⟨?_, by simp [hsplit, name]; omega⟩
      rw [hsplit, ← List.append_assoc, List.take_left'
        (by simp only [List.length_append, hpre, name, List.length_singleton]; omega)]
      simp [name]
    · have := ih (pre ++ name) (by rw [List.length_append, hpre]) x
        (by simpa [name, Nat.add_assoc, Nat.add_comm 1] using hx)
      rw [hsplit, ← List.append_assoc]
      refine ⟨this.1, ?_⟩
      have hstop := this.2
      simp only [name, List.length_append, List.length_singleton, List.length_flatten] at hstop ⊢
      omega
  | case4 i ch chs hp hl ih =>
    intro pre hpre x hx
    rw [lexemesFrom_cons_of_skipped hp (by simpa using hl)] at hx
    have := ih (pre ++ ch) (by simp [hpre]) x hx
    simpa [List.append_assoc, Nat.add_assoc] using this

/-- **Each lexeme stops just past its own text**, within the text. -/
theorem lexemes_stop (s : String) : ∀ x ∈ lexemes s,
    x.token.value.toList <:+ s.toList.take x.stop ∧ x.stop ≤ s.length := by
  intro x hx
  have := lexemesFrom_stop 0 (characters s.toList) [] rfl x hx
  simpa [flatten_characters, String.length_toList] using this

/-! ## One scan, read by characters -/

/-- **A scan stops at a boundary between characters.**  The lexemes of the characters of `cs`
begin with the token that a scan of `cs` hands out, ending where the scan stops, and go on with
the lexemes of what it leaves; when the scan finds nothing there are none. -/
theorem lexemesFrom_characters : ∀ (cs : List Char) (i : Nat),
    lexemesFrom i (characters cs) =
      match scan cs with
      | none => []
      | some (t, r) =>
        ⟨t, i + (cs.length - r.length)⟩ ::
          lexemesFrom (i + (cs.length - r.length)) (characters r) := by
  intro cs
  induction cs using scan.induct with
  | case1 => intro i; simp [characters, lexemesFrom, scan]
  | case2 c cs hm ih =>
    intro i
    have htake : 0 < (cs.takeWhile attaches).length := by
      cases cs with
      | nil => simp at hm
      | cons d ds => simp_all
    have hlen := congrArg List.length (@List.takeWhile_append_dropWhile _ attaches cs)
    rw [List.length_append] at hlen
    rw [characters, lexemesFrom_cons_of_two_le (by simp only [List.length_cons]; omega), ih,
      scan_cons_of_marked hm]
    cases hs : scan (cs.dropWhile attaches) with
    | none => rfl
    | some tr =>
      obtain ⟨t, r⟩ := tr
      have hr := (scan_suffix hs).length_le
      have hstop : i + (c :: cs.takeWhile attaches).length +
          ((cs.dropWhile attaches).length - r.length) = i + ((c :: cs).length - r.length) := by
        simp only [List.length_cons]
        omega
      simp only [hstop]
  | case3 c cs hm p hp =>
    intro i
    have hm' : marked cs = false := by simpa using hm
    rw [characters_cons_of_marked_eq_false hm', scan_cons_of_punctuator hm' hp,
      lexemesFrom_singleton_of_punctuator hp]
    simp
  | case4 c cs hm _ hl =>
    intro i
    have hm' : marked cs = false := by simpa using hm
    have hn := (nameTail_begins cs).length_le
    obtain ⟨htake, hdrop⟩ := characters_takeWhile_letterChar cs
    have hname : (List.map (fun d => [d]) (nameTail cs)).flatten = nameTail cs := by
      rw [← List.flatMap_def, List.flatMap_singleton']
    have hstop : 1 + (nameTail cs).length =
        (c :: cs).length - (cs.drop (nameTail cs).length).length := by
      simp only [List.length_cons, List.length_drop]
      omega
    rw [characters_cons_of_marked_eq_false hm', scan_cons_of_letter hm' hl,
      lexemesFrom_singleton_of_letter hl, htake, hdrop, hname, Nat.add_assoc, hstop]
  | case5 c cs hm hp hl ih =>
    intro i
    have hm' : marked cs = false := by simpa using hm
    rw [characters_cons_of_marked_eq_false hm', scan_cons_of_skipped hm' hp (by simpa using hl),
      lexemesFrom_singleton_of_skipped hp (by simpa using hl), ih]
    cases hs : scan cs with
    | none => rfl
    | some tr =>
      obtain ⟨t, r⟩ := tr
      have hr := (scan_suffix hs).length_le
      have hstop : i + 1 + (cs.length - r.length) = i + ((c :: cs).length - r.length) := by
        simp only [List.length_cons]
        omega
      simp only [hstop]

theorem lexemesFrom_characters_of_scan_none {cs : List Char} (h : scan cs = none) (i : Nat) :
    lexemesFrom i (characters cs) = [] := by
  rw [lexemesFrom_characters, h]

theorem lexemesFrom_characters_of_scan_some {cs : List Char} {t : Token} {r : List Char}
    (h : scan cs = some (t, r)) (i : Nat) :
    lexemesFrom i (characters cs) =
      ⟨t, i + (cs.length - r.length)⟩ ::
        lexemesFrom (i + (cs.length - r.length)) (characters r) := by
  rw [lexemesFrom_characters, h]

/-! ## Every token -/

theorem tokensOf_eq_map_lexemesFrom : ∀ (cs : List Char) (i : Nat),
    tokensOf cs = (lexemesFrom i (characters cs)).map Lexeme.token := by
  intro cs
  induction cs using tokensOf.induct with
  | case1 cs h =>
    intro i
    rw [tokensOf_of_scan_none h, lexemesFrom_characters_of_scan_none h, List.map_nil]
  | case2 cs t r h ih =>
    intro i
    rw [tokensOf_of_scan_some h, lexemesFrom_characters_of_scan_some h, List.map_cons,
      ← ih]

theorem mem_tokensOf_shape : ∀ (cs : List Char) (t : Token), t ∈ tokensOf cs →
    (∃ p, t = .ofPunctuator p) ∨ (∃ w, t = .ofName w ∧ isNameText w = true) := by
  intro cs
  induction cs using tokensOf.induct with
  | case1 cs h =>
    intro t ht
    rw [tokensOf_of_scan_none h] at ht
    simp at ht
  | case2 cs u r h ih =>
    intro t ht
    rw [tokensOf_of_scan_some h] at ht
    rcases List.mem_cons.mp ht with rfl | ht
    · exact scan_token_shape h
    · exact ih t ht

theorem tokenize_eq_map_lexemes (s : String) : tokenize s = (lexemes s).map Lexeme.token :=
  tokensOf_eq_map_lexemesFrom s.toList 0

end MiniExpr.Lexer

namespace MiniExpr

@[simp]
theorem Token.punctuator?_ofPunctuator (p : Punctuator) :
    (Token.ofPunctuator p).punctuator? = some (.ok p) := by
  simp [Token.punctuator?, Token.ofPunctuator, Punctuator.text, Punctuator.ofString?]

@[simp]
theorem Token.punctuator?_ofName (w : String) : (Token.ofName w).punctuator? = none := rfl

open Lexer in
/-- **The tokens of a text are read character by character.**  The lexer hands out exactly the
tokens of the two-stage reading `lexemes`, and each is one of the thirteen punctuators, whose
punctuator view gives it back, or a non-empty name of ASCII letters, which has none. -/
theorem tokenize_eq_lexemes (s : String) :
    tokenize s = (lexemes s).map Lexeme.token ∧
    ∀ t ∈ tokenize s,
      (∃ p, t = .ofPunctuator p ∧ t.punctuator? = some (.ok p)) ∨
      (∃ w, t = .ofName w ∧ isNameText w = true ∧ t.punctuator? = none) := by
  refine ⟨tokenize_eq_map_lexemes s, ?_⟩
  intro t ht
  rcases mem_tokensOf_shape s.toList t ht with ⟨p, rfl⟩ | ⟨w, rfl, hw⟩
  · exact .inl ⟨p, rfl, Token.punctuator?_ofPunctuator p⟩
  · exact .inr ⟨w, rfl, hw, Token.punctuator?_ofName w⟩

/- A letter that carries a mark is a character of two code points: it ends one name and starts
no other. -/
example : Lexer.lexemes "ab\u0301c" = [⟨.ofName "a", 1⟩, ⟨.ofName "c", 4⟩] := by
  decide +kernel

end MiniExpr
