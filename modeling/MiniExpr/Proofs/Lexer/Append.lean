import Mathlib.Data.List.TakeWhile
import MiniExpr.Proofs.Lexer.Characters
/-!
# Texts written one after another

The lexer reads a text character by character (`Lexer.characters`, `Lexer.lexemesFrom`), so two
texts written one after the other read as each reads on its own, but for two things that can
happen at the seam.  A code point that attaches (a mark or the joiner) at the start of the second
text joins the last character of the first.  And a name that runs to the end of the first text
runs on into a name at the start of the second, when both characters at the seam are single
letters (`joinsName`).

* `characters_append`: where nothing attaches, the seam is a boundary between characters.
* `lexemesFrom_append`: characters read one after another give the lexemes of each, unless a
  name runs across the seam.
* `tokens_append_of_joinsName`: where one does, the name that ends the first part and the name
  that begins the second are read as one.
* `tokenize_append`: the same for texts.
* `tokenize_spaced`: tokens written out with one blank between two of them read back as
  themselves; in particular every list of tokens the lexer hands out does.
-/

namespace MiniExpr.Lexer

open Text.Mark (attaches)

/-- A run of `p` that stops inside `xs` does not see what follows `xs`. -/
theorem takeWhile_dropWhile_append_of_stop {α : Type} {p : α → Bool} {xs : List α}
    (h : ¬∀ x ∈ xs, p x = true) (ys : List α) :
    (xs ++ ys).takeWhile p = xs.takeWhile p ∧ (xs ++ ys).dropWhile p = xs.dropWhile p ++ ys := by
  induction xs with
  | nil => simp at h
  | cons x xs ih =>
    by_cases hx : p x = true
    · have hxs : ¬∀ y ∈ xs, p y = true := fun hall => h (List.forall_mem_cons.mpr ⟨hx, hall⟩)
      simp [hx, ih hxs]
    · simp [hx]

/-! ## Characters at a seam -/

/-- **Where nothing attaches, a seam is a boundary between characters.** -/
theorem characters_append {a b : List Char} (hb : marked b = false) :
    characters (a ++ b) = characters a ++ characters b := by
  have hnone : b.takeWhile attaches = [] ∧ b.dropWhile attaches = b := by
    cases b with
    | nil => simp
    | cons d ds =>
      simp only [marked_cons] at hb
      simp [hb]
  induction a using characters.induct with
  | case1 => simp [characters]
  | case2 c cs ih =>
    rw [List.cons_append, characters, characters]
    -- The marks after `c` either run to the end of `cs`, where `b` stops them, or stop inside.
    by_cases hall : ∀ x ∈ cs, attaches x = true
    · rw [List.takeWhile_append_of_pos hall, List.dropWhile_append_of_pos hall, hnone.1,
        hnone.2, List.takeWhile_eq_self_iff.mpr hall, List.dropWhile_eq_nil_iff.mpr hall]
      simp [characters]
    · obtain ⟨htake, hdrop⟩ := takeWhile_dropWhile_append_of_stop hall b
      rw [htake, hdrop, ih, List.cons_append]

/-! ## A name across the seam -/

/-- Whether a name that runs to the end of the characters `chs` runs on into the characters
`chs'`: the last character of `chs` and the first of `chs'` are each a single letter. -/
def joinsName (chs chs' : List (List Char)) : Bool :=
  chs.getLast?.any letterChar && chs'.head?.any letterChar

@[simp]
theorem joinsName_nil_left (chs' : List (List Char)) : joinsName [] chs' = false := rfl

/-- A part that ends the characters `chs` ends in the same character. -/
theorem joinsName_of_suffix {ds chs chs' : List (List Char)} (hs : ds <:+ chs) (hne : ds ≠ []) :
    joinsName ds chs' = joinsName chs chs' := by
  obtain ⟨pre, rfl⟩ := hs
  obtain ⟨x, hx⟩ := Option.ne_none_iff_exists'.mp (mt List.getLast?_eq_none_iff.mp hne)
  have hlast : (pre ++ ds).getLast? = some x := by simp [hx]
  rw [joinsName, joinsName, hx, hlast]

theorem joinsName_eq_false_of_suffix {ds chs chs' : List (List Char)} (hs : ds <:+ chs)
    (h : joinsName chs chs' = false) : joinsName ds chs' = false := by
  by_cases hne : ds = []
  · rw [hne, joinsName_nil_left]
  · rw [joinsName_of_suffix hs hne, h]

theorem joinsName_of_cons {ch : List Char} {chs chs' : List (List Char)}
    (h : joinsName (ch :: chs) chs' = true) (hch : letterChar ch = false) :
    joinsName chs chs' = true := by
  by_cases hne : chs = []
  · subst hne
    simp [joinsName, hch] at h
  · rw [joinsName_of_suffix (List.suffix_cons ch chs) hne, h]

/-- After characters that are all single letters, a name running to their end meets `chs'`. -/
theorem head_not_letter_of_joinsName {ch : List Char} {chs chs' : List (List Char)}
    (h : joinsName (ch :: chs) chs' = false) (hall : ∀ x ∈ ch :: chs, letterChar x = true) :
    chs'.takeWhile letterChar = [] ∧ chs'.dropWhile letterChar = chs' := by
  have hlast : ((ch :: chs).getLast?).any letterChar = true := by
    obtain ⟨y, hy⟩ := Option.ne_none_iff_exists'.mp
      (mt List.getLast?_eq_none_iff.mp (List.cons_ne_nil ch chs))
    rw [hy]
    simpa using hall y (List.mem_of_getLast? hy)
  cases chs' with
  | nil => simp
  | cons d ds =>
    have hd : letterChar d = false := by simpa [joinsName, hlast] using h
    simp [hd]

/-- **Characters read one after another give the lexemes of each**, those of the second part
moved on by the code points of the first, unless a name runs across the seam. -/
theorem lexemesFrom_append (i : Nat) (chs chs' : List (List Char))
    (h : joinsName chs chs' = false) :
    lexemesFrom i (chs ++ chs') =
      lexemesFrom i chs ++ lexemesFrom (i + chs.flatten.length) chs' := by
  induction i, chs using lexemesFrom.induct with
  | case1 i => simp [lexemesFrom]
  | case2 i ch chs p hp ih =>
    obtain rfl := eq_symbol_of_ofString?_ofList hp
    have hq := Punctuator.ofChar?_symbol p
    have ih' := ih (joinsName_eq_false_of_suffix (List.suffix_cons _ chs) h)
    have hoff : i + ([p.symbol] :: chs).flatten.length = i + 1 + chs.flatten.length := by
      simp only [List.flatten_cons, List.length_append, List.length_singleton]
      omega
    rw [List.length_singleton] at ih'
    rw [List.cons_append, lexemesFrom_singleton_of_punctuator hq,
      lexemesFrom_singleton_of_punctuator hq, ih', hoff, List.cons_append]
  | case3 i ch chs _ hl name ih =>
    obtain ⟨c, rfl, hc⟩ := eq_singleton_of_letterChar hl
    have hoff : i + ([c] :: chs).flatten.length = i + 1 + chs.flatten.length := by
      simp only [List.flatten_cons, List.length_append, List.length_singleton]
      omega
    rw [List.cons_append, lexemesFrom_singleton_of_letter hc, lexemesFrom_singleton_of_letter hc,
      hoff]
    -- The name that starts with `c` runs to the end of `chs`, or stops inside it.
    by_cases hall : ∀ x ∈ chs, letterChar x = true
    · obtain ⟨htake, hdrop⟩ := head_not_letter_of_joinsName h (by simpa [hc] using hall)
      rw [List.takeWhile_append_of_pos hall, List.dropWhile_append_of_pos hall, htake, hdrop,
        List.takeWhile_eq_self_iff.mpr hall, List.dropWhile_eq_nil_iff.mpr hall]
      simp [lexemesFrom]
    · obtain ⟨htake, hdrop⟩ := takeWhile_dropWhile_append_of_stop hall chs'
      have hsuffix : chs.dropWhile letterChar <:+ [c] :: chs :=
        (List.dropWhile_suffix letterChar).trans (List.suffix_cons _ chs)
      have hlen : (chs.takeWhile letterChar).flatten.length +
          (chs.dropWhile letterChar).flatten.length = chs.flatten.length := by
        rw [← List.length_append, ← List.flatten_append, List.takeWhile_append_dropWhile]
      have hname : i + name.length = i + 1 + (chs.takeWhile letterChar).flatten.length := by
        simp only [name, List.length_append, List.length_singleton]
        omega
      have ih' := ih (joinsName_eq_false_of_suffix hsuffix h)
      rw [hname, Nat.add_assoc _ (chs.takeWhile letterChar).flatten.length, hlen] at ih'
      rw [htake, hdrop, ih', List.cons_append]
  | case4 i ch chs hp hl ih =>
    have ih' := ih (joinsName_eq_false_of_suffix (List.suffix_cons _ chs) h)
    have hoff : i + (ch :: chs).flatten.length = i + ch.length + chs.flatten.length := by
      simp only [List.flatten_cons, List.length_append]
      omega
    rw [List.cons_append, lexemesFrom_cons_of_skipped hp (by simpa using hl),
      lexemesFrom_cons_of_skipped hp (by simpa using hl), ih', hoff]

/-- **The tokens read from characters do not depend on the offset they are counted from.** -/
theorem map_token_lexemesFrom (i j : Nat) (chs : List (List Char)) :
    (lexemesFrom i chs).map Lexeme.token = (lexemesFrom j chs).map Lexeme.token := by
  induction i, chs using lexemesFrom.induct generalizing j with
  | case1 i => simp [lexemesFrom]
  | case2 i ch chs p hp ih =>
    obtain rfl := eq_symbol_of_ofString?_ofList hp
    have hq := Punctuator.ofChar?_symbol p
    rw [lexemesFrom_singleton_of_punctuator hq, lexemesFrom_singleton_of_punctuator hq,
      List.map_cons, List.map_cons, (ih _).symm.trans (ih _)]
  | case3 i ch chs _ hl name ih =>
    obtain ⟨c, rfl, hc⟩ := eq_singleton_of_letterChar hl
    rw [lexemesFrom_singleton_of_letter hc, lexemesFrom_singleton_of_letter hc, List.map_cons,
      List.map_cons, (ih _).symm.trans (ih _)]
  | case4 i ch chs hp hl ih =>
    rw [lexemesFrom_cons_of_skipped hp (by simpa using hl),
      lexemesFrom_cons_of_skipped hp (by simpa using hl), (ih _).symm.trans (ih _)]

/-- **Where a name runs across the seam, the two names are read as one.**  The tokens of the first
part end with a name and those of the second begin with one; read together, the two are a single
name, and every other token stays as it was. -/
theorem tokens_append_of_joinsName (i : Nat) (chs chs' : List (List Char))
    (h : joinsName chs chs' = true) :
    ∃ ts w w' us, (lexemesFrom i chs).map Lexeme.token = ts ++ [.ofName w] ∧
      (lexemesFrom i chs').map Lexeme.token = .ofName w' :: us ∧
      (lexemesFrom i (chs ++ chs')).map Lexeme.token = ts ++ .ofName (w ++ w') :: us := by
  induction i, chs using lexemesFrom.induct with
  | case1 i => simp at h
  | case2 i ch chs p hp ih =>
    obtain rfl := eq_symbol_of_ofString?_ofList hp
    have hq := Punctuator.ofChar?_symbol p
    obtain ⟨ts, w, w', us, h₁, h₂, h₃⟩ := ih (joinsName_of_cons h (by simp))
    -- The parts after the punctuator are read from the next offset; where does not matter.
    have hmove := map_token_lexemesFrom (i + 1) (i + [p.symbol].length)
    refine ⟨.ofPunctuator p :: ts, w, w', us, ?_, ?_, ?_⟩
    · rw [lexemesFrom_singleton_of_punctuator hq, List.map_cons, hmove, h₁, List.cons_append]
    · rw [map_token_lexemesFrom i (i + [p.symbol].length), h₂]
    · rw [List.cons_append, lexemesFrom_singleton_of_punctuator hq, List.map_cons, hmove, h₃,
        List.cons_append]
  | case3 i ch chs _ hl name ih =>
    obtain ⟨c, rfl, hc⟩ := eq_singleton_of_letterChar hl
    by_cases hall : ∀ x ∈ chs, letterChar x = true
    · -- The first part is one name, and the second begins with a single letter `d`.
      obtain ⟨x, rest, rfl⟩ : ∃ x rest, chs' = x :: rest :=
        List.exists_cons_of_ne_nil (by rintro rfl; simp [joinsName] at h)
      have hx : letterChar x = true := by
        simp only [joinsName, List.head?_cons, Option.any_some, Bool.and_eq_true] at h
        exact h.2
      obtain ⟨d, rfl, hd⟩ := eq_singleton_of_letterChar hx
      refine ⟨[], String.ofList (c :: chs.flatten),
        String.ofList (d :: (rest.takeWhile letterChar).flatten),
        (lexemesFrom 0 (rest.dropWhile letterChar)).map Lexeme.token, ?_, ?_, ?_⟩
      · rw [lexemesFrom_singleton_of_letter hc, List.takeWhile_eq_self_iff.mpr hall,
          List.dropWhile_eq_nil_iff.mpr hall]
        simp [lexemesFrom]
      · rw [lexemesFrom_singleton_of_letter hd, List.map_cons, map_token_lexemesFrom _ 0]
      · rw [List.cons_append, lexemesFrom_singleton_of_letter hc, List.takeWhile_append_of_pos hall,
          List.dropWhile_append_of_pos hall, List.takeWhile_cons_of_pos hx,
          List.dropWhile_cons_of_pos hx, List.map_cons, map_token_lexemesFrom _ 0,
          ← String.ofList_append]
        simp
    · obtain ⟨htake, hdrop⟩ := takeWhile_dropWhile_append_of_stop hall chs'
      have hsuffix : chs.dropWhile letterChar <:+ [c] :: chs :=
        (List.dropWhile_suffix letterChar).trans (List.suffix_cons _ chs)
      have hne : chs.dropWhile letterChar ≠ [] := mt List.dropWhile_eq_nil_iff.mp hall
      obtain ⟨ts, w, w', us, h₁, h₂, h₃⟩ := ih (by rw [joinsName_of_suffix hsuffix hne, h])
      have hmove := map_token_lexemesFrom
        (i + 1 + (chs.takeWhile letterChar).flatten.length) (i + name.length)
      refine ⟨.ofName (String.ofList (c :: (chs.takeWhile letterChar).flatten)) :: ts, w, w', us,
        ?_, ?_, ?_⟩
      · rw [lexemesFrom_singleton_of_letter hc, List.map_cons, hmove, h₁, List.cons_append]
      · rw [map_token_lexemesFrom i (i + name.length), h₂]
      · rw [List.cons_append, lexemesFrom_singleton_of_letter hc, htake, hdrop, List.map_cons,
          hmove, h₃, List.cons_append]
  | case4 i ch chs hp hl ih =>
    obtain ⟨ts, w, w', us, h₁, h₂, h₃⟩ := ih (joinsName_of_cons h (by simpa using hl))
    refine ⟨ts, w, w', us, ?_, ?_, ?_⟩
    · rw [lexemesFrom_cons_of_skipped hp (by simpa using hl), h₁]
    · rw [map_token_lexemesFrom i (i + ch.length), h₂]
    · rw [List.cons_append, lexemesFrom_cons_of_skipped hp (by simpa using hl), h₃]

/-! ## Code points at a seam -/

theorem tokensOf_append_of_joinsName_eq_false {a b : List Char} (hb : marked b = false)
    (h : joinsName (characters a) (characters b) = false) :
    tokensOf (a ++ b) = tokensOf a ++ tokensOf b := by
  rw [tokensOf_eq_map_lexemesFrom (a ++ b) 0, characters_append hb, lexemesFrom_append 0 _ _ h,
    List.map_append, ← tokensOf_eq_map_lexemesFrom a 0, ← tokensOf_eq_map_lexemesFrom b]

theorem tokensOf_append_of_joinsName {a b : List Char} (hb : marked b = false)
    (h : joinsName (characters a) (characters b) = true) :
    ∃ ts w w' us, tokensOf a = ts ++ [.ofName w] ∧ tokensOf b = .ofName w' :: us ∧
      tokensOf (a ++ b) = ts ++ .ofName (w ++ w') :: us := by
  obtain ⟨ts, w, w', us, h₁, h₂, h₃⟩ := tokens_append_of_joinsName 0 _ _ h
  refine ⟨ts, w, w', us, ?_, ?_, ?_⟩
  · rw [tokensOf_eq_map_lexemesFrom a 0, h₁]
  · rw [tokensOf_eq_map_lexemesFrom b 0, h₂]
  · rw [tokensOf_eq_map_lexemesFrom (a ++ b) 0, characters_append hb, h₃]

end MiniExpr.Lexer

namespace MiniExpr

open Lexer

/-! ## Texts at a seam -/

/-- **Tokenizing two texts written one after another.**  When the second text does not begin with
a code point that attaches, its tokens follow those of the first, unless the last character of the
first and the first character of the second are each a single letter.  Then the name that ends the
first text and the name that begins the second are read as one name, and the two lists differ. -/
theorem tokenize_append (a b : String) (hb : marked b.toList = false) :
    (joinsName (characters a.toList) (characters b.toList) = false →
      tokenize (a ++ b) = tokenize a ++ tokenize b) ∧
    (joinsName (characters a.toList) (characters b.toList) = true →
      ∃ ts w w' us, tokenize a = ts ++ [.ofName w] ∧ tokenize b = .ofName w' :: us ∧
        tokenize (a ++ b) = ts ++ .ofName (w ++ w') :: us ∧
        tokenize (a ++ b) ≠ tokenize a ++ tokenize b) := by
  refine ⟨fun h => ?_, fun h => ?_⟩
  · rw [tokenize, String.toList_append, tokensOf_append_of_joinsName_eq_false hb h]
    rfl
  · obtain ⟨ts, w, w', us, h₁, h₂, h₃⟩ := tokensOf_append_of_joinsName hb h
    have hjoined : tokenize (a ++ b) = ts ++ .ofName (w ++ w') :: us := by
      rw [tokenize, String.toList_append, h₃]
    refine ⟨ts, w, w', us, h₁, h₂, hjoined, fun heq => ?_⟩
    -- Read together, the two names are one token: the whole has a token fewer.
    have hlen := congrArg List.length heq
    rw [hjoined, tokenize, tokenize, h₁, h₂] at hlen
    simp at hlen

/-- A name stops before a letter that carries a mark: `x` and `é` (an `e` and a combining acute
accent) read as the name `x` alone. -/
theorem tokenize_append_marked_letter :
    marked "e\u0301".toList = false ∧
      tokenize ("x" ++ "e\u0301") = tokenize "x" ++ tokenize "e\u0301" :=
  ⟨by decide +kernel, (tokenize_append "x" "e\u0301" (by decide +kernel)).1 (by decide +kernel)⟩

/-! ## Tokens written with blanks between them -/

namespace Token

/-- Whether a token is one the lexer can hand out: a punctuator token of one of the thirteen
punctuators, or a name token whose text is a name. -/
def isWellFormed (t : Token) : Bool :=
  Punctuator.all.any (fun p => t == .ofPunctuator p) || (t.kind == .name && isNameText t.value)

theorem isWellFormed_iff (t : Token) :
    t.isWellFormed = true ↔
      (∃ p, t = .ofPunctuator p) ∨ (∃ w, t = .ofName w ∧ isNameText w = true) := by
  simp only [isWellFormed, Bool.or_eq_true, List.any_eq_true, beq_iff_eq, Bool.and_eq_true]
  refine or_congr ⟨fun ⟨p, _, hp⟩ => ⟨p, hp⟩, fun ⟨p, hp⟩ => ⟨p, Punctuator.mem_all p, hp⟩⟩ ?_
  obtain ⟨k, v⟩ := t
  constructor
  · rintro ⟨hk, hv⟩
    exact ⟨v, by simp_all [ofName], hv⟩
  · rintro ⟨w, hw, hname⟩
    cases hw
    exact ⟨rfl, hname⟩

/-- The text of a well-formed token reads back as that token alone. -/
theorem tokensOf_value {t : Token} (ht : t.isWellFormed = true) : tokensOf t.value.toList = [t] := by
  rcases (isWellFormed_iff t).mp ht with ⟨p, rfl⟩ | ⟨w, rfl, hw⟩
  · rw [ofPunctuator_value, Punctuator.text, String.toList_singleton,
      tokensOf_symbol_cons p marked_nil, tokensOf_nil]
  · have hread : tokensOf (w.toList ++ []) = .ofName (String.ofList w.toList) :: tokensOf [] :=
      tokensOf_name_append (by rwa [String.ofList_toList]) rfl
    rwa [List.append_nil, String.ofList_toList, tokensOf_nil] at hread

/-- The text of a well-formed token begins with a code point that attaches to nothing. -/
theorem marked_value_append {t : Token} (ht : t.isWellFormed = true) (cs : List Char) :
    marked (t.value.toList ++ cs) = false := by
  rcases (isWellFormed_iff t).mp ht with ⟨p, rfl⟩ | ⟨w, rfl, hw⟩
  · rw [ofPunctuator_value, Punctuator.text, String.toList_singleton, List.singleton_append,
      marked_cons, attaches_symbol]
  · obtain ⟨hne, hletters⟩ := isNameText_iff.mp hw
    obtain ⟨c, w', hcw⟩ := List.exists_cons_of_ne_nil hne
    rw [ofName_value, hcw, List.cons_append, marked_cons]
    exact attaches_eq_false_of_isLetter (hletters c (by rw [hcw]; exact List.mem_cons_self))

end Token

/-- The tokens written out with a blank between two of them. -/
theorem toList_spaced_cons (t : Token) (ts : List Token) :
    ∃ rest, (" ".intercalate ((t :: ts).map Token.value)).toList = t.value.toList ++ rest := by
  cases ts with
  | nil => exact ⟨[], by simp⟩
  | cons u ts =>
    refine ⟨' ' :: (" ".intercalate ((u :: ts).map Token.value)).toList, ?_⟩
    rw [List.map_cons, List.map_cons, String.intercalate_cons_cons, String.toList_append,
      String.toList_append, List.append_assoc, ← List.map_cons]
    rfl

theorem tokensOf_spaced : ∀ ts : List Token, (∀ t ∈ ts, t.isWellFormed = true) →
    tokensOf (" ".intercalate (ts.map Token.value)).toList = ts
  | [], _ => by simp
  | [t], h => by
    rw [List.map_singleton, String.intercalate_singleton]
    exact Token.tokensOf_value (h t List.mem_cons_self)
  | t :: u :: ts, h => by
    have hrest := tokensOf_spaced (u :: ts) (fun x hx => h x (List.mem_cons_of_mem t hx))
    -- The rest of the text begins with the text of `u`, to which the blank before it is no
    -- letter and nothing attaches.
    have hmarked : marked (" ".intercalate ((u :: ts).map Token.value)).toList = false := by
      obtain ⟨rest, hrest⟩ := toList_spaced_cons u ts
      rw [hrest]
      exact Token.marked_value_append (h u (List.mem_cons_of_mem t List.mem_cons_self)) rest
    have hseam : joinsName (characters t.value.toList)
        (characters (' ' :: (" ".intercalate ((u :: ts).map Token.value)).toList)) = false := by
      rw [characters_cons_of_marked_eq_false hmarked]
      simp [joinsName, isLetter]
    have hblank : " ".toList = [' '] := rfl
    rw [List.map_cons, List.map_cons, String.intercalate_cons_cons, String.toList_append,
      String.toList_append, List.append_assoc, ← List.map_cons, hblank, List.singleton_append,
      tokensOf_append_of_joinsName_eq_false rfl hseam,
      Token.tokensOf_value (h t List.mem_cons_self), tokensOf_blank_cons hmarked, hrest,
      List.singleton_append]

/-- **Tokens written with single blanks between them read back as themselves.**  Any list of
punctuator tokens and name tokens, in any order, adjacent names and adjacent punctuators included,
reads back from its text with one blank between two tokens; so does every list of tokens the lexer
hands out. -/
theorem tokenize_spaced :
    (∀ ts : List Token, (∀ t ∈ ts, t.isWellFormed = true) →
      tokenize (" ".intercalate (ts.map Token.value)) = ts) ∧
    ∀ s : String, tokenize (" ".intercalate ((tokenize s).map Token.value)) = tokenize s :=
  ⟨tokensOf_spaced, fun s => tokensOf_spaced _ fun t ht =>
    (Token.isWellFormed_iff t).mpr (mem_tokensOf_shape s.toList t ht)⟩

/-- Two names side by side stay two names, and a punctuator after them stays one. -/
theorem tokenize_spaced_names :
    (∀ t ∈ [Token.ofName "ab", .ofName "c", .ofPunctuator .openParen], t.isWellFormed = true) ∧
      tokenize (" ".intercalate
        ([Token.ofName "ab", .ofName "c", .ofPunctuator .openParen].map Token.value)) =
        [.ofName "ab", .ofName "c", .ofPunctuator .openParen] := by
  have hwf : ∀ t ∈ [Token.ofName "ab", .ofName "c", .ofPunctuator .openParen],
      t.isWellFormed = true := by
    intro t ht
    simp only [List.mem_cons, List.not_mem_nil, or_false] at ht
    rcases ht with rfl | rfl | rfl
    · exact (Token.isWellFormed_iff _).mpr (.inr ⟨"ab", rfl, by simp [isNameText, isLetter]⟩)
    · exact (Token.isWellFormed_iff _).mpr (.inr ⟨"c", rfl, by simp [isNameText, isLetter]⟩)
    · exact (Token.isWellFormed_iff _).mpr (.inl ⟨.openParen, rfl⟩)
  exact ⟨hwf, tokenize_spaced.1 _ hwf⟩

end MiniExpr
