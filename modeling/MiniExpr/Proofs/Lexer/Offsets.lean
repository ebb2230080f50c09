import Mathlib.Logic.Relation
import Mathlib.Order.Bounds.Defs
import MiniExpr.Proofs.Lexer.Characters
/-!
# The cursor loop by offsets

`Lexer.nextAt` is the loop that takes a token, written over offsets into the text: the inner loop
`clusterEnd` finds where the character at an offset ends, and the inner loop `nameEnd` runs a name
on over the characters that are each one letter.  This file says what each computes and that the
whole loop takes the token `Lexer.next` takes.

* `clusterEnd_isLeast`: the character at `p` ends at the first offset after `p` that is the end of
  the text or holds a code point that attaches to nothing.
* `nameEnd_isLeast`: a name stops at the first character boundary, read on from where it stands,
  that is the end of the text or starts a character that is not one letter.
* `next_eq_nextAt`: `Lexer.next` hands out the token `nextAt` takes at the cursor and moves the
  cursor to where `nextAt` stops.
* `inner_loops_least`: both inner loops together, with the name that `nextAt` hands out after a
  first letter; `NameRun` gathers what the name loop does.

Both inner loops rest on two readings of the same offset: as an index into the text, and as the
length of the front part cut off by `List.drop`.  `clusterEnd_eq` and `nameEnd_eq` pass from the
first reading to the second, where `scan` works.
-/

namespace MiniExpr.Lexer

open Text.Mark (attaches)

variable {text : List Char}

/-! ## Where a character ends -/

/-- Offset `e` can end a character: it is the end of the text, or the code point there attaches to
nothing before it. -/
def EndsCharacter (text : List Char) (e : Nat) : Prop :=
  e = text.length ∨ ∃ h : e < text.length, attaches text[e] = false

theorem EndsCharacter.le_length {e : Nat} (h : EndsCharacter text e) : e ≤ text.length := by
  rcases h with rfl | ⟨he, _⟩
  · exact Nat.le_refl _
  · exact Nat.le_of_lt he

/-- An offset whose code point attaches to the one before does not end a character. -/
theorem not_endsCharacter {e : Nat} (he : e < text.length) (hatt : attaches text[e] = true) :
    ¬ EndsCharacter text e := by
  rintro (heq | ⟨_, hend⟩)
  · omega
  · rw [hatt] at hend
    cases hend

theorem extend_eq (text : List Char) (e : Nat) :
    clusterEnd.extend text e = e + ((text.drop e).takeWhile attaches).length := by
  fun_induction clusterEnd.extend text e with
  | case1 e h hatt ih =>
    rw [ih, List.drop_eq_getElem_cons h, List.takeWhile_cons_of_pos hatt, List.length_cons]
    omega
  | case2 e h hatt =>
    rw [List.drop_eq_getElem_cons h, List.takeWhile_cons_of_neg hatt]
    rfl
  | case3 e h =>
    rw [List.drop_eq_nil_of_le (by omega)]
    rfl

/-- The character at `pos` is its first code point and the run of code points that attach. -/
theorem clusterEnd_eq (text : List Char) (pos : Nat) :
    clusterEnd text pos = pos + 1 + ((text.drop (pos + 1)).takeWhile attaches).length :=
  extend_eq text (pos + 1)

/-- Run on from `e`, a character stops at the first offset from `e` on that can end one. -/
theorem extend_isLeast {e : Nat} (he : e ≤ text.length) :
    IsLeast {k | e ≤ k ∧ EndsCharacter text k} (clusterEnd.extend text e) := by
  fun_induction clusterEnd.extend text e with
  | case1 e h hatt ih =>
    -- `e` itself cannot end the character, so the candidates from `e` are those from `e + 1`
    have hsame :
        {k | e ≤ k ∧ EndsCharacter text k} = {k | e + 1 ≤ k ∧ EndsCharacter text k} := by
      ext k
      constructor
      · rintro ⟨hk, hend⟩
        rcases Nat.eq_or_lt_of_le hk with rfl | hlt
        · exact absurd hend (not_endsCharacter h hatt)
        · exact ⟨hlt, hend⟩
      · rintro ⟨hk, hend⟩
        exact ⟨Nat.le_of_succ_le hk, hend⟩
    rw [hsame]
    exact ih h
  | case2 e h hatt =>
    exact ⟨⟨Nat.le_refl e, .inr ⟨h, Bool.eq_false_iff.mpr hatt⟩⟩, fun k hk => hk.1⟩
  | case3 e h =>
    exact ⟨⟨Nat.le_refl e, .inl (by omega)⟩, fun k hk => hk.1⟩

/-- **A character ends at the first offset after its start that can end one**: the end of the
text, or a code point that attaches to nothing. -/
theorem clusterEnd_isLeast {p : Nat} (hp : p < text.length) :
    IsLeast {e | p < e ∧ EndsCharacter text e} (clusterEnd text p) :=
  extend_isLeast hp

theorem clusterEnd_le {p : Nat} (hp : p < text.length) : clusterEnd text p ≤ text.length :=
  (clusterEnd_isLeast hp).1.2.le_length

theorem takeWhile_attaches_eq_nil_iff {cs : List Char} :
    cs.takeWhile attaches = [] ↔ marked cs = false := by
  cases cs with
  | nil => simp
  | cons c cs => cases hc : attaches c <;> simp [hc]

/-- The character at `pos` is one code point when nothing attaches to it. -/
theorem clusterEnd_of_marked_eq_false {pos : Nat} (h : marked (text.drop (pos + 1)) = false) :
    clusterEnd text pos = pos + 1 := by
  rw [clusterEnd_eq, takeWhile_attaches_eq_nil_iff.mpr h, List.length_nil, Nat.add_zero]

/-- The code points of the character at `pos`. -/
theorem extract_clusterEnd {pos : Nat} (hp : pos < text.length) :
    text.extract pos (clusterEnd text pos) =
      text[pos] :: (text.drop (pos + 1)).takeWhile attaches := by
  have hpre := @List.takeWhile_prefix _ (text.drop (pos + 1)) attaches
  rw [List.extract_eq_take_drop, List.drop_eq_getElem_cons hp, clusterEnd_eq,
    show pos + 1 + ((text.drop (pos + 1)).takeWhile attaches).length - pos =
      ((text.drop (pos + 1)).takeWhile attaches).length + 1 by omega,
    List.take_succ_cons, ← List.prefix_iff_eq_take.mp hpre]

/-- A character that is a lone `c` is that code point, with nothing attached. -/
theorem eq_of_extract_clusterEnd {pos : Nat} {c : Char} (hp : pos < text.length)
    (h : text.extract pos (clusterEnd text pos) = [c]) :
    text[pos] = c ∧ marked (text.drop (pos + 1)) = false := by
  rw [extract_clusterEnd hp] at h
  obtain ⟨hc, htw⟩ := List.cons.inj h
  exact ⟨hc, takeWhile_attaches_eq_nil_iff.mp htw⟩

theorem drop_length_takeWhile (cs : List Char) :
    cs.drop (cs.takeWhile attaches).length = cs.dropWhile attaches := by
  have hsplit := @List.takeWhile_append_dropWhile _ attaches cs
  calc cs.drop (cs.takeWhile attaches).length
      = (cs.takeWhile attaches ++ cs.dropWhile attaches).drop (cs.takeWhile attaches).length := by
        rw [hsplit]
    _ = cs.dropWhile attaches := List.drop_left

/-- What follows the character at `pos`. -/
theorem drop_clusterEnd (text : List Char) (pos : Nat) :
    text.drop (clusterEnd text pos) = (text.drop (pos + 1)).dropWhile attaches := by
  rw [clusterEnd_eq, ← List.drop_drop, drop_length_takeWhile]

/-! ## Where a name stops -/

/-- Whether the character that starts at offset `b` is one ASCII letter and nothing else. -/
def letterAt (text : List Char) (b : Nat) : Bool :=
  letterChar (text.extract b (clusterEnd text b))

/-- A step from one character boundary to the next, over the character that starts at `b`. -/
def NextBoundary (text : List Char) (b b' : Nat) : Prop :=
  b < text.length ∧ clusterEnd text b = b'

theorem letterAt_eq {b : Nat} (hb : b < text.length) :
    letterAt text b = (isLetter text[b] && !marked (text.drop (b + 1))) := by
  rw [letterAt, extract_clusterEnd hb, letterChar_first]

theorem letterAt_of_length_le {b : Nat} (hb : text.length ≤ b) : letterAt text b = false := by
  rw [letterAt, List.extract_eq_take_drop, List.drop_eq_nil_of_le hb, List.take_nil]
  rfl

theorem lt_length_of_letterAt {b : Nat} (h : letterAt text b = true) : b < text.length :=
  Nat.lt_of_not_le fun hb => by
    rw [letterAt_of_length_le hb] at h
    cases h

/-- A character is one letter when its code point is a letter with nothing attached. -/
theorem letterAt_iff {b : Nat} (hb : b < text.length) :
    letterAt text b = true ↔ isLetter text[b] = true ∧ marked (text.drop (b + 1)) = false := by
  rw [letterAt_eq hb, Bool.and_eq_true, Bool.not_eq_true']

/-- A character that is one letter is one code point. -/
theorem clusterEnd_of_letterAt {b : Nat} (h : letterAt text b = true) :
    clusterEnd text b = b + 1 :=
  clusterEnd_of_marked_eq_false ((letterAt_iff (lt_length_of_letterAt h)).mp h).2

/-- A lone letter at `b` is the first of the letters that `nameTail` reads from `b` on. -/
theorem nameTail_drop_of_letterAt {b : Nat} (hb : b < text.length) (h : letterAt text b = true) :
    nameTail (text.drop b) = text[b] :: nameTail (text.drop (b + 1)) := by
  rw [letterAt_eq hb] at h
  rw [List.drop_eq_getElem_cons hb, nameTail, if_pos h]

theorem NextBoundary.lt {b b' : Nat} (h : NextBoundary text b b') : b < b' :=
  h.2 ▸ lt_clusterEnd text b

/-- Boundaries read on from `q` lie at `q` or after it. -/
theorem le_of_reflTransGen {q b : Nat} (h : Relation.ReflTransGen (NextBoundary text) q b) :
    q ≤ b := by
  induction h with
  | refl => exact Nat.le_refl q
  | tail _ hstep ih => exact Nat.le_trans ih (Nat.le_of_lt hstep.lt)

/-- **A name stops at the first boundary that ends it.**  Read on from `q`, the loop stops at the
first character boundary that is the end of the text or starts a character that is not one
letter. -/
theorem nameEnd_isLeast (text : List Char) (q : Nat) :
    IsLeast {r | Relation.ReflTransGen (NextBoundary text) q r ∧
      (r = text.length ∨ letterAt text r = false)} (nameEnd text q) := by
  fun_induction nameEnd text q with
  | case1 q hq _ hl ih =>
    have hl' : letterAt text q = true := hl
    refine ⟨⟨.head ⟨hq, rfl⟩ ih.1.1, ih.1.2⟩, fun r ⟨hr, hend⟩ => ?_⟩
    -- a boundary from `q` is `q` itself, which the name passes over, or one from the next boundary
    rcases Relation.ReflTransGen.cases_head hr with rfl | ⟨c, ⟨_, rfl⟩, hc⟩
    · rcases hend with hend | hend
      · omega
      · rw [hl'] at hend
        cases hend
    · exact ih.2 ⟨hc, hend⟩
  | case2 q _ _ hl =>
    have hl' : letterAt text q = false := Bool.eq_false_iff.mpr hl
    exact ⟨⟨.refl, .inr hl'⟩, fun r hr => le_of_reflTransGen hr.1⟩
  | case3 q hq =>
    have hl' : letterAt text q = false := letterAt_of_length_le (by omega)
    exact ⟨⟨.refl, .inr hl'⟩, fun r hr => le_of_reflTransGen hr.1⟩

/-- The name loop run from `q` passes over the letters that `nameTail` reads there. -/
theorem nameEnd_eq (text : List Char) (q : Nat) :
    nameEnd text q = q + (nameTail (text.drop q)).length := by
  fun_induction nameEnd text q with
  | case1 q hq e hl ih =>
    have hl' : letterAt text q = true := hl
    have he : e = q + 1 := clusterEnd_of_letterAt hl'
    rw [ih, he, nameTail_drop_of_letterAt hq hl', List.length_cons]
    omega
  | case2 q hq _ hl =>
    have hl' : letterAt text q = false := Bool.eq_false_iff.mpr hl
    rw [letterAt_eq hq] at hl'
    rw [List.drop_eq_getElem_cons hq, nameTail, if_neg (by simp [hl'])]
    rfl
  | case3 q hq =>
    rw [List.drop_eq_nil_of_le (by omega)]
    rfl

theorem le_nameEnd (text : List Char) (q : Nat) : q ≤ nameEnd text q := by
  rw [nameEnd_eq]
  exact Nat.le_add_right q _

theorem nameEnd_le_length {q : Nat} (hq : q ≤ text.length) : nameEnd text q ≤ text.length := by
  have hlen := (nameTail_begins (text.drop q)).length_le
  rw [List.length_drop] at hlen
  rw [nameEnd_eq]
  omega

/-- The code points a name loop run from `q` passes over are what `nameTail` reads there. -/
theorem extract_nameEnd (text : List Char) (q : Nat) :
    text.extract q (nameEnd text q) = nameTail (text.drop q) := by
  rw [List.extract_eq_take_drop, nameEnd_eq, Nat.add_sub_cancel_left,
    ← List.prefix_iff_eq_take.mp (nameTail_begins _)]

theorem nameEnd_of_letterAt {b : Nat} (h : letterAt text b = true) :
    nameEnd text b = nameEnd text (clusterEnd text b) := by
  rw [nameEnd, if_pos (lt_length_of_letterAt h)]
  exact if_pos h

/-- How a name whose first character, a lone letter at `start`, ends at `q` runs on and stops at
`r`. -/
structure NameRun (text : List Char) (start q r : Nat) : Prop where
  /-- `r` is the first character boundary from `q` on that is the end of the text or starts a
  character that is not one letter. -/
  stops : IsLeast {b | Relation.ReflTransGen (NextBoundary text) q b ∧
    (b = text.length ∨ letterAt text b = false)} r
  /-- Every character the name runs over is one letter. -/
  passes : ∀ b, Relation.ReflTransGen (NextBoundary text) q b → b < r → letterAt text b = true
  /-- The code points from `start` to `r` are all letters. -/
  letters : ∀ c ∈ text.extract start r, isLetter c = true
  /-- The name moves forward and stays within the text. -/
  forward : start < q ∧ q ≤ r ∧ r ≤ text.length

/-- A name that starts with a lone letter at `start` runs as `NameRun` says. -/
theorem nameRun_nameEnd {start : Nat} (h : letterAt text start = true) :
    NameRun text start (clusterEnd text start) (nameEnd text (clusterEnd text start)) where
  stops := nameEnd_isLeast text _
  passes b hb hlt := by
    cases hb' : letterAt text b with
    | true => rfl
    | false =>
      have := (nameEnd_isLeast text _).2 ⟨hb, .inr hb'⟩
      omega
  letters c hc := by
    rw [← nameEnd_of_letterAt h, extract_nameEnd] at hc
    exact isLetter_of_mem_nameTail hc
  forward :=
    ⟨lt_clusterEnd text start, le_nameEnd text _,
      nameEnd_le_length (clusterEnd_le (lt_length_of_letterAt h))⟩

/-! ## The loop takes the token `next` takes -/

/-- **The loop by offsets is the scan of what follows the cursor.**  It takes the token `scan`
finds after `pos` and stops where the scan leaves off; when none is left it stops at the end of the
text, or stays put past it. -/
theorem nextAt_eq_scan (text : List Char) (pos : Nat) :
    nextAt text pos =
      match scan (text.drop pos) with
      | some (t, r) => (some t, text.length - r.length)
      | none => (none, max pos text.length) := by
  fun_induction nextAt text pos with
  | case1 pos hp e c p hpunct =>
    obtain ⟨hc, hm⟩ := eq_of_extract_clusterEnd hp (eq_symbol_of_ofString?_ofList hpunct)
    have he : e = pos + 1 := clusterEnd_of_marked_eq_false hm
    rw [List.drop_eq_getElem_cons hp,
      scan_cons_of_punctuator hm (hc ▸ Punctuator.ofChar?_symbol p), he]
    simp only [List.length_drop, Prod.mk.injEq, true_and]
    omega
  | case2 pos hp e c _ hl r =>
    have hl' : letterAt text pos = true := hl
    obtain ⟨hlet, hm⟩ := (letterAt_iff hp).mp hl'
    -- the name loop stops where `nameTail`, read after the first letter, stops
    have hr : r = nameEnd text pos := (nameEnd_of_letterAt hl').symm
    have hk := (nameTail_begins (text.drop (pos + 1))).length_le
    rw [List.length_drop] at hk
    rw [hr, extract_nameEnd, nameEnd_eq, nameTail_drop_of_letterAt hp hl',
      List.drop_eq_getElem_cons hp, scan_cons_of_letter hm hlet]
    simp only [List.length_cons, List.length_drop, Prod.mk.injEq, true_and]
    omega
  | case3 pos hp e c hpunct hl ih =>
    have hpunct' : Punctuator.ofString? (String.ofList (text.extract pos (clusterEnd text pos))) =
      none := hpunct
    have hl' : letterAt text pos = false := Bool.eq_false_iff.mpr hl
    -- a character of several code points is passed over whole; a lone code point on its own
    have hscan : scan (text.drop pos) = scan (text.drop e) := by
      rw [List.drop_eq_getElem_cons hp]
      cases hm : marked (text.drop (pos + 1)) with
      | true => exact (scan_cons_of_marked hm).trans (congrArg scan (drop_clusterEnd text pos)).symm
      | false =>
        have he : e = pos + 1 := clusterEnd_of_marked_eq_false hm
        rw [extract_clusterEnd hp, takeWhile_attaches_eq_nil_iff.mpr hm,
          ofString?_ofList_singleton] at hpunct'
        rw [letterAt_eq hp, hm, Bool.not_false, Bool.and_true] at hl'
        rw [scan_cons_of_skipped hm hpunct' hl', he]
    have hle : e ≤ text.length := clusterEnd_le hp
    rw [ih, hscan]
    cases scan (text.drop e) with
    | none => simp only [Prod.mk.injEq, true_and]; omega
    | some tr => rfl
  | case4 pos hp =>
    rw [List.drop_eq_nil_of_le (Nat.le_of_not_lt hp)]
    simp only [scan, Prod.mk.injEq, true_and]
    omega

/-- **`next` is the loop by offsets.**  Taking the next token from a lexer hands out what `nextAt`
takes at its cursor, and moves the cursor to where `nextAt` stops. -/
theorem next_eq_nextAt (l : Lexer) :
    l.next = ((nextAt l.text l.pos).1, { l with pos := (nextAt l.text l.pos).2 }) := by
  rw [next, nextAt_eq_scan]
  cases scan (l.text.drop l.pos) with
  | none => rfl
  | some tr => rfl

/-- A character that is a lone letter starts a name, which runs to where the name loop stops. -/
theorem nextAt_of_letterAt {p : Nat} (h : letterAt text p = true) :
    nextAt text p =
      (some (.ofName (String.ofList (text.extract p (nameEnd text (clusterEnd text p))))),
        nameEnd text (clusterEnd text p)) := by
  obtain ⟨d, hch, hd⟩ := eq_singleton_of_letterChar h
  have hc : isLetterText (String.ofList [d]) = true := by
    rw [← hch]
    exact h
  rw [nextAt, if_pos (lt_length_of_letterAt h)]
  dsimp only
  rw [hch, ofString?_ofList_singleton, ofChar?_eq_none_of_isLetter hd]
  exact if_pos hc

/-- **The two inner loops of the lexer.**  At an offset `p` inside the text, the character loop
stops at the first offset after `p` that is the end of the text or holds a code point that
attaches to nothing, so within the text.  When that character is a lone letter, the name loop
entered at its end runs as `NameRun` says, and the loop by offsets hands out the code points from
`p` to where the name loop stops as a name. -/
theorem inner_loops_least (text : List Char) (p : Nat) (hp : p < text.length) :
    IsLeast {e | p < e ∧ EndsCharacter text e} (clusterEnd text p) ∧
    clusterEnd text p ≤ text.length ∧
    (letterAt text p = true →
      NameRun text p (clusterEnd text p) (nameEnd text (clusterEnd text p)) ∧
      nextAt text p =
        (some (.ofName (String.ofList (text.extract p (nameEnd text (clusterEnd text p))))),
          nameEnd text (clusterEnd text p))) :=
  ⟨clusterEnd_isLeast hp, clusterEnd_le hp,
    fun hl => ⟨nameRun_nameEnd hl, nextAt_of_letterAt hl⟩⟩

/-- In `a`, `b` with a combining acute accent, `c`, the `b` carries a mark, so the name that
starts at `a` stops right after it: the name loop does not take a letter that carries a mark. -/
theorem name_stops_before_marked_letter :
    0 < ['a', 'b', '\u0301', 'c'].length ∧ letterAt ['a', 'b', '\u0301', 'c'] 0 = true ∧
      IsLeast {e | 0 < e ∧ EndsCharacter ['a', 'b', '\u0301', 'c'] e} 1 ∧
      1 ≤ ['a', 'b', '\u0301', 'c'].length ∧
      NameRun ['a', 'b', '\u0301', 'c'] 0 1 1 ∧
      nextAt ['a', 'b', '\u0301', 'c'] 0 = (some (.ofName (String.ofList ['a'])), 1) := by
  have hl : letterAt ['a', 'b', '\u0301', 'c'] 0 = true := by
    rw [letterAt_eq (by decide)]
    decide
  have hce : clusterEnd ['a', 'b', '\u0301', 'c'] 0 = 1 := clusterEnd_of_letterAt hl
  have hne : nameEnd ['a', 'b', '\u0301', 'c'] 1 = 1 := by
    rw [nameEnd_eq]
    decide
  obtain ⟨hleast, hle, hname⟩ := inner_loops_least ['a', 'b', '\u0301', 'c'] 0 (by decide)
  obtain ⟨hrun, hnext⟩ := hname hl
  rw [hce] at hleast hle hrun hnext
  rw [hne] at hrun hnext
  exact ⟨by decide, hl, hleast, hle, hrun, hnext⟩

end MiniExpr.Lexer
