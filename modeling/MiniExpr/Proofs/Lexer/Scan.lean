import MiniExpr.Expr.Basic
/-!
# One scan

`Lexer.scan` reads the first token off a list of code points.  This file gives each of its cases
as an equation, says that what a scan leaves is a suffix of what it read (`scan_suffix`) and that
it hands out only punctuators and names (`scan_token_shape`), and turns the recursion of
`tokensOf` into two equations, `tokensOf_of_scan_none` and `tokensOf_of_scan_some`.

No code point below U+0300 attaches to the one before it, so ASCII text is read one code point a
character.  `closesName` says when code points may follow a name without running on into it; the
last section reads a punctuator, a blank and a whole name off the front of such text.
-/

namespace MiniExpr.Lexer

open Text.Mark (attaches)

/-! ## Code points that attach -/

theorem attaches_eq_false_of_lt {c : Char} (h : c.toNat < 0x300) : attaches c = false := by
  have hj : c ≠ Text.Mark.joiner := by
    rintro rfl
    simp [Text.Mark.joiner] at h
  simp [attaches, Text.Mark.isMark, hj]
  omega

theorem toNat_lt_of_isLetter {c : Char} (h : isLetter c = true) : c.toNat < 128 := by
  -- An ASCII letter lies in A–Z or in a–z; the bounds are read off by unfolding, not rewriting.
  have h' : (decide (c.val ≥ 'A'.val ∧ c.val ≤ 'Z'.val) ||
      (decide (c.val ≥ 'a'.val) && decide (c.val ≤ 'z'.val))) = true := h
  simp only [Bool.or_eq_true, Bool.and_eq_true, decide_eq_true_eq] at h'
  rcases h' with ⟨_, h'⟩ | ⟨_, h'⟩ <;> rw [UInt32.le_iff_toNat_le] at h' <;> simp at h' <;> omega

theorem attaches_eq_false_of_isLetter {c : Char} (h : isLetter c = true) : attaches c = false :=
  attaches_eq_false_of_lt (by have := toNat_lt_of_isLetter h; omega)

@[simp]
theorem attaches_symbol (p : Punctuator) : attaches p.symbol = false := by
  cases p <;> decide

@[simp]
theorem isLetter_symbol (p : Punctuator) : isLetter p.symbol = false := by
  cases p <;> decide

/-- Letters are no punctuators. -/
theorem ofChar?_eq_none_of_isLetter {c : Char} (h : isLetter c = true) :
    Punctuator.ofChar? c = none := by
  cases hp : Punctuator.ofChar? c with
  | none => rfl
  | some p =>
    rw [← Punctuator.symbol_of_ofChar? hp, isLetter_symbol] at h
    exact absurd h Bool.false_ne_true

/-- A list of code points spells a name when it is not empty and holds letters only. -/
theorem isNameText_ofList {w : List Char} :
    isNameText (String.ofList w) = true ↔ w ≠ [] ∧ ∀ c ∈ w, isLetter c = true := by
  simp [isNameText, String.ofList_eq_empty_iff]

theorem isNameText_iff {s : String} :
    isNameText s = true ↔ s.toList ≠ [] ∧ ∀ c ∈ s.toList, isLetter c = true := by
  rw [← isNameText_ofList, String.ofList_toList]

@[simp] theorem marked_nil : marked [] = false := rfl

@[simp] theorem marked_cons (c : Char) (cs : List Char) : marked (c :: cs) = attaches c := rfl

/-! ## The cases of a scan -/

theorem scan_cons_of_marked {c : Char} {cs : List Char} (h : marked cs = true) :
    scan (c :: cs) = scan (cs.dropWhile attaches) := by
  rw [scan, if_pos h]

theorem scan_cons_of_punctuator {c : Char} {cs : List Char} {p : Punctuator}
    (h : marked cs = false) (hp : Punctuator.ofChar? c = some p) :
    scan (c :: cs) = some (.ofPunctuator p, cs) := by
  rw [scan, if_neg (by simp [h]), hp]

theorem scan_cons_of_letter {c : Char} {cs : List Char} (h : marked cs = false)
    (hl : isLetter c = true) :
    scan (c :: cs) =
      some (.ofName (String.ofList (c :: nameTail cs)), cs.drop (nameTail cs).length) := by
  rw [scan, if_neg (by simp [h]), ofChar?_eq_none_of_isLetter hl, if_pos hl]

theorem scan_cons_of_skipped {c : Char} {cs : List Char} (h : marked cs = false)
    (hp : Punctuator.ofChar? c = none) (hl : isLetter c = false) : scan (c :: cs) = scan cs := by
  rw [scan, if_neg (by simp [h]), hp, if_neg (by simp [hl])]

theorem nameTail_begins : ∀ cs : List Char, nameTail cs <+: cs
  | [] => List.prefix_refl []
  | c :: cs => by
    rw [nameTail]
    split
    · exact List.cons_prefix_cons.mpr ⟨rfl, nameTail_begins cs⟩
    · exact List.nil_prefix

theorem isLetter_of_mem_nameTail : ∀ {cs : List Char} {c : Char}, c ∈ nameTail cs →
    isLetter c = true
  | [], _, h => by simp [nameTail] at h
  | d :: cs, c, h => by
    rw [nameTail] at h
    split at h
    · next hd =>
      rcases List.mem_cons.mp h with rfl | h
      · exact (Bool.and_eq_true _ _ ▸ hd).1
      · exact isLetter_of_mem_nameTail h
    · simp at h

/-- **What a scan leaves is a suffix of what it read.** -/
theorem scan_suffix {cs : List Char} {t : Token} {r : List Char} (h : scan cs = some (t, r)) :
    r <:+ cs := by
  induction cs using scan.induct generalizing t r with
  | case1 => simp [scan] at h
  | case2 c cs hm ih =>
    rw [scan_cons_of_marked hm] at h
    exact ((ih h).trans (List.dropWhile_suffix attaches)).trans (List.suffix_cons c cs)
  | case3 c cs hm p hp =>
    rw [scan_cons_of_punctuator (by simpa using hm) hp] at h
    cases h
    exact List.suffix_cons c cs
  | case4 c cs hm _ hl =>
    rw [scan_cons_of_letter (by simpa using hm) hl] at h
    cases h
    exact (List.drop_suffix _ cs).trans (List.suffix_cons c cs)
  | case5 c cs hm hp hl ih =>
    rw [scan_cons_of_skipped (by simpa using hm) hp (by simpa using hl)] at h
    exact (ih h).trans (List.suffix_cons c cs)

/-- **A scan hands out a punctuator or a name.**  A name is never empty and holds ASCII letters
only. -/
theorem scan_token_shape {cs : List Char} {t : Token} {r : List Char}
    (h : scan cs = some (t, r)) :
    (∃ p, t = .ofPunctuator p) ∨ (∃ w, t = .ofName w ∧ isNameText w = true) := by
  induction cs using scan.induct generalizing t r with
  | case1 => simp [scan] at h
  | case2 c cs hm ih =>
    rw [scan_cons_of_marked hm] at h
    exact ih h
  | case3 c cs hm p hp =>
    rw [scan_cons_of_punctuator (by simpa using hm) hp] at h
    cases h
    exact .inl ⟨p, rfl⟩
  | case4 c cs hm _ hl =>
    rw [scan_cons_of_letter (by simpa using hm) hl] at h
    cases h
    refine .inr ⟨_, rfl, isNameText_ofList.mpr ⟨List.cons_ne_nil _ _, ?_⟩⟩
    intro d hd
    rcases List.mem_cons.mp hd with rfl | hd
    · exact hl
    · exact isLetter_of_mem_nameTail hd
  | case5 c cs hm hp hl ih =>
    rw [scan_cons_of_skipped (by simpa using hm) hp (by simpa using hl)] at h
    exact ih h

/-! ## Every token -/

theorem tokensOf_of_scan_none {cs : List Char} (h : scan cs = none) : tokensOf cs = [] := by
  rw [tokensOf]
  split
  · rfl
  · next heq => rw [h] at heq; cases heq

theorem tokensOf_of_scan_some {cs : List Char} {t : Token} {r : List Char}
    (h : scan cs = some (t, r)) : tokensOf cs = t :: tokensOf r := by
  rw [tokensOf]
  split
  · next heq => rw [h] at heq; cases heq
  · next heq => rw [h] at heq; cases heq; rfl

@[simp] theorem tokensOf_nil : tokensOf [] = [] := tokensOf_of_scan_none (by simp [scan])

theorem tokensOf_eq_of_scan_eq {cs ds : List Char} (h : scan cs = scan ds) :
    tokensOf cs = tokensOf ds := by
  cases hd : scan ds with
  | none => rw [tokensOf_of_scan_none (h.trans hd), tokensOf_of_scan_none hd]
  | some tr => rw [tokensOf_of_scan_some (h.trans hd), tokensOf_of_scan_some hd]

/-! ## Reading ASCII text -/

/-- Whether code points `cs` may follow a name without running on into it: they do not begin with
a letter, nor with a code point that attaches. -/
def closesName (cs : List Char) : Bool :=
  cs.head?.all fun c => !isLetter c && !attaches c

theorem marked_symbol_cons (p : Punctuator) (cs : List Char) : marked (p.symbol :: cs) = false :=
  attaches_symbol p

theorem marked_blank_cons (cs : List Char) : marked (' ' :: cs) = false := rfl

theorem closesName_symbol_cons (p : Punctuator) (cs : List Char) :
    closesName (p.symbol :: cs) = true := by
  simp [closesName]

theorem closesName_blank_cons (cs : List Char) : closesName (' ' :: cs) = true := rfl

theorem marked_eq_false_of_closesName {cs : List Char} (h : closesName cs = true) :
    marked cs = false := by
  cases cs with
  | nil => rfl
  | cons c cs => simp_all [closesName]

theorem marked_append_eq_false {w cs : List Char} (hw : ∀ c ∈ w, isLetter c = true)
    (h : closesName cs = true) : marked (w ++ cs) = false := by
  cases w with
  | nil => exact marked_eq_false_of_closesName h
  | cons c w => exact attaches_eq_false_of_isLetter (hw c List.mem_cons_self)

theorem nameTail_append {w cs : List Char} (hw : ∀ c ∈ w, isLetter c = true)
    (h : closesName cs = true) : nameTail (w ++ cs) = w := by
  induction w with
  | nil =>
    cases cs with
    | nil => rfl
    | cons c cs =>
      have hc : isLetter c = false := by simp_all [closesName]
      simp [nameTail, hc]
  | cons c w ih =>
    have hw' : ∀ d ∈ w, isLetter d = true := fun d hd => hw d (List.mem_cons_of_mem c hd)
    rw [List.cons_append, nameTail, if_pos (by simp [hw c List.mem_cons_self,
      marked_append_eq_false hw' h]), ih hw']

theorem tokensOf_symbol_cons (p : Punctuator) {cs : List Char} (h : marked cs = false) :
    tokensOf (p.symbol :: cs) = .ofPunctuator p :: tokensOf cs :=
  tokensOf_of_scan_some (scan_cons_of_punctuator h (Punctuator.ofChar?_symbol p))

/-- A blank is passed over. -/
theorem tokensOf_blank_cons {cs : List Char} (h : marked cs = false) :
    tokensOf (' ' :: cs) = tokensOf cs :=
  tokensOf_eq_of_scan_eq (scan_cons_of_skipped h (by decide) (by decide))

/-- **A whole name is read off the front** of text that closes it. -/
theorem tokensOf_name_append {w cs : List Char} (hw : isNameText (String.ofList w) = true)
    (h : closesName cs = true) : tokensOf (w ++ cs) = .ofName (String.ofList w) :: tokensOf cs := by
  obtain ⟨hne, hletters⟩ := isNameText_ofList.mp hw
  obtain ⟨c, w, rfl⟩ := List.exists_cons_of_ne_nil hne
  have hw' : ∀ d ∈ w, isLetter d = true := fun d hd => hletters d (List.mem_cons_of_mem c hd)
  have hscan := scan_cons_of_letter (marked_append_eq_false hw' h) (hletters c List.mem_cons_self)
  rw [nameTail_append hw' h, List.drop_left] at hscan
  exact tokensOf_of_scan_some hscan

end MiniExpr.Lexer
