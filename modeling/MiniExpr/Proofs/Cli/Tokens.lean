import MiniExpr.Cli.Output
import MiniExpr.Proofs.Lexer.Cursor
import MiniExpr.Proofs.Expr.Grammar
/-!
# What the `tokens` command prints

The `tokens` command asks a lexer on its text for one token after another and prints each answer
on a line: the token's description, or `None` once no token is left, after which it stops; a count
other than 0 stops it after that many lines.

* `tokenResults_eq`: the answers are the tokens left, then `None`, cut to the count.
* `tokenResults_eq_run`: each answer is the reply to one `next` request, in order.
* `printLines_of_fits`: the console prints a line that fits its width as it is, and breaks a wider
  one (`wrap`).

`tokenReport_lines` puts them together: the lines are the first `n` of the tokens' descriptions and
`None` (all of them for 0), one request each, `None` only last and after every token; and they come
out as they are when every token has at most 65 code points, so that its line fits in 80 columns.
A longer name is broken across two lines of output (`printLines_tokenReport_long_name`).
-/

namespace MiniExpr

namespace Lexer

variable {l l' : Lexer} {t : Token}

/-- A `next` that takes a token takes the first token left, and leaves the others. -/
theorem tokensOf_drop_of_next_some (h : l.next = (some t, l')) :
    tokensOf (l.text.drop l.pos) = t :: tokensOf (l'.text.drop l'.pos) := by
  cases hscan : scan (l.text.drop l.pos) with
  | none => simp [next, hscan] at h
  | some tr =>
    obtain ⟨t', r⟩ := tr
    simp only [next, hscan, Prod.mk.injEq, Option.some.injEq] at h
    obtain ⟨rfl, rfl⟩ := h
    -- what the scan leaves is the text after the new cursor
    have hleft : l.text.drop (l.text.length - r.length) = r :=
      (List.suffix_iff_eq_drop.mp ((scan_suffix hscan).trans (List.drop_suffix _ _))).symm
    rw [tokensOf_of_scan_some hscan]
    exact congrArg (t' :: ·) (congrArg tokensOf hleft.symm)

/-- A `next` that finds no token comes after every token. -/
theorem tokensOf_drop_of_next_none (h : l.next = (none, l')) : tokensOf (l.text.drop l.pos) = [] := by
  cases hscan : scan (l.text.drop l.pos) with
  | none => exact tokensOf_of_scan_none hscan
  | some tr => simp [next, hscan] at h

theorem step_next_of_next (h : l.next = (some t, l')) : l.step .next = (.token t, l') := by
  simp [step, h]

/-- What a reply hands out as the answer to a request for a token: the token taken, or none. -/
def Reply.taken : Reply → Option Token
  | .token t => some t
  | _ => Option.none

end Lexer

/-! ## The description of a token -/

namespace Text.Quote

theorem escape_letter {c : Char} (h : isLetter c = true) : escape apostrophe c = [c] := by
  -- a letter is ASCII, so the 128 characters below U+0080 settle it
  have key : ∀ n : Fin 128, isLetter (Char.ofNat n) = true →
      escape apostrophe (Char.ofNat n) = [Char.ofNat n] := by decide
  have hc : Char.ofNat c.toNat = c := Char.ofNat_toNat c
  rw [← hc]
  exact key ⟨c.toNat, Lexer.toNat_lt_of_isLetter h⟩ (by rw [hc]; exact h)

theorem flatMap_escape_letters : ∀ {cs : List Char}, (∀ c ∈ cs, isLetter c = true) →
    cs.flatMap (escape apostrophe) = cs
  | [], _ => rfl
  | c :: cs, h => by
    rw [List.flatMap_cons, escape_letter (h c List.mem_cons_self),
      flatMap_escape_letters fun d hd => h d (List.mem_cons_of_mem _ hd)]
    rfl

/-- A name is quoted between single quotes, with nothing escaped. -/
theorem quote_name {w : String} (h : isNameText w = true) :
    (quote w).toList = apostrophe :: w.toList ++ [apostrophe] := by
  have hletters := (Lexer.isNameText_iff.mp h).2
  have hnot : apostrophe ∉ w.toList := fun hm => by
    have := hletters _ hm
    revert this
    decide
  simp [quote, delimiter, hnot, flatMap_escape_letters hletters]

end Text.Quote

namespace Token

/-- The line of a name is 15 columns wider than the name. -/
theorem length_describe_ofName {w : String} (h : isNameText w = true) :
    (ofName w).describe.length = w.length + 15 := by
  rw [← String.length_toList, describe]
  simp [Text.Quote.quote_name h, ofName, TokenKind.label, String.length_toList]

theorem length_describe_ofPunctuator (p : Punctuator) : (ofPunctuator p).describe.length = 22 := by
  cases p <;> decide

theorem head_describe (t : Token) : t.describe.toList.head? = some 'T' := by
  simp [describe]

/-- No token is described as `None`, the line of an exhausted lexer. -/
theorem describe_ne_none (t : Token) : t.describe ≠ "None" := by
  intro h
  have hhead := head_describe t
  rw [h] at hhead
  exact absurd hhead (by decide)

end Token

/-! ## Lines on the console -/

namespace Console

/-- Read on from inside a word, the words give back every character they are read from. -/
theorem flatten_wordsFrom : ∀ (cs cur : List Char) (p : Part), p ≠ .lead →
    (wordsFrom cs cur p).flatten = cur ++ cs
  | [], cur, p, hp => by simp [wordsFrom, hp]
  | c :: r, cur, p, hp => by
    rw [wordsFrom]
    by_cases hc : isSpace c = true
    · rw [if_pos hc, if_neg hp, flatten_wordsFrom r _ .trail (by decide)]
      simp
    · rw [if_neg hc]
      by_cases ht : p = .trail
      · rw [if_pos ht, List.flatten_cons, flatten_wordsFrom r [c] .body (by decide)]
        simp
      · rw [if_neg ht, flatten_wordsFrom r _ .body (by decide)]
        simp

/-- A text with a character that is no blank is split into words that make it up. -/
theorem flatten_words {cs : List Char} (h : ∃ c ∈ cs, isSpace c = false) :
    (words cs).flatten = cs := by
  -- the blanks in front gather in the first word, up to the first character that is no blank
  suffices key : ∀ cs cur, (∃ c ∈ cs, isSpace c = false) →
      (wordsFrom cs cur .lead).flatten = cur ++ cs from key cs [] h
  intro cs
  induction cs with
  | nil => rintro cur ⟨c, hc, _⟩; cases hc
  | cons c r ih =>
    rintro cur ⟨d, hd, hsp⟩
    rw [wordsFrom]
    by_cases hc : isSpace c = true
    · have hr : ∃ c ∈ r, isSpace c = false := by
        rcases List.mem_cons.mp hd with rfl | hd
        · rw [hc] at hsp
          cases hsp
        · exact ⟨d, hd, hsp⟩
      rw [if_pos hc, if_pos rfl, ih _ hr]
      simp
    · rw [if_neg hc, if_neg (by decide), flatten_wordsFrom r _ .body (by decide)]
      simp

theorem length_stripEnd_le (cs : List Char) : (stripEnd cs).length ≤ cs.length := by
  rw [stripEnd, List.length_reverse]
  exact Nat.le_trans (List.dropWhile_suffix _).length_le (Nat.le_of_eq List.length_reverse)

/-- Words that fit on the line being filled all go onto it. -/
theorem fill_of_fits (width : Nat) : ∀ (ws : List (List Char)) (line : List Char) (used : Nat),
    used + ws.flatten.length ≤ width → fill width ws line used = [line ++ ws.flatten]
  | [], line, used, _ => by simp [fill]
  | w :: ws, line, used, h => by
    have hstrip := length_stripEnd_le w
    rw [List.flatten_cons, List.length_append] at h
    rw [fill]
    dsimp only
    rw [if_pos (by simp only [columns]; omega),
      fill_of_fits width ws _ _ (by simp only [columns]; omega), List.flatten_cons,
      List.append_assoc]

/-- A line that fits the width, and is not all blanks, is printed as it is. -/
theorem wrap_of_fits {width : Nat} {s : String} (hlen : s.length ≤ width)
    (hword : ∃ c ∈ s.toList, isSpace c = false) : wrap width s = [s] := by
  have hflat := flatten_words hword
  have hl : s.toList.length ≤ width := by rw [String.length_toList]; exact hlen
  unfold wrap
  rw [fill_of_fits width _ [] 0 (by rw [hflat]; omega), List.nil_append, hflat]
  -- the line fits, so nothing is trimmed off or cut
  simp [trimEnd, fit, Nat.sub_eq_zero_of_le hl, List.take_of_length_le hl]

end Console

namespace Cli

theorem printLines_of_fits {lines : List String}
    (h : ∀ line ∈ lines, line.length ≤ consoleWidth ∧ ∃ c ∈ line.toList, Console.isSpace c = false) :
    printLines lines = String.join (lines.map (· ++ "\n")) := by
  have hwrap : lines.flatMap (Console.wrap consoleWidth) = lines := by
    induction lines with
    | nil => rfl
    | cons line lines ih =>
      have hline := h line List.mem_cons_self
      rw [List.flatMap_cons, Console.wrap_of_fits hline.1 hline.2,
        ih fun l hl => h l (List.mem_cons_of_mem _ hl)]
      rfl
  rw [printLines, hwrap]

/-! ## The requests -/

/-- **The answers are the tokens left, then `None`.**  Asked until `count` answers are given, or
until the end for 0, a lexer answers with the tokens from its cursor on and then `None`. -/
theorem tokenResults_eq (count : Nat) (l : Lexer) (printed : Nat) :
    tokenResults count l printed =
      if count = 0 then (Lexer.tokensOf (l.text.drop l.pos)).map some ++ [none]
      else ((Lexer.tokensOf (l.text.drop l.pos)).map some ++ [none]).take (count - printed) := by
  fun_induction tokenResults count l printed with
  | case1 l printed hgo t l' hnext ih =>
    rw [ih, Lexer.tokensOf_drop_of_next_some hnext]
    by_cases h0 : count = 0
    · simp [h0]
    · -- another answer is due, so at least one is left to give
      obtain ⟨k, hk⟩ : ∃ k, count - printed = k + 1 := ⟨count - printed - 1, by omega⟩
      rw [if_neg h0, if_neg h0, hk, show count - (printed + 1) = k by omega]
      simp
  | case2 l printed hgo l' hnext =>
    rw [Lexer.tokensOf_drop_of_next_none hnext]
    by_cases h0 : count = 0
    · simp [h0]
    · obtain ⟨k, hk⟩ : ∃ k, count - printed = k + 1 := ⟨count - printed - 1, by omega⟩
      simp [h0, hk]
  | case3 l printed hstop =>
    have h0 : count ≠ 0 := by omega
    rw [if_neg h0, Nat.sub_eq_zero_of_le (by omega), List.take_zero]

/-- **One request for each answer.**  The answers are the replies of the lexer to as many `next`
requests, one after the other. -/
theorem tokenResults_eq_run (count : Nat) (l : Lexer) (printed : Nat) :
    tokenResults count l printed =
      (l.run (List.replicate (tokenResults count l printed).length .next)).map (·.1.taken) := by
  fun_induction tokenResults count l printed with
  | case1 l printed hgo t l' hnext ih =>
    rw [List.length_cons, List.replicate_succ, Lexer.run_cons, Lexer.step_next_of_next hnext,
      List.map_cons, ← ih]
    rfl
  | case2 l printed hgo l' hnext =>
    simp [Lexer.run, Lexer.step, hnext, Lexer.Reply.taken]
  | case3 l printed hstop => rfl

/-! ## The lines -/

/-- **The lines are the tokens' descriptions, then `None`.** -/
theorem tokenReport_eq (s : String) (n : Nat) :
    tokenReport s n =
      if n = 0 then (tokenize s).map Token.describe ++ ["None"]
      else ((tokenize s).map Token.describe ++ ["None"]).take n := by
  have hdescribe : describeResult ∘ some = Token.describe := rfl
  rw [tokenReport, tokenResults_eq]
  by_cases hn : n = 0 <;> simp [hn, hdescribe, describeResult, Lexer.ofString, tokenize]

/-- `None` is printed only after every token. -/
theorem tokenReport_eq_of_none_mem {s : String} {n : Nat} (h : "None" ∈ tokenReport s n) :
    tokenReport s n = (tokenize s).map Token.describe ++ ["None"] := by
  rw [tokenReport_eq] at h ⊢
  by_cases hn : n = 0
  · rw [if_pos hn]
  rw [if_neg hn] at h ⊢
  by_cases hlen : n ≤ (tokenize s).length
  · -- the count stops among the tokens, whose lines are no `None`
    rw [List.take_append_of_le_length (by simpa using hlen)] at h
    obtain ⟨t, -, ht⟩ := List.mem_map.mp (List.mem_of_mem_take h)
    exact absurd ht (Token.describe_ne_none t)
  · exact List.take_of_length_le (by simp; omega)

/-- The line of a token from the lexer fits the console when the token has at most 65 code
points, and it is not all blanks. -/
theorem describe_fits {s : String} {t : Token} (ht : t ∈ tokenize s) (hlen : t.value.length ≤ 65) :
    t.describe.length ≤ consoleWidth ∧ ∃ c ∈ t.describe.toList, Console.isSpace c = false := by
  refine ⟨?_, 'T', List.mem_of_mem_head? (Token.head_describe t), by decide⟩
  rcases Lexer.mem_tokensOf_shape s.toList t ht with ⟨p, rfl⟩ | ⟨w, rfl, hw⟩
  · rw [Token.length_describe_ofPunctuator]
    decide
  · rw [Token.length_describe_ofName hw]
    simp only [Token.ofName_value] at hlen
    simp only [consoleWidth]
    omega

/-- **What `tokens` prints.**  The lines are the first `n` of the tokens' descriptions followed by
`None`, or all of them for 0; each is the answer to one `next` request, in order; `None` comes only
last, after every token.  When no token is longer than 65 code points, the console prints the
lines as they are, one output line each. -/
theorem tokenReport_lines (s : String) (n : Nat) :
    tokenReport s n = (if n = 0 then (tokenize s).map Token.describe ++ ["None"]
      else ((tokenize s).map Token.describe ++ ["None"]).take n) ∧
    tokenReport s n = ((Lexer.ofString s).run (List.replicate (tokenReport s n).length .next)).map
      (fun x => describeResult x.1.taken) ∧
    ("None" ∈ tokenReport s n → tokenReport s n = (tokenize s).map Token.describe ++ ["None"]) ∧
    ((∀ t ∈ tokenize s, t.value.length ≤ 65) →
      printLines (tokenReport s n) = String.join ((tokenReport s n).map (· ++ "\n"))) := by
  have hrun : tokenReport s n = ((Lexer.ofString s).run
      (List.replicate (tokenReport s n).length .next)).map (fun x => describeResult x.1.taken) := by
    have h := congrArg (List.map describeResult) (tokenResults_eq_run n (Lexer.ofString s) 0)
    rw [List.map_map] at h
    rw [tokenReport, List.length_map]
    exact h
  refine ⟨tokenReport_eq s n, hrun, tokenReport_eq_of_none_mem, fun hshort => ?_⟩
  apply printLines_of_fits
  intro line hline
  -- every line is a token's description or `None`
  have hmem : line ∈ (tokenize s).map Token.describe ++ ["None"] := by
    rw [tokenReport_eq] at hline
    split at hline
    · exact hline
    · exact List.mem_of_mem_take hline
  rcases List.mem_append.mp hmem with hdesc | hnone
  · obtain ⟨t, ht, rfl⟩ := List.mem_map.mp hdesc
    exact describe_fits ht (hshort t ht)
  · rw [List.mem_singleton.mp hnone]
    exact ⟨by decide, 'N', by decide, by decide⟩

/-- A name of 66 letters makes a line of 81 columns, which the console breaks after the kind. -/
theorem printLines_tokenReport_long_name :
    let s := String.ofList (List.replicate 66 'x')
    tokenReport s 0 = ["Token(name, '" ++ s ++ "')", "None"] ∧
      printLines (tokenReport s 0) = "Token(name, \n'" ++ s ++ "')\nNone\n" := by
  decide +kernel

end Cli

end MiniExpr
