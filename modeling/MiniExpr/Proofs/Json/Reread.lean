import MiniExpr.Json.Reader
import MiniExpr.Json.Writer
/-!
# Reading written JSON back

The reader takes back what the writer writes, in either layout, for every value built from `null`,
booleans, strings, arrays and objects that name no key twice (`Value.plain`); numbers are left out.
A written string reads back as itself whatever code points it holds: the escapes the writer puts in
are the ones the reader takes out (`readString_escaped`).

The one bound the reader holds a document to is its depth: arrays and objects that are not empty
may nest at most `Limits.depth` deep (`Value.depth`).  A written value reads back when it is that
shallow, and is refused as nested too deep when it is not (`parseWithin_render`).  Reading is
counted down a step budget as it nests; `Value.steps` is what a value needs, and no value needs more
steps than its text has code points, so the budget `parseWithin` sets is always enough.
-/

namespace MiniExpr.Json

/-! ## Strings -/

section Strings

variable {cs acc : List Char}

theorem hex4?_escape {n : Nat} (h : n < 0x20) :
    hex4? '0' '0' (Text.hexDigit (n / 16)) (Text.hexDigit (n % 16)) = some n := by
  have h0 : Text.hexValue? '0' = some 0 := by decide
  simp [hex4?, Text.hexNumber?, List.foldlM, h0, Text.hexValue?_hexDigit (n / 16) (by omega),
    Text.hexValue?_hexDigit (n % 16) (by omega)]
  omega

theorem readString_simpleEscape {e c : Char} (hu : e ≠ 'u') (h : simpleEscape? e = some c) :
    readString ('\\' :: e :: cs) acc = readString cs (c :: acc) := by
  rw [readString.eq_4 _ _ _ (fun _ _ _ _ _ he _ => hu he), h]

theorem readString_unicodeEscape {c : Char} (h : c.toNat < 0x20) :
    readString ('\\' :: 'u' :: '0' :: '0' :: Text.hexDigit (c.toNat / 16) ::
      Text.hexDigit (c.toNat % 16) :: cs) acc = readString cs (c :: acc) := by
  rw [readString.eq_3, hex4?_escape h]
  have hhigh : isHighSurrogate c.toNat = false := by simp [isHighSurrogate]; omega
  have hlow : isLowSurrogate c.toNat = false := by simp [isLowSurrogate]; omega
  simp only [hhigh, hlow, Bool.false_eq_true, if_false, Char.ofNat_toNat]

theorem readString_plain {c : Char} (h1 : c ≠ '"') (h2 : c ≠ '\\') (h3 : ¬c.toNat < 0x20) :
    readString (c :: cs) acc = readString cs (c :: acc) := by
  rw [readString.eq_5 _ _ _ h1 (fun _ _ _ _ _ h _ => h2 h) (fun _ _ h _ => h2 h), if_neg h3]

/-- **An escaped code point reads back as itself**, whatever follows it. -/
theorem readString_escapeChar (c : Char) :
    readString (escapeChar c ++ cs) acc = readString cs (c :: acc) := by
  unfold escapeChar
  -- One branch per escape the writer may choose; each short escape is undone by the reader's.
  split
  · next h => obtain rfl := eq_of_beq h; exact readString_simpleEscape (by decide) rfl
  split
  · next h => obtain rfl := eq_of_beq h; exact readString_simpleEscape (by decide) rfl
  split
  · next h => obtain rfl := eq_of_beq h; exact readString_simpleEscape (by decide) rfl
  split
  · next h => obtain rfl := eq_of_beq h; exact readString_simpleEscape (by decide) rfl
  split
  · next h => obtain rfl := eq_of_beq h; exact readString_simpleEscape (by decide) rfl
  split
  · next h => obtain rfl := eq_of_beq h; exact readString_simpleEscape (by decide) rfl
  split
  · next h => obtain rfl := eq_of_beq h; exact readString_simpleEscape (by decide) rfl
  split
  · next h => exact readString_unicodeEscape h
  · next hq hb _ _ _ _ _ hc =>
    exact readString_plain (by simpa using hq) (by simpa using hb) hc

theorem readString_escaped (s rest : List Char) (acc : List Char) :
    readString (s.flatMap escapeChar ++ '"' :: rest) acc =
      .ok (String.ofList (acc.reverse ++ s), rest) := by
  induction s generalizing acc with
  | nil => simp [readString]
  | cons c s ih => rw [List.flatMap_cons, List.append_assoc, readString_escapeChar, ih]; simp

theorem toList_quoteString (s : String) :
    (quoteString s).toList = '"' :: (s.toList.flatMap escapeChar ++ ['"']) := by
  simp [quoteString]

/-- **A quoted string reads back as itself.** -/
theorem readString_quoteString (s : String) (rest : List Char) :
    readString ((quoteString s).toList.tail ++ rest) [] = .ok (s, rest) := by
  rw [toList_quoteString, List.tail_cons, List.append_assoc, List.singleton_append,
    readString_escaped]
  simp

end Strings

/-! ## Blanks -/

theorem skipBlank_of_not_blank {c : Char} (h : isBlank c = false) (cs : List Char) :
    skipBlank (c :: cs) = c :: cs := by
  rw [skipBlank, List.dropWhile_cons, if_neg (by simp [h])]

theorem skipBlank_cons_of_blank {c : Char} (h : isBlank c = true) (cs : List Char) :
    skipBlank (c :: cs) = skipBlank cs := by
  simp [skipBlank, h]

theorem skipBlank_blanks_append {pre : List Char} (h : ∀ c ∈ pre, isBlank c = true)
    (cs : List Char) : skipBlank (pre ++ cs) = skipBlank cs := by
  induction pre with
  | nil => rfl
  | cons c pre ih =>
    rw [List.cons_append, skipBlank_cons_of_blank (h c List.mem_cons_self)]
    exact ih fun d hd => h d (List.mem_cons_of_mem c hd)

theorem skipBlank_skipBlank : ∀ cs : List Char, skipBlank (skipBlank cs) = skipBlank cs
  | [] => rfl
  | c :: cs => by
    cases hc : isBlank c with
    | true => rw [skipBlank_cons_of_blank hc]; exact skipBlank_skipBlank cs
    | false => rw [skipBlank_of_not_blank hc, skipBlank_of_not_blank hc]

theorem isBlank_lineStart (l : Layout) (level : Nat) :
    ∀ c ∈ (l.lineStart level).toList, isBlank c = true := by
  cases l with
  | compact => simp [Layout.lineStart]
  | indented w =>
    intro c hc
    simp only [Layout.lineStart, String.toList_append, String.toList_ofList, List.mem_append,
      List.mem_replicate] at hc
    rcases hc with hc | ⟨-, rfl⟩
    · simp only [String.reduceToList, List.mem_singleton] at hc
      rw [hc]
      rfl
    · rfl

section Reading

variable {lim : Limits} {n room : Nat}

theorem readValue_blanks_append {pre : List Char} (h : ∀ c ∈ pre, isBlank c = true)
    (cs : List Char) : readValue lim n room (pre ++ cs) = readValue lim n room cs := by
  cases n with
  | zero => rfl
  | succ n => rw [readValue.eq_2, readValue.eq_2, skipBlank_blanks_append h]

theorem readValue_skipBlank (cs : List Char) :
    readValue lim n room (skipBlank cs) = readValue lim n room cs := by
  cases n with
  | zero => rfl
  | succ n => rw [readValue.eq_2, readValue.eq_2, skipBlank_skipBlank]

theorem not_eq_cons_of_skipBlank {cs : List Char} {c : Char} (hc : isBlank c = false)
    (h : ∀ r, skipBlank cs ≠ c :: r) (r : List Char) : cs ≠ c :: r := by
  rintro rfl
  exact h r (skipBlank_of_not_blank hc r)

/-- Reading the items of an array looks past the blanks before the first one. -/
theorem readItems_skipBlank {cs : List Char} (h : ∀ r, skipBlank cs ≠ ']' :: r) :
    readItems lim n room (skipBlank cs) [] = readItems lim n room cs [] := by
  cases n with
  | zero => rfl
  | succ n =>
    have hcs := not_eq_cons_of_skipBlank rfl h
    rw [readItems.eq_3 _ _ _ _ _ (fun r _ hr => h r hr),
      readItems.eq_3 _ _ _ _ _ (fun r _ hr => hcs r hr), readValue_skipBlank]

/-- Reading the members of an object looks past the blanks before the first one. -/
theorem readMembers_skipBlank {cs : List Char} (h : ∀ r, skipBlank cs ≠ '}' :: r) :
    readMembers lim n room (skipBlank cs) [] = readMembers lim n room cs [] := by
  cases n with
  | zero => rfl
  | succ n =>
    have hcs := not_eq_cons_of_skipBlank rfl h
    rw [readMembers.eq_3 _ _ _ _ _ (fun r _ hr => h r hr),
      readMembers.eq_3 _ _ _ _ _ (fun r _ hr => hcs r hr), skipBlank_skipBlank]

end Reading

/-! ## Values that read back -/

mutual

/-- Whether a value is built from `null`, booleans, strings, arrays and objects alone, with no key
named twice in one object. -/
def Value.plain : Value → Bool
  | .null | .bool _ | .string _ => true
  | .int _ | .float _ => false
  | .array items => plainItems items
  | .object fs => decide (fs.map (·.1)).Nodup && plainMembers fs

/-- Whether every item is plain. -/
def plainItems : List Value → Bool
  | [] => true
  | v :: vs => v.plain && plainItems vs

/-- Whether every member's value is plain. -/
def plainMembers : List (String × Value) → Bool
  | [] => true
  | (_, v) :: fs => v.plain && plainMembers fs

end

mutual

/-- How deep arrays and objects that are not empty nest in a value, the outermost counted. -/
def Value.depth : Value → Nat
  | .array (v :: vs) => depthItems (v :: vs) + 1
  | .object (f :: fs) => depthMembers (f :: fs) + 1
  | _ => 0

/-- The greatest depth of the items. -/
def depthItems : List Value → Nat
  | [] => 0
  | v :: vs => max v.depth (depthItems vs)

/-- The greatest depth of the members' values. -/
def depthMembers : List (String × Value) → Nat
  | [] => 0
  | (_, v) :: fs => max v.depth (depthMembers fs)

end

mutual

/-- The steps of the reader's budget that reading a value takes. -/
def Value.steps : Value → Nat
  | .array items => stepsItems items + 1
  | .object fs => stepsMembers fs + 1
  | _ => 1

/-- The steps that reading the items of an array takes. -/
def stepsItems : List Value → Nat
  | [] => 0
  | v :: vs => v.steps + stepsItems vs + 1

/-- The steps that reading the members of an object takes. -/
def stepsMembers : List (String × Value) → Nat
  | [] => 0
  | (_, v) :: fs => v.steps + stepsMembers fs + 1

end

/-! ## The written text, code point by code point -/

section Text

variable (l : Layout) (level : Nat)

theorem toList_write_array_cons (v : Value) (vs : List Value) :
    (write l level (.array (v :: vs))).toList =
      '[' :: ((writeItems l (level + 1) (v :: vs)).toList ++ (l.lineStart level).toList ++ [']']) := by
  simp [write]

theorem toList_write_object_cons (f : String × Value) (fs : List (String × Value)) :
    (write l level (.object (f :: fs))).toList =
      '{' :: ((writeFields l (level + 1) (f :: fs)).toList ++ (l.lineStart level).toList ++ ['}']) := by
  simp [write]

theorem toList_writeItems_singleton (v : Value) :
    (writeItems l level [v]).toList = (l.lineStart level).toList ++ (write l level v).toList := by
  simp [writeItems]

theorem toList_writeItems_cons_cons (v w : Value) (vs : List Value) :
    (writeItems l level (v :: w :: vs)).toList =
      (l.lineStart level).toList ++ (write l level v).toList ++ ',' ::
        (writeItems l level (w :: vs)).toList := by
  simp [writeItems]

theorem toList_writeFields_singleton (k : String) (v : Value) :
    (writeFields l level [(k, v)]).toList =
      (l.lineStart level).toList ++ (quoteString k).toList ++ (l.colon).toList ++
        (write l level v).toList := by
  simp [writeFields]

theorem toList_writeFields_cons_cons (k : String) (v : Value) (f : String × Value)
    (fs : List (String × Value)) :
    (writeFields l level ((k, v) :: f :: fs)).toList =
      (l.lineStart level).toList ++ (quoteString k).toList ++ (l.colon).toList ++
        (write l level v).toList ++ ',' :: (writeFields l level (f :: fs)).toList := by
  simp [writeFields]

theorem toList_colon : (l.colon).toList = ':' :: (if l = .compact then [] else [' ']) := by
  cases l <;> simp [Layout.colon]

theorem toList_write_string (s : String) : (write l level (.string s)).toList = (quoteString s).toList := by
  simp [write]

/-- A written plain value opens with a code point that is no blank and closes nothing. -/
theorem write_head : ∀ {v : Value}, v.plain = true →
    ∃ c cs, (write l level v).toList = c :: cs ∧ isBlank c = false ∧ c ≠ ']' ∧ c ≠ '}'
  | .null, _ => ⟨'n', ['u', 'l', 'l'], by simp [write], rfl, by decide, by decide⟩
  | .bool true, _ => ⟨'t', ['r', 'u', 'e'], by simp [write], rfl, by decide, by decide⟩
  | .bool false, _ => ⟨'f', ['a', 'l', 's', 'e'], by simp [write], rfl, by decide, by decide⟩
  | .int _, h => absurd h (by simp [Value.plain])
  | .float _, h => absurd h (by simp [Value.plain])
  | .string s, _ => ⟨'"', _, by rw [toList_write_string, toList_quoteString], rfl, by decide, by decide⟩
  | .array [], _ => ⟨'[', [']'], by simp [write], rfl, by decide, by decide⟩
  | .array (v :: vs), _ => ⟨'[', _, toList_write_array_cons l level v vs, rfl, by decide, by decide⟩
  | .object [], _ => ⟨'{', ['}'], by simp [write], rfl, by decide, by decide⟩
  | .object (f :: fs), _ => ⟨'{', _, toList_write_object_cons l level f fs, rfl, by decide, by decide⟩

end Text

theorem setField_of_not_mem {fs : List (String × Value)} {k : String} (v : Value)
    (h : k ∉ fs.map (·.1)) : setField fs k v = fs ++ [(k, v)] := by
  have hany : fs.any (fun p => p.1 == k) = false := by
    simp only [List.any_eq_false, beq_iff_eq]
    intro p hp hpk
    exact h (List.mem_map.mpr ⟨p, hp, hpk⟩)
  simp [setField, hany]

/-! ## The reader on written shapes -/

section Shapes

variable {lim : Limits} {n room : Nat}

theorem readValue_openArray {cs : List Char} (h : ∀ r, skipBlank cs ≠ ']' :: r) :
    readValue lim (n + 1) room ('[' :: cs) =
      match room with
      | 0 => .error .nestedTooDeep
      | room + 1 => readItems lim n room cs [] := by
  rw [readValue.eq_2, skipBlank_of_not_blank rfl]
  simp only
  split
  · exact absurd ‹_› (h _)
  · rfl
  · exact readItems_skipBlank h

theorem readValue_openObject {cs : List Char} (h : ∀ r, skipBlank cs ≠ '}' :: r) :
    readValue lim (n + 1) room ('{' :: cs) =
      match room with
      | 0 => .error .nestedTooDeep
      | room + 1 => readMembers lim n room cs [] := by
  rw [readValue.eq_2, skipBlank_of_not_blank rfl]
  simp only
  split
  · exact absurd ‹_› (h _)
  · rfl
  · exact readMembers_skipBlank h

theorem skipBlank_quoteString_append {pre : List Char} (hpre : ∀ c ∈ pre, isBlank c = true)
    (k : String) (cs : List Char) :
    skipBlank (pre ++ ((quoteString k).toList ++ cs)) = (quoteString k).toList ++ cs := by
  rw [skipBlank_blanks_append hpre, toList_quoteString, List.cons_append,
    skipBlank_of_not_blank rfl]

/-- One member: its key, the colon, and the value after it, then a comma or the closing brace. -/
theorem readMembers_member (l : Layout) {acc : List (String × Value)} {pre : List Char}
    (hpre : ∀ c ∈ pre, isBlank c = true) (k : String) (cs : List Char) :
    readMembers lim (n + 1) room (pre ++ ((quoteString k).toList ++ ((l.colon).toList ++ cs))) acc =
      match readValue lim n room cs with
      | .error e => .error e
      | .ok (v, r) =>
        match skipBlank r with
        | ',' :: r' => readMembers lim n room r' (setField acc k v)
        | '}' :: r' => .ok (.object (setField acc k v), r')
        | c :: _ => .error (.unexpected c)
        | [] => .error .unexpectedEnd := by
  have hskip := skipBlank_quoteString_append hpre k ((l.colon).toList ++ cs)
  rw [readMembers.eq_3 _ _ _ _ _ (fun r _ hr => not_eq_cons_of_skipBlank rfl
    (by rw [hskip, toList_quoteString]; simp) r hr), hskip, toList_quoteString]
  simp only [List.cons_append, List.append_assoc]
  rw [readString_escaped]
  simp only [List.reverse_nil, List.nil_append, String.ofList_toList]
  have hcolon : ∀ r, skipBlank (':' :: r) = ':' :: r := skipBlank_of_not_blank rfl
  cases l with
  | compact =>
    rw [toList_colon, if_pos rfl, List.cons_append, List.nil_append, hcolon]
    rfl
  | indented w =>
    -- the space after the colon is skipped before the value
    have hblank : readValue lim n room ([' '] ++ cs) = readValue lim n room cs :=
      readValue_blanks_append (fun c hc => by rw [List.mem_singleton.mp hc]; rfl) cs
    rw [toList_colon, if_neg (by simp), List.cons_append, List.cons_append, List.nil_append,
      hcolon, ← hblank]
    rfl

end Shapes

/-! ## Reading a written value -/

section Reread

variable {lim : Limits} (l : Layout)

theorem skipBlank_writeItems_ne {v : Value} (hv : v.plain = true) (vs : List Value) (level : Nat)
    (cs : List Char) : ∀ r, skipBlank ((writeItems l level (v :: vs)).toList ++ cs) ≠ ']' :: r := by
  obtain ⟨c, t, hct, hb, hc, -⟩ := write_head l level hv
  have htext : ∃ tail, (writeItems l level (v :: vs)).toList ++ cs =
      (l.lineStart level).toList ++ c :: tail := by
    cases vs with
    | nil => exact ⟨t ++ cs, by rw [toList_writeItems_singleton, hct]; simp⟩
    | cons w ws =>
      exact ⟨t ++ ',' :: ((writeItems l level (w :: ws)).toList ++ cs),
        by rw [toList_writeItems_cons_cons, hct]; simp⟩
  obtain ⟨tail, ht⟩ := htext
  intro r hr
  rw [ht, skipBlank_blanks_append (isBlank_lineStart l level), skipBlank_of_not_blank hb] at hr
  exact hc (List.cons.inj hr).1

theorem skipBlank_writeFields_ne (f : String × Value) (fs : List (String × Value)) (level : Nat)
    (cs : List Char) : ∀ r, skipBlank ((writeFields l level (f :: fs)).toList ++ cs) ≠ '}' :: r := by
  obtain ⟨k, v⟩ := f
  have htext : ∃ tail, (writeFields l level ((k, v) :: fs)).toList ++ cs =
      (l.lineStart level).toList ++ (quoteString k).toList ++ tail := by
    cases fs with
    | nil => exact ⟨(l.colon).toList ++ ((write l level v).toList ++ cs),
        by rw [toList_writeFields_singleton]; simp⟩
    | cons f fs =>
      exact ⟨(l.colon).toList ++ ((write l level v).toList ++
        ',' :: ((writeFields l level (f :: fs)).toList ++ cs)),
        by rw [toList_writeFields_cons_cons]; simp⟩
  obtain ⟨tail, ht⟩ := htext
  intro r hr
  rw [ht, List.append_assoc, skipBlank_quoteString_append (isBlank_lineStart l level),
    toList_quoteString] at hr
  simp at hr

theorem not_mem_keys_of_nodup {acc : List (String × Value)} {k : String} {keys : List String}
    (h : (acc.map (·.1) ++ k :: keys).Nodup) : k ∉ acc.map (·.1) := fun hk =>
  (List.nodup_append.mp h).2.2 k hk k List.mem_cons_self rfl

mutual

/-- **A written value reads back as itself** when its arrays and objects nest no deeper than the
reader allows, and is refused as nested too deep when they do; whatever follows it is left
unread. -/
theorem readValue_write : ∀ (v : Value) (level : Nat), v.plain = true → ∀ {n : Nat} (room : Nat)
    (rest : List Char), v.steps ≤ n →
    readValue lim n room ((write l level v).toList ++ rest) =
      if v.depth ≤ room then .ok (v, rest) else .error .nestedTooDeep
  | .null, _, _, n + 1, room, rest, _ => by
    simp [write, readValue.eq_2, skipBlank, isBlank, Value.depth]
  | .bool true, _, _, n + 1, room, rest, _ => by
    simp [write, readValue.eq_2, skipBlank, isBlank, Value.depth]
  | .bool false, _, _, n + 1, room, rest, _ => by
    simp [write, readValue.eq_2, skipBlank, isBlank, Value.depth]
  | .string s, level, _, n + 1, room, rest, _ => by
    rw [toList_write_string, toList_quoteString, readValue.eq_2, List.cons_append,
      skipBlank_of_not_blank rfl, List.append_assoc, List.singleton_append]
    simp [readString_escaped, Value.depth, Except.map]
  | .array [], _, _, n + 1, room, rest, _ => by
    simp [write, readValue.eq_2, skipBlank, isBlank, Value.depth]
  | .array (v :: vs), level, hv, n + 1, room, rest, hn => by
    have hvs : plainItems (v :: vs) = true := by simpa [Value.plain] using hv
    have hv1 : v.plain = true := by simp only [plainItems, Bool.and_eq_true] at hvs; exact hvs.1
    have hsteps : stepsItems (v :: vs) ≤ n := by simp only [Value.steps] at hn; omega
    rw [toList_write_array_cons, List.cons_append]
    simp only [List.append_assoc, List.singleton_append]
    rw [readValue_openArray (skipBlank_writeItems_ne l hv1 vs (level + 1) _)]
    cases room with
    | zero => simp [Value.depth]
    | succ room =>
      dsimp only
      rw [readItems_writeItems (v :: vs) (List.cons_ne_nil v vs) (level + 1) hvs room [] _ rest
        (isBlank_lineStart l level) hsteps]
      simp [Value.depth]
  | .object [], _, _, n + 1, room, rest, _ => by
    simp [write, readValue.eq_2, skipBlank, isBlank, Value.depth]
  | .object (f :: fs), level, hv, n + 1, room, rest, hn => by
    have hfs : (List.map (·.1) (f :: fs)).Nodup ∧ plainMembers (f :: fs) = true := by
      simpa [Value.plain] using hv
    have hsteps : stepsMembers (f :: fs) ≤ n := by simp only [Value.steps] at hn; omega
    rw [toList_write_object_cons, List.cons_append]
    simp only [List.append_assoc, List.singleton_append]
    rw [readValue_openObject (skipBlank_writeFields_ne l f fs (level + 1) _)]
    cases room with
    | zero => simp [Value.depth]
    | succ room =>
      dsimp only
      rw [readMembers_writeFields (f :: fs) (List.cons_ne_nil f fs) (level + 1) hfs.2 room [] _ rest
        (by simpa using hfs.1) (isBlank_lineStart l level) hsteps]
      simp [Value.depth]
  | .int _, _, h, _, _, _, _ => absurd h (by simp [Value.plain])
  | .float _, _, h, _, _, _, _ => absurd h (by simp [Value.plain])
  | .null, _, _, 0, _, _, h | .bool _, _, _, 0, _, _, h | .string _, _, _, 0, _, _, h
  | .array _, _, _, 0, _, _, h | .object _, _, _, 0, _, _, h => by simp [Value.steps] at h

/-- The items of an array, written and closed, read back after the items already read. -/
theorem readItems_writeItems : ∀ (vs : List Value), vs ≠ [] → ∀ (level : Nat),
    plainItems vs = true → ∀ {m : Nat} (room : Nat) (acc : List Value) (close rest : List Char),
    (∀ c ∈ close, isBlank c = true) → stepsItems vs ≤ m →
    readItems lim m room ((writeItems l level vs).toList ++ (close ++ ']' :: rest)) acc =
      if depthItems vs ≤ room then .ok (.array (acc.reverse ++ vs), rest) else .error .nestedTooDeep
  | [], h, _, _, _, _, _, _, _, _, _ => absurd rfl h
  | [v], _, level, hv, m + 1, room, acc, close, rest, hclose, hm => by
    have hv1 : v.plain = true := by simpa [plainItems] using hv
    have hs : v.steps ≤ m := by simp only [stepsItems] at hm; omega
    rw [readItems.eq_3 _ _ _ _ _ (fun r _ hr =>
        not_eq_cons_of_skipBlank rfl (skipBlank_writeItems_ne l hv1 [] level _) r hr),
      toList_writeItems_singleton, List.append_assoc,
      readValue_blanks_append (isBlank_lineStart l level), readValue_write v level hv1 room _ hs]
    by_cases hd : v.depth ≤ room
    · rw [if_pos hd]
      simp only
      rw [skipBlank_blanks_append hclose, skipBlank_of_not_blank rfl]
      simp [depthItems, hd]
    · rw [if_neg hd]
      simp [depthItems, hd]
  | v :: w :: vs, _, level, hv, m + 1, room, acc, close, rest, hclose, hm => by
    rw [plainItems, Bool.and_eq_true] at hv
    have hs : v.steps ≤ m := by simp only [stepsItems] at hm; omega
    have hs' : stepsItems (w :: vs) ≤ m := by simp only [stepsItems] at hm ⊢; omega
    rw [readItems.eq_3 _ _ _ _ _ (fun r _ hr =>
        not_eq_cons_of_skipBlank rfl (skipBlank_writeItems_ne l hv.1 (w :: vs) level _) r hr),
      toList_writeItems_cons_cons]
    simp only [List.append_assoc, List.cons_append]
    rw [readValue_blanks_append (isBlank_lineStart l level), readValue_write v level hv.1 room _ hs]
    by_cases hd : v.depth ≤ room
    · rw [if_pos hd]
      simp only
      rw [skipBlank_of_not_blank rfl]
      simp only
      rw [readItems_writeItems (w :: vs) (List.cons_ne_nil w vs) level hv.2 room (v :: acc) close rest
        hclose hs']
      by_cases hd' : depthItems (w :: vs) ≤ room
      · have : depthItems (v :: w :: vs) ≤ room := by
          simp only [depthItems] at hd' ⊢; omega
        rw [if_pos hd', if_pos this, List.reverse_cons, List.append_assoc, List.singleton_append]
      · have : ¬depthItems (v :: w :: vs) ≤ room := by simp only [depthItems] at hd' ⊢; omega
        rw [if_neg hd', if_neg this]
    · rw [if_neg hd]
      have : ¬depthItems (v :: w :: vs) ≤ room := by simp only [depthItems]; omega
      simp [this]
  | _ :: _, _, _, _, 0, _, _, _, _, _, hm => by simp [stepsItems] at hm

/-- The members of an object, written and closed, read back after the members already read, as
long as no key is named twice. -/
theorem readMembers_writeFields : ∀ (fs : List (String × Value)), fs ≠ [] → ∀ (level : Nat),
    plainMembers fs = true → ∀ {m : Nat} (room : Nat) (acc : List (String × Value))
    (close rest : List Char), (acc.map (·.1) ++ fs.map (·.1)).Nodup →
    (∀ c ∈ close, isBlank c = true) → stepsMembers fs ≤ m →
    readMembers lim m room ((writeFields l level fs).toList ++ (close ++ '}' :: rest)) acc =
      if depthMembers fs ≤ room then .ok (.object (acc ++ fs), rest) else .error .nestedTooDeep
  | [], h, _, _, _, _, _, _, _, _, _, _ => absurd rfl h
  | [(k, v)], _, level, hv, m + 1, room, acc, close, rest, hkeys, hclose, hm => by
    have hv1 : v.plain = true := by simpa [plainMembers] using hv
    have hs : v.steps ≤ m := by simp only [stepsMembers] at hm; omega
    have hk : k ∉ acc.map (·.1) := not_mem_keys_of_nodup (by simpa using hkeys)
    rw [toList_writeFields_singleton]
    simp only [List.append_assoc]
    rw [readMembers_member l (isBlank_lineStart l level), readValue_write v level hv1 room _ hs]
    by_cases hd : v.depth ≤ room
    · rw [if_pos hd]
      simp only
      rw [skipBlank_blanks_append hclose, skipBlank_of_not_blank rfl]
      simp [depthMembers, hd, setField_of_not_mem v hk]
    · rw [if_neg hd]
      simp [depthMembers, hd]
  | (k, v) :: f :: fs, _, level, hv, m + 1, room, acc, close, rest, hkeys, hclose, hm => by
    rw [plainMembers, Bool.and_eq_true] at hv
    have hs : v.steps ≤ m := by simp only [stepsMembers] at hm; omega
    have hs' : stepsMembers (f :: fs) ≤ m := by simp only [stepsMembers] at hm ⊢; omega
    have hk : k ∉ acc.map (·.1) := not_mem_keys_of_nodup (by simpa using hkeys)
    rw [toList_writeFields_cons_cons]
    simp only [List.append_assoc, List.cons_append]
    rw [readMembers_member l (isBlank_lineStart l level), readValue_write v level hv.1 room _ hs]
    by_cases hd : v.depth ≤ room
    · rw [if_pos hd]
      simp only
      rw [skipBlank_of_not_blank rfl]
      simp only
      rw [setField_of_not_mem v hk, readMembers_writeFields (f :: fs) (List.cons_ne_nil f fs) level
        hv.2 room (acc ++ [(k, v)]) close rest (by simpa using hkeys) hclose hs']
      by_cases hd' : depthMembers (f :: fs) ≤ room
      · have : depthMembers ((k, v) :: f :: fs) ≤ room := by
          simp only [depthMembers] at hd' ⊢; omega
        rw [if_pos hd', if_pos this, List.append_assoc, List.singleton_append]
      · have : ¬depthMembers ((k, v) :: f :: fs) ≤ room := by
          simp only [depthMembers] at hd' ⊢; omega
        rw [if_neg hd', if_neg this]
    · rw [if_neg hd]
      have : ¬depthMembers ((k, v) :: f :: fs) ≤ room := by simp only [depthMembers]; omega
      simp [this]
  | _ :: _, _, _, _, 0, _, _, _, _, _, _, hm => by simp [stepsMembers] at hm

end

end Reread

/-! ## Whole documents -/

section Documents

variable (l : Layout)

mutual

/-- A plain value takes fewer steps to read than its text has code points. -/
theorem steps_lt_length : ∀ (v : Value) (level : Nat), v.plain = true →
    v.steps < (write l level v).toList.length
  | .null, _, _ | .bool true, _, _ | .bool false, _, _ | .array [], _, _ | .object [], _, _ => by
    simp [write, Value.steps, stepsItems, stepsMembers]
  | .string s, level, _ => by
    rw [toList_write_string, toList_quoteString]
    simp [Value.steps]
  | .array (v :: vs), level, hv => by
    have := stepsItems_le_length (v :: vs) (level + 1) (by simpa [Value.plain] using hv)
    rw [toList_write_array_cons]
    simp only [Value.steps, List.length_cons, List.length_append]
    omega
  | .object (f :: fs), level, hv => by
    have hfs : plainMembers (f :: fs) = true := by
      simp only [Value.plain, Bool.and_eq_true] at hv
      exact hv.2
    have := stepsMembers_le_length (f :: fs) (level + 1) hfs
    rw [toList_write_object_cons]
    simp only [Value.steps, List.length_cons, List.length_append]
    omega
  | .int _, _, h | .float _, _, h => absurd h (by simp [Value.plain])

theorem stepsItems_le_length : ∀ (vs : List Value) (level : Nat), plainItems vs = true →
    stepsItems vs ≤ (writeItems l level vs).toList.length
  | [], _, _ => by simp [stepsItems]
  | [v], level, hv => by
    have := steps_lt_length v level (by simpa [plainItems] using hv)
    rw [toList_writeItems_singleton]
    simp only [stepsItems, List.length_append]
    omega
  | v :: w :: vs, level, hv => by
    rw [plainItems, Bool.and_eq_true] at hv
    have := steps_lt_length v level hv.1
    have := stepsItems_le_length (w :: vs) level hv.2
    rw [toList_writeItems_cons_cons]
    simp only [stepsItems, List.length_append, List.length_cons] at this ⊢
    omega

theorem stepsMembers_le_length : ∀ (fs : List (String × Value)) (level : Nat),
    plainMembers fs = true → stepsMembers fs ≤ (writeFields l level fs).toList.length
  | [], _, _ => by simp [stepsMembers]
  | [(k, v)], level, hv => by
    have := steps_lt_length v level (by simpa [plainMembers] using hv)
    rw [toList_writeFields_singleton]
    simp only [stepsMembers, List.length_append]
    omega
  | (k, v) :: f :: fs, level, hv => by
    rw [plainMembers, Bool.and_eq_true] at hv
    have := steps_lt_length v level hv.1
    have := stepsMembers_le_length (f :: fs) level hv.2
    rw [toList_writeFields_cons_cons]
    simp only [stepsMembers, List.length_append, List.length_cons] at this ⊢
    omega

end

/-- **A written document reads back within bounds that allow its depth.**  The text of a plain value,
in either layout, reads as that value when its arrays and objects nest no deeper than the bounds
allow, and is refused as nested too deep otherwise. -/
theorem parseWithin_render {v : Value} (hv : v.plain = true) (lim : Limits) :
    parseWithin lim (v.render l).toList =
      if v.depth ≤ lim.depth then .ok v else .error .nestedTooDeep := by
  have hsteps : v.steps ≤ 3 * (write l 0 v).toList.length + 3 := by
    have := steps_lt_length l v 0 hv
    omega
  have hread := @readValue_write lim l v 0 hv _ lim.depth [] hsteps
  rw [List.append_nil] at hread
  rw [parseWithin, Value.render, hread]
  by_cases hd : v.depth ≤ lim.depth
  · simp [hd, skipBlank]
  · simp [hd]

theorem fromUTF8?_toUTF8 (s : String) : String.fromUTF8? s.toUTF8 = some s := by
  rw [String.fromUTF8?, dif_pos (by simpa using s.isValidUTF8)]
  rfl

/-- The same document read from its UTF-8 bytes. -/
theorem parseBytesWithin_render {v : Value} (hv : v.plain = true) (lim : Limits) :
    parseBytesWithin lim (v.render l).toUTF8 =
      if v.depth ≤ lim.depth then .ok v else .error .nestedTooDeep := by
  rw [parseBytesWithin, fromUTF8?_toUTF8]
  exact parseWithin_render l hv lim

mutual

/-- Each level of nesting takes a step of its own to read. -/
theorem depth_lt_steps : ∀ v : Value, v.depth < v.steps
  | .array (v :: vs) => by
    have := depth_lt_steps v
    have := depthItems_le_stepsItems vs
    simp only [Value.depth, Value.steps, depthItems, stepsItems]
    omega
  | .object ((_, v) :: fs) => by
    have := depth_lt_steps v
    have := depthMembers_le_stepsMembers fs
    simp only [Value.depth, Value.steps, depthMembers, stepsMembers]
    omega
  | .array [] | .object [] | .null | .bool _ | .string _ | .int _ | .float _ => by
    simp [Value.depth, Value.steps]

theorem depthItems_le_stepsItems : ∀ vs : List Value, depthItems vs ≤ stepsItems vs
  | [] => by simp [depthItems]
  | v :: vs => by
    have := depth_lt_steps v
    have := depthItems_le_stepsItems vs
    simp only [depthItems, stepsItems]
    omega

theorem depthMembers_le_stepsMembers :
    ∀ fs : List (String × Value), depthMembers fs ≤ stepsMembers fs
  | [] => by simp [depthMembers]
  | (_, v) :: fs => by
    have := depth_lt_steps v
    have := depthMembers_le_stepsMembers fs
    simp only [depthMembers, stepsMembers]
    omega

end

/-- Without bounds, the text of a plain value reads back as that value. -/
theorem parse_render {v : Value} (hv : v.plain = true) : parse (v.render l).toList = .ok v := by
  have hdepth : v.depth ≤ (v.render l).toList.length + 1 := by
    have := depth_lt_steps v
    have := steps_lt_length l v 0 hv
    rw [Value.render]
    omega
  rw [parse, parseWithin_render l hv, Limits.beyond, if_pos hdepth]

/-- Plain values written to the same text in one layout are equal. -/
theorem render_injective {v w : Value} (hv : v.plain = true) (hw : w.plain = true)
    (h : v.render l = w.render l) : v = w := by
  have hread := parse_render l hv
  rw [h, parse_render l hw] at hread
  exact (Except.ok.inj hread).symm

end Documents

end MiniExpr.Json
