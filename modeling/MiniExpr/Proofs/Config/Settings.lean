import MiniExpr.Config.Validate
import MiniExpr.Proofs.Expr.Grammar
/-!
# The settings a document holds

`Settings shape v c` says, without the checker's combinators, when a document `v` holds the
settings `c`: the document is a table; each of its sections `logging` and `tokens` is absent, which
gives that section's defaults, or a table with no key the section does not declare; and each
declared setting is absent, which gives its default, or holds a value of its own kind that stands
for the setting.  A level is a text whose capital form names a level, a sample a text, and a limit
a whole number that is not negative, read leniently (`LimitValue`).  Keys of the document outside
the two sections play no part.

* `check_eq_ok_iff`: the checker accepts exactly the documents that hold settings, and returns the
  settings they hold.
* `check_eq_of_sections`: the checker's answer, faults included, depends on the document only
  through its two sections.
* `ofToml_table_eq_ok_iff`: both, for a TOML document.
-/

namespace MiniExpr

namespace LogLevel

theorem name_injective {l l' : LogLevel} (h : l.name = l'.name) : l = l' := by
  have hl := ofText?_name l
  rw [h, ofText?_name] at hl
  exact (Option.some.inj hl).symm

/-- A text names a level exactly when its capital form is that level's name. -/
theorem ofText?_eq_some_iff {s : String} {l : LogLevel} :
    ofText? s = some l ↔ Text.capitals s = l.name := by
  constructor
  · intro h
    have := List.find?_some h
    simp only [beq_iff_eq] at this
    exact this.symm
  · intro h
    -- some level is found, since `l` is among them, and the one found has the same name as `l`
    cases hfound : ofText? s with
    | none =>
      have := List.find?_eq_none.mp hfound l (by cases l <;> decide)
      simp [h] at this
    | some l' =>
      have := List.find?_some hfound
      simp only [beq_iff_eq] at this
      rw [name_injective (this.trans h)]

end LogLevel

namespace Binary64

/-- A double read as a whole number: finite, with no fraction, and below `2^63` in size. -/
theorem ofDouble_eq_ok_iff (x : Binary64) (n : Int) :
    Whole.ofDouble x = .ok n ↔
      x.isFinite = true ∧ x.isIntegral = true ∧ x.toInt = n ∧
        -Int.pow 2 63 < n ∧ n < Int.pow 2 63 := by
  unfold Whole.ofDouble
  by_cases hfin : x.isFinite = true <;> by_cases hint : x.isIntegral = true <;>
    simp [hfin, hint]
  constructor
  · intro h
    split at h
    · cases h
      simp_all
    · cases h
  · rintro ⟨rfl, hlo, hhi⟩
    simp [hlo, hhi]

end Binary64

namespace Config

variable {α : Type} (shape : α → Shape α)

/-! ## What a document holds -/

/-- A `level` value naming the level `l`: a text whose capital form is `l`'s name. -/
def LevelValue (v : Shape α) (l : LogLevel) : Prop := ∃ s, v = .text s ∧ Text.capitals s = l.name

/-- A `sample` value: the text `s`. -/
def SampleValue (v : Shape α) (s : String) : Prop := v = .text s

/-- A `limit` value standing for the whole number `n`: `true` or `false` for 1 or 0, an integer,
a finite double with no fraction below `2^63`, or a text that spells `n` (`Whole.ofText`). -/
def LimitValue : Shape α → Nat → Prop
  | .flag b, n => n = if b then 1 else 0
  | .whole m, n => m = n
  | .double x, n => x.isFinite = true ∧ x.isIntegral = true ∧ x.toInt = n ∧ x.toInt < Int.pow 2 63
  | .text s, n => Whole.ofText s = .ok n
  | _, _ => False

/-- A setting held by the value `v` of its key: the default `d` when there is none, else a value
that `holds` reads as `x`. -/
def SettingValue {β : Type} (v : Option α) (d : β) (holds : Shape α → β → Prop) (x : β) : Prop :=
  match v with
  | none => x = d
  | some v => holds (shape v) x

/-- A section held by the value `v` of its key: the default `d` when there is none, else a table
whose members `holds` reads as `s`. -/
def SectionValue {β : Type} (v : Option α) (d : β) (holds : List (String × α) → β → Prop)
    (s : β) : Prop :=
  match v with
  | none => s = d
  | some v => ∃ gs, shape v = .table gs ∧ holds gs s

/-- The members of a `logging` section: no key but `level`, and the level they hold. -/
def LoggingMembers (gs : List (String × α)) (s : LoggingSection) : Prop :=
  (∀ p ∈ gs, p.1 ∈ ["level"]) ∧ SettingValue shape (lookup gs "level") .warning LevelValue s.level

/-- The members of a `tokens` section: no keys but `sample` and `limit`, and the two settings they
hold. -/
def TokensMembers (gs : List (String × α)) (s : TokensSection) : Prop :=
  (∀ p ∈ gs, p.1 ∈ ["sample", "limit"]) ∧
    SettingValue shape (lookup gs "sample") "b + a" SampleValue s.sample ∧
      SettingValue shape (lookup gs "limit") 3 LimitValue s.limit

/-- The settings `c` a document holds: it is a table, and its two sections hold `c`'s. -/
def Settings (v : α) (c : Config) : Prop :=
  ∃ fs, shape v = .table fs ∧
    SectionValue shape (lookup fs "logging") {} (LoggingMembers shape) c.logging ∧
      SectionValue shape (lookup fs "tokens") {} (TokensMembers shape) c.tokens

/-! ## Each check, by what it accepts -/

theorem checkLevel_eq_ok_iff (v : Shape α) (l : LogLevel) : checkLevel v = .ok l ↔ LevelValue v l := by
  cases v with
  | text s =>
    have hholds : LevelValue (.text s : Shape α) l ↔ LogLevel.ofText? s = some l := by
      simp [LevelValue, LogLevel.ofText?_eq_some_iff]
    rw [hholds, checkLevel]
    cases LogLevel.ofText? s <;> simp [Checked.fail]
  | _ => simp [checkLevel, LevelValue, Checked.fail]

theorem checkSample_eq_ok_iff (v : Shape α) (s : String) : checkSample v = .ok s ↔ SampleValue v s := by
  cases v <;> simp [checkSample, SampleValue, Checked.fail, eq_comm]

/-- Whatever whole number a limit is read as, it is kept exactly when it is not negative. -/
theorem keepWhole_eq_ok_iff (w : Except IssueKind Int) (n : Nat) :
    (match w with
      | .error k => Checked.fail k
      | .ok m => if 0 ≤ m then .ok m.toNat else Checked.fail .greaterThanEqual : Checked Nat) =
        .ok n ↔ w = .ok (n : Int) := by
  cases w with
  | error k => simp [Checked.fail]
  | ok m => by_cases hm : 0 ≤ m <;> simp [hm, Checked.fail] <;> omega

/-- A limit is accepted exactly when its value stands for a whole number that is not negative. -/
theorem checkLimit_eq_ok_iff (v : Shape α) (n : Nat) : checkLimit v = .ok n ↔ LimitValue v n := by
  have keep := fun w => keepWhole_eq_ok_iff w n
  unfold checkLimit
  cases v with
  | flag b => exact (keep (.ok (if b then 1 else 0))).trans (by cases b <;> simp [LimitValue] <;> omega)
  | whole m => exact (keep (.ok m)).trans (by simp [LimitValue])
  | double x =>
    refine (keep (Whole.ofDouble x)).trans ?_
    rw [Binary64.ofDouble_eq_ok_iff, LimitValue]
    -- a whole number that is not negative lies above `-2^63`
    have hpos : (0 : Int) < Int.pow 2 63 := by decide
    constructor
    · rintro ⟨hfin, hint, hval, -, hlt⟩
      exact ⟨hfin, hint, hval, by rw [hval]; exact hlt⟩
    · rintro ⟨hfin, hint, hval, hlt⟩
      exact ⟨hfin, hint, hval, by omega, by rw [← hval]; exact hlt⟩
  | text s => exact keep (Whole.ofText s)
  | table fs => exact (keep (.error .intType)).trans (by simp [LimitValue])
  | other => exact (keep (.error .intType)).trans (by simp [LimitValue])

/-! ## Sections and settings -/

section Members

variable {β : Type}

theorem setting_eq_ok_iff {fs : List (String × α)} {key : String} {d : β}
    {check : Shape α → Checked β} {holds : Shape α → β → Prop}
    (h : ∀ v x, check v = .ok x ↔ holds v x) (x : β) :
    setting shape fs key d check = .ok x ↔ SettingValue shape (lookup fs key) d holds x := by
  unfold setting SettingValue
  cases lookup fs key with
  | none => simp [eq_comm]
  | some v => exact Checked.under_eq_ok.trans (h _ x)

/-- A section has no undeclared key exactly when every key it holds is declared. -/
theorem extras_eq_ok_iff (fs : List (String × α)) (declared : List String) :
    extras fs declared = .ok () ↔ ∀ p ∈ fs, p.1 ∈ declared := by
  unfold extras
  cases h : fs.filter (fun p => !declared.contains p.1) with
  | nil =>
    simp only [true_iff]
    intro p hp
    simpa using List.filter_eq_nil_iff.mp h p hp
  | cons e es =>
    simp only [reduceCtorEq, false_iff]
    intro hall
    have he : e ∈ fs.filter (fun p => !declared.contains p.1) := by
      rw [h]
      exact List.mem_cons_self
    rw [List.mem_filter] at he
    simp [hall e he.1] at he

theorem checkSection_eq_ok_iff {fs : List (String × α)} {key : String} {d : β}
    {body : List (String × α) → Checked β} {holds : List (String × α) → β → Prop}
    (h : ∀ gs s, body gs = .ok s ↔ holds gs s) (s : β) :
    checkSection shape fs key d body = .ok s ↔ SectionValue shape (lookup fs key) d holds s := by
  unfold checkSection SectionValue
  cases lookup fs key with
  | none => simp [eq_comm]
  | some v =>
    dsimp only
    cases shape v with
    | table gs => simp [h]
    | _ => simp [Checked.fail, Checked.under]

end Members

theorem checkLogging_eq_ok_iff (gs : List (String × α)) (s : LoggingSection) :
    checkLogging shape gs = .ok s ↔ LoggingMembers shape gs s := by
  unfold checkLogging LoggingMembers
  rw [Checked.map_eq_ok]
  constructor
  · rintro ⟨⟨l, u⟩, hboth, rfl⟩
    rw [Checked.both_eq_ok] at hboth
    exact ⟨(extras_eq_ok_iff gs _).mp hboth.2,
      (setting_eq_ok_iff shape checkLevel_eq_ok_iff l).mp hboth.1⟩
  · rintro ⟨hkeys, hlevel⟩
    refine ⟨(s.level, ()), ?_, rfl⟩
    rw [Checked.both_eq_ok]
    exact ⟨(setting_eq_ok_iff shape checkLevel_eq_ok_iff _).mpr hlevel,
      (extras_eq_ok_iff gs _).mpr hkeys⟩

theorem checkTokens_eq_ok_iff (gs : List (String × α)) (s : TokensSection) :
    checkTokens shape gs = .ok s ↔ TokensMembers shape gs s := by
  unfold checkTokens TokensMembers
  rw [Checked.map_eq_ok]
  constructor
  · rintro ⟨⟨sample, limit, u⟩, hboth, rfl⟩
    simp only [Checked.both_eq_ok] at hboth
    exact ⟨(extras_eq_ok_iff gs _).mp hboth.2.2,
      (setting_eq_ok_iff shape checkSample_eq_ok_iff sample).mp hboth.1,
      (setting_eq_ok_iff shape checkLimit_eq_ok_iff limit).mp hboth.2.1⟩
  · rintro ⟨hkeys, hsample, hlimit⟩
    refine ⟨(s.sample, s.limit, ()), ?_, rfl⟩
    simp only [Checked.both_eq_ok]
    exact ⟨(setting_eq_ok_iff shape checkSample_eq_ok_iff _).mpr hsample,
      (setting_eq_ok_iff shape checkLimit_eq_ok_iff _).mpr hlimit,
      (extras_eq_ok_iff gs _).mpr hkeys⟩

/-! ## Whole documents -/

/-- **The checker reads exactly the settings a document holds.** -/
theorem check_eq_ok_iff (v : α) (c : Config) : check shape v = .ok c ↔ Settings shape v c := by
  unfold check Settings
  cases hv : shape v with
  | table fs =>
    simp only [Checked.map_eq_ok, Checked.both_eq_ok,
      checkSection_eq_ok_iff shape (checkLogging_eq_ok_iff shape),
      checkSection_eq_ok_iff shape (checkTokens_eq_ok_iff shape)]
    constructor
    · rintro ⟨⟨l, t⟩, ⟨hl, ht⟩, rfl⟩
      exact ⟨fs, rfl, hl, ht⟩
    · rintro ⟨gs, hgs, hl, ht⟩
      cases hgs
      exact ⟨(c.logging, c.tokens), ⟨hl, ht⟩, rfl⟩
  | _ => simp [Checked.fail]

/-- The checker's answer, faults included, depends on a document only through its two
sections. -/
theorem check_eq_of_sections {v v' : α} {fs fs' : List (String × α)} (hv : shape v = .table fs)
    (hv' : shape v' = .table fs') (hlogging : lookup fs' "logging" = lookup fs "logging")
    (htokens : lookup fs' "tokens" = lookup fs "tokens") :
    check shape v' = check shape v := by
  unfold check checkSection
  rw [hv, hv']
  dsimp only
  rw [hlogging, htokens]

/-- **Settings from a TOML document.**  A TOML document passes the check exactly when it holds
settings, which are then the result: each section is absent or a table of declared keys only, the
level a text whose capital form names a level, the sample a text, and the limit a whole number that
is not negative, each setting its default when absent.  Keys of the document other than `logging`
and `tokens` change nothing, neither the settings nor the faults. -/
theorem check_toml_eq_ok_iff (doc : Toml.Table) (c : Config) :
    (check Toml.Value.shape (.table doc) = .ok c ↔ Settings Toml.Value.shape (.table doc) c) ∧
      ∀ doc' : Toml.Table, lookup doc' "logging" = lookup doc "logging" →
        lookup doc' "tokens" = lookup doc "tokens" →
          check Toml.Value.shape (.table doc') = check Toml.Value.shape (.table doc) :=
  ⟨check_eq_ok_iff _ _ c, fun _ hlogging htokens => check_eq_of_sections _ rfl rfl hlogging htokens⟩

/-- A dotless `ı` is capitalised to `I`, so `ınfo` names the level `INFO`; the key `other` is
passed over. -/
example : check Toml.Value.shape (.table [("logging", .table [("level", .string "ınfo")]),
    ("other", .bool true)]) = .ok { logging := { level := .info } } := by rfl

end Config

end MiniExpr
