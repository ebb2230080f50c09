import MiniExpr.Config.Load
import MiniExpr.Proofs.Config.Settings
/-!
# How loading the configuration ends

`Config.load` looks at what stands at the path and ends in one of four ways, one for each form of
`LoadError` and one for settings.

* `load_eq_ok_iff`: settings come from an absent file in implicit mode (the defaults), or from
  bytes that are UTF-8 for a TOML text that holds valid settings.
* `load_eq_config_iff`: a configuration error says which stage failed and is about the path as
  given, so its text starts with the path in normal form (`located_text`).
* `load_eq_undecodable_iff`: bytes that are not UTF-8 stop the loading with a decoding error, which
  is not a configuration error.
* `load_eq_integerTooLong_iff`: so does a TOML text with a decimal integer too long to convert.

`load_outcomes` puts them together, with what an absent file gives in either mode.
-/

namespace MiniExpr

namespace Config

variable {file : Entry} {path : String} {explicit : Bool}

/-- A file is decoded, its line breaks unified, and the text read as TOML settings. -/
theorem load_file (bytes : ByteArray) (path : String) (explicit : Bool) :
    load (.file bytes) path explicit =
      match String.fromUTF8? bytes with
      | none => .error .undecodable
      | some text =>
        match ofToml (String.ofList (unifyNewlines text.toList)) with
        | .ok c => .ok c
        | .error (.malformed (.integerTooLong n)) => .error (.integerTooLong n)
        | .error f => .error (.config ⟨f, ErrorContext.ofPath path none none⟩) := rfl

theorem ofToml_eq_ok_iff {t : String} {c : Config} :
    ofToml t = .ok c ↔ ∃ doc, Toml.parse t = .ok doc ∧ check Toml.Value.shape (.table doc) = .ok c := by
  unfold ofToml
  split
  · rename_i e he
    simp [he]
  · rename_i doc hdoc
    split <;> simp_all

/-- A decoded text gives settings exactly when its TOML reading does. -/
theorem load_file_eq_ok_iff {bytes : ByteArray} {text : String} {c : Config}
    (h : String.fromUTF8? bytes = some text) :
    load (.file bytes) path explicit = .ok c ↔ ofToml (String.ofList (unifyNewlines text.toList)) = .ok c := by
  rw [load_file, h]
  dsimp only
  split <;> simp_all

/-- **Where settings come from.**  The defaults, for a file that is absent and was not asked for;
else a file whose bytes are UTF-8 for a TOML document that holds valid settings. -/
theorem load_eq_ok_iff {c : Config} :
    load file path explicit = .ok c ↔
      (file = .absent ∧ explicit = false ∧ c = {}) ∨
        ∃ bytes text, file = .file bytes ∧ String.fromUTF8? bytes = some text ∧
          ofToml (String.ofList (unifyNewlines text.toList)) = .ok c := by
  cases file with
  | absent => cases explicit <;> simp [load, eq_comm]
  | directory => simp [load]
  | file bytes =>
    cases hutf : String.fromUTF8? bytes with
    | none => simp [load_file, hutf]
    | some text => simp [load_file_eq_ok_iff hutf, hutf]

/-- **A configuration error is about the path.**  It is raised for an explicit path with nothing
there, for a directory, and for a decoded text whose TOML reading fails, save for an integer too
long to convert; its context is the path, with no line or column. -/
theorem load_eq_config_iff {e : ConfigError} :
    load file path explicit = .error (.config e) ↔
      e.context = ErrorContext.ofPath path none none ∧
        ((file = .absent ∧ explicit = true ∧ e.failure = .notFound) ∨
          (file = .directory ∧ e.failure = .unreadable) ∨
          ∃ bytes text, file = .file bytes ∧ String.fromUTF8? bytes = some text ∧
            ofToml (String.ofList (unifyNewlines text.toList)) = .error e.failure ∧
            ∀ n, e.failure ≠ .malformed (.integerTooLong n)) := by
  obtain ⟨f, ctx⟩ := e
  cases file with
  | absent =>
    cases explicit
    · simp [load]
    · simp [load]
      constructor <;> rintro ⟨rfl, rfl⟩ <;> exact ⟨rfl, rfl⟩
  | directory =>
    simp [load]
    constructor <;> rintro ⟨rfl, rfl⟩ <;> exact ⟨rfl, rfl⟩
  | file bytes =>
    cases hutf : String.fromUTF8? bytes with
    | none => simp [load_file, hutf]
    | some text =>
      rw [load_file, hutf]
      dsimp only
      split
      · rename_i c hc
        simp_all
      · -- an integer too long to convert is not a configuration error
        rename_i n hn
        simp_all
        intro _ hf
        exact ⟨n, hf.symm⟩
      · rename_i f' hf' hread
        simp_all
        constructor
        · rintro ⟨rfl, rfl⟩
          exact ⟨rfl, rfl, hf'⟩
        · rintro ⟨rfl, rfl, -⟩
          exact ⟨rfl, rfl⟩

/-- The text of a configuration error about a path: the path in normal form, a line break, and
the message of the stage that failed. -/
theorem located_text_of_context {e : ConfigError} (h : e.context = ErrorContext.ofPath path none none) :
    e.located.text = normalPath path ++ "\n" ++ e.failure.message := by
  obtain ⟨f, ctx⟩ := e
  cases h
  rfl

theorem ofToml_eq_malformed_iff {t : String} {e : Toml.Error} :
    ofToml t = .error (.malformed e) ↔ Toml.parse t = .error e := by
  unfold ofToml
  split
  · rename_i e' he'
    simp [he']
  · rename_i doc hdoc
    -- a document that reads is never malformed, whatever its settings
    split <;> simp_all

/-- **Bytes that are not UTF-8 are no configuration error.**  They, and nothing else, stop the
loading with a decoding error. -/
theorem load_eq_undecodable_iff :
    load file path explicit = .error .undecodable ↔
      ∃ bytes, file = .file bytes ∧ String.fromUTF8? bytes = none := by
  cases file with
  | absent => cases explicit <;> simp [load]
  | directory => simp [load]
  | file bytes =>
    cases hutf : String.fromUTF8? bytes with
    | none => simp [load_file, hutf]
    | some text =>
      rw [load_file, hutf]
      dsimp only
      split <;> simp_all

/-- An integer too long to convert stops the loading with a conversion error of its own. -/
theorem load_eq_integerTooLong_iff {n : Nat} :
    load file path explicit = .error (.integerTooLong n) ↔
      ∃ bytes text, file = .file bytes ∧ String.fromUTF8? bytes = some text ∧
        Toml.parse (String.ofList (unifyNewlines text.toList)) = .error (.integerTooLong n) := by
  cases file with
  | absent => cases explicit <;> simp [load]
  | directory => simp [load]
  | file bytes =>
    cases hutf : String.fromUTF8? bytes with
    | none => simp [load_file, hutf]
    | some text =>
      simp only [load_file, hutf, Entry.file.injEq, ← ofToml_eq_malformed_iff]
      split <;> simp_all

/-- **How loading ends.**  Settings come from an absent file in implicit mode (the defaults:
`WARNING`, `b + a`, 3) or from UTF-8 bytes whose TOML document holds them; a configuration error
starts with the path in normal form; bytes that are not UTF-8, and an integer too long to convert,
end it with an error that is not a configuration error; an absent file is an error only when the
path was given. -/
theorem load_outcomes (file : Entry) (path : String) (explicit : Bool) :
    (∀ c, load file path explicit = .ok c ↔
      (file = .absent ∧ explicit = false ∧ c = {}) ∨
        ∃ bytes text doc, file = .file bytes ∧ String.fromUTF8? bytes = some text ∧
          Toml.parse (String.ofList (unifyNewlines text.toList)) = .ok doc ∧
          Settings Toml.Value.shape (.table doc) c) ∧
    (∀ e, load file path explicit = .error (.config e) →
      (normalPath path).toList <+: e.located.text.toList) ∧
    (load file path explicit = .error .undecodable ↔
      ∃ bytes, file = .file bytes ∧ String.fromUTF8? bytes = none) ∧
    (∀ n, load file path explicit = .error (.integerTooLong n) ↔
      ∃ bytes text, file = .file bytes ∧ String.fromUTF8? bytes = some text ∧
        Toml.parse (String.ofList (unifyNewlines text.toList)) = .error (.integerTooLong n)) ∧
    (file = .absent → load file path explicit =
      if explicit then .error (.config ⟨.notFound, .ofPath path none none⟩)
      else .ok { logging := { level := .warning }, tokens := { sample := "b + a", limit := 3 } }) := by
  refine ⟨fun c => ?_, fun e he => ?_, load_eq_undecodable_iff, fun n => load_eq_integerTooLong_iff,
    fun habsent => ?_⟩
  · -- settings: the TOML reading, then the checks as `Settings` states them
    rw [load_eq_ok_iff]
    simp only [ofToml_eq_ok_iff, check_eq_ok_iff]
    constructor
    · rintro (h | ⟨bytes, text, hfile, hutf, doc, hparse, hsettings⟩)
      · exact .inl h
      · exact .inr ⟨bytes, text, doc, hfile, hutf, hparse, hsettings⟩
    · rintro (h | ⟨bytes, text, doc, hfile, hutf, hparse, hsettings⟩)
      · exact .inl h
      · exact .inr ⟨bytes, text, hfile, hutf, doc, hparse, hsettings⟩
  · rw [located_text_of_context (load_eq_config_iff.mp he).1, String.append_assoc,
      String.toList_append]
    exact List.prefix_append _ _
  · subst habsent
    cases explicit <;> rfl

/-- A file of one byte 0xFF, given explicitly, ends the loading with a decoding error. -/
theorem load_byte_ff : load (.file ⟨#[0xff]⟩) "bantam.toml" true = .error .undecodable := by
  rfl

end Config

end MiniExpr
