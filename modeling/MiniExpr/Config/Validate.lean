import MiniExpr.Config.Basic
import MiniExpr.Number.Whole
import MiniExpr.Json.Value
import MiniExpr.Toml.Value
/-!
# Checking settings

Settings come from a document, a TOML file or JSON data, as a table of sections.  `Config.check`
reads them and reports every fault: sections in the order `logging`, `tokens`; in each, the
declared settings in order (`level`; `sample`, `limit`), then every key the section does not
declare, in the document's order.  Keys outside the two sections are ignored.

* A section, and the document itself, must be a table.
* `level` must be a text naming a level in any case (`LogLevel.ofText?`).
* `sample` must be a text.
* `limit` must be a whole number, read leniently (`Whole`): `true` and `false` count as 1 and 0.
  It must not be negative.

Validation looks at values only through their `Shape`, so both kinds of document are checked by
the same rules.
-/

namespace MiniExpr

/-- What checking needs to see of a value. -/
inductive Shape (α : Type) where
  | text (s : String)
  | flag (b : Bool)
  | whole (n : Int)
  | double (x : Binary64)
  | table (fields : List (String × α))
  | other

/-- The shape of a JSON value. -/
def Json.Value.shape : Json.Value → Shape Json.Value
  | .string s => .text s
  | .bool b => .flag b
  | .int n => .whole n
  | .float x => .double x
  | .object fs => .table fs
  | _ => .other

/-- The shape of a TOML value. -/
def Toml.Value.shape : Toml.Value → Shape Toml.Value
  | .string s => .text s
  | .bool b => .flag b
  | .int n => .whole n
  | .float x => .double x
  | .table fs => .table fs
  | _ => .other

namespace Config

variable {α : Type}

/-- The value under `k`. -/
def lookup (fs : List (String × α)) (k : String) : Option α :=
  (fs.find? fun p => p.1 == k).map (·.2)

/-- Checks `level`. -/
def checkLevel (v : Shape α) : Checked LogLevel :=
  match v with
  | .text s =>
    match LogLevel.ofText? s with
    | some l => .ok l
    | none => Checked.fail .valueError
  | _ => Checked.fail .stringType

/-- Checks `sample`. -/
def checkSample (v : Shape α) : Checked String :=
  match v with
  | .text s => .ok s
  | _ => Checked.fail .stringType

/-- Checks `limit`: a whole number, read leniently, that is not negative. -/
def checkLimit (v : Shape α) : Checked Nat :=
  let whole : Except IssueKind Int :=
    match v with
    | .flag b => .ok (if b then 1 else 0)
    | .whole n => .ok n
    | .double x => Whole.ofDouble x
    | .text s => Whole.ofText s
    | _ => .error .intType
  match whole with
  | .error k => Checked.fail k
  | .ok n => if 0 ≤ n then .ok n.toNat else Checked.fail .greaterThanEqual

/-- A setting: its default when absent, else its check, with faults under its key. -/
def setting {β : Type} (shape : α → Shape α) (fs : List (String × α)) (key : String) (default : β)
    (check : Shape α → Checked β) : Checked β :=
  match lookup fs key with
  | none => .ok default
  | some v => (check (shape v)).under [.key key]

/-- A fault for each key of a section that is not among `declared`, in order. -/
def extras (fs : List (String × α)) (declared : List String) : Checked Unit :=
  match fs.filter (fun p => !declared.contains p.1) with
  | [] => .ok ()
  | es => .error (es.map fun p => ⟨.extraForbidden, [.key p.1]⟩)

/-- A section: its default when absent; else it must be a table, checked by `body`. -/
def checkSection {β : Type} (shape : α → Shape α) (fs : List (String × α)) (key : String) (default : β)
    (body : List (String × α) → Checked β) : Checked β :=
  match lookup fs key with
  | none => .ok default
  | some v =>
    match shape v with
    | .table gs => (body gs).under [.key key]
    | _ => Checked.fail .modelType |>.under [.key key]

/-- Checks the `logging` section's members. -/
def checkLogging (shape : α → Shape α) (gs : List (String × α)) : Checked LoggingSection :=
  (Checked.both (setting shape gs "level" LogLevel.warning checkLevel) (extras gs ["level"])).map
    fun (l, _) => { level := l }

/-- Checks the `tokens` section's members. -/
def checkTokens (shape : α → Shape α) (gs : List (String × α)) : Checked TokensSection :=
  let d : TokensSection := {}
  (Checked.both (setting shape gs "sample" d.sample checkSample)
    (Checked.both (setting shape gs "limit" d.limit checkLimit) (extras gs ["sample", "limit"]))).map
    fun (s, l, _) => { sample := s, limit := l }

/-- Checks a whole document of settings. -/
def check (shape : α → Shape α) (v : α) : Checked Config :=
  match shape v with
  | .table fs =>
    (Checked.both (checkSection shape fs "logging" {} (checkLogging shape))
      (checkSection shape fs "tokens" {} (checkTokens shape))).map
      fun (l, t) => { logging := l, tokens := t }
  | _ => Checked.fail .modelType

end Config

end MiniExpr
