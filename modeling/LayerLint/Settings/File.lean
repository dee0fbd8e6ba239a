-- The file that a repository keeps its settings in: a document of known fields, each of which may
-- be left out.
import LayerLint.FileStore.Rooted
import LayerLint.Settings.Basic
import LayerLint.Text.Blank
import LayerLint.Yaml.Record

namespace LayerLint

namespace Settings

/-! ## Fields -/

inductive Field where
  | overshadowThreshold
  | patchUsageThreshold
  | disabledRules
  | maxMessages
  deriving DecidableEq, Repr

def Field.name : Field → String
  | .overshadowThreshold => "overshadow_threshold"
  | .patchUsageThreshold => "patch_usage_threshold"
  | .disabledRules => "disabled_rules"
  | .maxMessages => "max_messages"

def Field.all : List Field :=
  [.overshadowThreshold, .patchUsageThreshold, .disabledRules, .maxMessages]

def Field.ofName? (name : String) : Option Field := Field.all.find? fun field => field.name = name

theorem Field.ofName?_name (field : Field) : Field.ofName? field.name = some field := by
  cases field <;> decide

/-! ## Reading -/

/-- Settings while they are read, and the fields that were given. -/
structure Draft where
  settings : Settings
  given : List Field

/-- Reads the value of a field at a place; returns also the place after it. -/
def Draft.readField (draft : Draft) (d : Yaml.Document) (field : Field) (place : Nat)
    (way : Yaml.Way) : Yaml.Reading (Draft × Nat) := do
  if draft.given.contains field then Yaml.Document.wrong (.repeatedField field.name)
  let given := field :: draft.given
  let settings := draft.settings
  match field with
  | .overshadowThreshold =>
    let share ← d.float place way
    pure (⟨{ settings with overshadowThreshold := share }, given⟩, place + 1)
  | .patchUsageThreshold =>
    let share ← d.float place way
    pure (⟨{ settings with patchUsageThreshold := share }, given⟩, place + 1)
  | .disabledRules =>
    let (rules, next) ← d.texts place way
    pure (⟨{ settings with disabledRules := rules }, given⟩, next)
  | .maxMessages =>
    let count ← d.natural place way
    pure (⟨{ settings with maxMessages := count }, given⟩, place + 1)

/-- Reads settings; a field that is not given keeps its default. -/
def ofDocument (d : Yaml.Document) : Yaml.Reading Settings := do
  let draft ← d.record "struct Settings" (Field.all.map Field.name) (Draft.mk default [])
    fun draft name place way =>
      match Field.ofName? name with
      | some field => draft.readField d field place way
      | none => pure (draft, place)
  pure draft.settings

/-! ## Faults -/

/-- What is wrong with a settings file. -/
inductive FileFault where
  | store (problem : FileProblem)
  | notText
  | document (fault : Yaml.Fault)
  | notAShare (field : Field) (value : Binary64)
  deriving DecidableEq, Repr

def FileFault.message : FileFault → String
  | .store problem => problem.message
  | .notText => "stream did not contain valid UTF-8"
  | .document fault => fault.message
  | .notAShare field value =>
    field.name ++ " must be between 0 and 1, got " ++ Decimal.plain.write value

/-- A settings file that cannot be used. -/
structure FileError where
  path : String
  fault : FileFault
  deriving DecidableEq, Repr

def FileError.message (e : FileError) : String :=
  "Invalid settings in " ++ e.path ++ ": " ++ e.fault.message

/-! ## Loading -/

/-- Whether a number is a share of a whole. -/
def isShare (x : Binary64) : Bool :=
  (Binary64.ofInt 0).atMost x && x.atMost (Binary64.ofInt 1)

/-- Both thresholds have to be shares of a whole. -/
def checkShares (s : Settings) : Except FileFault Settings :=
  if !isShare s.overshadowThreshold then
    .error (.notAShare .overshadowThreshold s.overshadowThreshold)
  else if !isShare s.patchUsageThreshold then
    .error (.notAShare .patchUsageThreshold s.patchUsageThreshold)
  else .ok s

/-- The settings that the contents of a file stand for. A blank file stands for the defaults. -/
def ofOctets (bytes : List UInt8) : Except FileFault Settings :=
  match Text.decode? bytes with
  | none => .error .notText
  | some cs =>
    if (Text.trim cs).isEmpty then checkShares default
    else
      match Yaml.Reading.ofOctets ofDocument bytes with
      | .error fault => .error (.document fault)
      | .ok settings => checkShares settings

/-- The settings in the file at a path. -/
def load {σ : Type} [FileStore σ] (store : σ) (path : String) : Except FileError Settings :=
  match FileStore.read store path with
  | .error problem => .error ⟨path, .store problem⟩
  | .ok bytes =>
    match ofOctets bytes with
    | .error fault => .error ⟨path, fault⟩
    | .ok settings => .ok settings

/-- The name of the file in a repository that is read unasked. -/
def fileName : String := ".configlint.yaml"

/-- The settings for a repository: those of the file that was asked for, or else of the one that
the repository keeps, or else the defaults. -/
def discover {σ : Type} [FileStore σ] (store : σ) (root : String) (asked : Option String) :
    Except FileError Settings :=
  match asked with
  | some path => load store path
  | none =>
    let path := RootedStore.join root fileName
    if FileStore.has store path then load store path else .ok default

end Settings

end LayerLint
