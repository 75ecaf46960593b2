import LivePanel.Text.Blank
import LivePanel.Toml.Basic

/-!
# Settings in the environment

Some variables of the environment override settings. Each has its place in the tree of
settings; they are taken up in a fixed order until one cannot be read.
-/

namespace LivePanel

/-- What the environment says: the texts of variables. -/
abbrev Environment := Table String

namespace Settings

/-- A variable that overrides a setting. -/
inductive Variable where
  | logLevel
  | logFormat
  | templateDirectory
  | hotReload
  | debounce
deriving DecidableEq

namespace Variable

/-- The variables in the order in which they are taken up. -/
def all : List Variable := [logLevel, logFormat, templateDirectory, hotReload, debounce]

/-- The name of a variable. -/
def name : Variable → String
  | logLevel => "PANELKIT_LOG_LEVEL"
  | logFormat => "PANELKIT_LOG_FORMAT"
  | templateDirectory => "PANELKIT_TEMPLATE_DIR"
  | hotReload => "PANELKIT_HOT_RELOAD"
  | debounce => "PANELKIT_DEBOUNCE_MS"

/-- The part of the settings that a variable belongs to, and its field there. -/
def place : Variable → String × String
  | logLevel => ("logging", "level")
  | logFormat => ("logging", "format")
  | templateDirectory => ("templates", "directory")
  | hotReload => ("templates", "hot_reload")
  | debounce => ("templates", "debounce_ms")

end Variable

/-- Why a variable could not be read. -/
inductive VariableProblem where
  | notTruth (raw : String)
  | notWhole (raw : String) (why : Text.SignedError)

/-- The wording of why a number was refused. -/
def signedReason : Text.SignedError → String
  | .empty => "cannot parse integer from empty string"
  | .invalidDigit => "invalid digit found in string"
  | .tooLarge => "number too large to fit in target type"
  | .tooSmall => "number too small to fit in target type"

/-- The wording of the problem. -/
def VariableProblem.message : VariableProblem → String
  | notTruth raw => "expected a boolean, got '" ++ raw ++ "'"
  | notWhole raw why => "expected an integer, got '" ++ raw ++ "': " ++ signedReason why

/-- A variable that could not be read. -/
structure EnvironmentError where
  source : Variable
  problem : VariableProblem

/-- The wording of the error. -/
def EnvironmentError.message (e : EnvironmentError) : String :=
  "Environment variable '" ++ e.source.name ++ "': " ++ e.problem.message

/-- The truth value that a text spells, its case being of no matter. -/
def truthOf? (s : String) : Option Bool :=
  let word := s.map Char.toLower
  if word ∈ ["1", "true", "yes", "on"] then some true
  else if word ∈ ["0", "false", "no", "off"] then some false
  else none

/-- What the text of a variable stands for. -/
def Variable.read (x : Variable) (raw : String) : Except VariableProblem Toml.Datum :=
  match x with
  | hotReload =>
    match truthOf? (Text.trim raw) with
    | some b => .ok (.flag b)
    | none => .error (.notTruth raw)
  | debounce =>
    match Text.signed64 (Text.trim raw).toList with
    | .ok n => .ok (.whole n)
    | .error why => .error (.notWhole raw why)
  | _ => .ok (.text raw)

/-- Write a field of a part; a part that is absent or no table is made anew. -/
def setField (tree : Toml.Datum) (place : String × String) (d : Toml.Datum) : Toml.Datum :=
  match tree with
  | .table parts =>
    let members :=
      match Table.get? parts place.1 with
      | some (.table members) => members
      | _ => []
    .table (Table.set parts place.1 (.table (Table.set members place.2 d)))
  | other => other

/-- Take up variables one after the other: the tree that results, and how many were there unless
one could not be read. -/
def overrideWith (env : Environment) (tree : Toml.Datum) :
    List Variable → Toml.Datum × Except EnvironmentError Nat
  | [] => (tree, .ok 0)
  | x :: rest =>
    match env.get? x.name with
    | none => overrideWith env tree rest
    | some raw =>
      match x.read raw with
      | .error problem => (tree, .error ⟨x, problem⟩)
      | .ok d =>
        let (tree, result) := overrideWith env (setField tree x.place d) rest
        (tree, result.map (· + 1))

/-- The tree with what the environment overrides. -/
def overrideBy (env : Environment) (tree : Toml.Datum) :
    Toml.Datum × Except EnvironmentError Nat :=
  overrideWith env tree Variable.all

end Settings

end LivePanel
