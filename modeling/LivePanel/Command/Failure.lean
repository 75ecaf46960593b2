import LivePanel.Block.Registry
import LivePanel.Logging.Setup
import LivePanel.Orchestra.Basic
import LivePanel.Settings.Load

/-!
# Failures of commands

Why a command gives no result at all. What is wrong with a template is part of a result,
and no failure.
-/

namespace LivePanel.Command

/-- Why a command gave no result. -/
inductive Failure where
  | settings (e : Settings.LoadError)
  | logging (e : Logging.SetupError)
  | unreadableCatalogue (path : String) (why : TextError)
  | malformedCatalogue (path : String)
  | refusedBlock (id : String) (e : RegistryError)
  | unreadableTemplate (path : String) (why : TextError)
  | notTemplate (path : String)
  | malformedState
  | stateNoObject
  | orchestra (e : Orchestra.Error)
  | noDirectory (path : String)
  | noRoom

/-- What settings could not be loaded for, with the reason why a file could not be read told once
more at the end. -/
def settingsMessage (e : Settings.LoadError) : String :=
  match e with
  | .unreadable _ why => e.message ++ ": " ++ why.message
  | _ => e.message

/-- The wording of a failure. -/
def Failure.message : Failure → String
  | settings e => "failed to load configuration: " ++ settingsMessage e
  | logging e => e.message
  | unreadableCatalogue path why => "cannot read block catalog " ++ path ++ ": " ++ why.message
  | malformedCatalogue path =>
    "in " ++ path ++ ": invalid block catalog: " ++ Settings.readerMessage none
  | refusedBlock id e => "cannot register block '" ++ id ++ "': " ++ e.message
  | unreadableTemplate path why => "cannot read " ++ path ++ ": " ++ why.message
  | notTemplate path => "not a template file: " ++ path
  | malformedState => "--state is not valid JSON"
  | stateNoObject => "--state must be a JSON object"
  | orchestra e => e.message
  | noDirectory path => "template directory " ++ path ++ " does not exist"
  | noRoom => "capacity overflow"

/-- Whether the program breaks off, which it does without a line of its own. -/
def Failure.breaksOff : Failure → Bool
  | logging e => e.breaksOff
  | noRoom => true
  | _ => false

end LivePanel.Command
