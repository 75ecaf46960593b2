import LivePanel.Settings.Environment
import LivePanel.Text.Split

/-!
# Text for a terminal

The signs before lines that report, and the colours and weights of text where the terminal
shows them. A text is painted between the code of its ink and the code that ends all ink;
where the text ends all ink itself, its own ink is taken up again.
-/

namespace LivePanel.Command

/-- A colour or weight of text. -/
inductive Ink where
  | bold
  | faint
  | red
  | green
  | yellow
  | blue
  | cyan
  | heading
deriving DecidableEq

/-- The code of an ink. -/
def Ink.code : Ink → String
  | bold => "1"
  | faint => "2"
  | red => "31"
  | green => "32"
  | yellow => "33"
  | blue => "34"
  | cyan => "36"
  | heading => "1;36"

/-- What begins an ink. -/
def Ink.begins (ink : Ink) : String := "\x1b[" ++ ink.code ++ "m"

/-- What ends all ink. -/
def inkEnd : String := "\x1b[0m"

/-- How text is shown: in colours or plainly. -/
structure Display where
  coloured : Bool := false
deriving DecidableEq

namespace Display

/-- How text is shown if the environment says so or, where it says nothing, if it goes to a
terminal. -/
def ofEnvironment (env : Environment) (terminal : Bool) : Display :=
  let asks : String → Option Bool := fun name => (env.get? name).map (· != "0")
  if asks "CLICOLOR_FORCE" == some true then ⟨true⟩
  else if (asks "NO_COLOR").isSome then ⟨false⟩
  else ⟨(asks "CLICOLOR").getD true && terminal⟩

/-- A text in some ink. -/
def paint (d : Display) (ink : Ink) (s : String) : String :=
  if d.coloured then ink.begins ++ Text.putBehind inkEnd ink.begins s ++ inkEnd else s

/-- A line of success. -/
def success (d : Display) (s : String) : String := d.paint .green "✓" ++ " " ++ s

/-- A line of an error. -/
def error (d : Display) (s : String) : String := d.paint .red "✗" ++ " " ++ d.paint .red s

/-- A line of a warning. -/
def warning (d : Display) (s : String) : String := d.paint .yellow "!" ++ " " ++ d.paint .yellow s

/-- A line of information. -/
def info (d : Display) (s : String) : String := d.paint .blue "i" ++ " " ++ s

/-- A line between parts. -/
def rule (d : Display) : String := d.paint .faint (String.ofList (List.replicate 50 '━'))

/-- A value with its label. -/
def labelled (d : Display) (label value : String) : String :=
  d.paint .bold label ++ ": " ++ value

end Display

end LivePanel.Command
