import LivePanel.Command.Display
import LivePanel.Event.Stamp
import LivePanel.Orchestra.Basic

/-!
# Bulletins

How a watching session tells what happens: a line for each event, with the time of day, its
name and what it is about, and a summary at the end.
-/

namespace LivePanel.Command

/-- The ink of the name of an event. -/
def inkOf : Happening → Ink
  | .templateBuilt .. | .actionCompleted .. => .green
  | .templateError .. | .actionFailed .. => .red
  | .actionCancelled .. | .fileRemoved .. => .yellow
  | .fileAdded .. | .fileChanged .. => .blue
  | _ => .cyan

/-- What an event is about. -/
def detail (d : Display) : Happening → String
  | .templateLoaded key name => key ++ ((name.map fun n => " (" ++ n ++ ")").getD "")
  | .templateBuilt key used warnings =>
    key ++ ": " ++ toString used.length ++ " blocks, " ++ toString warnings ++ " warnings"
  | .templateError key errors =>
    Text.joinWith "\n" ((key ++ ": " ++ toString errors.length ++ " errors") ::
      errors.map fun e => "      " ++ d.error e)
  | .fileAdded path => path
  | .fileChanged path => path
  | .fileRemoved path => path
  | .cacheCleared entries => toString entries ++ " entries"
  | .stateChanged key revision => key ++ " @ " ++ toString revision
  | .actionStarted key action => key ++ "#" ++ action
  | .actionCompleted key action => key ++ "#" ++ action
  | .actionFailed key action error => key ++ "#" ++ action ++ ": " ++ error
  | .actionCancelled key action skipped =>
    key ++ "#" ++ action ++ ": " ++ toString skipped ++ " steps skipped"

/-- The least width of the name of an event. -/
def nameWidth : Nat := 17

/-- A text with blanks up to a width. -/
def fill (width : Nat) (s : String) : String :=
  s ++ String.ofList (List.replicate (width - s.length) ' ')

/-- An event for readers. -/
def eventLine (d : Display) (e : StampedEvent) : String :=
  d.paint .faint e.stamp.time.clockText ++ " " ++
    d.paint (inkOf e.what) (fill nameWidth e.what.name) ++ " " ++ detail d e.what

/-- What stands before the first event. -/
def heading (d : Display) (directory : String) : List String :=
  [d.paint .heading ("Watching " ++ directory), d.rule]

/-- What stands after the last event. -/
def closing (d : Display) (s : Orchestra.Status) : List String :=
  ["", d.rule,
    d.info (toString s.templates.length ++ " loaded, " ++ toString s.cached ++ " cached")]

end LivePanel.Command
