import LivePanel.Value.Decode

/-!
# The bridge to the host

What a panel may ask of the host that shows it: to take a message, to put a prompt
to its assistant, to open a file. A detached bridge takes messages and drops them
and refuses the rest; an attached one keeps a record of all that was asked, and its
assistant answers from a queue.
-/

namespace LivePanel

/-- Why a host refused. -/
inductive BridgeError where
  | unsupported (operation : String)
  | disconnected
  | failed (reason : String)
deriving DecidableEq, Inhabited

/-- The wording of the error. -/
def BridgeError.message : BridgeError → String
  | unsupported op => "bridge operation not supported: " ++ op
  | disconnected => "bridge disconnected"
  | failed reason => "bridge request failed: " ++ reason

/-- The panel that a host shows. -/
structure PanelInfo where
  id : String := ""
  title : Option String := none
  visible : Bool := false
deriving DecidableEq

/-- The JSON form of a panel. -/
def PanelInfo.toValue (p : PanelInfo) : Value :=
  .obj ([("id", .str p.id)] ++
    (p.title.map fun t => ("title", Value.str t)).toList ++ [("visible", .bool p.visible)])

/-- An attached host: what it was asked, and how it answers. -/
structure Host where
  panel : PanelInfo
  sent : List (String × Value) := []
  prompts : List (String × Value) := []
  opened : List (String × Option Nat) := []
  replies : List (Except BridgeError Value) := []
  replyDelay : Option Nat := none
  sendFailure : Option BridgeError := none

/-- A bridge. -/
inductive Bridge where
  | detached (panel : PanelInfo)
  | attached (host : Host)

namespace Bridge

/-- The panel that the host shows. -/
def panel : Bridge → PanelInfo
  | detached p => p
  | attached h => h.panel

/-- What an attached host was asked; nothing of a detached bridge. -/
def record (f : Host → List α) : Bridge → List α
  | detached _ => []
  | attached h => f h

/-- The messages sent. -/
def sent (b : Bridge) : List (String × Value) := b.record Host.sent

/-- The prompts put. -/
def prompts (b : Bridge) : List (String × Value) := b.record Host.prompts

/-- The files opened. -/
def opened (b : Bridge) : List (String × Option Nat) := b.record Host.opened

/-- Send a message. A refused message is not recorded. -/
def send (b : Bridge) (message : String) (payload : Value) : Except BridgeError Unit × Bridge :=
  match b with
  | detached p => (.ok (), detached p)
  | attached h =>
    match h.sendFailure with
    | some e => (.error e, attached h)
    | none => (.ok (), attached { h with sent := h.sent ++ [(message, payload)] })

/-- Open a file, at a line if one is given. -/
def openFile (b : Bridge) (path : String) (line : Option Nat) : Except BridgeError Unit × Bridge :=
  match b with
  | detached p => (.error (.unsupported "openFile"), detached p)
  | attached h => (.ok (), attached { h with opened := h.opened ++ [(path, line)] })

/-- Put a prompt to the assistant. -/
def prompt (b : Bridge) (text : String) (context : Value) : Bridge :=
  match b with
  | detached p => detached p
  | attached h => attached { h with prompts := h.prompts ++ [(text, context)] }

/-- How long the assistant takes, where it does not answer at once. -/
def replyDelay : Bridge → Option Nat
  | detached _ => none
  | attached h => h.replyDelay

/-- Whether the assistant answers as soon as it is asked. -/
def answersAtOnce (b : Bridge) : Bool := b.replyDelay.getD 0 == 0

/-- Whether the assistant answers as soon as it is asked, but only once a clock has been looked
at. -/
def looksAtClock (b : Bridge) : Bool := b.replyDelay == some 0

/-- The assistant's answer to a prompt put before. -/
def reply (b : Bridge) : Except BridgeError Value × Bridge :=
  match b with
  | detached p => (.error (.unsupported "requestAI"), detached p)
  | attached h =>
    match h.replies with
    | [] => (.error (.unsupported "no queued reply"), attached h)
    | r :: rest => (r, attached { h with replies := rest })

/-- Queue an answer of the assistant. -/
def queueReply (b : Bridge) (r : Except BridgeError Value) : Bridge :=
  match b with
  | detached p => detached p
  | attached h => attached { h with replies := h.replies ++ [r] }

end Bridge

/-- A world with a bridge in it. -/
class Hosted (σ : Type) where
  bridge : σ → Bridge
  withBridge : σ → Bridge → σ
  bridge_withBridge : ∀ s b, bridge (withBridge s b) = b

/-- A bridge is a world with nothing else in it. -/
instance : Hosted Bridge where
  bridge := id
  withBridge _ b := b
  bridge_withBridge _ _ := rfl

end LivePanel
