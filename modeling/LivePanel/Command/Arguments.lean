import LivePanel.Command.Request
import LivePanel.Settings.Environment
import LivePanel.Text.Split

/-!
# Arguments

Reading requests from the words of a command line. A word that starts with a dash is an
option: a flag, of which those of one letter may stand together behind one dash, or a
choice, whose value follows after an equals sign or as the next word. Options of the
program may stand before and after the verb, and what stands after it wins. Each option is
given once on either side. After two dashes alone every word stands for itself.

Words are read from left to right, and the first one that asks for help, asks for the
version or does not fit decides.
-/

namespace LivePanel.Command

/-- What a request asks for, by name. -/
inductive Verb where
  | validate
  | analyze
  | build
  | watch
deriving DecidableEq

/-- The names of the verbs. -/
def Verb.names : Table Verb :=
  [("validate", .validate), ("analyze", .analyze), ("build", .build), ("watch", .watch)]

/-- An option without a value. -/
inductive Flag where
  | verbose
  | noHotReload
  | help
  | version
deriving DecidableEq

/-- The name of a flag. -/
def Flag.name : Flag → String
  | verbose => "verbose"
  | noHotReload => "no-hot-reload"
  | help => "help"
  | version => "version"

/-- The letter of a flag. -/
def Flag.letter? : Flag → Option Char
  | verbose => some 'v'
  | noHotReload => none
  | help => some 'h'
  | version => some 'V'

/-- An option with a value. -/
inductive Choice where
  | format
  | blocks
  | root
  | state
deriving DecidableEq

/-- The name of a choice. -/
def Choice.name : Choice → String
  | format => "format"
  | blocks => "blocks"
  | root => "root"
  | state => "state"

/-- Whether a text can be the value of a choice. -/
def Choice.admits : Choice → String → Bool
  | format, s => Style.names.has s
  | blocks, s => !s.isEmpty
  | root, s => !s.isEmpty
  | state, _ => true

/-- What may stand on one side of the verb: flags, choices, and no more than so many words, or else
the verb. -/
structure Side where
  flags : List Flag
  choices : List Choice
  words : Option Nat
  verb : Bool := false

/-- What may stand before the verb. -/
def Side.front : Side :=
  { flags := [.verbose, .help, .version], choices := [.format, .blocks, .root], words := some 0,
    verb := true }

/-- What may stand after a verb. -/
def Verb.side : Verb → Side
  | validate =>
    { flags := [.verbose, .help], choices := [.format, .blocks, .root], words := none }
  | analyze =>
    { flags := [.verbose, .help], choices := [.format, .blocks, .root], words := some 1 }
  | build =>
    { flags := [.verbose, .help], choices := [.format, .blocks, .root, .state], words := some 1 }
  | watch =>
    { flags := [.verbose, .help, .noHotReload], choices := [.format, .blocks, .root],
      words := some 1 }

/-- Why there is no request: help or the version is asked for, or the words do not fit. -/
inductive Stop where
  | help
  | version
  | misuse (reason : String)
deriving DecidableEq

/-- Why a choice without a value does not fit. -/
def Choice.lacking (c : Choice) : Stop :=
  .misuse ("a value is required for '--" ++ c.name ++ "' but none was supplied")

/-- Why a verb without its words does not fit. -/
def Stop.without (names : String) : Stop :=
  .misuse ("the following required arguments were not provided: " ++ names)

/-- What is given on one side of the verb. -/
structure Given where
  flags : List Flag := []
  choices : List (Choice × String) := []
  words : List String := []

namespace Given

/-- The value of a choice. -/
def choice? (g : Given) (c : Choice) : Option String := g.choices.lookup c

/-- Take up a flag. -/
def raise (g : Given) : Flag → Except Stop Given
  | .help => .error .help
  | .version => .error .version
  | f =>
    if f ∈ g.flags then
      .error (.misuse ("the argument '--" ++ f.name ++ "' cannot be used multiple times"))
    else .ok { g with flags := g.flags ++ [f] }

/-- Take up flags by their letters. -/
def raiseAll (side : Side) (g : Given) : List Char → Except Stop Given
  | [] => .ok g
  | c :: rest =>
    match side.flags.find? fun f => f.letter? = some c with
    | some f => (g.raise f).bind fun g => raiseAll side g rest
    | none => .error (.misuse ("unexpected argument '-" ++ String.singleton c ++ "' found"))

/-- Take up a choice. -/
def choose (g : Given) (c : Choice) (s : String) : Except Stop Given :=
  if (g.choice? c).isSome then
    .error (.misuse ("the argument '--" ++ c.name ++ "' cannot be used multiple times"))
  else if c.admits s then .ok { g with choices := g.choices ++ [(c, s)] }
  else .error (.misuse ("invalid value '" ++ s ++ "' for '--" ++ c.name ++ "'"))

/-- Take up a word, which stands for a path. -/
def add (side : Side) (g : Given) (s : String) : Except Stop Given :=
  if side.words.any (· ≤ g.words.length) then
    .error (.misuse ("unexpected argument '" ++ s ++ "' found"))
  else if s.isEmpty then .error (.misuse "a value is required for a path but none was supplied")
  else .ok { g with words := g.words ++ [s] }

end Given

/-- What a word of a command line is: two dashes, a name after two dashes with the text after an
equals sign, letters after a dash, or a word that stands for itself. -/
inductive Token where
  | dashes
  | long (name : String) (value : Option String)
  | letters (cs : List Char)
  | word (s : String)

/-- The token that a word is. -/
def Token.ofWord (s : String) : Token :=
  match s.toList with
  | '-' :: '-' :: [] => .dashes
  | '-' :: '-' :: cs =>
    match Text.splitOnceChars '=' cs with
    | some (name, value) => .long (String.ofList name) (some (String.ofList value))
    | none => .long (String.ofList cs) none
  | '-' :: c :: cs => .letters (c :: cs)
  | _ => .word s

/-- Whether a word can be the value of the choice before it. -/
def Token.isWord : Token → Bool
  | word _ => true
  | _ => false

/-- Read the words of a side: what is given on it, and what is left from the verb on. -/
def Side.read (side : Side) (g : Given) : List String → Except Stop (Given × List String)
  | [] => .ok (g, [])
  | s :: rest =>
    match Token.ofWord s with
    | .dashes => (rest.foldlM (Given.add side) g).map (·, [])
    | .letters cs => (g.raiseAll side cs).bind fun g => side.read g rest
    | .word s =>
      if side.verb then .ok (g, s :: rest)
      else (g.add side s).bind fun g => side.read g rest
    | .long name value =>
      match side.flags.find? fun f => f.name = name with
      | some f =>
        if value.isSome then
          .error (.misuse ("unexpected value for '--" ++ name ++ "' found; no more were expected"))
        else (g.raise f).bind fun g => side.read g rest
      | none =>
        match side.choices.find? fun c => c.name = name with
        | none => .error (.misuse ("unexpected argument '--" ++ name ++ "' found"))
        | some c =>
          match value, rest with
          | some value, rest => (g.choose c value).bind fun g => side.read g rest
          | none, value :: rest =>
            if (Token.ofWord value).isWord then
              (g.choose c value).bind fun g => side.read g rest
            else .error c.lacking
          | none, [] => .error c.lacking

/-- The variable of the environment that names a catalogue where no argument does. -/
def catalogueVariable : String := "PANELKIT_BLOCKS"

/-- The file of the catalogue. The variable must not be empty unless it counts on neither side. -/
def catalogueOf (env : Environment) (front back : Given) : Except Stop (Option String) :=
  let given := [back, front].filterMap (·.choice? .blocks)
  match env.get? catalogueVariable with
  | some "" =>
    if given.length = 2 then .ok given.head?
    else .error (.misuse ("a value is required for '" ++ catalogueVariable ++ "'"))
  | asked => .ok (given.head?.or asked)

/-- What a verb asks for, given what stands after it. -/
def Verb.order (v : Verb) (g : Given) : Except Stop Order :=
  match v, g.words with
  | validate, [] => .error (.without "<FILES>...")
  | validate, files => .ok (.validate files)
  | analyze, file :: _ => .ok (.analyze file)
  | build, file :: _ => .ok (.build file (g.choice? .state))
  | watch, words => .ok (.watch words.head? (.noHotReload ∉ g.flags))
  | _, [] => .error (.without "<FILE>")

/-- What is asked for after the word "help": the help on what the words name. -/
def helpOn : List String → Stop
  | [] => .help
  | [s] =>
    if s = "help" || Verb.names.has s then .help
    else .misuse ("unrecognized subcommand '" ++ s ++ "'")
  | _ => .misuse "unrecognized subcommand"

/-- The request that the words of a command line make. -/
def Request.ofArguments (env : Environment) (args : List String) : Except Stop Request := do
  let (front, rest) ← Side.front.read {} args
  match rest with
  | [] => .error (.misuse "a subcommand is required")
  | "help" :: rest => .error (helpOn rest)
  | s :: rest =>
    match Verb.names.get? s with
    | none => .error (.misuse ("unrecognized subcommand '" ++ s ++ "'"))
    | some verb =>
      let (back, _) ← verb.side.read {} rest
      let choice := fun c => (back.choice? c).or (front.choice? c)
      return {
        order := ← verb.order back
        verbose := .verbose ∈ front.flags || .verbose ∈ back.flags
        style := ((choice .format).bind Style.names.get?).getD .pretty
        catalogue := ← catalogueOf env front back
        root := choice .root }

end LivePanel.Command
