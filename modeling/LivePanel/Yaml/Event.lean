import LivePanel.Yaml.Lexer

/-!
# YAML events

The tokens of a text read as a series of events: scalars, aliases, and the
beginnings and ends of collections and documents. The reader is a machine with a
stack of what it expects once the present node is complete.
-/

namespace LivePanel.Yaml

/-- What a node may carry in front of its content. -/
structure Properties where
  anchor : Option String := none
  tag : Option Octets := none
deriving DecidableEq, Inhabited

/-- An event. -/
inductive Event where
  | streamEnd
  | documentStart
  | documentEnd
  | alias (name : String)
  | scalar (props : Properties) (text : String) (plain : Bool)
  | sequenceStart (props : Properties)
  | sequenceEnd
  | mappingStart (props : Properties)
  | mappingEnd
deriving Inhabited

/-- An event and the mark where it begins. -/
structure PlacedEvent where
  event : Event
  mark : Mark
deriving Inhabited

/-- What is expected next. -/
inductive Expectation where
  | implicitDocument
  | document
  | documentContent
  | documentEnd
  | blockNode
  | blockSequenceFirst
  | blockSequenceEntry
  | indentlessEntry
  | blockMappingFirst
  | blockMappingKey
  | blockMappingValue
  | flowSequenceFirst
  | flowSequenceEntry
  | flowPairKey
  | flowPairValue
  | flowPairEnd
  | flowMappingFirst
  | flowMappingKey
  | flowMappingValue
  | flowMappingNoValue
  | nothing
deriving DecidableEq, Inhabited

/-- The state of the event reader. `openings` holds the marks where the collections begin that are
open, the innermost first. -/
structure EventReader where
  lexer : Lexer
  expected : Expectation := .implicitDocument
  stack : List Expectation := []
  handles : List (String × Octets) := []
  openings : List Mark := []

namespace EventReader

/-- An event with the state after it. -/
abbrev Step := Except Unreadable (PlacedEvent × EventReader)

/-- Hand out an event and go on to `next`. -/
def give (r : EventReader) (event : Event) (mark : Mark) (next : Expectation) : Step :=
  .ok (⟨event, mark⟩, { r with expected := next })

/-- Hand out an event and go back to what is on the stack. -/
def giveBack (r : EventReader) (event : Event) (mark : Mark) : Step :=
  match r.stack with
  | e :: rest => .ok (⟨event, mark⟩, { r with expected := e, stack := rest })
  | [] => .ok (⟨event, mark⟩, { r with expected := .nothing })

/-- Hand out the scalar that stands for an absent node. -/
def giveEmpty (r : EventReader) (mark : Mark) (next : Expectation) : Step :=
  r.give (.scalar {} "" true) mark next

/-- The next token. -/
def peek (r : EventReader) : Except Unreadable (Placed × EventReader) :=
  match r.lexer.peek with
  | .ok (t, l) => .ok (t, { r with lexer := l })
  | .error e => .error e

/-- Drop the next token. -/
def drop (r : EventReader) : EventReader := { r with lexer := r.lexer.take }

/-- Remember what is expected after a node. -/
def after (r : EventReader) (e : Expectation) : EventReader := { r with stack := e :: r.stack }

/-- Drop the token that opens a collection, and remember its mark. -/
def enter (r : EventReader) : Except Unreadable EventReader :=
  match r.peek with
  | .error e => .error e
  | .ok (t, r) => .ok { r.drop with openings := t.mark :: r.openings }

/-- Drop the token that closes the innermost collection, and hand out its end. -/
def leave (r : EventReader) (event : Event) (mark : Mark) : Step :=
  { r.drop with openings := r.openings.drop 1 }.giveBack event mark

/-- The failure of a token at a mark where the innermost collection admits none like it. -/
def misplaced (r : EventReader) (activity problem : String) (mark : Mark) : Except Unreadable α :=
  faultIn ⟨activity, r.openings.headD {}⟩ problem mark

/-! ### Nodes -/

/-- The properties of a node as written, with the mark of the first and of the tag. -/
structure RawProperties where
  anchor : Option String := none
  tag : Option (String × Octets) := none
  start : Mark
  tagMark : Mark

/-- Read the properties in front of a node, an anchor and a tag in either order. -/
def readProperties (r : EventReader) : Except Unreadable (RawProperties × EventReader) :=
  match r.peek with
  | .error e => .error e
  | .ok (t, r) =>
    match t.token with
    | .anchor name =>
      match r.drop.peek with
      | .error e => .error e
      | .ok (u, r) =>
        match u.token with
        | .tag handle suffix => .ok (⟨some name, some (handle, suffix), t.mark, u.mark⟩, r.drop)
        | _ => .ok (⟨some name, none, t.mark, t.mark⟩, r)
    | .tag handle suffix =>
      match r.drop.peek with
      | .error e => .error e
      | .ok (u, r) =>
        match u.token with
        | .anchor name => .ok (⟨some name, some (handle, suffix), t.mark, t.mark⟩, r.drop)
        | _ => .ok (⟨none, some (handle, suffix), t.mark, t.mark⟩, r)
    | _ => .ok (⟨none, none, t.mark, t.mark⟩, r)

/-- The tag with its handle replaced by what the handle stands for. -/
def expandTag (r : EventReader) (p : RawProperties) : Except Unreadable (Option Octets) :=
  match p.tag with
  | none => .ok none
  | some (handle, suffix) =>
    if handle.isEmpty then .ok (some suffix)
    else
      match r.handles.find? fun h => h.1 == handle with
      | some (_, stem) => .ok (some (stem ++ suffix))
      | none => faultIn ⟨"while parsing a node", p.start⟩ "found undefined tag handle" p.tagMark

/-- Read a node. In a block, block collections may follow; where `indentless`, a dash begins a
sequence at the column of its parent. -/
def readNode (r : EventReader) (block indentless : Bool) : Step :=
  match r.peek with
  | .error e => .error e
  | .ok (t, r) =>
    match t.token with
    | .alias name => r.drop.giveBack (.alias name) t.mark
    | _ =>
      match r.readProperties with
      | .error e => .error e
      | .ok (raw, r) =>
        match r.peek with
        | .error e => .error e
        | .ok (u, r) =>
          match r.expandTag raw with
          | .error e => .error e
          | .ok tag =>
            let props : Properties := ⟨raw.anchor, tag⟩
            let fail : Step :=
              if raw.anchor.isSome || tag.isSome then
                r.giveBack (.scalar props "" true) raw.start
              else
                faultIn
                  ⟨if block then "while parsing a block node" else "while parsing a flow node",
                    raw.start⟩
                  "did not find expected node content" u.mark
            match u.token with
            | .blockEntry =>
              if indentless then r.give (.sequenceStart props) raw.start .indentlessEntry else fail
            | .scalar text plain => r.drop.giveBack (.scalar props text plain) raw.start
            | .flowSequenceStart => r.give (.sequenceStart props) raw.start .flowSequenceFirst
            | .flowMappingStart => r.give (.mappingStart props) raw.start .flowMappingFirst
            | .blockSequenceStart =>
              if block then r.give (.sequenceStart props) raw.start .blockSequenceFirst else fail
            | .blockMappingStart =>
              if block then r.give (.mappingStart props) raw.start .blockMappingFirst else fail
            | _ => fail

/-! ### Documents -/

/-- The handles that every document knows. -/
def defaultHandles : List (String × Octets) :=
  [("!", .ofString "!"), ("!!", .ofString "tag:yaml.org,2002:")]

/-- Read the directives in front of a document. -/
def readDirectives : Nat → Bool → List (String × Octets) → EventReader →
    Except Unreadable EventReader
  | 0, _, handles, r => .ok { r with handles := handles }
  | fuel + 1, versioned, handles, r =>
    match r.peek with
    | .error e => .error e
    | .ok (t, r) =>
      match t.token with
      | .version major minor =>
        if versioned then fault "found duplicate %YAML directive" t.mark
        else if major ≠ 1 || (minor ≠ 1 && minor ≠ 2) then
          fault "found incompatible YAML document" t.mark
        else readDirectives fuel true handles r.drop
      | .tagDirective handle stem =>
        if handles.any fun h => h.1 == handle then fault "found duplicate %TAG directive" t.mark
        else readDirectives fuel versioned (handles ++ [(handle, stem)]) r.drop
      | _ => .ok { r with handles := handles ++ defaultHandles }

/-- Drop the document end markers here. -/
def dropEndMarkers : Nat → EventReader → Except Unreadable (Placed × EventReader)
  | 0, r => r.peek
  | fuel + 1, r =>
    match r.peek with
    | .error e => .error e
    | .ok (t, r) =>
      match t.token with
      | .documentEnd => dropEndMarkers fuel r.drop
      | _ => .ok (t, r)

/-- Whether a token begins a document that announces itself. -/
def announces : Token → Bool
  | .version .. => true
  | .tagDirective .. => true
  | .documentStart => true
  | _ => false

/-- Read the beginning of a document, or the end of the stream. -/
def readDocumentStart (r : EventReader) (implicit : Bool) : Step :=
  let fuel := r.lexer.cursor.bound + r.lexer.queue.length + 3
  let first := if implicit then r.peek else dropEndMarkers fuel r
  match first with
  | .error e => .error e
  | .ok (t, r) =>
    match t.token with
    | .streamEnd => r.drop.give .streamEnd t.mark .nothing
    | token =>
      if implicit && !announces token then
        let r := { r with handles := defaultHandles }
        (r.after .documentEnd).give .documentStart t.mark .blockNode
      else
        match readDirectives fuel false [] r with
        | .error e => .error e
        | .ok r =>
          match r.peek with
          | .error e => .error e
          | .ok (u, r) =>
            match u.token with
            | .documentStart =>
              (r.drop.after .documentEnd).give .documentStart t.mark .documentContent
            | _ => fault "did not find expected <document start>" u.mark

/-- Read the content of an announced document. -/
def readDocumentContent (r : EventReader) : Step :=
  match r.peek with
  | .error e => .error e
  | .ok (t, r) =>
    match t.token with
    | .version .. | .tagDirective .. | .documentStart | .documentEnd | .streamEnd =>
      r.giveBack (.scalar {} "" true) t.mark
    | _ => r.readNode true false

/-- Read the end of a document. -/
def readDocumentEnd (r : EventReader) : Step :=
  match r.peek with
  | .error e => .error e
  | .ok (t, r) =>
    match t.token with
    | .documentEnd => { r.drop with handles := [] }.give .documentEnd t.mark .document
    | _ => { r with handles := [] }.give .documentEnd t.mark .document

/-! ### Collections -/

/-- Read an entry of a block sequence or its end. -/
def readBlockEntry (r : EventReader) : Step :=
  match r.peek with
  | .error e => .error e
  | .ok (t, r) =>
    match t.token with
    | .blockEntry =>
      match r.drop.peek with
      | .error e => .error e
      | .ok (u, r) =>
        match u.token with
        | .blockEntry | .blockEnd => r.giveEmpty t.mark .blockSequenceEntry
        | _ => (r.after .blockSequenceEntry).readNode true false
    | .blockEnd => r.leave .sequenceEnd t.mark
    | _ =>
      r.misplaced "while parsing a block collection" "did not find expected '-' indicator" t.mark

/-- Read an entry of a sequence at its parent's column, or its end. -/
def readIndentlessEntry (r : EventReader) : Step :=
  match r.peek with
  | .error e => .error e
  | .ok (t, r) =>
    match t.token with
    | .blockEntry =>
      match r.drop.peek with
      | .error e => .error e
      | .ok (u, r) =>
        match u.token with
        | .blockEntry | .key | .value | .blockEnd => r.giveEmpty t.mark .indentlessEntry
        | _ => (r.after .indentlessEntry).readNode true false
    | _ => r.giveBack .sequenceEnd t.mark

/-- Read a key of a block mapping or its end. -/
def readBlockKey (r : EventReader) : Step :=
  match r.peek with
  | .error e => .error e
  | .ok (t, r) =>
    match t.token with
    | .key =>
      match r.drop.peek with
      | .error e => .error e
      | .ok (u, r) =>
        match u.token with
        | .key | .value | .blockEnd => r.giveEmpty t.mark .blockMappingValue
        | _ => (r.after .blockMappingValue).readNode true true
    | .blockEnd => r.leave .mappingEnd t.mark
    | _ => r.misplaced "while parsing a block mapping" "did not find expected key" t.mark

/-- Read a value of a block mapping. -/
def readBlockValue (r : EventReader) : Step :=
  match r.peek with
  | .error e => .error e
  | .ok (t, r) =>
    match t.token with
    | .value =>
      match r.drop.peek with
      | .error e => .error e
      | .ok (u, r) =>
        match u.token with
        | .key | .value | .blockEnd => r.giveEmpty t.mark .blockMappingKey
        | _ => (r.after .blockMappingKey).readNode true true
    | _ => r.giveEmpty t.mark .blockMappingKey

/-- Go into the collection that begins here if its first entry is to be read. -/
def enterFirst (r : EventReader) (first : Bool) : Except Unreadable EventReader :=
  if first then r.enter else .ok r

/-- The token behind a comma that must stand before all entries but the first. -/
def readSeparator (r : EventReader) (activity problem : String) (first : Bool) (t : Placed) :
    Except Unreadable (Placed × EventReader) :=
  if first then .ok (t, r)
  else
    match t.token with
    | .flowEntry => r.drop.peek
    | _ => r.misplaced activity problem t.mark

/-- Read an entry of a flow sequence or its end. -/
def readFlowEntry (r : EventReader) (first : Bool) : Step := do
  let r ← r.enterFirst first
  let (t, r) ← r.peek
  match t.token with
  | .flowSequenceEnd => r.leave .sequenceEnd t.mark
  | _ =>
    let (u, r) ←
      r.readSeparator "while parsing a flow sequence" "did not find expected ',' or ']'" first t
    match u.token with
    | .flowSequenceEnd => r.leave .sequenceEnd u.mark
    | .key => r.drop.give (.mappingStart {}) u.mark .flowPairKey
    | _ => (r.after .flowSequenceEntry).readNode false false

/-- Read the key of a pair that stands as an entry of a flow sequence. -/
def readPairKey (r : EventReader) : Step :=
  match r.peek with
  | .error e => .error e
  | .ok (t, r) =>
    match t.token with
    | .value | .flowEntry | .flowSequenceEnd => r.drop.giveEmpty t.mark .flowPairValue
    | _ => (r.after .flowPairValue).readNode false false

/-- Read the value of such a pair. -/
def readPairValue (r : EventReader) : Step :=
  match r.peek with
  | .error e => .error e
  | .ok (t, r) =>
    match t.token with
    | .value =>
      match r.drop.peek with
      | .error e => .error e
      | .ok (u, r) =>
        match u.token with
        | .flowEntry | .flowSequenceEnd => r.giveEmpty u.mark .flowPairEnd
        | _ => (r.after .flowPairEnd).readNode false false
    | _ => r.giveEmpty t.mark .flowPairEnd

/-- End such a pair. -/
def readPairEnd (r : EventReader) : Step :=
  match r.peek with
  | .error e => .error e
  | .ok (t, r) => r.give .mappingEnd t.mark .flowSequenceEntry

/-- Read a key of a flow mapping or its end. -/
def readFlowKey (r : EventReader) (first : Bool) : Step := do
  let r ← r.enterFirst first
  let (t, r) ← r.peek
  match t.token with
  | .flowMappingEnd => r.leave .mappingEnd t.mark
  | _ =>
    let (u, r) ←
      r.readSeparator "while parsing a flow mapping" "did not find expected ',' or '\x7d'" first t
    match u.token with
    | .flowMappingEnd => r.leave .mappingEnd u.mark
    | .key =>
      let (v, r) ← r.drop.peek
      match v.token with
      | .value | .flowEntry | .flowMappingEnd => r.giveEmpty v.mark .flowMappingValue
      | _ => (r.after .flowMappingValue).readNode false false
    | _ => (r.after .flowMappingNoValue).readNode false false

/-- Read a value of a flow mapping. -/
def readFlowValue (r : EventReader) (absent : Bool) : Step :=
  match r.peek with
  | .error e => .error e
  | .ok (t, r) =>
    if absent then r.giveEmpty t.mark .flowMappingKey
    else
      match t.token with
      | .value =>
        match r.drop.peek with
        | .error e => .error e
        | .ok (u, r) =>
          match u.token with
          | .flowEntry | .flowMappingEnd => r.giveEmpty u.mark .flowMappingKey
          | _ => (r.after .flowMappingKey).readNode false false
      | _ => r.giveEmpty t.mark .flowMappingKey

/-- The next event. -/
def next (r : EventReader) : Step :=
  match r.expected with
  | .implicitDocument => r.readDocumentStart true
  | .document => r.readDocumentStart false
  | .documentContent => r.readDocumentContent
  | .documentEnd => r.readDocumentEnd
  | .blockNode => r.readNode true false
  | .blockSequenceFirst =>
    match r.enter with
    | .error e => .error e
    | .ok r => r.readBlockEntry
  | .blockSequenceEntry => r.readBlockEntry
  | .indentlessEntry => r.readIndentlessEntry
  | .blockMappingFirst =>
    match r.enter with
    | .error e => .error e
    | .ok r => r.readBlockKey
  | .blockMappingKey => r.readBlockKey
  | .blockMappingValue => r.readBlockValue
  | .flowSequenceFirst => r.readFlowEntry true
  | .flowSequenceEntry => r.readFlowEntry false
  | .flowPairKey => r.readPairKey
  | .flowPairValue => r.readPairValue
  | .flowPairEnd => r.readPairEnd
  | .flowMappingFirst => r.readFlowKey true
  | .flowMappingKey => r.readFlowKey false
  | .flowMappingValue => r.readFlowValue false
  | .flowMappingNoValue => r.readFlowValue true
  | .nothing => .ok (⟨.streamEnd, r.lexer.mark⟩, r)

/-- The reader before a text. -/
def ofText (cs : List Char) : EventReader := { lexer := Lexer.ofText cs }

end EventReader

end LivePanel.Yaml
