import LivePanel.Yaml.Scalar

/-!
# The YAML lexer

Tokens are read on demand. Indentation opens and closes block structure, and a
node on one line may turn out to be a mapping key when a colon follows it, so
the lexer keeps the places of such nodes and inserts the tokens of the key in
front of theirs. A token is handed out only once no key can begin at it.
-/

namespace LivePanel.Yaml

/-- A place where a key without a question mark may have begun: the number of its token and
its mark. The key is required where the colon cannot be missing. -/
structure KeyPlace where
  required : Bool
  number : Nat
  mark : Mark

/-- Where a text becomes unreadable: the octet `place` of its first character that is not
allowed, and the octet `start` from which on it is in sight. -/
structure Barrier where
  start : Nat
  place : Nat

/-- The state of the lexer. `queue` holds the tokens read ahead, `taken` counts those handed
out; `indents` and `keys` are stacks, the innermost first. -/
structure Lexer where
  cursor : Cursor
  queue : List Placed := []
  taken : Nat := 0
  flowLevel : Nat := 0
  indent : Int := -1
  indents : List Int := []
  keyAllowed : Bool := true
  keys : List (Option KeyPlace) := [none]
  barrier : Option Barrier := none

namespace Lexer

/-- The longest key, in octets. -/
def keyLength : Nat := 1024

/-- The mark of the lexer. -/
def mark (l : Lexer) : Mark := l.cursor.mark

/-- Whether the lexer is inside a flow collection. -/
def inFlow (l : Lexer) : Bool := l.flowLevel != 0

/-- Add a token at the end of the queue. -/
def push (l : Lexer) (token : Token) (mark : Mark) : Lexer :=
  { l with queue := l.queue ++ [⟨token, mark⟩] }

/-- Add a token and go on behind its `n` characters. -/
def pushChars (l : Lexer) (token : Token) (n : Nat) : Lexer :=
  { l.push token l.mark with cursor := l.cursor.advance n }

/-- Insert a token so that it becomes token `number`. -/
def insertAt (l : Lexer) (number : Nat) (token : Token) (mark : Mark) : Lexer :=
  let place := number - l.taken
  { l with queue := l.queue.take place ++ [⟨token, mark⟩] ++ l.queue.drop place }

/-- Whether a place is too far back for its key to end here. -/
def isStale (l : Lexer) (k : KeyPlace) : Bool :=
  k.mark.line < l.mark.line || k.mark.index + keyLength < l.mark.index

/-- The failure of a required key without its colon. -/
def missingColon (l : Lexer) (k : KeyPlace) : Except Unreadable α :=
  faultIn ⟨"while scanning a simple key", k.mark⟩ "could not find expected ':'" l.mark

/-- Drop the places that are too far back. -/
def dropStale (l : Lexer) : Except Unreadable Lexer :=
  match l.keys.findSome? fun k => k.filter fun k => k.required && l.isStale k with
  | some k => l.missingColon k
  | none => .ok { l with keys := l.keys.map fun k => k.filter fun k => !l.isStale k }

/-- Forget the innermost place. -/
def dropKey (l : Lexer) : Except Unreadable Lexer :=
  match l.keys with
  | some k :: rest =>
    if k.required then l.missingColon k else .ok { l with keys := none :: rest }
  | _ => .ok l

/-- Remember that a key may begin here. -/
def saveKey (l : Lexer) : Except Unreadable Lexer :=
  if l.keyAllowed then
    match l.dropKey with
    | .error e => .error e
    | .ok l =>
      let required := !l.inFlow && l.indent == (l.mark.column : Int)
      let place : KeyPlace := ⟨required, l.taken + l.queue.length, l.mark⟩
      .ok { l with keys := some place :: l.keys.drop 1 }
  else .ok l

/-- Close the blocks that are deeper than `column`. -/
def closeBlocks (column : Int) : List Int → Lexer → Lexer
  | [], l => l
  | outer :: rest, l =>
    if l.indent > column then
      closeBlocks column rest { l.push .blockEnd l.mark with indent := outer, indents := rest }
    else l

/-- Close the blocks that are deeper than `column`, outside flow collections. -/
def unroll (l : Lexer) (column : Int) : Lexer :=
  if l.inFlow then l else closeBlocks column l.indents l

/-- Open a block at `column` unless one is open there; its token comes last, or becomes token
`number`. -/
def roll (l : Lexer) (column : Nat) (number : Option Nat) (token : Token) (mark : Mark) : Lexer :=
  if !l.inFlow && l.indent < (column : Int) then
    let l := { l with indents := l.indent :: l.indents, indent := column }
    match number with
    | none => l.push token mark
    | some n => l.insertAt n token mark
  else l

/-- Go on over gaps, comments and line breaks, and over a byte order mark that begins a line. -/
def skipToToken : Nat → Lexer → Lexer
  | 0, l => l
  | fuel + 1, l =>
    let c := l.cursor
    let c := if c.mark.column == 0 && c.has 0 (Char.ofNat 0xFEFF) then c.advance 1 else c
    let tabs := l.inFlow || !l.keyAllowed
    let c := c.skipWhile fun x => x = ' ' || (tabs && x = '\t')
    let c := if c.has 0 '#' then c.skipToBreak else c
    if c.hasIn 0 isBreak then
      skipToToken fuel
        { l with cursor := c.skipBreak, keyAllowed := l.keyAllowed || !l.inFlow }
    else { l with cursor := c }

/-- Close everything at the end of the text. -/
def fetchEnd (l : Lexer) : Except Unreadable Lexer :=
  let m := l.mark
  let m := if m.column ≠ 0 then { m with column := 0, line := m.line + 1 } else m
  let l := { l with cursor := { l.cursor with mark := m } }
  match (l.unroll (-1)).dropKey with
  | .error e => .error e
  | .ok l => .ok { l.push .streamEnd l.mark with keyAllowed := false }

/-- Read a directive. -/
def fetchDirective (l : Lexer) : Except Unreadable Lexer :=
  match (l.unroll (-1)).dropKey with
  | .error e => .error e
  | .ok l =>
    match scanDirective l.cursor with
    | .error e => .error e
    | .ok (t, c) => .ok { l.push t.token t.mark with keyAllowed := false, cursor := c }

/-- Read a document marker. -/
def fetchMarker (l : Lexer) (token : Token) : Except Unreadable Lexer :=
  match (l.unroll (-1)).dropKey with
  | .error e => .error e
  | .ok l => .ok ({ l with keyAllowed := false }.pushChars token 3)

/-- Read the opening of a flow collection. -/
def fetchFlowStart (l : Lexer) (token : Token) : Except Unreadable Lexer :=
  match l.saveKey with
  | .error e => .error e
  | .ok l =>
    let l := { l with keys := none :: l.keys, flowLevel := l.flowLevel + 1, keyAllowed := true }
    .ok (l.pushChars token 1)

/-- Read the closing of a flow collection. -/
def fetchFlowEnd (l : Lexer) (token : Token) : Except Unreadable Lexer :=
  match l.dropKey with
  | .error e => .error e
  | .ok l =>
    let l :=
      if l.inFlow then { l with keys := l.keys.drop 1, flowLevel := l.flowLevel - 1 } else l
    .ok ({ l with keyAllowed := false }.pushChars token 1)

/-- Read a comma between the entries of a flow collection. -/
def fetchFlowEntry (l : Lexer) : Except Unreadable Lexer :=
  match l.dropKey with
  | .error e => .error e
  | .ok l => .ok ({ l with keyAllowed := true }.pushChars .flowEntry 1)

/-- Open a block for an indicator that stands here, where one may stand; `what` it introduces is
told otherwise. -/
def openBlock (l : Lexer) (token : Token) (what : String) : Except Unreadable Lexer :=
  if l.inFlow then .ok l
  else if l.keyAllowed then .ok (l.roll l.mark.column none token l.mark)
  else fault (what ++ " are not allowed in this context") l.mark

/-- Read the dash of a sequence entry. -/
def fetchBlockEntry (l : Lexer) : Except Unreadable Lexer :=
  match l.openBlock .blockSequenceStart "block sequence entries" with
  | .error e => .error e
  | .ok l =>
    match l.dropKey with
    | .error e => .error e
    | .ok l => .ok ({ l with keyAllowed := true }.pushChars .blockEntry 1)

/-- Read the question mark of a key. -/
def fetchKey (l : Lexer) : Except Unreadable Lexer :=
  match l.openBlock .blockMappingStart "mapping keys" with
  | .error e => .error e
  | .ok l =>
    match l.dropKey with
    | .error e => .error e
    | .ok l => .ok ({ l with keyAllowed := !l.inFlow }.pushChars .key 1)

/-- Read the colon before a value. -/
def fetchValue (l : Lexer) : Except Unreadable Lexer :=
  match l.keys with
  | some k :: rest =>
    let l := l.insertAt k.number .key k.mark
    let l := l.roll k.mark.column (some k.number) .blockMappingStart k.mark
    .ok ({ l with keys := none :: rest, keyAllowed := false }.pushChars .value 1)
  | _ =>
    match l.openBlock .blockMappingStart "mapping values" with
    | .error e => .error e
    | .ok l => .ok ({ l with keyAllowed := !l.inFlow }.pushChars .value 1)

/-- Read a token that a key may begin with. -/
def fetchNode (l : Lexer) (scan : Cursor → Scan Placed) : Except Unreadable Lexer :=
  match l.saveKey with
  | .error e => .error e
  | .ok l =>
    match scan l.cursor with
    | .error e => .error e
    | .ok (t, c) => .ok { l.push t.token t.mark with keyAllowed := false, cursor := c }

/-- Read a plain scalar. -/
def fetchPlain (l : Lexer) : Except Unreadable Lexer :=
  match l.saveKey with
  | .error e => .error e
  | .ok l =>
    match scanPlain l.inFlow l.indent l.cursor with
    | .error e => .error e
    | .ok ((t, broken), c) => .ok { l.push t.token t.mark with keyAllowed := broken, cursor := c }

/-- Read a block scalar. -/
def fetchBlockScalar (l : Lexer) (literal : Bool) : Except Unreadable Lexer :=
  match l.dropKey with
  | .error e => .error e
  | .ok l =>
    match scanBlock literal l.indent l.cursor with
    | .error e => .error e
    | .ok (t, c) => .ok { l.push t.token t.mark with keyAllowed := true, cursor := c }

/-- The characters that begin something other than a plain scalar. -/
def isIndicator (c : Char) : Bool :=
  ['-', '?', ':', ',', '[', ']', '\x7b', '\x7d', '#', '&', '*', '!', '|', '>', '\'', '"', '%', '@',
    '\x60'].contains c

/-- Whether a plain scalar begins here. -/
def startsPlain (l : Lexer) : Bool :=
  let c := l.cursor
  !(c.gapOrEnd 0 || c.hasIn 0 isIndicator) ||
    (c.has 0 '-' && !c.hasIn 1 isGap) ||
    (!l.inFlow && (c.has 0 '?' || c.has 0 ':') && !c.gapOrEnd 1)

/-- Read the token that begins here. -/
def fetchToken (l : Lexer) : Except Unreadable Lexer :=
  let c := l.cursor
  if c.atEnd then l.fetchEnd
  else if c.mark.column == 0 && c.has 0 '%' then l.fetchDirective
  else if c.atMarker '-' then l.fetchMarker .documentStart
  else if c.atMarker '.' then l.fetchMarker .documentEnd
  else if c.has 0 '[' then l.fetchFlowStart .flowSequenceStart
  else if c.has 0 '\x7b' then l.fetchFlowStart .flowMappingStart
  else if c.has 0 ']' then l.fetchFlowEnd .flowSequenceEnd
  else if c.has 0 '\x7d' then l.fetchFlowEnd .flowMappingEnd
  else if c.has 0 ',' then l.fetchFlowEntry
  else if c.has 0 '-' && c.gapOrEnd 1 then l.fetchBlockEntry
  else if c.has 0 '?' && (l.inFlow || c.gapOrEnd 1) then l.fetchKey
  else if c.has 0 ':' && (l.inFlow || c.gapOrEnd 1) then l.fetchValue
  else if c.has 0 '*' then l.fetchNode (scanAnchor "while scanning an alias" .alias)
  else if c.has 0 '&' then l.fetchNode (scanAnchor "while scanning an anchor" .anchor)
  else if c.has 0 '!' then l.fetchNode (scanTag l.inFlow)
  else if c.has 0 '|' && !l.inFlow then l.fetchBlockScalar true
  else if c.has 0 '>' && !l.inFlow then l.fetchBlockScalar false
  else if c.has 0 '\'' then l.fetchNode (scanQuoted true)
  else if c.has 0 '"' then l.fetchNode (scanQuoted false)
  else if l.startsPlain then l.fetchPlain
  else
    faultIn ⟨"while scanning for the next token", l.mark⟩
      "found character that cannot start any token" l.mark

/-- The failure of a text for its character that is not allowed. It has no line. -/
def badCharacter (b : Barrier) : Except Unreadable α :=
  fault "control characters are not allowed" { index := b.place }

/-- Go on unless one of the next `n` characters is behind the barrier. -/
def inSight (n : Nat) (l : Lexer) : Except Unreadable Lexer :=
  match l.barrier.filter fun b => b.start < l.mark.index + l.cursor.octets n with
  | some b => badCharacter b
  | none => .ok l

/-- Read the token that begins here. Whatever fails behind the barrier fails for the character
that is not allowed there. -/
def fetchWithin (l : Lexer) : Except Unreadable Lexer :=
  match l.fetchToken with
  | .error e =>
    match l.barrier.filter fun b => e.mark.any fun m => b.start ≤ m.index with
    | some b => badCharacter b
    | none => .error e
  | .ok l => l.inSight 1

/-- Read on to the next token and read it; its first four characters are looked at together. -/
def fetch (l : Lexer) : Except Unreadable Lexer := do
  let l ← (skipToToken (l.cursor.bound + 1) l).inSight 1
  let l ← l.dropStale
  let l ← (l.unroll l.mark.column).inSight 4
  l.fetchWithin

/-- Whether the first token of the queue cannot be handed out yet. -/
def needsMore (l : Lexer) : Bool :=
  l.queue.isEmpty || l.keys.any fun k => k.any fun k => k.number == l.taken

/-- Read tokens until the first of the queue can be handed out. -/
def fill : Nat → Lexer → Except Unreadable Lexer
  | 0, l => .ok l
  | fuel + 1, l =>
    if l.queue.isEmpty then
      match l.fetch with
      | .error e => .error e
      | .ok l => fill fuel l
    else
      match l.dropStale with
      | .error e => .error e
      | .ok l =>
        if l.needsMore then
          match l.fetch with
          | .error e => .error e
          | .ok l => fill fuel l
        else .ok l

/-- The next token, left in the queue. -/
def peek (l : Lexer) : Except Unreadable (Placed × Lexer) :=
  match fill (l.cursor.bound + 3) l with
  | .error e => .error e
  | .ok l =>
    match l.queue with
    | t :: _ => .ok (t, l)
    | [] => fault "EOF while parsing a value" l.mark

/-- Hand out the first token of the queue. -/
def take (l : Lexer) : Lexer := { l with queue := l.queue.drop 1, taken := l.taken + 1 }

/-- The octets of a text that are taken in at once. -/
def pieceSize : Nat := 16384

/-- The barrier of a text: the piece that holds its first character that is not allowed. The
characters given stand at octet `place`, in the piece from `start` on. -/
def barrier? (start place : Nat) : List Char → Option Barrier
  | [] => none
  | x :: rest =>
    let start := if place + x.utf8Size > start + pieceSize then place else start
    if isAllowed x then barrier? start (place + x.utf8Size) rest else some ⟨start, place⟩

/-- The lexer before a text. A text is taken in piece by piece, each with all its characters, so
one that is not allowed is found when its piece begins. -/
def ofText (cs : List Char) : Lexer := { cursor := { rest := cs }, barrier := barrier? 0 0 cs }

end Lexer

end LivePanel.Yaml
