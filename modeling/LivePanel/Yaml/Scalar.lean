import LivePanel.Yaml.Token

/-!
# YAML scalars

Readers of the three ways to write a scalar: plain, in quotes, and as a block.
Lines of plain and quoted scalars are folded: one break becomes a space, further
breaks stay. The lines of a literal block stay as they are; those of a folded
block are joined unless one of them begins with a gap.
-/

namespace LivePanel.Yaml

/-- Blanks between two runs of characters: gaps on one line, or a first break and those after it. -/
structure Spacing where
  gaps : List Char := []
  first : List Char := []
  later : List Char := []
  broken : Bool := false

/-- The text that the blanks stand for. -/
def Spacing.text (s : Spacing) : List Char :=
  if s.broken then
    if s.first.head? == some '\n' then (if s.later.isEmpty then [' '] else s.later)
    else s.first ++ s.later
  else s.gaps.reverse

/-! ### Plain scalars -/

/-- Read gaps and breaks inside a plain scalar whose lines must reach column `indent`. -/
def scanPlainBlanks (context : Context) (indent : Int) : Nat → Spacing → Cursor → Scan Spacing
  | 0, s, c => .ok (s, c)
  | fuel + 1, s, c =>
    match c.rest with
    | [] => .ok (s, c)
    | x :: _ =>
      if isGap x then
        if s.broken && (c.mark.column : Int) < indent && x = '\t' then
          faultIn context "found a tab character that violates indentation" c.mark
        else
          let s := if s.broken then s else { s with gaps := x :: s.gaps }
          scanPlainBlanks context indent fuel s (c.advance 1)
      else if isBreak x then
        let s : Spacing :=
          if s.broken then { s with later := s.later ++ c.breakText }
          else { first := c.breakText, broken := true }
        scanPlainBlanks context indent fuel s c.skipBreak
      else .ok (s, c)

/-- Whether a plain scalar ends before the character here. -/
def endsPlain (inFlow : Bool) (c : Cursor) : Bool :=
  (c.has 0 ':' && c.gapOrEnd 1) ||
    (inFlow && c.hasIn 0 ([',', '[', ']', '\x7b', '\x7d'].contains ·))

/-- Whether a colon here stands before a flow indicator, which no plain scalar admits. -/
def strayColon (inFlow : Bool) (c : Cursor) : Bool :=
  inFlow && c.has 0 ':' && c.hasIn 1 ([',', '?', '[', ']', '\x7b', '\x7d'].contains ·)

/-- Read a run of characters without blanks onto `acc`. -/
def scanPlainRun (context : Context) (inFlow : Bool) :
    Nat → List Char → Cursor → Scan (List Char)
  | 0, acc, c => .ok (acc, c)
  | fuel + 1, acc, c =>
    match c.rest with
    | [] => .ok (acc, c)
    | x :: _ =>
      if isGap x || isBreak x then .ok (acc, c)
      else if strayColon inFlow c then faultIn context "found unexpected ':'" c.mark
      else if endsPlain inFlow c then .ok (acc, c)
      else scanPlainRun context inFlow fuel (x :: acc) (c.advance 1)

/-- Read the lines of a plain scalar: its characters in reverse, and whether a line break was
read behind them. -/
def scanPlainLines (context : Context) (inFlow : Bool) (indent : Int) :
    Nat → List Char → Spacing → Cursor → Scan (List Char × Bool)
  | 0, acc, s, c => .ok ((acc, s.broken), c)
  | fuel + 1, acc, s, c =>
    if c.atDocumentMarker || c.has 0 '#' then .ok ((acc, s.broken), c)
    else
      match scanPlainRun context inFlow (c.bound + 1) [] c with
      | .error e => .error e
      | .ok (run, after) =>
        let (acc, s) : List Char × Spacing :=
          if run.isEmpty then (acc, s) else (run ++ s.text.reverse ++ acc, {})
        if !(after.hasIn 0 fun x => isGap x || isBreak x) then .ok ((acc, s.broken), after)
        else
          match scanPlainBlanks context indent (after.bound + 1) s after with
          | .error e => .error e
          | .ok (s, c) =>
            if !inFlow && (c.mark.column : Int) < indent then .ok ((acc, s.broken), c)
            else scanPlainLines context inFlow indent fuel acc s c

/-- A plain scalar; the flag says whether a line break follows it. -/
def scanPlain (inFlow : Bool) (indent : Int) (c : Cursor) : Scan (Placed × Bool) :=
  let context : Context := ⟨"while scanning a plain scalar", c.mark⟩
  match scanPlainLines context inFlow (indent + 1) (c.bound + 1) [] {} c with
  | .error e => .error e
  | .ok ((acc, broken), after) =>
    .ok ((⟨.scalar (String.ofList acc.reverse) true, c.mark⟩, broken), after)

/-! ### Quoted scalars -/

/-- What the character after a backslash stands for, where that is one character. -/
def escaped? (x : Char) : Option Char :=
  match x with
  | '0' => some (Char.ofNat 0)
  | 'a' => some (Char.ofNat 7)
  | 'b' => some (Char.ofNat 8)
  | 't' => some '\t'
  | '\t' => some '\t'
  | 'n' => some '\n'
  | 'v' => some (Char.ofNat 11)
  | 'f' => some (Char.ofNat 12)
  | 'r' => some '\r'
  | 'e' => some (Char.ofNat 27)
  | ' ' => some ' '
  | '"' => some '"'
  | '/' => some '/'
  | '\\' => some '\\'
  | 'N' => some (Char.ofNat 0x85)
  | '_' => some (Char.ofNat 0xA0)
  | 'L' => some (Char.ofNat 0x2028)
  | 'P' => some (Char.ofNat 0x2029)
  | _ => none

/-- The number of hexadecimal digits after an escape. -/
def codeLength? (x : Char) : Option Nat :=
  if x = 'x' then some 2 else if x = 'u' then some 4 else if x = 'U' then some 8 else none

/-- The character of an escape that stands here, in a scalar that begins at `start`. -/
def scanEscape (start : Mark) (c : Cursor) : Scan Char :=
  let context : Context := ⟨"while parsing a quoted scalar", start⟩
  match c.ahead? 1 with
  | none => faultIn context "found unknown escape character" c.mark
  | some x =>
    match escaped? x with
    | some d => .ok (d, c.advance 2)
    | none =>
      match codeLength? x with
      | none => faultIn context "found unknown escape character" c.mark
      | some n =>
        let c := c.advance 2
        let digits := c.rest.take n
        match (Text.digits? 16 digits).filter fun _ => digits.length = n with
        | none => faultIn context "did not find expected hexdecimal number" c.mark
        | some code =>
          if (0xD800 ≤ code && code ≤ 0xDFFF) || code > 0x10FFFF then
            faultIn context "found invalid Unicode character escape code" c.mark
          else .ok (Char.ofNat code, c.advance n)

/-- How a run inside quotes ended. -/
inductive RunEnd where
  | blank
  | escapedBreak
deriving DecidableEq

/-- Read a run of characters without blanks onto `acc`. -/
def scanQuotedRun (start : Mark) (single : Bool) :
    Nat → List Char → Cursor → Scan (List Char × RunEnd)
  | 0, acc, c => .ok ((acc, .blank), c)
  | fuel + 1, acc, c =>
    match c.rest with
    | [] => .ok ((acc, .blank), c)
    | x :: _ =>
      if isGap x || isBreak x then .ok ((acc, .blank), c)
      else if single && x = '\'' && c.has 1 '\'' then
        scanQuotedRun start single fuel ('\'' :: acc) (c.advance 2)
      else if x = (if single then '\'' else '"') then .ok ((acc, .blank), c)
      else if !single && x = '\\' then
        if c.hasIn 1 isBreak then .ok ((acc, .escapedBreak), (c.advance 1).skipBreak)
        else
          match scanEscape start c with
          | .error e => .error e
          | .ok (d, c) => scanQuotedRun start single fuel (d :: acc) c
      else scanQuotedRun start single fuel (x :: acc) (c.advance 1)

/-- Read gaps and breaks inside quotes. -/
def scanQuotedBlanks : Nat → Spacing → Cursor → Spacing × Cursor
  | 0, s, c => (s, c)
  | fuel + 1, s, c =>
    match c.rest with
    | [] => (s, c)
    | x :: _ =>
      if isGap x then
        let s := if s.broken then s else { s with gaps := x :: s.gaps }
        scanQuotedBlanks fuel s (c.advance 1)
      else if isBreak x then
        let s : Spacing :=
          if s.broken then { s with later := s.later ++ c.breakText }
          else { first := c.breakText, broken := true }
        scanQuotedBlanks fuel s c.skipBreak
      else (s, c)

/-- Read the lines of a quoted scalar that begins at `start` up to its closing quote. -/
def scanQuotedLines (start : Mark) (single : Bool) : Nat → List Char → Cursor → Scan (List Char)
  | 0, _, c => faultIn ⟨"while scanning a quoted scalar", start⟩ "found unexpected end of stream"
      c.mark
  | fuel + 1, acc, c =>
    let context : Context := ⟨"while scanning a quoted scalar", start⟩
    if c.atDocumentMarker then faultIn context "found unexpected document indicator" c.mark
    else if c.atEnd then faultIn context "found unexpected end of stream" c.mark
    else
      match scanQuotedRun start single (c.bound + 1) acc c with
      | .error e => .error e
      | .ok ((acc, ending), c) =>
        if c.has 0 (if single then '\'' else '"') then .ok (acc, c.advance 1)
        else
          let before : Spacing := { broken := ending = .escapedBreak }
          let (s, c) := scanQuotedBlanks (c.bound + 1) before c
          scanQuotedLines start single fuel (s.text.reverse ++ acc) c

/-- A quoted scalar. -/
def scanQuoted (single : Bool) (c : Cursor) : Scan Placed :=
  match scanQuotedLines c.mark single (c.bound + 1) [] (c.advance 1) with
  | .error e => .error e
  | .ok (acc, after) => .ok (⟨.scalar (String.ofList acc.reverse) false, c.mark⟩, after)

/-! ### Block scalars -/

/-- What becomes of the breaks at the end of a block. -/
inductive Chomping where
  | clip
  | strip
  | keep
deriving DecidableEq

/-- The chomping indicator here, if there is one. -/
def chomping? (c : Cursor) : Option Chomping :=
  if c.has 0 '+' then some .keep else if c.has 0 '-' then some .strip else none

/-- The indentation indicator here: a digit other than zero. -/
def scanIndicator (context : Context) (c : Cursor) : Scan (Option Nat) :=
  if c.has 0 '0' then faultIn context "found an indentation indicator equal to 0" c.mark
  else if c.hasIn 0 Text.isDigit then
    .ok ((c.ahead? 0).map fun x => x.toNat - 48, c.advance 1)
  else .ok (none, c)

/-- The indicators of a block in either order. -/
def scanBlockHeader (context : Context) (c : Cursor) : Scan (Chomping × Option Nat) :=
  match chomping? c with
  | some ch =>
    match scanIndicator context (c.advance 1) with
    | .error e => .error e
    | .ok (n, c) => .ok ((ch, n), c)
  | none =>
    match scanIndicator context c with
    | .error e => .error e
    | .ok (none, c) => .ok ((.clip, none), c)
    | .ok (some n, c) =>
      match chomping? c with
      | some ch => .ok ((ch, some n), c.advance 1)
      | none => .ok ((.clip, some n), c)

/-- Read the indentation and the empty lines before a line of a block: the breaks, and the
furthest column reached. The indentation is not known yet where `indent` is zero. -/
def scanBlockBreaks (context : Context) (indent : Nat) :
    Nat → List Char → Nat → Cursor → Scan (List Char × Nat)
  | 0, breaks, furthest, c => .ok ((breaks, furthest), c)
  | fuel + 1, breaks, furthest, c =>
    let spaces := (c.rest.takeWhile (· = ' ')).length
    let c := c.advance (if indent = 0 then spaces else min spaces (indent - c.mark.column))
    let furthest := max furthest c.mark.column
    if (indent = 0 || c.mark.column < indent) && c.has 0 '\t' then
      faultIn context "found a tab character where an indentation space is expected" c.mark
    else if c.hasIn 0 isBreak then
      scanBlockBreaks context indent fuel (breaks ++ c.breakText) furthest c.skipBreak
    else .ok ((breaks, furthest), c)

/-- The lines of a block so far. -/
structure BlockText where
  acc : List Char := []
  first : List Char := []
  later : List Char := []
  afterGap : Bool := false

/-- Read the lines of a block whose indentation is known. -/
def scanBlockLines (context : Context) (literal : Bool) (indent : Nat) :
    Nat → BlockText → Cursor → Scan BlockText
  | 0, b, c => .ok (b, c)
  | fuel + 1, b, c =>
    if c.mark.column ≠ indent || c.atEnd then .ok (b, c)
    else
      let gap := c.hasIn 0 isGap
      let joint :=
        if !literal && b.first.head? == some '\n' && !b.afterGap && !gap then
          if b.later.isEmpty then [' '] else []
        else b.first
      let line := c.rest.takeWhile fun x => !isBreak x
      let c := c.advance line.length
      let acc := line.reverse ++ b.later.reverse ++ joint.reverse ++ b.acc
      let first := c.breakText
      match scanBlockBreaks context indent (c.bound + 1) [] 0 c.skipBreak with
      | .error e => .error e
      | .ok ((later, _), c) =>
        scanBlockLines context literal indent fuel ⟨acc, first, later, gap⟩ c

/-- The text of a block with its end chomped. -/
def BlockText.text (b : BlockText) : Chomping → List Char
  | .strip => b.acc.reverse
  | .clip => b.acc.reverse ++ b.first
  | .keep => b.acc.reverse ++ b.first ++ b.later

/-- A block scalar inside a structure at column `parent`. -/
def scanBlock (literal : Bool) (parent : Int) (c : Cursor) : Scan Placed :=
  let start := c.mark
  let context : Context := ⟨"while scanning a block scalar", start⟩
  match scanBlockHeader context (c.advance 1) with
  | .error e => .error e
  | .ok ((chomping, increment), c) =>
    let c := c.skipGapsAndComment
    if !c.breakOrEnd 0 then
      faultIn context "did not find expected comment or line break" c.mark
    else
      let c := c.skipBreak
      let given :=
        match increment with
        | some n => if 0 ≤ parent then parent.toNat + n else n
        | none => 0
      match scanBlockBreaks context given (c.bound + 1) [] 0 c with
      | .error e => .error e
      | .ok ((later, furthest), c) =>
        let indent := if given = 0 then max (max furthest (parent + 1).toNat) 1 else given
        match scanBlockLines context literal indent (c.bound + 1) { later := later } c with
        | .error e => .error e
        | .ok (b, c) => .ok (⟨.scalar (String.ofList (b.text chomping)) false, start⟩, c)

end LivePanel.Yaml
