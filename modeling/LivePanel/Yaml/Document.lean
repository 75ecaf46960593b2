import LivePanel.Number.Decimal
import LivePanel.Text.Shown
import LivePanel.Yaml.Basic
import LivePanel.Yaml.Event

/-!
# YAML documents

The value of a text that holds one document. Anchors are resolved by copying, a
plain scalar is read as null, a boolean, a number or a text by its spelling, and
the core tags force a reading. Nesting and copying are bounded, and a key that
occurs twice in a mapping makes the text unreadable. What a value fails by is
told with the place of the value, as the steps that lead to it.
-/

namespace LivePanel.Yaml

/-! ### Plain scalars -/

/-- What a scalar's text says of a whole number. -/
inductive WholeNumber where
  | fits (n : Int)
  | outOfRange (n : Int)
  | notWhole

/-- Digits that begin with a zero are no number, unless they are one zero. -/
def isPaddedDigits (cs : List Char) : Bool :=
  let body :=
    match cs with
    | '-' :: rest => rest
    | '+' :: rest => rest
    | _ => cs
  match body with
  | '0' :: c :: rest => (c :: rest).all Text.isDigit
  | _ => false

/-- The size of an unsigned number in one of the bases. -/
def unsignedSize? (cs : List Char) : Option Nat :=
  let body :=
    match cs with
    | '+' :: rest => rest
    | _ => cs
  match body with
  | '0' :: 'x' :: rest => Text.digits? 16 rest
  | '0' :: 'o' :: rest => Text.digits? 8 rest
  | '0' :: 'b' :: rest => Text.digits? 2 rest
  | _ => if isPaddedDigits cs then none else Text.digits? 10 body

/-- The size of a number behind a minus sign in one of the bases. -/
def negativeSize? : List Char → Option Nat
  | '-' :: '0' :: 'x' :: rest => Text.digits? 16 rest
  | '-' :: '0' :: 'o' :: rest => Text.digits? 8 rest
  | '-' :: '0' :: 'b' :: rest => Text.digits? 2 rest
  | '-' :: rest => if isPaddedDigits rest then none else Text.digits? 10 rest
  | _ => none

/-- The whole number that a text spells. One of more than 128 bits counts as no whole number. -/
def wholeNumber (cs : List Char) : WholeNumber :=
  match unsignedSize? cs with
  | some n =>
    if n < Nat.pow 2 64 then .fits n
    else if n < Nat.pow 2 128 then .outOfRange n
    else .notWhole
  | none =>
    match negativeSize? cs with
    | some n =>
      if n ≤ Nat.pow 2 63 then .fits (-(n : Int))
      else if n ≤ Nat.pow 2 127 then .outOfRange (-(n : Int))
      else .notWhole
    | none => .notWhole

/-- Whether a text spells null. -/
def isNullText (s : String) : Bool := s = "null" || s = "Null" || s = "NULL" || s = "~"

/-- The boolean that a text spells. -/
def boolText? (s : String) : Option Bool :=
  if s = "true" || s = "True" || s = "TRUE" then some true
  else if s = "false" || s = "False" || s = "FALSE" then some false
  else none

/-- The floating-point number that a text spells. -/
def realText? (s : String) : Option Real :=
  let cs := s.toList
  let unsigned :=
    match cs with
    | '+' :: '+' :: _ => none
    | '+' :: '-' :: _ => none
    | '+' :: rest => some rest
    | _ => some cs
  match unsigned with
  | none => none
  | some body =>
    let b := String.ofList body
    if b = ".inf" || b = ".Inf" || b = ".INF" then some (.infinity false)
    else if s = "-.inf" || s = "-.Inf" || s = "-.INF" then some (.infinity true)
    else if s = ".nan" || s = ".NaN" || s = ".NAN" then some .nan
    else (Double.ofText? body).map .finite

/-- What is told of a whole number that is out of range. -/
def wideNumber (n : Int) : String :=
  "invalid type: integer \x60" ++ toString n ++ "\x60 as " ++ (if 0 ≤ n then "u128" else "i128") ++
    ", expected any YAML value"

/-- The value of a plain scalar, or the problem with it. -/
def ofPlain (s : String) : Except String Yaml :=
  if s.isEmpty || isNullText s then .ok .null
  else
    match boolText? s with
    | some b => .ok (.bool b)
    | none =>
      match wholeNumber s.toList with
      | .fits n => .ok (.int n)
      | .outOfRange n => .error (wideNumber n)
      | .notWhole =>
        if isPaddedDigits s.toList then .ok (.str s)
        else
          match realText? s with
          | some r => .ok (.real r)
          | none => .ok (.str s)

/-- The core tag of a name. -/
def coreTag (name : String) : Octets := .ofString ("tag:yaml.org,2002:" ++ name)

/-- Whether a tag is local: it begins with an exclamation mark. -/
def isLocal (tag : Octets) : Bool := tag.head? == some 0x21

/-- What is told of a text that a core tag does not admit. -/
def unfit (s expected : String) : String :=
  "invalid value: string " ++ Text.shown s ++ ", expected " ++ expected

/-- The value of a scalar with a tag that makes no tagged value: a core tag, another one that is
not local, or a local one that is no text. -/
def ofTaggedText (tag : Octets) (plain : Bool) (s : String) : Except String Yaml :=
  if tag = coreTag "bool" then
    match boolText? s with
    | some b => .ok (.bool b)
    | none => .error (unfit s "a boolean")
  else if tag = coreTag "int" then
    match wholeNumber s.toList with
    | .fits n => .ok (.int n)
    | .outOfRange n => .error (wideNumber n)
    | .notWhole => .error (unfit s "an integer")
  else if tag = coreTag "float" then
    match realText? s with
    | some r => .ok (.real r)
    | none => .error (unfit s "a float")
  else if tag = coreTag "null" then
    if isNullText s then .ok .null else .error (unfit s "null")
  else if isLocal tag && plain then ofPlain s
  else .ok (.str s)

/-- A tag without one exclamation mark in front, unless nothing else is left. -/
def unmarked (t : String) : String :=
  match t.toList with
  | '!' :: c :: rest => String.ofList (c :: rest)
  | _ => t

/-- The name of a local tag that is a text; up to two exclamation marks in front do not count. -/
def localTag? (tag : Option Octets) : Option String :=
  (tag.filter isLocal).bind fun t => (Octets.text? t).map fun s => unmarked (unmarked s)

/-- The value of a scalar whose local tag, if it has one, is dealt with. -/
def ofScalar (tag : Option Octets) (plain : Bool) (s : String) : Except String Yaml :=
  match tag with
  | some t => ofTaggedText t plain s
  | none => if plain then ofPlain s else .ok (.str s)

/-! ### One document -/

/-- A part of a document: as the events, with aliases by the number of their anchor. -/
inductive Part where
  | nothing
  | alias (anchor : Nat)
  | scalar (tag : Option Octets) (text : String) (plain : Bool)
  | sequence (tag : Option Octets)
  | mapping (tag : Option Octets)
  | close

/-- The parts of a document read so far. `names` gives the number of each anchor name and
`places` the part that a number stands for, the latest first. -/
structure Parts where
  parts : Array (Part × Mark) := #[]
  names : Table Nat := []
  places : List (Nat × Nat) := []
  failure : Option Unreadable := none

/-- Add a part. -/
def Parts.push (p : Parts) (part : Part) (mark : Mark) : Parts :=
  { p with parts := p.parts.push (part, mark) }

/-- Give the next part its anchor: the number is that of names known before. -/
def Parts.anchor (p : Parts) (name : Option String) : Parts :=
  match name with
  | none => p
  | some name =>
    let n := p.names.length
    { p with names := p.names.put name n, places := (n, p.parts.size) :: p.places }

/-- Read the parts of a document up to its end. The second component is the reader after the
document, if the document has an end. -/
def readParts : Nat → Parts → EventReader → Parts × Option EventReader
  | 0, p, _ => (p, none)
  | fuel + 1, p, r =>
    match r.next with
    | .error e => ({ p with failure := some e }, none)
    | .ok (⟨event, mark⟩, r) =>
      match event with
      | .streamEnd => (if p.parts.isEmpty then p.push .nothing mark else p, some r)
      | .documentStart => readParts fuel p r
      | .documentEnd => (p, some r)
      | .alias name =>
        match p.names.get? name with
        | some n => readParts fuel (p.push (.alias n) mark) r
        | none => ({ p with failure := some ⟨"unknown anchor", some mark, none⟩ }, none)
      | .scalar props text plain =>
        readParts fuel ((p.anchor props.anchor).push (.scalar props.tag text plain) mark) r
      | .sequenceStart props =>
        readParts fuel ((p.anchor props.anchor).push (.sequence props.tag) mark) r
      | .mappingStart props =>
        readParts fuel ((p.anchor props.anchor).push (.mapping props.tag) mark) r
      | .sequenceEnd => readParts fuel (p.push .close mark) r
      | .mappingEnd => readParts fuel (p.push .close mark) r

/-- The levels that collections may nest. -/
def nestingLimit : Nat := 128

/-- How often an alias may be followed for each part of the document. -/
def copyLimit : Nat := 100

/-- Where the next value begins, and how many aliases have been followed. -/
structure Position where
  part : Nat
  copies : Nat

/-- The part at a position; past the last one, what ended the document. -/
def Parts.at (p : Parts) (pos : Position) : Except Unreadable (Part × Mark) :=
  match p.parts[pos.part]? with
  | some found => .ok found
  | none => .error (p.failure.getD { problem := "EOF while parsing a value" })

/-- The next position. -/
def Position.next (pos : Position) : Position := { pos with part := pos.part + 1 }

/-- A step from a collection to a part of it. -/
inductive Descent where
  | item (n : Nat)
  | key (text : String)
  | unknown

/-- The place that steps lead to, the last one first. -/
def placeText : List Descent → String
  | [] => "."
  | .item n :: up => placeText up ++ "[" ++ toString n ++ "]"
  | .key k :: up => (if up.isEmpty then "" else placeText up ++ ".") ++ k
  | .unknown :: up => (if up.isEmpty then "" else placeText up ++ ".") ++ "?"

/-- The step to the value of a key that is the part. -/
def Part.descent : Part → Descent
  | .scalar _ text _ => .key text
  | _ => .unknown

/-- A value's problem with the value's place, unless that is the whole document. -/
def misfit (place : List Descent) (mark : Mark) (problem : String) : Unreadable :=
  { problem := if place.isEmpty then problem else placeText place ++ ": " ++ problem
    mark := some mark }

/-- A reading of a scalar, whose problem is told at the scalar's place. -/
def placed (place : List Descent) (mark : Mark) : Except String Yaml → Except Unreadable Yaml
  | .ok v => .ok v
  | .error problem => .error (misfit place mark problem)

/-- What is told of a key that occurs twice. -/
def repeatedKey : Yaml → String
  | .null => "duplicate entry with null key"
  | .bool b => "duplicate entry with key \x60" ++ toString b ++ "\x60"
  | .int n => "duplicate entry with key " ++ toString n
  | .real r => "duplicate entry with key " ++ r.text
  | .str s => "duplicate entry with key " ++ Text.shown s
  | _ => "duplicate entry in YAML map"

/-- The failure of a document whose aliases would be followed too often. -/
def Unreadable.repetition : Unreadable := { problem := "repetition limit exceeded" }

/-- The failure of a collection that is nested too deep. -/
def Unreadable.nesting (mark : Mark) : Unreadable :=
  { problem := "recursion limit exceeded", mark := some mark }

mutual
/-- The value at a position, `depth` levels of nesting being left. -/
def buildValue (p : Parts) : Nat → Nat → List Descent → Position →
    Except Unreadable (Yaml × Position)
  | 0, _, _, _ => .error .repetition
  | fuel + 1, depth, place, pos =>
    match p.at pos with
    | .error e => .error e
    | .ok (part, mark) =>
      match part with
      | .nothing => .ok (.null, pos.next)
      | .close => fault "unexpected end of sequence" mark
      | .alias n =>
        if pos.copies + 1 > p.parts.size * copyLimit then .error .repetition
        else
          match p.places.find? fun e => e.1 == n with
          | none => fault "unknown anchor" mark
          | some (_, target) =>
            match buildValue p fuel depth place ⟨target, pos.copies + 1⟩ with
            | .error e => .error e
            | .ok (v, after) => .ok (v, ⟨pos.part + 1, after.copies⟩)
      | .scalar tag text plain =>
        match localTag? tag with
        | some name =>
          match placed place mark (ofScalar none plain text) with
          | .error e => .error e
          | .ok v => .ok (.tagged name v, pos.next)
        | none =>
          match placed place mark (ofScalar tag plain text) with
          | .error e => .error e
          | .ok v => .ok (v, pos.next)
      | .sequence tag =>
        match depth with
        | 0 => .error (.nesting mark)
        | depth + 1 =>
          match buildItems p fuel depth place 0 [] pos.next with
          | .error e => .error e
          | .ok (items, after) =>
            match localTag? tag with
            | some name => .ok (.tagged name (.seq items), after)
            | none => .ok (.seq items, after)
      | .mapping tag =>
        match depth with
        | 0 => .error (.nesting mark)
        | depth + 1 =>
          match buildEntries p fuel depth place mark [] pos.next with
          | .error e => .error e
          | .ok (entries, after) =>
            match localTag? tag with
            | some name => .ok (.tagged name (.map entries), after)
            | none => .ok (.map entries, after)
termination_by structural fuel => fuel

/-- The items of a sequence from the one with index `i` on, up to its end; those before stand in
reverse. -/
def buildItems (p : Parts) : Nat → Nat → List Descent → Nat → List Yaml → Position →
    Except Unreadable (List Yaml × Position)
  | 0, _, _, _, _, _ => .error .repetition
  | fuel + 1, depth, place, i, acc, pos =>
    match p.at pos with
    | .error e => .error e
    | .ok (.close, _) => .ok (acc.reverse, pos.next)
    | .ok _ =>
      match buildValue p fuel depth (.item i :: place) pos with
      | .error e => .error e
      | .ok (v, after) => buildItems p fuel depth place (i + 1) (v :: acc) after
termination_by structural fuel => fuel

/-- The entries of a mapping up to its end; those before stand in reverse. -/
def buildEntries (p : Parts) : Nat → Nat → List Descent → Mark → List (Yaml × Yaml) → Position →
    Except Unreadable (List (Yaml × Yaml) × Position)
  | 0, _, _, _, _, _ => .error .repetition
  | fuel + 1, depth, place, mark, acc, pos =>
    match p.at pos with
    | .error e => .error e
    | .ok (.close, _) => .ok (acc.reverse, pos.next)
    | .ok (part, _) =>
      match buildValue p fuel depth place pos with
      | .error e => .error e
      | .ok (k, after) =>
        if acc.any fun e => e.1.same k then .error (misfit place mark (repeatedKey k))
        else
          match buildValue p fuel depth (part.descent :: place) after with
          | .error e => .error e
          | .ok (v, after) => buildEntries p fuel depth place mark ((k, v) :: acc) after
termination_by structural fuel => fuel
end

/-- The value of the document that the parts make up. -/
def Parts.value (p : Parts) : Except Unreadable Yaml :=
  match buildValue p ((nestingLimit + 2) * (p.parts.size + 4)) nestingLimit [] ⟨0, 0⟩ with
  | .error e => .error e
  | .ok (v, _) =>
    match p.failure with
    | some e => .error e
    | none => .ok v

/-- Whether anything but the end of the stream follows a document. -/
def moreFollows (r : EventReader) : Bool :=
  match r.next with
  | .ok (⟨.streamEnd, _⟩, _) => false
  | _ => true

/-- The failure of a text that holds several documents. -/
def Unreadable.severalDocuments : Unreadable :=
  { problem := "deserializing from YAML containing more than one document is not supported" }

/-- The value of a text that holds one document; an empty text holds null. -/
def read (text : String) : Except Unreadable Yaml :=
  let cs := text.toList
  let (parts, after) := readParts (16 * (cs.length + 8)) {} (EventReader.ofText cs)
  match parts.value with
  | .error e => .error e
  | .ok v =>
    match after with
    | some r => if moreFollows r then .error .severalDocuments else .ok v
    | none => .ok v

end LivePanel.Yaml
