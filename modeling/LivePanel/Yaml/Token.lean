import LivePanel.Yaml.Cursor

/-!
# YAML tokens

The tokens of the notation, and the readers of directives, anchors and tags. The
readers of scalars stand in `Yaml.Scalar`, the rules that place the tokens of
block structure in `Yaml.Lexer`.
-/

namespace LivePanel.Yaml

/-- A run of octets. An escape in a tag may spell any octet, so a tag need not be a text. -/
abbrev Octets := List UInt8

/-- The octets of a text. -/
def Octets.ofString (s : String) : Octets := s.toUTF8.toList

/-- The text that the octets spell, if they spell one. -/
def Octets.text? (o : Octets) : Option String := String.fromUTF8? ⟨o.toArray⟩

/-- The octets in front of the first zero, which ends a tag. -/
def Octets.beforeZero (o : Octets) : Octets := o.takeWhile (· != 0)

/-- A token. -/
inductive Token where
  | streamEnd
  | version (major minor : Nat)
  | tagDirective (handle : String) (stem : Octets)
  | documentStart
  | documentEnd
  | blockSequenceStart
  | blockMappingStart
  | blockEnd
  | flowSequenceStart
  | flowSequenceEnd
  | flowMappingStart
  | flowMappingEnd
  | blockEntry
  | flowEntry
  | key
  | value
  | alias (name : String)
  | anchor (name : String)
  | tag (handle : String) (suffix : Octets)
  | scalar (text : String) (plain : Bool)
deriving DecidableEq, Inhabited

/-- A token and the mark of its first character. -/
structure Placed where
  token : Token
  mark : Mark
deriving Inhabited

/-- A result with the cursor behind what was read. -/
abbrev Scan (α : Type) := Except Unreadable (α × Cursor)

/-! ### Directives -/

/-- The most digits that a version number may have. -/
def versionDigits : Nat := 9

/-- A number of a version directive. -/
def scanVersionNumber (context : Context) (c : Cursor) : Scan Nat :=
  let digits := c.rest.takeWhile Text.isDigit
  if digits.length > versionDigits then
    faultIn context "found extremely long version number" (c.advance versionDigits).mark
  else
    match Text.digits? 10 digits with
    | some n => .ok (n, c.advance digits.length)
    | none => faultIn context "did not find expected version number" c.mark

/-- The name between the marks of a tag handle, with its marks. The second component says
whether the closing mark is there. -/
def scanHandle (context : Context) (c : Cursor) : Scan (String × Bool) :=
  if c.has 0 '!' then
    let word := (c.rest.drop 1).takeWhile isWordChar
    let c := c.advance (word.length + 1)
    if c.has 0 '!' then .ok ((String.ofList ('!' :: word ++ ['!']), true), c.advance 1)
    else .ok ((String.ofList ('!' :: word), false), c)
  else faultIn context "did not find expected '!'" c.mark

/-- Whether `c` may stand in a tag; flow indicators only between angle brackets. -/
def isTagChar (verbatim : Bool) (c : Char) : Bool :=
  isWordChar c ||
    [';', '/', '?', ':', '@', '&', '=', '+', '$', '.', '%', '!', '~', '*', '\'', '(',
      ')'].contains c ||
    (verbatim && [',', '[', ']'].contains c)

/-- The octet that an escape of a tag spells. -/
def escapedOctet? (c : Cursor) : Option Nat :=
  match c.rest with
  | '%' :: a :: b :: _ => Text.digits? 16 [a, b]
  | _ => none

/-- The number of octets that follow a leading octet; `none` if it cannot lead. -/
def trailingOctets? (octet : Nat) : Option Nat :=
  if octet < 0x80 then some 0
  else if octet / 0x20 = 6 then some 1
  else if octet / 0x10 = 14 then some 2
  else if octet / 8 = 30 then some 3
  else none

/-- The trailing octets of an escaped character, read onto `acc`. -/
def scanTrailingOctets (context : Context) : Nat → Octets → Cursor → Scan Octets
  | 0, acc, c => .ok (acc, c)
  | n + 1, acc, c =>
    match escapedOctet? c with
    | some o =>
      if o / 0x40 = 2 then scanTrailingOctets context n (o.toUInt8 :: acc) (c.advance 3)
      else faultIn context "found an incorrect trailing UTF-8 octet" c.mark
    | none => faultIn context "did not find URI escaped octet" c.mark

/-- The escapes of one character, read onto `acc`. What the octets spell is not looked at. -/
def scanTagEscape (context : Context) (acc : Octets) (c : Cursor) : Scan Octets :=
  match escapedOctet? c with
  | none => faultIn context "did not find URI escaped octet" c.mark
  | some o =>
    match trailingOctets? o with
    | none => faultIn context "found an incorrect leading UTF-8 octet" c.mark
    | some n => scanTrailingOctets context n (o.toUInt8 :: acc) (c.advance 3)

/-- The octets of a tag, in reverse. -/
def scanTagOctets (context : Context) (verbatim : Bool) : Nat → Octets → Cursor → Scan Octets
  | 0, acc, c => .ok (acc, c)
  | fuel + 1, acc, c =>
    match c.rest with
    | [] => .ok (acc, c)
    | x :: _ =>
      if !isTagChar verbatim x then .ok (acc, c)
      else if x = '%' then
        match scanTagEscape context acc c with
        | .ok (acc, c) => scanTagOctets context verbatim fuel acc c
        | .error e => .error e
      else scanTagOctets context verbatim fuel (x.toNat.toUInt8 :: acc) (c.advance 1)

/-- A tag that begins with the characters `head` already read, less their first. Something
must be written, even if nothing stands in front of a zero octet. -/
def scanTagText (context : Context) (verbatim : Bool) (head : String) (c : Cursor) :
    Scan Octets :=
  match scanTagOctets context verbatim (c.bound + 1) [] c with
  | .error e => .error e
  | .ok (acc, c) =>
    if acc.isEmpty && head.isEmpty then faultIn context "did not find expected tag URI" c.mark
    else .ok (Octets.beforeZero ((Octets.ofString head).drop 1 ++ acc.reverse), c)

/-- The two numbers of the version directive that begins at `start`. -/
def scanVersion (start : Mark) (c : Cursor) : Scan Token :=
  let context : Context := ⟨"while scanning a %YAML directive", start⟩
  match scanVersionNumber context (c.skipWhile isGap) with
  | .error e => .error e
  | .ok (major, c) =>
    if c.has 0 '.' then
      match scanVersionNumber context (c.advance 1) with
      | .error e => .error e
      | .ok (minor, c) => .ok (.version major minor, c)
    else faultIn context "did not find expected digit or '.' character" c.mark

/-- The handle and the stem of the tag directive that begins at `start`. -/
def scanTagDirective (start : Mark) (c : Cursor) : Scan Token :=
  let context : Context := ⟨"while scanning a %TAG directive", start⟩
  match scanHandle ⟨"while scanning a tag directive", start⟩ (c.skipWhile isGap) with
  | .error e => .error e
  | .ok ((handle, closed), c) =>
    if !closed && handle ≠ "!" then
      faultIn ⟨"while parsing a tag directive", start⟩ "did not find expected '!'" c.mark
    else if !c.hasIn 0 isGap then faultIn context "did not find expected whitespace" c.mark
    else
      match scanTagText ⟨"while parsing a %TAG directive", start⟩ true "" (c.skipWhile isGap) with
      | .error e => .error e
      | .ok (stem, c) =>
        if c.gapOrEnd 0 then .ok (.tagDirective handle stem, c)
        else faultIn context "did not find expected whitespace or line break" c.mark

/-- What the directive says that begins at `start`. -/
def scanDirectiveBody (start : Mark) (name : String) (c : Cursor) : Scan Token :=
  if name = "YAML" then scanVersion start c
  else if name = "TAG" then scanTagDirective start c
  else faultIn ⟨"while scanning a directive", start⟩ "found unknown directive name" c.mark

/-- A directive with the rest of its line. -/
def scanDirective (c : Cursor) : Scan Placed :=
  let start := c.mark
  let c := c.advance 1
  let name := c.rest.takeWhile isWordChar
  let c := c.advance name.length
  let context : Context := ⟨"while scanning a directive", start⟩
  if name.isEmpty then faultIn context "could not find expected directive name" c.mark
  else if !c.gapOrEnd 0 then faultIn context "found unexpected non-alphabetical character" c.mark
  else
    match scanDirectiveBody start (String.ofList name) c with
    | .error e => .error e
    | .ok (token, c) =>
      let c := c.skipGapsAndComment
      if c.breakOrEnd 0 then .ok (⟨token, start⟩, c.skipBreak)
      else faultIn context "did not find expected comment or line break" c.mark

/-! ### Anchors and tags -/

/-- Whether the name of an anchor may end before the character `n` places ahead. -/
def endsAnchor (c : Cursor) : Bool :=
  c.gapOrEnd 0 || c.hasIn 0 (['?', ':', ',', ']', '\x7d', '%', '@', '\x60'].contains ·)

/-- An anchor or an alias; `activity` says which. -/
def scanAnchor (activity : String) (make : String → Token) (c : Cursor) : Scan Placed :=
  let start := c.mark
  let c := c.advance 1
  let name := c.rest.takeWhile isWordChar
  let c := c.advance name.length
  if name.isEmpty || !endsAnchor c then
    faultIn ⟨activity, start⟩ "did not find expected alphabetic or numeric character" c.mark
  else .ok (⟨make (String.ofList name), start⟩, c)

/-- The handle and the suffix of a tag. -/
def scanTagParts (c : Cursor) : Scan (String × Octets) :=
  let context : Context := ⟨"while scanning a tag", c.mark⟩
  let inText : Context := ⟨"while parsing a tag", c.mark⟩
  if c.has 1 '<' then
    match scanTagText inText true "" (c.advance 2) with
    | .error e => .error e
    | .ok (suffix, c) =>
      if c.has 0 '>' then .ok (("", suffix), c.advance 1)
      else faultIn context "did not find the expected '>'" c.mark
  else
    match scanHandle context c with
    | .error e => .error e
    | .ok ((handle, true), c) =>
      match scanTagText inText false "" c with
      | .error e => .error e
      | .ok (suffix, c) => .ok ((handle, suffix), c)
    | .ok ((word, false), c) =>
      match scanTagText inText false word c with
      | .error e => .error e
      | .ok (suffix, c) => .ok (if suffix.isEmpty then ("", .ofString "!") else ("!", suffix), c)

/-- A tag. -/
def scanTag (inFlow : Bool) (c : Cursor) : Scan Placed :=
  let start := c.mark
  match scanTagParts c with
  | .error e => .error e
  | .ok ((handle, suffix), c) =>
    if c.gapOrEnd 0 || (inFlow && c.has 0 ',') then .ok (⟨.tag handle suffix, start⟩, c)
    else
      faultIn ⟨"while scanning a tag", start⟩ "did not find expected whitespace or line break"
        c.mark

end LivePanel.Yaml
