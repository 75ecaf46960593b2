import LivePanel.Regex.Reader

/-!
# Which regular expressions can be used

Not every expression that can be read can be used. It may not be nested too deep; where it
is read without Unicode, it may not stand for more than the characters of ASCII; and where
it is read with Unicode it may not ask for the edges of words.
-/

namespace LivePanel.Regex

/-- The deepest nesting that is allowed. -/
def depthLimit : Nat := 250

/-- Why an expression cannot be used. -/
inductive Fault where
  | invalid
  | wordEdge
deriving DecidableEq

/-- The wording of the fault. -/
def Fault.message : Fault → String
  | invalid => "error building NFA"
  | wordEdge =>
    "unsupported regex feature for DFAs: cannot build DFAs for regexes with Unicode word " ++
      "boundaries; switch to ASCII word boundaries, or heuristically enable Unicode word " ++
      "boundaries or use a different regex engine"

mutual

/-- Whether a set is one of characters of ASCII, and written in them. -/
def CharSet.isPlain : CharSet → Bool
  | .atom (.char c _) => c.toNat < 128
  | .atom (.shorthand negated) => !negated
  | .atom _ => false
  | .range _ last => last.toNat < 128
  | .named negated => !negated
  | .union parts => CharSet.allPlain parts
  | .combined left right => left.isPlain && right.isPlain
  | .bracketed negated s => !negated && s.isPlain

/-- Whether all of some sets are plain. -/
def CharSet.allPlain : List CharSet → Bool
  | [] => true
  | s :: rest => s.isPlain && CharSet.allPlain rest

end

/-- Whether a leaf can be used without Unicode. -/
def Leaf.isPlain : Leaf → Bool
  | .atom (.char c octet) => !octet || c.toNat < 128
  | .atom (.shorthand negated) => !negated
  | .atom (.category _) | .atom .any => false
  | .atom .edge | .atom .wordEdge => true
  | .set s => s.isPlain

/-- Whether a leaf is the edge of a word. -/
def Leaf.isWordEdge : Leaf → Bool
  | .atom .wordEdge => true
  | _ => false

/-- Check that an expression can be used. -/
def check (r : Regex) : Except Fault Unit :=
  let leaves := (r.leaves 'u' true).1
  if r.depth > depthLimit || leaves.any (fun (unicode, l) => !unicode && !l.isPlain) then
    .error .invalid
  else if leaves.any fun (unicode, l) => unicode && l.isWordEdge then .error .wordEdge
  else .ok ()

/-- Check that a text is an expression that can be used. -/
def checkText (cs : List Char) : Except Fault Unit :=
  match ofText? cs with
  | some r => r.check
  | none => .error .invalid

end LivePanel.Regex
