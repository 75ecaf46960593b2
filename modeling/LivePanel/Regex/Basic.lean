/-!
# Regular expressions

A regular expression is made of leaves, which stand for a character or for a place in the
text, by putting them after one another, by repetition, by groups and by choices. Modes
are switched on and off on the way; a switch holds to the end of the group it stands in.
-/

namespace LivePanel

namespace Regex

/-- What stands for one character, or for a place in the text. -/
inductive Atom where
  | char (c : Char) (octet : Bool)
  | shorthand (negated : Bool)
  | category (negated : Bool)
  | any
  | edge
  | wordEdge
deriving DecidableEq, Inhabited

/-- A set of characters, as it is written in brackets. -/
inductive CharSet where
  | atom (a : Atom)
  | range (first last : Char)
  | named (negated : Bool)
  | union (parts : List CharSet)
  | combined (left right : CharSet)
  | bracketed (negated : Bool) (s : CharSet)

/-- What has no regular expressions in it. -/
inductive Leaf where
  | atom (a : Atom)
  | set (s : CharSet)

/-- Modes, by their letters, that are switched on or off. -/
abbrev Modes := List (Char × Bool)

/-- Whether a mode is on after a switch. -/
def Modes.after (ms : Modes) (letter : Char) (before : Bool) : Bool :=
  (ms.lookup letter).getD before

end Regex

/-- A regular expression. -/
inductive Regex where
  | empty
  | leaf (l : Regex.Leaf)
  | switch (ms : Regex.Modes)
  | group (ms : Regex.Modes) (r : Regex)
  | repeated (r : Regex)
  | sequence (rs : List Regex)
  | choice (rs : List Regex)

namespace Regex

/-- The set of all that is in one of some sets. -/
def CharSet.ofParts : List CharSet → CharSet
  | [part] => part
  | parts => .union parts

/-- One expression after another. -/
def ofPieces : List Regex → Regex
  | [] => .empty
  | [piece] => piece
  | pieces => .sequence pieces

mutual

/-- How deep a set is nested. -/
def CharSet.depth : CharSet → Nat
  | .atom _ | .range .. | .named _ => 0
  | .union parts => if parts.isEmpty then 0 else CharSet.depthOfAll parts + 1
  | .combined left right => max left.depth right.depth + 1
  | .bracketed _ s => s.depth + 1

/-- How deep the deepest of some sets is nested. -/
def CharSet.depthOfAll : List CharSet → Nat
  | [] => 0
  | s :: rest => max s.depth (CharSet.depthOfAll rest)

end

/-- How deep a leaf is nested. -/
def Leaf.depth : Leaf → Nat
  | .atom _ => 0
  | .set s => s.depth

mutual

/-- How deep an expression is nested. -/
def depth : Regex → Nat
  | .empty | .switch _ => 0
  | .leaf l => l.depth
  | .group _ r | .repeated r => r.depth + 1
  | .sequence rs | .choice rs => depthOfAll rs + 1

/-- How deep the deepest of some expressions is nested. -/
def depthOfAll : List Regex → Nat
  | [] => 0
  | r :: rest => max r.depth (depthOfAll rest)

end

mutual

/-- The leaves of an expression, each with whether the mode `letter` is on at it, and whether it
is on after the expression. -/
def leaves (letter : Char) (on : Bool) : Regex → List (Bool × Leaf) × Bool
  | .empty => ([], on)
  | .leaf l => ([(on, l)], on)
  | .switch ms => ([], ms.after letter on)
  | .group ms r => ((leaves letter (ms.after letter on) r).1, on)
  | .repeated r => leaves letter on r
  | .sequence rs | .choice rs => leavesOfAll letter on rs

/-- The leaves of some expressions, one after another. -/
def leavesOfAll (letter : Char) (on : Bool) : List Regex → List (Bool × Leaf) × Bool
  | [] => ([], on)
  | r :: rest =>
    let (front, on) := leaves letter on r
    let (back, on) := leavesOfAll letter on rest
    (front ++ back, on)

end

end Regex

end LivePanel
