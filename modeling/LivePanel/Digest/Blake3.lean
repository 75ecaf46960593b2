import LivePanel.Text.Natural

/-!
# The BLAKE3 digest

The hash function BLAKE3 with its digest of 32 octets. A text is cut into chunks of
1024 octets, each compressed block by block; the chaining values of the chunks are
joined in a binary tree, in which every left subtree is as large a power of two as
there can be. Joining neighbours level by level, an odd last one going up alone,
builds this tree.
-/

namespace LivePanel.Blake3

/-- The initial chaining value. -/
def initial : Array UInt32 :=
  #[0x6A09E667, 0xBB67AE85, 0x3C6EF372, 0xA54FF53A, 0x510E527F, 0x9B05688C, 0x1F83D9AB, 0x5BE0CD19]

/-- Where each word of a block goes between two rounds. -/
def permutation : List Nat := [2, 6, 3, 10, 7, 0, 4, 13, 1, 11, 12, 5, 9, 14, 15, 8]

/-- The word at a position. -/
def word (a : Array UInt32) (i : Nat) : UInt32 := a.getD i 0

/-- `x` turned right by `n` bits. -/
def rotate (x n : UInt32) : UInt32 := (x >>> n) ||| (x <<< (32 - n))

/-- Mix two words of the message into four words of the state. -/
def mix (s : Array UInt32) (a b c d : Nat) (x y : UInt32) : Array UInt32 :=
  let a1 := word s a + word s b + x
  let d1 := rotate (word s d ^^^ a1) 16
  let c1 := word s c + d1
  let b1 := rotate (word s b ^^^ c1) 12
  let a2 := a1 + b1 + y
  let d2 := rotate (d1 ^^^ a2) 8
  let c2 := c1 + d2
  let b2 := rotate (b1 ^^^ c2) 7
  (((s.setIfInBounds a a2).setIfInBounds b b2).setIfInBounds c c2).setIfInBounds d d2

/-- One round: the columns of the state, then its diagonals. -/
def round (s m : Array UInt32) : Array UInt32 :=
  let s := mix s 0 4 8 12 (word m 0) (word m 1)
  let s := mix s 1 5 9 13 (word m 2) (word m 3)
  let s := mix s 2 6 10 14 (word m 4) (word m 5)
  let s := mix s 3 7 11 15 (word m 6) (word m 7)
  let s := mix s 0 5 10 15 (word m 8) (word m 9)
  let s := mix s 1 6 11 12 (word m 10) (word m 11)
  let s := mix s 2 7 8 13 (word m 12) (word m 13)
  mix s 3 4 9 14 (word m 14) (word m 15)

/-- The words of a block in the order of the next round. -/
def permute (m : Array UInt32) : Array UInt32 := (permutation.map (word m)).toArray

/-- A number of rounds, the block permuted between them. -/
def rounds : Nat → Array UInt32 → Array UInt32 → Array UInt32
  | 0, s, _ => s
  | n + 1, s, m => rounds n (round s m) (permute m)

/-- What is left to compress of a part of the input. -/
structure Part where
  chain : Array UInt32
  block : Array UInt32
  counter : UInt64
  length : UInt32
  flags : UInt32

/-- The eight words that a part is compressed to. -/
def Part.compress (p : Part) : Array UInt32 :=
  let s := p.chain ++ #[word initial 0, word initial 1, word initial 2, word initial 3,
    p.counter.toUInt32, (p.counter >>> 32).toUInt32, p.length, p.flags]
  let s := rounds 7 s p.block
  ((List.range 8).map fun i => word s i ^^^ word s (i + 8)).toArray

/-- The flag of the first block of a chunk. -/
def chunkStart : UInt32 := 1

/-- The flag of the last block of a chunk. -/
def chunkEnd : UInt32 := 2

/-- The flag of a node that joins two others. -/
def parent : UInt32 := 4

/-- The flag of the last node. -/
def root : UInt32 := 8

/-- The number of octets of a block. -/
def blockLength : Nat := 64

/-- The number of octets of a chunk. -/
def chunkLength : Nat := 1024

/-- Words from octets, the low octet first. -/
def words : List UInt8 → List UInt32
  | a :: b :: c :: d :: rest =>
    (a.toUInt32 ||| (b.toUInt32 <<< 8) ||| (c.toUInt32 <<< 16) ||| (d.toUInt32 <<< 24)) ::
      words rest
  | [] => []
  | [a] => [a.toUInt32]
  | [a, b] => [a.toUInt32 ||| (b.toUInt32 <<< 8)]
  | [a, b, c] => [a.toUInt32 ||| (b.toUInt32 <<< 8) ||| (c.toUInt32 <<< 16)]

/-- The words of a block, filled up with zeros. -/
def blockWords (octets : List UInt8) : Array UInt32 :=
  let ws := words octets
  (ws ++ List.replicate (16 - ws.length) 0).toArray

/-- `xs` in pieces of `n`, the last one shorter; at least one piece. -/
def pieces (n : Nat) : Nat → List α → List (List α)
  | 0, xs => [xs]
  | fuel + 1, xs =>
    match xs.drop n with
    | [] => [xs]
    | rest => xs.take n :: pieces n fuel rest

/-- The blocks of a chunk compressed up to the last, which is left to compress. -/
def chunkFrom (counter : UInt64) (chain : Array UInt32) (start : UInt32) :
    List (List UInt8) → Part
  | [] => ⟨chain, blockWords [], counter, 0, start ||| chunkEnd⟩
  | [b] => ⟨chain, blockWords b, counter, b.length.toUInt32, start ||| chunkEnd⟩
  | b :: rest =>
    let chain := Part.compress ⟨chain, blockWords b, counter, b.length.toUInt32, start⟩
    chunkFrom counter chain 0 rest

/-- A chunk. -/
def chunk (counter : Nat) (octets : List UInt8) : Part :=
  chunkFrom counter.toUInt64 initial chunkStart (pieces blockLength octets.length octets)

/-- The node that joins two others. -/
def join (a b : Part) : Part := ⟨initial, a.compress ++ b.compress, 0, blockLength.toUInt32, parent⟩

/-- Neighbours joined; an odd last one is left as it is. -/
def joinNeighbours : List Part → List Part
  | a :: b :: rest => join a b :: joinNeighbours rest
  | [a] => [a]
  | [] => []

/-- The node that joins all, over at most `fuel` levels. -/
def joinAll : Nat → List Part → Option Part
  | _, [] => none
  | _, [p] => some p
  | 0, p :: _ => some p
  | fuel + 1, ps => joinAll fuel (joinNeighbours ps)

/-- The octets of a word, the low one first. -/
def octets (w : UInt32) : List UInt8 :=
  [w.toUInt8, (w >>> 8).toUInt8, (w >>> 16).toUInt8, (w >>> 24).toUInt8]

/-- The digest of octets. -/
def digest (input : List UInt8) : List UInt8 :=
  let chunks := (pieces chunkLength input.length input).mapIdx chunk
  match joinAll chunks.length chunks with
  | none => []
  | some p =>
    let words := Part.compress { p with counter := 0, flags := p.flags ||| root }
    words.toList.flatMap octets

/-- Octets as hexadecimal digits. -/
def hex (octets : List UInt8) : String :=
  String.ofList (octets.flatMap fun o => [Text.hexDigit (o.toNat / 16), Text.hexDigit o.toNat])

/-- The digest of octets, in hexadecimal digits. -/
def ofBytes (bytes : ByteArray) : String := hex (digest bytes.toList)

/-- The digest of a text's UTF-8 form, in hexadecimal digits. -/
def ofText (s : String) : String := ofBytes s.toUTF8

end LivePanel.Blake3
