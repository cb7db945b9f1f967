import Northbound.Bytes

/-!
# DEFLATE streams

Compressed data in the deflate format: blocks of bytes stored as they are, or of symbols coded
by canonical prefix codes, where a symbol is a byte or the length of a copy of earlier output.
`inflate` decodes a stream as far as it goes; `store` writes one of stored blocks.
-/

namespace Northbound.Deflate

/-- How decoding ended. -/
inductive Ending where
  /-- The last block is complete; these bytes follow it. -/
  | complete (rest : Bytes)
  /-- The input ended inside a block. -/
  | cut
  /-- The input breaks a rule of the format. -/
  | corrupt
deriving DecidableEq, Repr

/-- Why decoding stops early. -/
inductive Halt where
  | cut
  | corrupt

/-- The unread input, with `count` bits already taken from its bytes as the number `held`, and the
output so far. -/
structure Progress where
  rest : Bytes
  held : Nat := 0
  count : Nat := 0
  output : Array UInt8 := #[]

/-- A step of decoding. What was decoded before a step stops is kept. -/
abbrev Decoder (α : Type) := ExceptT Halt (StateM Progress) α

/-- Takes bytes until `n` bits are held. -/
def hold (n : Nat) : Nat → Decoder Unit
  | 0 => return ()
  | fuel + 1 => do
    let p ← get
    if n ≤ p.count then return ()
    else match p.rest with
      | [] => throw .cut
      | b :: rest =>
        set { p with rest, held := p.held + b.toNat * Nat.pow 2 p.count, count := p.count + 8 }
        hold n fuel

/-- Reads a number of `n` bits, the least significant first. -/
def bits (n : Nat) : Decoder Nat := do
  hold n (n + 1)
  let p ← get
  set { p with held := p.held / Nat.pow 2 n, count := p.count - n }
  return p.held % Nat.pow 2 n

/-- A canonical prefix code: how many codes there are of each length from one up, and the symbols in
the order of their codes. -/
structure PrefixCode where
  counts : List Nat
  symbols : Array Nat

/-- The canonical code in which symbol `i` has the `i`-th length; length zero means no code. -/
def PrefixCode.ofLengths (lengths : List Nat) : PrefixCode :=
  let indexed := lengths.zipIdx
  let ofLength (n : Nat) := (indexed.filter fun p => p.1 == n).map Prod.snd
  { counts := (List.range 15).map fun i => (ofLength (i + 1)).length
    symbols := ((List.range 15).flatMap fun i => ofLength (i + 1)).toArray }

/-- The number of codes left unused, where a code of length `n` counts for `2 ^ (15 - n)`. -/
def PrefixCode.slack (c : PrefixCode) : Int :=
  c.counts.foldl (fun (left : Int) (n : Nat) => left * 2 - n) 1

/-- Whether a code may be used: its codes fill the code space, or it has one symbol at most. -/
def PrefixCode.isUsable (c : PrefixCode) : Bool := c.slack == 0 || c.symbols.size ≤ 1

/-- Reads a symbol bit by bit: `code` is what was read, `first` the first code of the present length
and `index` the place of its symbol. -/
def symbolFrom (symbols : Array Nat) : List Nat → Nat → Nat → Nat → Decoder Nat
  | [], _, _, _ => throw .corrupt
  | n :: more, code, first, index => do
    let code := code + (← bits 1)
    if code < first + n then
      match symbols[index + (code - first)]? with
      | some s => return s
      | none => throw .corrupt
    else symbolFrom symbols more (2 * code) (2 * (first + n)) (index + n)

/-- Reads a symbol. -/
def PrefixCode.symbol (c : PrefixCode) : Decoder Nat := symbolFrom c.symbols c.counts 0 0 0

/-- Least lengths of copies and their extra bits, by symbol from 257 on. -/
def lengthTable : Array (Nat × Nat) := #[
  (3, 0), (4, 0), (5, 0), (6, 0), (7, 0), (8, 0), (9, 0), (10, 0), (11, 1), (13, 1), (15, 1),
  (17, 1), (19, 2), (23, 2), (27, 2), (31, 2), (35, 3), (43, 3), (51, 3), (59, 3), (67, 4),
  (83, 4), (99, 4), (115, 4), (131, 5), (163, 5), (195, 5), (227, 5), (258, 0)]

/-- Least distances of copies and their extra bits, by symbol. -/
def distanceTable : Array (Nat × Nat) := #[
  (1, 0), (2, 0), (3, 0), (4, 0), (5, 1), (7, 1), (9, 2), (13, 2), (17, 3), (25, 3), (33, 4),
  (49, 4), (65, 5), (97, 5), (129, 6), (193, 6), (257, 7), (385, 7), (513, 8), (769, 8),
  (1025, 9), (1537, 9), (2049, 10), (3073, 10), (4097, 11), (6145, 11), (8193, 12), (12289, 12),
  (16385, 13), (24577, 13)]

/-- Reads the extra bits of a table entry. -/
def tableValue (table : Array (Nat × Nat)) (i : Nat) : Decoder Nat := do
  match table[i]? with
  | some (base, extra) => return base + (← bits extra)
  | none => throw .corrupt

/-- Repeats the output `distance` bytes back, byte by byte. Before the first byte of the output
stand zeros. -/
def copyBack (distance : Nat) : Nat → Array UInt8 → Array UInt8
  | 0, out => out
  | n + 1, out =>
    let b := if distance ≤ out.size then out.getD (out.size - distance) 0 else 0
    copyBack distance n (out.push b)

/-- Appends a byte to the output. -/
def emit (b : UInt8) : Decoder Unit := modify fun p => { p with output := p.output.push b }

/-- Decodes symbols up to the end of the block. Every symbol takes a bit at least, so `fuel` above
the number of bits left is never used up. -/
def codedBlock (literals distances : PrefixCode) : Nat → Decoder Unit
  | 0 => throw .cut
  | fuel + 1 => do
    let s ← literals.symbol
    if s < 256 then
      emit (UInt8.ofNat s)
      codedBlock literals distances fuel
    else if s = 256 then return ()
    else
      let length ← tableValue lengthTable (s - 257)
      let d ← distances.symbol
      let distance ← tableValue distanceTable d
      modify fun p => { p with output := copyBack distance length p.output }
      codedBlock literals distances fuel

/-- The code of literals and lengths in blocks with fixed codes. -/
def fixedLiterals : PrefixCode := .ofLengths <|
  List.replicate 144 8 ++ List.replicate 112 9 ++ List.replicate 24 7 ++ List.replicate 8 8

/-- The code of distances in blocks with fixed codes. -/
def fixedDistances : PrefixCode := .ofLengths (List.replicate 32 5)

/-- The order in which the lengths of the codes of code lengths are given. -/
def lengthOrder : List Nat := [16, 17, 18, 0, 8, 7, 9, 6, 10, 5, 11, 4, 12, 3, 13, 2, 14, 1, 15]

/-- Reads code lengths until there are `total`; `acc` holds those read, last first. -/
def codeLengths (code : PrefixCode) (total : Nat) : Nat → List Nat → Decoder (List Nat)
  | 0, _ => throw .corrupt
  | fuel + 1, acc => do
    if total ≤ acc.length then
      if acc.length = total then return acc.reverse else throw .corrupt
    else
      let s ← code.symbol
      if s < 16 then codeLengths code total fuel (s :: acc)
      else if s = 16 then
        match acc with
        | [] => throw .corrupt
        | last :: _ =>
          let n ← bits 2
          codeLengths code total fuel (List.replicate (3 + n) last ++ acc)
      else
        let n ← if s = 17 then (3 + ·) <$> bits 3 else (11 + ·) <$> bits 7
        codeLengths code total fuel (List.replicate n 0 ++ acc)

/-- Reads `n` numbers of three bits. -/
def triples : Nat → Decoder (List Nat)
  | 0 => return []
  | n + 1 => do
    let v ← bits 3
    let vs ← triples n
    return v :: vs

/-- Reads the codes of a block that brings its own. -/
def ownCodes : Decoder (PrefixCode × PrefixCode) := do
  let literalCount := 257 + (← bits 5)
  let distanceCount := 1 + (← bits 5)
  let given ← triples (4 + (← bits 4))
  if 286 < literalCount ∨ 30 < distanceCount then throw .corrupt
  let lengths := (List.range 19).map fun s => ((lengthOrder.zip given).lookup s).getD 0
  let code := PrefixCode.ofLengths lengths
  if code.slack ≠ 0 then throw .corrupt
  let total := literalCount + distanceCount
  let all ← codeLengths code total (total + 1) []
  let literals := PrefixCode.ofLengths (all.take literalCount)
  let distances := PrefixCode.ofLengths (all.drop literalCount)
  if !literals.isUsable || !distances.isUsable then throw .corrupt
  return (literals, distances)

/-- Drops the bits left of a byte, and gives back the whole bytes held. -/
def alignToByte : Decoder Unit := do
  let p ← get
  let whole := p.count / 8
  set { p with
    rest := Bytes.ofNatLE whole (p.held / Nat.pow 2 (p.count % 8)) ++ p.rest
    held := 0
    count := 0 }

/-- Copies stored bytes to the output. -/
def storedBlock : Decoder Unit := do
  alignToByte
  let n ← bits 16
  let check ← bits 16
  if n + check ≠ 65535 then throw .corrupt
  alignToByte
  let p ← get
  set { p with rest := p.rest.drop n, output := p.output ++ (p.rest.take n).toArray }
  if p.rest.length < n then throw .cut

/-- Decodes blocks up to the last one. Every block takes three bits at least, so `fuel` above the
number of bits is never used up. -/
def blocks : Nat → Decoder Unit
  | 0 => throw .cut
  | fuel + 1 => do
    let last ← bits 1
    match ← bits 2 with
    | 0 => storedBlock
    | 1 => codedBlock fixedLiterals fixedDistances (8 * (← get).rest.length + 16)
    | 2 =>
      let (literals, distances) ← ownCodes
      codedBlock literals distances (8 * (← get).rest.length + 16)
    | _ => throw .corrupt
    if last = 1 then alignToByte else blocks fuel

/-- Decodes a stream: the output, as far as the stream goes, and how it ended. -/
def inflate (input : Bytes) : Bytes × Ending :=
  match (blocks (8 * input.length + 1)) { rest := input } with
  | (.ok (), p) => (p.output.toList, .complete p.rest)
  | (.error .cut, p) => (p.output.toList, .cut)
  | (.error .corrupt, p) => (p.output.toList, .corrupt)

/-- The most bytes a stored block can hold. -/
def maxStored : Nat := 65535

/-- A stored block. -/
def storedBlockBytes (last : Bool) (content : Bytes) : Bytes :=
  (if last then 1 else 0) :: Bytes.ofNatLE 2 content.length ++
    Bytes.ofNatLE 2 (65535 - content.length) ++ content

/-- Content as stored blocks, `n` full ones and the last. -/
def storeBlocks : Nat → Bytes → Bytes
  | 0, content => storedBlockBytes true content
  | n + 1, content =>
    storedBlockBytes false (content.take maxStored) ++ storeBlocks n (content.drop maxStored)

/-- A stream of stored blocks that decodes to the content. -/
def store (content : Bytes) : Bytes := storeBlocks (content.length / maxStored) content

end Northbound.Deflate
