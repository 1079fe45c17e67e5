import Georef.Error

/-!
# Inflating

Compressed data is a sequence of blocks. A block holds bytes as they are, or literals and
references to earlier output, coded by prefix codes that are fixed or stored in front of the block.

A prefix code is kept as the number of codes of each length and the symbols in the order of their
codes; a code is read bit by bit until the bits read so far are one of the codes of their length.
A reference may reach to before the output, where there are zeros.
Every step of the block loop reads at least one bit, which bounds the loop by the length of the
input.

* `Inflate.PrefixCode`, `Inflate.symbol`: prefix codes and reading with them.
* `Inflate.inflate`: the output of a compressed stream, and the position of the byte behind it.
-/

namespace Georef.Inflate

/-- Reading bits: the state is the position, in bits. -/
abbrev BitReader (α : Type) : Type :=
  ReaderT Bytes (StateT Nat (Except IoFault)) α

/-- The next bit; bytes are read from their lowest bit on. -/
def bit : BitReader Nat := do
  let bytes ← read
  let position ← get
  match bytes[position / 8]? with
  | none => throw .truncated
  | some byte =>
    set (position + 1)
    return (byte.toNat >>> (position % 8)) % 2

/-- A number of `count` bits, lowest bit first. -/
def bits : (count : Nat) → BitReader Nat
  | 0 => return 0
  | count + 1 => do
    let low ← bit
    let high ← bits count
    return low + 2 * high

/-- Moves to the next whole byte. -/
def align : BitReader Unit :=
  modify fun position => (position + 7) / 8 * 8

/-! ## Prefix codes -/

/-- A prefix code: how many codes there are of each length up to the longest, and the symbols in
order of code. -/
structure PrefixCode where
  counts : Array Nat
  symbols : Array Nat

/-- The longest code in bits. -/
def maxLength : Nat := 15

/-- The code with the given length for each symbol; zero means that a symbol has no code. -/
def PrefixCode.ofLengths (lengths : List Nat) : PrefixCode :=
  let longest := lengths.foldl max 1
  let counts := (List.range (longest + 1)).map fun length =>
    if length = 0 then 0 else lengths.count length
  let symbols := (List.range longest).flatMap fun length =>
    (lengths.zipIdx.filter fun entry => entry.1 == length + 1).map Prod.snd
  ⟨counts.toArray, symbols.toArray⟩

/-- Every sequence of bits starts with one of the codes: the share of the code space that each
length takes adds up to the whole. -/
def PrefixCode.isComplete (code : PrefixCode) : Bool :=
  let space := (List.range (maxLength + 1)).foldl
    (fun sum length => sum + code.counts.getD length 0 <<< (maxLength - length)) 0
  space == 1 <<< maxLength

/-- There is no code, or a single one of one bit. -/
def PrefixCode.isSparse (code : PrefixCode) : Bool :=
  code.symbols.size ≤ 1 && code.counts.size ≤ 2

/-- Reads on in a code: `code` holds the bits so far, `first` the first code of the current length
and `index` the number of shorter codes. -/
def symbolFrom (table : PrefixCode) : (fuel length code first index : Nat) → BitReader Nat
  | 0, _, _, _, _ => throw .badDeflate
  | fuel + 1, length, code, first, index => do
    -- codes of one length are consecutive numbers, after those that shorter codes leave open
    let code := code + (← bit)
    let count := table.counts.getD length 0
    if code < first + count then
      return table.symbols.getD (index + (code - first)) 0
    symbolFrom table fuel (length + 1) (2 * code) (2 * (first + count)) (index + count)

/-- The next symbol of a code. Bits that are no code are refused once there are as many of them
as the longest code has. -/
def symbol (table : PrefixCode) : BitReader Nat :=
  symbolFrom table (table.counts.size - 1) 1 0 0 0

/-! ## Blocks -/

/-- The base and the number of further bits of each length symbol, from 257 on. -/
def lengthTable : Array (Nat × Nat) :=
  #[(3, 0), (4, 0), (5, 0), (6, 0), (7, 0), (8, 0), (9, 0), (10, 0), (11, 1), (13, 1), (15, 1),
    (17, 1), (19, 2), (23, 2), (27, 2), (31, 2), (35, 3), (43, 3), (51, 3), (59, 3), (67, 4),
    (83, 4), (99, 4), (115, 4), (131, 5), (163, 5), (195, 5), (227, 5), (258, 0)]

/-- The base and the number of further bits of each distance symbol. -/
def distanceTable : Array (Nat × Nat) :=
  #[(1, 0), (2, 0), (3, 0), (4, 0), (5, 1), (7, 1), (9, 2), (13, 2), (17, 3), (25, 3), (33, 4),
    (49, 4), (65, 5), (97, 5), (129, 6), (193, 6), (257, 7), (385, 7), (513, 8), (769, 8),
    (1025, 9), (1537, 9), (2049, 10), (3073, 10), (4097, 11), (6145, 11), (8193, 12),
    (12289, 12), (16385, 13), (24577, 13)]

/-- The value of a symbol that stands for a range of numbers. -/
def ranged (table : Array (Nat × Nat)) (index : Nat) : BitReader Nat :=
  match table[index]? with
  | none => throw .badDeflate
  | some (base, more) => return base + (← bits more)

/-- The byte at a distance behind the end of the output; the output is taken to follow zeros. -/
def behind (out : Bytes) (distance : Nat) : UInt8 :=
  if out.size < distance then 0 else out.getD (out.size - distance) 0

/-- The output with `count` bytes repeated from a distance behind its end. -/
def copyBack (distance : Nat) : (count : Nat) → Bytes → Bytes
  | 0, out => out
  | count + 1, out => copyBack distance count (out.push (behind out distance))

/-- The output after the symbols of a block. -/
def compressed (literals distances : PrefixCode) : (fuel : Nat) → Bytes → BitReader Bytes
  | 0, _ => throw .truncated
  | fuel + 1, out => do
    let code ← symbol literals
    if code < 256 then compressed literals distances fuel (out.push (UInt8.ofNat code))
    else if code = 256 then return out
    else
      let length ← ranged lengthTable (code - 257)
      let distance ← ranged distanceTable (← symbol distances)
      compressed literals distances fuel (copyBack distance length out)

/-- The output after a block of bytes as they are. -/
def stored (out : Bytes) : BitReader Bytes := do
  align
  let length ← bits 16
  let check ← bits 16
  -- the length is stored twice, the second time with all bits turned over
  if length + check ≠ 0xFFFF then throw .badDeflate
  let bytes ← read
  let start := (← get) / 8
  if bytes.size < start + length then throw .truncated
  modify (· + 8 * length)
  return out ++ bytes.slice start length

/-- The code for literals and lengths of blocks that store none. -/
def fixedLiterals : PrefixCode :=
  .ofLengths
    (List.replicate 144 8 ++ List.replicate 112 9 ++ List.replicate 24 7 ++ List.replicate 8 8)

/-- The code for distances of blocks that store none. -/
def fixedDistances : PrefixCode :=
  .ofLengths (List.replicate 32 5)

/-- The order in which the lengths of the code for code lengths are stored. -/
def lengthOrder : List Nat :=
  [16, 17, 18, 0, 8, 7, 9, 6, 10, 5, 11, 4, 12, 3, 13, 2, 14, 1, 15]

/-- Reads code lengths, with their repetitions, until there are `total`. -/
def codeLengths (table : PrefixCode) (total : Nat) : (fuel : Nat) → Array Nat →
    BitReader (Array Nat)
  | 0, _ => throw .badDeflate
  | fuel + 1, done => do
    -- a repetition may not run past the last length
    if total ≤ done.size then
      if total < done.size then throw .badDeflate
      return done
    let code ← symbol table
    if code < 16 then codeLengths table total fuel (done.push code)
    else if code = 16 then
      match done.back? with
      | none => throw .badDeflate
      | some last =>
        let count := 3 + (← bits 2)
        codeLengths table total fuel (done ++ Array.replicate count last)
    else
      let count ← if code = 17 then do pure (3 + (← bits 3)) else do pure (11 + (← bits 7))
      codeLengths table total fuel (done ++ Array.replicate count 0)

/-- The code for the given lengths, which has to be complete. -/
def completeCode (lengths : List Nat) : BitReader PrefixCode :=
  let code := PrefixCode.ofLengths lengths
  if code.isComplete then return code else throw .badDeflate

/-- The code for the given lengths of literals or distances: it has to be complete, unless a block
makes do with at most one symbol. -/
def dataCode (lengths : List Nat) : BitReader PrefixCode :=
  let code := PrefixCode.ofLengths lengths
  if code.isComplete || code.isSparse then return code else throw .badDeflate

/-- The lengths of the code for code lengths. -/
def lengthsOfLengths : List Nat → List Nat → BitReader (List Nat)
  | [], found => return found
  | place :: places, found => do
    let length ← bits 3
    lengthsOfLengths places (found.set place length)

/-- The two codes stored in front of a block. -/
def storedCodes : BitReader (PrefixCode × PrefixCode) := do
  let literalCount := 257 + (← bits 5)
  let distanceCount := 1 + (← bits 5)
  let lengthCount := 4 + (← bits 4)
  if 286 < literalCount ∨ 30 < distanceCount then throw .badDeflate
  let lengths ← lengthsOfLengths (lengthOrder.take lengthCount) (List.replicate 19 0)
  -- lengths of literals and distances are one sequence, and a repetition may cross over
  let total := literalCount + distanceCount
  let all := (← codeLengths (← completeCode lengths) total (total + 1) #[]).toList
  return (← dataCode (all.take literalCount), ← dataCode (all.drop literalCount))

/-- The output after the blocks of a stream. -/
def blocks : (fuel : Nat) → Bytes → BitReader Bytes
  | 0, _ => throw .truncated
  | fuel + 1, out => do
    let last ← bit
    let kind ← bits 2
    -- every symbol takes a bit at least, so there are no more than the input has bits
    let bound := 8 * (← read).size
    let out ←
      if kind = 0 then stored out
      else if kind = 1 then do
        compressed fixedLiterals fixedDistances bound out
      else if kind = 2 then do
        let (literals, distances) ← storedCodes
        compressed literals distances bound out
      else throw .badDeflate
    if last = 1 then return out else blocks fuel out

/-- The output of a compressed stream that starts at a byte, and the byte behind the stream. -/
def inflate (bytes : Bytes) (start : Nat) : Except IoFault (Bytes × Nat) := do
  let (out, position) ← (blocks (8 * bytes.size) #[]).run bytes |>.run (8 * start)
  return (out, (position + 7) / 8)

end Georef.Inflate
