/-!
# Unpacking

Packed bytes are blocks of bits. A block holds bytes as they are, or symbols in a prefix code: a
byte, the end of the block, or a length, after which a distance says where an earlier piece of the
output is repeated. The codes are fixed, or the block begins with the lengths of their words.

Bits are read from the lowest of each byte on. Where the bits end too early, what has been unpacked
so far stands; every other fault is named.
-/

namespace Rulebook

/-- Why packed bytes cannot be unpacked. -/
inductive PackFault
  | header
  | method
  | window
  | flags
  | headerSum
  | dictionary
  | blockKind
  /-- The length of a block of bytes does not agree with its complement. -/
  | storedLength
  /-- A block has too many symbols. -/
  | symbolCount
  /-- The code for the lengths of words is not complete. -/
  | lengthCode
  /-- A length is repeated where there is none, or too often. -/
  | repeated
  | noEnd
  | literalCode
  | distanceCode
  | literal
  | distance
  /-- A distance leads to before the output. -/
  | tooFar
  | outputSum
  | outputLength
deriving DecidableEq, Repr, Inhabited

/-- The text of the fault. -/
def PackFault.message (fault : PackFault) : List Char :=
  let broken (what : String) : List Char :=
    "Error -3 while decompressing data: ".toList ++ what.toList
  match fault with
  | header => broken "incorrect header check"
  | method => broken "unknown compression method"
  | window => broken "invalid window size"
  | flags => broken "unknown header flags set"
  | headerSum => broken "header crc mismatch"
  | dictionary => "Error 2 while decompressing data".toList
  | blockKind => broken "invalid block type"
  | storedLength => broken "invalid stored block lengths"
  | symbolCount => broken "too many length or distance symbols"
  | lengthCode => broken "invalid code lengths set"
  | repeated => broken "invalid bit length repeat"
  | noEnd => broken "invalid code -- missing end-of-block"
  | literalCode => broken "invalid literal/lengths set"
  | distanceCode => broken "invalid distances set"
  | literal => broken "invalid literal/length code"
  | distance => broken "invalid distance code"
  | tooFar => broken "invalid distance too far back"
  | outputSum => broken "incorrect data check"
  | outputLength => broken "incorrect length check"

/-- Where unpacking stands. -/
structure Inflation where
  bits : List Bool
  /-- What has been unpacked. -/
  output : Array UInt8
deriving DecidableEq, Repr, Inhabited

/-- Why unpacking ends before its end. -/
inductive InflationStop
  /-- The bits end too early. -/
  | unfinished
  /-- The bits are not well formed. -/
  | broken (fault : PackFault)
deriving DecidableEq, Repr, Inhabited

/-- A part of unpacking. -/
abbrev Inflate := ExceptT InflationStop (StateM Inflation)

namespace Inflate

/-- The bits of the bytes, in each byte from the lowest on. -/
def bitsOf (bytes : List UInt8) : List Bool :=
  bytes.flatMap fun byte => (List.range 8).map byte.toNat.testBit

/-- Ends because of a fault. -/
def fail {α : Type} (fault : PackFault) : Inflate α :=
  throw (.broken fault)

/-- Reads one bit. -/
def bit : Inflate Bool := do
  let state ← get
  match state.bits with
  | [] => throw .unfinished
  | first :: rest =>
      set { state with bits := rest }
      pure first

/-- Reads a number of some bits, from the lowest on. -/
def number : (count : Nat) → Inflate Nat
  | 0 => pure 0
  | count + 1 => do
      let lowest ← bit
      let higher ← number count
      pure (lowest.toNat + 2 * higher)

/-- Reads some numbers of some bits each. -/
def numbers (size : Nat) : (count : Nat) → Inflate (List Nat)
  | 0 => pure []
  | count + 1 => do
      let first ← number size
      let rest ← numbers size count
      pure (first :: rest)

/-- Leaves out the bits up to the next byte. -/
def align : Inflate Unit :=
  modify fun state => { state with bits := state.bits.drop (state.bits.length % 8) }

/-- Writes one byte. -/
def emit (byte : UInt8) : Inflate Unit :=
  modify fun state => { state with output := state.output.push byte }

end Inflate

/-! ## Prefix codes -/

/-- A prefix code in which words of one length follow each other, shorter ones before longer
ones. -/
structure PrefixCode where
  /-- How many words there are of each length, from one on. -/
  counts : List Nat
  /-- What the words stand for, in their order. -/
  symbols : List Nat
deriving DecidableEq, Repr, Inhabited

namespace PrefixCode

/-- The code whose words have the given lengths; a symbol of length zero has no word. -/
def ofLengths (lengths : List Nat) : PrefixCode :=
  let longest := lengths.foldl max 0
  let symbolsOf (length : Nat) : List Nat :=
    (lengths.zipIdx.filter fun (other, _) => other == length).map Prod.snd
  ⟨(List.range (max 1 longest)).map fun index => lengths.count (index + 1),
    (List.range longest).flatMap fun index => symbolsOf (index + 1)⟩

/-- How many further words of the greatest length there is room for, unless there are too many. -/
def room? (counts : List Nat) : Option Nat :=
  counts.foldl (fun room? count => room?.bind fun room =>
    if count ≤ 2 * room then some (2 * room - count) else none) (some 1)

/-- The code has not too many words, and too few only if it has none or if a single bit may remain
without a meaning. -/
def isUsable (code : PrefixCode) (singleMayRemain : Bool) : Bool :=
  match room? code.counts with
  | none => false
  | some room => room == 0 || code.symbols.isEmpty || (singleMayRemain && code.counts.length == 1)

/-- Reads a word whose bits so far come `offset` words after the first of the words of their length
that are left. -/
def readFrom (offset : Nat) (symbols : List Nat) : (counts : List Nat) → Inflate (Option Nat)
  | [] => pure none
  | count :: counts => do
      let offset := 2 * offset + (← Inflate.bit).toNat
      if offset < count then pure symbols[offset]?
      else readFrom (offset - count) (symbols.drop count) counts

/-- Reads a word: what it stands for, if anything. -/
def read (code : PrefixCode) : Inflate (Option Nat) :=
  readFrom 0 code.symbols code.counts

end PrefixCode

namespace Inflate

/-! ## Blocks -/

/-- Numbers that begin at a first one, given by the number of bits that tell them apart. -/
def ranges (first : Nat) : List Nat → List (Nat × Nat)
  | [] => []
  | bits :: rest => (first, bits) :: ranges (first + (1 <<< bits)) rest

/-- The lengths that symbols stand for: the least one, and how many bits are to be added. -/
def lengthRanges : List (Nat × Nat) :=
  (ranges 3 [0, 0, 0, 0, 0, 0, 0, 0, 1, 1, 1, 1, 2, 2, 2, 2, 3, 3, 3, 3, 4, 4, 4, 4,
    5, 5, 5, 5]).dropLast ++ [(227, 5), (258, 0)]

/-- The distances that symbols stand for: the least one, and how many bits are to be added. -/
def distanceRanges : List (Nat × Nat) :=
  ranges 1 [0, 0, 0, 0, 1, 1, 2, 2, 3, 3, 4, 4, 5, 5, 6, 6, 7, 7, 8, 8, 9, 9, 10, 10, 11, 11,
    12, 12, 13, 13]

/-- An output with some bytes repeated from a distance before its end. -/
def repeatFrom (distance : Nat) : (length : Nat) → Array UInt8 → Array UInt8
  | 0, output => output
  | length + 1, output =>
      repeatFrom distance length (output.push ((output[output.size - distance]?).getD 0))

/-- Reads symbols up to the end of a block, at most `bound` of them. -/
def symbols (literals distances : PrefixCode) : (bound : Nat) → Inflate Unit
  | 0 => throw .unfinished
  | bound + 1 => do
      match ← literals.read with
      | none => fail .literal
      | some symbol =>
          if symbol < 256 then
            emit (UInt8.ofNat symbol)
            symbols literals distances bound
          else if symbol = 256 then pure ()
          else match lengthRanges[symbol - 257]? with
            | none => fail .literal
            | some (least, more) =>
                let length := least + (← number more)
                match (← distances.read).bind (distanceRanges[·]?) with
                | none => fail .distance
                | some (least, more) =>
                    let distance := least + (← number more)
                    let state ← get
                    if state.output.size < distance then fail .tooFar
                    set { state with output := repeatFrom distance length state.output }
                    symbols literals distances bound

/-- Copies some bytes as they are. -/
def storedBytes : (count : Nat) → Inflate Unit
  | 0 => pure ()
  | count + 1 => do
      emit (UInt8.ofNat (← number 8))
      storedBytes count

/-- A block that is not packed: its length, the complement of the length, and its bytes. -/
def storedBlock : Inflate Unit := do
  align
  let length ← number 16
  let complement ← number 16
  if length + complement ≠ 0xFFFF then fail .storedLength
  storedBytes length

/-- The code for bytes and lengths in a block that brings none. -/
def fixedLiterals : PrefixCode :=
  .ofLengths (List.replicate 144 8 ++ List.replicate 112 9 ++ List.replicate 24 7 ++
    List.replicate 8 8)

/-- The code for distances in a block that brings none. -/
def fixedDistances : PrefixCode :=
  .ofLengths (List.replicate 32 5)

/-- Reads the lengths of words until there are `total` of them, given those before in reverse
order. A word without a meaning counts as a length of zero. -/
def wordLengths (code : PrefixCode) (total : Nat) :
    (bound : Nat) → (before : List Nat) → Inflate (List Nat)
  | 0, before => pure before.reverse
  | bound + 1, before => do
      if total ≤ before.length then pure before.reverse
      else
        let symbol := (← code.read).getD 0
        let (length, count) ← match symbol with
          | 16 => do
              let more ← number 2
              match before with
              | [] => fail .repeated
              | last :: _ => pure (last, 3 + more)
          | 17 => do pure (0, 3 + (← number 3))
          | 18 => do pure (0, 11 + (← number 7))
          | length => pure (length, 1)
        if total < before.length + count then fail .repeated
        wordLengths code total bound (List.replicate count length ++ before)

/-- The symbols for the lengths of words, in the order in which their own lengths are given. -/
def lengthSymbols : List Nat :=
  [16, 17, 18, 0, 8, 7, 9, 6, 10, 5, 11, 4, 12, 3, 13, 2, 14, 1, 15]

/-- Reads the codes of a block, for bytes and lengths and for distances. -/
def blockCodes : Inflate (PrefixCode × PrefixCode) := do
  let literalCount := 257 + (← number 5)
  let distanceCount := 1 + (← number 5)
  let lengthCount := 4 + (← number 4)
  if 286 < literalCount ∨ 30 < distanceCount then fail .symbolCount
  let given := lengthSymbols.zip (← numbers 3 lengthCount)
  let lengthCode := PrefixCode.ofLengths
    ((List.range lengthSymbols.length).map fun symbol => (given.lookup symbol).getD 0)
  if !lengthCode.isUsable false then fail .lengthCode
  let total := literalCount + distanceCount
  let lengths ← wordLengths lengthCode total total []
  if lengths[256]? = some 0 then fail .noEnd
  let literals := PrefixCode.ofLengths (lengths.take literalCount)
  if !literals.isUsable true then fail .literalCode
  let distances := PrefixCode.ofLengths (lengths.drop literalCount)
  if !distances.isUsable true then fail .distanceCode
  pure (literals, distances)

/-- Unpacks blocks up to the last one, at most `bound` of them with at most `bound` symbols each. -/
def blocksFrom (bound : Nat) : (left : Nat) → Inflate Unit
  | 0 => throw .unfinished
  | left + 1 => do
      let isLast ← bit
      match ← number 2 with
      | 0 => storedBlock
      | 1 => symbols fixedLiterals fixedDistances bound
      | 2 => do
          let (literals, distances) ← blockCodes
          symbols literals distances bound
      | _ => fail .blockKind
      if isLast then pure () else blocksFrom bound left

/-- Unpacks blocks up to the last one. Every block and every symbol takes at least one bit. -/
def blocks : Inflate Unit := do
  let bound := (← get).bits.length + 1
  blocksFrom bound bound

/-- What has been unpacked when a part of unpacking ends or the bits end. -/
def run (unpack : Inflate Unit) (bytes : List UInt8) : Except PackFault (List UInt8) :=
  match (ExceptT.run unpack).run ⟨bitsOf bytes, #[]⟩ with
  | (.error (.broken fault), _) => .error fault
  | (_, state) => .ok state.output.toList

end Inflate

end Rulebook
