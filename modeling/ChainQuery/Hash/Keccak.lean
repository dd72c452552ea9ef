import ChainQuery.Bytes

/-!
# The Keccak hash

The Keccak sponge with 256 bits of output: the permutation of 25 words of 64 bits in 24 rounds, and
the absorption of blocks of 136 bytes, padded by a one bit, zeros and a last one bit.
-/

namespace ChainQuery.Hash

/-- The state of the sponge: word `x + 5 * y` stands in column `x` and row `y`. -/
abbrev Words := Vector UInt64 25

/-- The word in a column and a row, both counted modulo five. -/
def Words.at (words : Words) (x y : Nat) : UInt64 :=
  words.get ⟨x % 5 + 5 * (y % 5), by omega⟩

/-- A state given word by word. -/
def Words.build (word : (x y : Nat) → UInt64) : Words :=
  Vector.ofFn fun i => word (i.val % 5) (i.val / 5)

/-- A word rotated to the left. -/
def rotate (word : UInt64) (count : Nat) : UInt64 :=
  if count % 64 = 0 then word
  else word <<< UInt64.ofNat (count % 64) ||| word >>> UInt64.ofNat (64 - count % 64)

/-- How far the word in a column and a row is rotated, row by row. -/
def rotations : List Nat :=
  [0, 1, 62, 28, 27, 36, 44, 6, 55, 20, 3, 10, 43, 25, 39, 41, 45, 15, 21, 8, 18, 2, 61, 56, 14]

/-- What each round adds to the first word. -/
def roundConstants : List UInt64 :=
  [ 0x0000000000000001, 0x0000000000008082, 0x800000000000808A, 0x8000000080008000,
    0x000000000000808B, 0x0000000080000001, 0x8000000080008081, 0x8000000000008009,
    0x000000000000008A, 0x0000000000000088, 0x0000000080008009, 0x000000008000000A,
    0x000000008000808B, 0x800000000000008B, 0x8000000000008089, 0x8000000000008003,
    0x8000000000008002, 0x8000000000000080, 0x000000000000800A, 0x800000008000000A,
    0x8000000080008081, 0x8000000000008080, 0x0000000080000001, 0x8000000080008008 ]

/-- The sum of the words of a column. -/
def Words.column (words : Words) (x : Nat) : UInt64 :=
  words.at x 0 ^^^ words.at x 1 ^^^ words.at x 2 ^^^ words.at x 3 ^^^ words.at x 4

/-- Add to every word the sums of the two neighbouring columns. -/
def Words.diffuse (words : Words) : Words :=
  let sums := Vector.ofFn fun (i : Fin 5) => words.column i
  let sum (x : Nat) : UInt64 := sums.get ⟨x % 5, by omega⟩
  .build fun x y => words.at x y ^^^ sum (x + 4) ^^^ rotate (sum (x + 1)) 1

/-- Rotate every word and move it to its new place. -/
def Words.disperse (words : Words) : Words :=
  .build fun x y =>
    let column := x + 3 * y
    rotate (words.at column x) ((rotations[column % 5 + 5 * (x % 5)]?).getD 0)

/-- Combine every word with the next two in its row. -/
def Words.combine (words : Words) : Words :=
  .build fun x y => words.at x y ^^^ (~~~ words.at (x + 1) y &&& words.at (x + 2) y)

/-- One round of the permutation. -/
def Words.round (words : Words) (constant : UInt64) : Words :=
  let mixed := words.diffuse.disperse.combine
  mixed.set 0 (mixed.at 0 0 ^^^ constant)

/-- The permutation of the state. -/
def Words.permute (words : Words) : Words :=
  roundConstants.foldl Words.round words

/-- The bytes of a block: 17 words are overwritten by the absorption. -/
def blockSize : Nat := 136

/-- The word written by eight bytes, least significant first. -/
def littleEndian (bytes : Bytes) : UInt64 :=
  bytes.foldr (fun byte word => word <<< 8 ||| byte.toUInt64) 0

/-- The eight bytes of a word, least significant first. -/
def wordBytes (word : UInt64) : Bytes :=
  (List.range 8).map fun i => (word >>> UInt64.ofNat (8 * i)).toUInt8

/-- Add a block to the state and permute it. -/
def Words.absorb (words : Words) (block : Bytes) : Words :=
  .permute <| .build fun x y =>
    let i := x + 5 * y
    if i < 17 then words.at x y ^^^ littleEndian ((block.drop (8 * i)).take 8) else words.at x y

/-- The padding that fills up the last block. -/
def padding (length : Nat) : Bytes :=
  let missing := blockSize - length % blockSize
  if missing = 1 then [0x81] else 0x01 :: Bytes.zeros (missing - 2) ++ [0x80]

/-- Absorb a number of whole blocks. -/
def absorbBlocks : (count : Nat) → Bytes → Words → Words
  | 0, _, words => words
  | count + 1, input, words =>
    absorbBlocks count (input.drop blockSize) (words.absorb (input.take blockSize))

/-- The 32-byte hash of a byte string. -/
def keccak256 (input : Bytes) : Bytes :=
  let padded := input ++ padding input.length
  let final := absorbBlocks (padded.length / blockSize) padded (Vector.replicate 25 0)
  [final.at 0 0, final.at 1 0, final.at 2 0, final.at 3 0].flatMap wordBytes

theorem length_keccak256 (input : Bytes) : (keccak256 input).length = 32 := by
  simp [keccak256, wordBytes]

end ChainQuery.Hash
