set_option autoImplicit false

namespace ApiSchema.Digest

/-- The round constants: the first bits of the cube roots of the first primes. -/
def roundConstants : List UInt32 := [
  0x428a2f98, 0x71374491, 0xb5c0fbcf, 0xe9b5dba5, 0x3956c25b, 0x59f111f1, 0x923f82a4, 0xab1c5ed5,
  0xd807aa98, 0x12835b01, 0x243185be, 0x550c7dc3, 0x72be5d74, 0x80deb1fe, 0x9bdc06a7, 0xc19bf174,
  0xe49b69c1, 0xefbe4786, 0x0fc19dc6, 0x240ca1cc, 0x2de92c6f, 0x4a7484aa, 0x5cb0a9dc, 0x76f988da,
  0x983e5152, 0xa831c66d, 0xb00327c8, 0xbf597fc7, 0xc6e00bf3, 0xd5a79147, 0x06ca6351, 0x14292967,
  0x27b70a85, 0x2e1b2138, 0x4d2c6dfc, 0x53380d13, 0x650a7354, 0x766a0abb, 0x81c2c92e, 0x92722c85,
  0xa2bfe8a1, 0xa81a664b, 0xc24b8b70, 0xc76c51a3, 0xd192e819, 0xd6990624, 0xf40e3585, 0x106aa070,
  0x19a4c116, 0x1e376c08, 0x2748774c, 0x34b0bcb5, 0x391c0cb3, 0x4ed8aa4a, 0x5b9cca4f, 0x682e6ff3,
  0x748f82ee, 0x78a5636f, 0x84c87814, 0x8cc70208, 0x90befffa, 0xa4506ceb, 0xbef9a3f7, 0xc67178f2]

structure Chain where
  a : UInt32
  b : UInt32
  c : UInt32
  d : UInt32
  e : UInt32
  f : UInt32
  g : UInt32
  h : UInt32

/-- The chaining words before the first block. -/
def Chain.start : Chain :=
  ⟨0x6a09e667, 0xbb67ae85, 0x3c6ef372, 0xa54ff53a, 0x510e527f, 0x9b05688c, 0x1f83d9ab, 0x5be0cd19⟩

def Chain.toList (chain : Chain) : List UInt32 :=
  [chain.a, chain.b, chain.c, chain.d, chain.e, chain.f, chain.g, chain.h]

/-- Rotation to the right by less than a word. -/
def rotateRight (word : UInt32) (amount : UInt32) : UInt32 :=
  (word >>> amount) ||| (word <<< (32 - amount))

def Chain.round (chain : Chain) (word constant : UInt32) : Chain :=
  let spread := rotateRight chain.e 6 ^^^ rotateRight chain.e 11 ^^^ rotateRight chain.e 25
  let choice := (chain.e &&& chain.f) ^^^ (~~~chain.e &&& chain.g)
  let first := chain.h + spread + choice + constant + word
  let mixed := rotateRight chain.a 2 ^^^ rotateRight chain.a 13 ^^^ rotateRight chain.a 22
  let majority := (chain.a &&& chain.b) ^^^ (chain.a &&& chain.c) ^^^ (chain.b &&& chain.c)
  ⟨first + (mixed + majority), chain.a, chain.b, chain.c,
    chain.d + first, chain.e, chain.f, chain.g⟩

def Chain.add (left right : Chain) : Chain :=
  ⟨left.a + right.a, left.b + right.b, left.c + right.c, left.d + right.d,
    left.e + right.e, left.f + right.f, left.g + right.g, left.h + right.h⟩

/-- The next word of a message schedule, whose words so far are given with the last one first. -/
def nextWord (words : List UInt32) : UInt32 :=
  let early := words.getD 14 0
  let late := words.getD 1 0
  let low := rotateRight early 7 ^^^ rotateRight early 18 ^^^ (early >>> 3)
  let high := rotateRight late 17 ^^^ rotateRight late 19 ^^^ (late >>> 10)
  words.getD 15 0 + low + words.getD 6 0 + high

/-- The schedule lengthened by the given number of words, the last one first. -/
def extendSchedule : Nat → List UInt32 → List UInt32
  | 0, words => words
  | count + 1, words => extendSchedule count (nextWord words :: words)

/-- The chaining words after a block of sixteen words. -/
def Chain.absorb (chain : Chain) (block : List UInt32) : Chain :=
  let schedule := (extendSchedule 48 block.reverse).reverse
  chain.add
    ((schedule.zip roundConstants).foldl (fun state pair => state.round pair.1 pair.2) chain)

/-- Bytes taken four at a time as words, the most significant byte first. -/
def wordsOfBytes : List UInt8 → List UInt32
  | a :: b :: c :: d :: rest =>
      ((a.toUInt32 <<< 24) ||| (b.toUInt32 <<< 16) ||| (c.toUInt32 <<< 8) ||| d.toUInt32) ::
        wordsOfBytes rest
  | _ => []

/-- The message with its mark, its filling and its length in bits: a whole number of blocks. -/
def pad (message : List UInt8) : List UInt8 :=
  let size := message.length
  let filling := (119 - size % 64) % 64
  let bits := 8 * size
  message ++ [0x80] ++ List.replicate filling 0 ++
    (List.range 8).map fun place => UInt8.ofNat (bits / Nat.pow 256 (7 - place))

/-- The chaining words after the given number of blocks of the word list. -/
def absorbBlocks : Nat → List UInt32 → Chain → Chain
  | 0, _, chain => chain
  | count + 1, words, chain => absorbBlocks count (words.drop 16) (chain.absorb (words.take 16))

/-- The eight hexadecimal digits of a word. -/
def hexWord (word : UInt32) : List Char :=
  (List.range 8).map fun place => Nat.digitChar (word.toNat / Nat.pow 16 (7 - place) % 16)

def sha256 (message : List UInt8) : Chain :=
  let words := wordsOfBytes (pad message)
  absorbBlocks (words.length / 16) words Chain.start

/-- The digest of the bytes of a text, as sixty-four hexadecimal digits. -/
def sha256Hex (text : String) : String :=
  String.ofList ((sha256 text.toUTF8.toList).toList.flatMap hexWord)

end ApiSchema.Digest
