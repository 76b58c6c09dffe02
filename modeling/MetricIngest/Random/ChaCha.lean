/-
  The ChaCha8 key stream as a source of 64-bit words.

  A block of sixteen 32-bit words is mixed from a constant, the key and the
  number of the block by eight rounds; the words of the blocks one after the
  other, taken in pairs with the low half first, are the draws. The key is
  spread from a 64-bit seed. `Generator` holds the key and how many draws were
  taken, so the `n`-th draw of a seed is a function of both.
-/

import MetricIngest.Number.Binary64

namespace MetricIngest.Random

/-! ### The block function -/

/-- The sixteen words that a block is mixed from. -/
abbrev Block := Vector UInt32 16

/-- A word turned left by a number of bits. -/
def rotateLeft (x : UInt32) (n : UInt32) : UInt32 :=
  (x <<< n) ||| (x >>> (32 - n))

/-- A word turned right by a number of bits, which may be zero. -/
def rotateRight (x : UInt32) (n : UInt32) : UInt32 :=
  (x >>> n) ||| (x <<< ((32 - n) % 32))

/-- Mix four words of a block. -/
def quarterRound (s : Block) (a b c d : Fin 16) : Block :=
  let s := s.set a (s[a] + s[b])
  let s := s.set d (rotateLeft (s[d] ^^^ s[a]) 16)
  let s := s.set c (s[c] + s[d])
  let s := s.set b (rotateLeft (s[b] ^^^ s[c]) 12)
  let s := s.set a (s[a] + s[b])
  let s := s.set d (rotateLeft (s[d] ^^^ s[a]) 8)
  let s := s.set c (s[c] + s[d])
  s.set b (rotateLeft (s[b] ^^^ s[c]) 7)

/-- Mix the columns of a block and then its diagonals. -/
def doubleRound (s : Block) : Block :=
  let s := quarterRound s 0 4 8 12
  let s := quarterRound s 1 5 9 13
  let s := quarterRound s 2 6 10 14
  let s := quarterRound s 3 7 11 15
  let s := quarterRound s 0 5 10 15
  let s := quarterRound s 1 6 11 12
  let s := quarterRound s 2 7 8 13
  quarterRound s 3 4 9 14

/-- A key of eight words. -/
abbrev Key := Vector UInt32 8

/-- The first four words of every block before mixing. -/
def constants : Vector UInt32 4 := #v[0x61707865, 0x3320646E, 0x79622D32, 0x6B206574]

/-- The last four words of block `n` before mixing: its number in two words,
and two zeros. -/
def blockNumber (n : UInt64) : Vector UInt32 4 := #v[n.toUInt32, (n >>> 32).toUInt32, 0, 0]

/-- The words that block `n` is mixed from. -/
def start (key : Key) (n : UInt64) : Block :=
  constants ++ key ++ blockNumber n

/-- Block `n` of the key stream: eight rounds on its start, added to the start. -/
def block (key : Key) (n : UInt64) : Block :=
  let s := start key n
  let mixed := doubleRound (doubleRound (doubleRound (doubleRound s)))
  Vector.zipWith (· + ·) mixed s

/-! ### Seeds -/

/-- The next state of the congruential generator that spreads seeds. -/
def spreadState (state : UInt64) : UInt64 :=
  state * 6364136223846793005 + 11634580027462260723

/-- The word that the spreading generator gives in a state. -/
def spreadWord (state : UInt64) : UInt32 :=
  rotateRight (((state >>> 18) ^^^ state) >>> 27).toUInt32 (state >>> 59).toUInt32

/-- The state of the spreading generator after `n` steps. -/
def spreadStates (seed : UInt64) : Nat → UInt64
  | 0 => seed
  | n + 1 => spreadState (spreadStates seed n)

/-- The key of a seed. -/
def keyOf (seed : UInt64) : Key :=
  Vector.ofFn fun i => spreadWord (spreadStates seed (i.val + 1))

/-! ### The generator -/

/-- A source of draws: the key and the number of draws taken. -/
structure Generator where
  key : Key
  taken : Nat
deriving Repr, DecidableEq

namespace Generator

/-- The generator of a seed, before its first draw. -/
def ofSeed (seed : UInt64) : Generator := ⟨keyOf seed, 0⟩

/-- The `n`-th draw of a key: the words `2 n` and `2 n + 1` of its key stream. -/
def drawAt (key : Key) (n : Nat) : UInt64 :=
  let b := block key (n / 8).toUInt64
  let low := b[2 * (n % 8)]
  let high := b[2 * (n % 8) + 1]
  high.toUInt64 <<< 32 ||| low.toUInt64

/-- The next draw, and the generator after it. -/
def next (g : Generator) : UInt64 × Generator :=
  (drawAt g.key g.taken, { g with taken := g.taken + 1 })

/-- A number from `min` up to but not including `max`; `min` without a draw when
there is none between them. -/
def nextBetween (g : Generator) (min max : Nat) : Nat × Generator :=
  if max ≤ min then (min, g)
  else
    let (draw, g) := g.next
    (min + draw.toNat % (max - min), g)

/-- A draw as a fraction of the greatest one. -/
def fraction (draw : UInt64) : Binary64 :=
  let x := (Binary64.ofNat draw.toNat).ratio
  Binary64.ofRatio false x.1 (x.2 * UInt64.size)

/-- Decide an event of a given probability. What is certain either way takes no
draw. -/
def decide (g : Generator) (probability : Binary64) : Bool × Generator :=
  if probability.le .zero then (false, g)
  else if (Binary64.ofNat 1).le probability then (true, g)
  else
    let (draw, g) := g.next
    ((fraction draw).lt probability, g)

end Generator

end MetricIngest.Random
