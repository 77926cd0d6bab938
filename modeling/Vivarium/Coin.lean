/-! The coin that all creatures of a run share. Its flips are read off a ChaCha keystream of eight
rounds, addressed by position, whose key is drawn from a 64-bit seed. -/
namespace Vivarium

namespace Coin

/-! ### The keystream -/

abbrev Block := Vector UInt32 16

def rotateLeft (x amount : UInt32) : UInt32 := x <<< amount ||| x >>> (32 - amount)

def rotateRight (x amount : UInt32) : UInt32 := x >>> amount ||| x <<< (32 - amount)

def quarterRound (s : Block) (a b c d : Fin 16) : Block :=
  let s := s.set a (s[a] + s[b])
  let s := s.set d (rotateLeft (s[d] ^^^ s[a]) 16)
  let s := s.set c (s[c] + s[d])
  let s := s.set b (rotateLeft (s[b] ^^^ s[c]) 12)
  let s := s.set a (s[a] + s[b])
  let s := s.set d (rotateLeft (s[d] ^^^ s[a]) 8)
  let s := s.set c (s[c] + s[d])
  s.set b (rotateLeft (s[b] ^^^ s[c]) 7)

def doubleRound (s : Block) : Block :=
  let s := quarterRound s 0 4 8 12
  let s := quarterRound s 1 5 9 13
  let s := quarterRound s 2 6 10 14
  let s := quarterRound s 3 7 11 15
  let s := quarterRound s 0 5 10 15
  let s := quarterRound s 1 6 11 12
  let s := quarterRound s 2 7 8 13
  quarterRound s 3 4 9 14

/-- The constants, the key, and a 64-bit block counter; the stream number is zero. -/
def initialBlock (key : Vector UInt32 8) (counter : UInt64) : Block :=
  #v[0x61707865, 0x3320646E, 0x79622D32, 0x6B206574,
    key[0], key[1], key[2], key[3], key[4], key[5], key[6], key[7],
    counter.toUInt32, (counter >>> 32).toUInt32, 0, 0]

def keystreamBlock (key : Vector UInt32 8) (counter : UInt64) : Block :=
  let start := initialBlock key counter
  let mixed := doubleRound (doubleRound (doubleRound (doubleRound start)))
  start.zipWith (· + ·) mixed

/-- The keystream read as 64-bit words, eight to a block, low half first. -/
def keystreamWord (key : Vector UInt32 8) (index : Nat) : UInt64 :=
  let block := keystreamBlock key (UInt64.ofNat (index / 8))
  let low := block.getD (2 * (index % 8)) 0
  let high := block.getD (2 * (index % 8) + 1) 0
  high.toUInt64 <<< 32 ||| low.toUInt64

def nextState (state : UInt64) : UInt64 := state * 6364136223846793005 + 11634580027462260723

def stateWord (state : UInt64) : UInt32 :=
  rotateRight (((state >>> 18) ^^^ state) >>> 27).toUInt32 (state >>> 59).toUInt32

def stateWords (state : UInt64) : Nat → List UInt32
  | 0 => []
  | n + 1 => stateWord (nextState state) :: stateWords (nextState state) n

theorem length_stateWords (state : UInt64) (n : Nat) : (stateWords state n).length = n := by
  induction n generalizing state with
  | zero => rfl
  | succ n ih => simp [stateWords, ih]

def seedKey (seed : UInt64) : Vector UInt32 8 :=
  ⟨(stateWords seed 8).toArray, by simp [length_stateWords]⟩

end Coin

/-! ### The coin -/

/-- A stream of outcomes, heads being `true`, and the number of flips made so far. -/
structure Coin where
  outcome : Nat → Bool
  flips : Nat

namespace Coin

def flip (c : Coin) : Bool × Coin := (c.outcome c.flips, { c with flips := c.flips + 1 })

/-- A fair coin: heads on the lower half of the words of the seed's keystream. -/
def seeded (seed : UInt64) : Coin :=
  let key := seedKey seed
  ⟨fun index => keystreamWord key index < 0x8000000000000000, 0⟩

/-- Repeats a list of outcomes; without any it always shows tails. -/
def scripted (script : Array Bool) : Coin :=
  ⟨fun index => script.getD (index % script.size) false, 0⟩

def flipMany : Nat → Coin → List Bool × Coin
  | 0, c => ([], c)
  | n + 1, c =>
    let (rest, last) := flipMany n c.flip.2
    (c.flip.1 :: rest, last)

end Coin

end Vivarium
