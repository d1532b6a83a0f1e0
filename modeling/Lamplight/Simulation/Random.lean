/-!
# Random numbers

A generator of pseudo-random words of 64 bits.  Its state goes through all words before it
comes back to where it started; a word is drawn from the state by one long multiplication.
Fractions and choices are made from words, and words that would spoil their distribution are
drawn again.
-/

namespace Lamplight

/-- The state of a generator of random numbers. -/
structure Random where
  state : UInt64
  deriving Repr, DecidableEq

namespace Random

/-- The step of the state from one word to the next; it is odd, so that no state is left out. -/
def increment : UInt64 := 0x2d358dccaa6c78a5

/-- The word that blurs the state before it is multiplied with itself. -/
def blur : UInt64 := 0x8bb84b93962eacc9

/-- The next word: the two halves of a product of 128 bits, laid over one another. -/
def next (random : Random) : UInt64 × Random :=
  let state := random.state + increment
  let product := state.toNat * (state ^^^ blur).toNat
  (UInt64.ofNat product ^^^ UInt64.ofNat (product / UInt64.size), ⟨state⟩)

/-- How often a word may be refused before the last one drawn has to do: once for every state
of the generator. -/
def attempts : Nat := UInt64.size

/-- The next word that is accepted. -/
def nextWhere (accept : UInt64 → Bool) : (attempts : Nat) → Random → UInt64 × Random
  | 0, random => random.next
  | attempts + 1, random =>
    let drawn := random.next
    if accept drawn.1 then drawn else nextWhere accept attempts drawn.2

/-- The fraction of one that the upper 63 bits of a word stand for.  It is rounded, up to one
for the largest words. -/
def fraction (word : UInt64) : Float :=
  (word >>> 1).toFloat / 9223372036854775808

/-- A number from zero up to but not including one. -/
def unit (random : Random) : Float × Random :=
  let (word, random) := random.nextWhere (fun word => fraction word < 1) attempts
  (fraction word, random)

/-- Whether a word may choose among so many items.  Refusing the others makes all choices
equally likely. -/
def isFair (count : Nat) (word : UInt64) : Bool :=
  (UInt64.size - count) % count ≤ word.toNat * count % UInt64.size

/-- A number below a bound, for choosing among so many items. -/
def below (random : Random) (count : Nat) : Nat × Random :=
  let (word, random) := random.nextWhere (isFair count) attempts
  (word.toNat * count / UInt64.size, random)

theorem below_lt (random : Random) {count : Nat} (positive : 0 < count) :
    (random.below count).1 < count := by
  unfold below
  simp only
  have : ∀ word : UInt64, word.toNat * count / UInt64.size < count := by
    intro word
    have bounded : word.toNat < UInt64.size := word.toNat_lt
    exact Nat.div_lt_of_lt_mul (Nat.mul_lt_mul_of_pos_right bounded positive)
  exact this _

end Random

end Lamplight
