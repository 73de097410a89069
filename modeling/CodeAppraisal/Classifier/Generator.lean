/-!
A generator of random words: the ChaCha stream cipher with eight rounds, keyed by a seed. Draws
below a bound and shuffles take as few words as they can.
-/
namespace CodeAppraisal.Classifier

abbrev ChaChaBlock := Vector UInt32 16

namespace ChaChaBlock

def rotateLeft (x n : UInt32) : UInt32 := (x <<< n) ||| (x >>> (32 - n))

def quarterRound (s : ChaChaBlock) (a b c d : Fin 16) : ChaChaBlock :=
  let s := s.set a (s[a] + s[b])
  let s := s.set d (rotateLeft (s[d] ^^^ s[a]) 16)
  let s := s.set c (s[c] + s[d])
  let s := s.set b (rotateLeft (s[b] ^^^ s[c]) 12)
  let s := s.set a (s[a] + s[b])
  let s := s.set d (rotateLeft (s[d] ^^^ s[a]) 8)
  let s := s.set c (s[c] + s[d])
  s.set b (rotateLeft (s[b] ^^^ s[c]) 7)

def doubleRound (s : ChaChaBlock) : ChaChaBlock :=
  let s := quarterRound s 0 4 8 12
  let s := quarterRound s 1 5 9 13
  let s := quarterRound s 2 6 10 14
  let s := quarterRound s 3 7 11 15
  let s := quarterRound s 0 5 10 15
  let s := quarterRound s 1 6 11 12
  let s := quarterRound s 2 7 8 13
  quarterRound s 3 4 9 14

def initial (key : Vector UInt32 8) (counter : UInt64) : ChaChaBlock :=
  let constants : Vector UInt32 4 := #v[0x61707865, 0x3320646e, 0x79622d32, 0x6b206574]
  constants ++ key ++ (#v[counter.toUInt32, (counter >>> 32).toUInt32, 0, 0] : Vector UInt32 4)

def words (key : Vector UInt32 8) (counter : UInt64) : List UInt32 :=
  let start := initial key counter
  let mixed := doubleRound (doubleRound (doubleRound (doubleRound start)))
  (Vector.zipWith (· + ·) mixed start).toList

end ChaChaBlock

structure Generator where
  key : Vector UInt32 8
  counter : UInt64
  pending : List UInt32
  deriving Repr

namespace Generator

def nextSeedState (s : UInt64) : UInt64 := s * 6364136223846793005 + 11634580027462260723

def seedWord (s : UInt64) : UInt32 :=
  let word := (((s >>> 18) ^^^ s) >>> 27).toUInt32
  let turn := (s >>> 59).toUInt32
  if turn = 0 then word else (word >>> turn) ||| (word <<< (32 - turn))

def ofSeed (seed : UInt64) : Generator where
  key := Vector.ofFn fun i => seedWord (Nat.repeat nextSeedState (i.val + 1) seed)
  counter := 0
  pending := []

def next32 (g : Generator) : UInt32 × Generator :=
  match g.pending with
  | w :: ws => (w, { g with pending := ws })
  | [] =>
    let words := ChaChaBlock.words g.key g.counter
    (words.headD 0, { g with counter := g.counter + 1, pending := words.tail })

def next64 (g : Generator) : UInt64 × Generator :=
  let (low, g) := g.next32
  let (high, g) := g.next32
  (low.toUInt64 ||| (high.toUInt64 <<< 32), g)

def wideProduct (a b : UInt32) : UInt32 × UInt32 :=
  let product := a.toUInt64 * b.toUInt64
  ((product >>> 32).toUInt32, product.toUInt32)

/--
A number below a bound: the high half of a word times the bound. Where the low half is so large that
a longer word could carry into the high half, a second word settles it.
-/
def below (g : Generator) (bound : UInt32) : UInt32 × Generator :=
  let (word, g) := g.next32
  let (high, low) := wideProduct word bound
  if low > 0 - bound then
    let (word, g) := g.next32
    let (carry, _) := wideProduct word bound
    (if low + carry < low then high + 1 else high, g)
  else (high, g)

def drawMany (bound : Nat) : Nat → Generator → List Nat × Generator
  | 0, g => ([], g)
  | n + 1, g =>
    let (x, g) := g.below (UInt32.ofNat bound)
    let (xs, g) := drawMany bound n g
    (x.toNat :: xs, g)

def draw64 : Nat → Generator → List UInt64 × Generator
  | 0, g => ([], g)
  | n + 1, g =>
    let (x, g) := g.next64
    let (xs, g) := draw64 n g
    (x :: xs, g)

/--
The product `m * (m + 1) * … * (m + k - 1)` for the largest `k` with which it fits a word, and that
`k`. Twelve factors from two on fit no longer, so a dozen steps are enough.
-/
def chunkBound (m : Nat) : Nat × Nat :=
  go 12 m 1
where
  go : Nat → Nat → Nat → Nat × Nat
    | 0, product, k => (product, k)
    | steps + 1, product, k =>
      if product * (m + k) < Nat.pow 2 32 then go steps (product * (m + k)) (k + 1)
      else (product, k)

structure IndexDraws where
  generator : Generator
  chunk : Nat
  remaining : Nat

namespace IndexDraws

-- below one there is only one index, so it needs no draw
def start (g : Generator) : IndexDraws := ⟨g, 0, 1⟩

def refill (d : IndexDraws) (bound : Nat) : IndexDraws :=
  if d.remaining = 0 then
    let (product, k) := chunkBound bound
    let (chunk, g) := d.generator.below (UInt32.ofNat product)
    ⟨g, chunk.toNat, k⟩
  else d

def next (d : IndexDraws) (bound : Nat) : Nat × IndexDraws :=
  let d := d.refill bound
  if d.remaining = 1 then (d.chunk, { d with remaining := 0 })
  else (d.chunk % bound, ⟨d.generator, d.chunk / bound, d.remaining - 1⟩)

end IndexDraws

def shuffle {β : Type} (g : Generator) (xs : List β) : List β × Generator :=
  if xs.length ≤ 1 then (xs, g)
  else
    let (a, d) := (List.range xs.length).foldl (fun (a, d) i =>
      let (j, d) := d.next (i + 1)
      (a.swapIfInBounds i j, d)) (xs.toArray, IndexDraws.start g)
    (a.toList, d.generator)

end Generator

end CodeAppraisal.Classifier
