/-!
# Blowfish

The Blowfish block cipher on pairs of 32-bit words, as some encrypted keys use it in CBC mode.
The state is one array of 1042 words: the 18 round keys `P`, then the four S-boxes of 256 words
each.

* `Blowfish.initial` is the state before any key: the fractional part of π in hexadecimal, word
  after word.  π comes from Machin's formula `π = 16·atan(1/5) − 4·atan(1/239)` in fixed point,
  with 64 bits more than the words need, so that the truncation errors of the series stay below
  the last word;
* `Blowfish.encipher` runs the sixteen rounds on a pair of words: each round adds the round
  function of one half, and a round key, to the other;
* `Blowfish.mixKey` adds the words of a key, cycled, to the round keys;
* `Blowfish.refill` replaces the whole state, pair by pair, by successive encryptions of a pair
  that starts at zero.

A key's state (`Blowfish.schedule`) is the key mixed into the round keys, then the state
refilled.  `Blowfish.decipher` runs the rounds of `encipher` backwards, round keys from the last
to the first.
-/

namespace ClusterDeploy

namespace Blowfish

/-- `atan(1/x)` scaled by `2^bits`: the series `Σ (−1)^k / ((2k+1)·x^(2k+1))`, each term
truncated, summed until the powers of `x` pass `2^bits` or `fuel` terms are taken. -/
def arctanInverse (x bits fuel : Nat) : Int :=
  go fuel 0 (Nat.shiftLeft 1 bits / x) 0
where
  /-- the sum from term `k`, whose scaled power is `power` -/
  go : Nat → Nat → Nat → Int → Int
    | 0, _, _, acc => acc
    | n + 1, k, power, acc =>
      if power == 0 then acc
      else
        let term : Int := (power / (2 * k + 1) : Nat)
        go n (k + 1) (power / (x * x)) (if k % 2 == 0 then acc + term else acc - term)

/-- π scaled by `2^bits`, up to an error of a few units in the last place. -/
def piScaled (bits : Nat) : Nat :=
  (16 * arctanInverse 5 bits bits - 4 * arctanInverse 239 bits bits).toNat

def size : Nat := 1042

/-- The state before any key: the first `size` words of the fractional part of π. -/
def initial : Array UInt32 :=
  let bits := 32 * size
  let fraction := Nat.shiftRight (piScaled (bits + 64)) 64 % Nat.shiftLeft 1 bits
  ((List.range size).map fun i =>
    (Nat.shiftRight fraction (32 * (size - 1 - i)) % 4294967296).toUInt32).toArray

/-- The round function: the four S-boxes at the four bytes of `x`, highest first, combined by
addition, exclusive or and addition. -/
@[inline] def round (st : Array UInt32) (x : UInt32) : UInt32 :=
  let a := st.getD (18 + (x >>> 24).toNat) 0
  let b := st.getD (274 + ((x >>> 16) &&& 0xff).toNat) 0
  let c := st.getD (530 + ((x >>> 8) &&& 0xff).toNat) 0
  let d := st.getD (786 + (x &&& 0xff).toNat) 0
  ((a + b) ^^^ c) + d

def rounds (st : Array UInt32) : Nat → Nat → UInt32 → UInt32 → UInt32 × UInt32
  | 0, _, l, r => (l, r)
  | n + 1, i, l, r =>
    let r := r ^^^ round st l ^^^ st.getD i 0
    let l := l ^^^ round st r ^^^ st.getD (i + 1) 0
    rounds st n (i + 2) l r

def encipher (st : Array UInt32) (l r : UInt32) : UInt32 × UInt32 :=
  let (l, r) := rounds st 8 1 (l ^^^ st.getD 0 0) r
  (r ^^^ st.getD 17 0, l)

/-- The 32-bit big-endian words of `bytes`, read cyclically: word `k` starts at byte `4k` modulo
the length. -/
def cyclicWord (bytes : Array UInt8) (k : Nat) : UInt32 :=
  let n := bytes.size
  let byte := fun (j : Nat) => (bytes.getD (if n == 0 then 0 else j % n) 0).toUInt32
  (byte (4 * k) <<< 24) ||| (byte (4 * k + 1) <<< 16) ||| (byte (4 * k + 2) <<< 8) |||
    byte (4 * k + 3)

def mixKey (st : Array UInt32) (key : Array UInt8) : Array UInt32 :=
  (List.range 18).foldl (fun st i => st.modify i (· ^^^ cyclicWord key i)) st

/-- Replaces the state from pair `m` on, `n` pairs, by successive encryptions of `(l, r)`. -/
def refillFrom (st : Array UInt32) : Nat → Nat → UInt32 → UInt32 → Array UInt32
  | 0, _, _, _ => st
  | n + 1, m, l, r =>
    let (l, r) := encipher st l r
    refillFrom ((st.setIfInBounds (2 * m) l).setIfInBounds (2 * m + 1) r) n (m + 1) l r

/-- Replaces the whole state by successive encryptions of a pair that starts at zero. -/
def refill (st : Array UInt32) : Array UInt32 :=
  refillFrom st (size / 2) 0 0 0

/-- Rounds two at a time from the last, the first with round key `i`. -/
def roundsDown (st : Array UInt32) : Nat → Nat → UInt32 → UInt32 → UInt32 × UInt32
  | 0, _, l, r => (l, r)
  | n + 1, i, l, r =>
    let r := r ^^^ round st l ^^^ st.getD i 0
    let l := l ^^^ round st r ^^^ st.getD (i - 1) 0
    roundsDown st n (i - 2) l r

def decipher (st : Array UInt32) (l r : UInt32) : UInt32 × UInt32 :=
  let (l, r) := roundsDown st 8 16 (l ^^^ st.getD 17 0) r
  (r ^^^ st.getD 0 0, l)

def schedule (key : List UInt8) : Array UInt32 :=
  refill (mixKey initial key.toArray)

def word (a b c d : UInt8) : UInt32 :=
  (a.toUInt32 <<< 24) ||| (b.toUInt32 <<< 16) ||| (c.toUInt32 <<< 8) ||| d.toUInt32

def wordBytes (w : UInt32) : List UInt8 :=
  [(w >>> 24).toUInt8, (w >>> 16).toUInt8, (w >>> 8).toUInt8, w.toUInt8]

/-- Decrypts blocks chained to the pair `previous`, 8 bytes at a time; a short tail is
dropped. -/
def decryptChain (st : Array UInt32) (previous : UInt32 × UInt32) : List UInt8 → List UInt8
  | b0 :: b1 :: b2 :: b3 :: b4 :: b5 :: b6 :: b7 :: rest =>
    let block := (word b0 b1 b2 b3, word b4 b5 b6 b7)
    let (l, r) := decipher st block.1 block.2
    wordBytes (l ^^^ previous.1) ++ wordBytes (r ^^^ previous.2) ++ decryptChain st block rest
  | _ => []

def decryptCbc (key iv data : List UInt8) : List UInt8 :=
  let iv := iv ++ List.replicate 8 0
  decryptChain (schedule key)
    (word (iv.getD 0 0) (iv.getD 1 0) (iv.getD 2 0) (iv.getD 3 0),
     word (iv.getD 4 0) (iv.getD 5 0) (iv.getD 6 0) (iv.getD 7 0)) data

end Blowfish

end ClusterDeploy
