/-!
# Keccak and SHAKE256

The Keccak sponge (FIPS 202) over the permutation Keccak-f[1600], and the extendable-output
function SHAKE256 built on it, which Ed448 keys hash their seeds with.

The state is 25 lanes of 64 bits, lane `x + 5·y` at column `x` and row `y`, each lane read
from eight little-endian bytes, so bit `z` of a lane is its bit of weight `2^z`.  A round of the
permutation is `θ` (each lane takes the parities of the two neighbouring columns), `ρ` and `π`
(each lane rotates by its own offset and moves to `(y, 2x + 3y)`), `χ` (each bit takes a
nonlinear mix of the next two in its row) and `ι` (a round constant on the first lane); the
permutation is 24 rounds.

The sponge takes the message in blocks of `rate` bytes, each added into the front of the state
before a permutation, after padding it with the domain bits, zeros and a final one bit; then
it reads the output from the front of the state, `rate` bytes per permutation.  SHAKE256 has a
rate of 136 bytes and the domain bits `1111`.
-/

namespace ClusterDeploy

namespace Keccak

def roundConstants : Array UInt64 := #[
  0x0000000000000001, 0x0000000000008082, 0x800000000000808A, 0x8000000080008000,
  0x000000000000808B, 0x0000000080000001, 0x8000000080008081, 0x8000000000008009,
  0x000000000000008A, 0x0000000000000088, 0x0000000080008009, 0x000000008000000A,
  0x000000008000808B, 0x800000000000008B, 0x8000000000008089, 0x8000000000008003,
  0x8000000000008002, 0x8000000000000080, 0x000000000000800A, 0x800000008000000A,
  0x8000000080008081, 0x8000000000008080, 0x0000000080000001, 0x8000000080008008]

def offsets : Array UInt64 := #[
  0, 1, 62, 28, 27,
  36, 44, 6, 55, 20,
  3, 10, 43, 25, 39,
  41, 45, 15, 21, 8,
  18, 2, 61, 56, 14]

def rotl (w n : UInt64) : UInt64 := (w <<< n) ||| (w >>> (64 - n))

def lane (a : Array UInt64) (x y : Nat) : UInt64 := a.getD (x % 5 + 5 * (y % 5)) 0

def round (a : Array UInt64) (rc : UInt64) : Array UInt64 :=
  let c := (List.range 5).map fun x =>
    lane a x 0 ^^^ lane a x 1 ^^^ lane a x 2 ^^^ lane a x 3 ^^^ lane a x 4
  let col := fun (x : Nat) => c.getD (x % 5) 0
  let d := (List.range 5).map fun x => col (x + 4) ^^^ rotl (col (x + 1)) 1
  let theta := (List.range 25).toArray.map fun i => a.getD i 0 ^^^ d.getD (i % 5) 0
  let moved := (List.range 25).foldl (fun (b : Array UInt64) i =>
    let x := i % 5
    let y := i / 5
    b.set! (y + 5 * ((2 * x + 3 * y) % 5)) (rotl (theta.getD i 0) (offsets.getD i 0)))
    (Array.replicate 25 0)
  let chi := (List.range 25).toArray.map fun i =>
    let x := i % 5
    let y := i / 5
    lane moved x y ^^^ (~~~(lane moved (x + 1) y) &&& lane moved (x + 2) y)
  chi.set! 0 (chi.getD 0 0 ^^^ rc)

def permute (a : Array UInt64) : Array UInt64 :=
  roundConstants.foldl round a

def laneOf (bs : List UInt8) : UInt64 :=
  bs.foldr (fun b acc => (acc <<< 8) ||| b.toUInt64) 0

def laneBytes (w : UInt64) : List UInt8 :=
  (List.range 8).map fun i => (w >>> (8 * i).toUInt64).toUInt8

/-- Adds a block of `rate` bytes into the front of the state and permutes it. -/
def absorbBlock (a : Array UInt64) (block : List UInt8) : Array UInt64 :=
  let lanes := (List.range (block.length / 8)).map fun i => laneOf ((block.drop (8 * i)).take 8)
  permute ((List.range 25).toArray.map fun i => a.getD i 0 ^^^ lanes.getD i 0)

def absorb (rate : Nat) (a : Array UInt64) (msg : List UInt8) : Array UInt64 :=
  if _h : msg.length < rate ∨ rate = 0 then a
  else absorb rate (absorbBlock a (msg.take rate)) (msg.drop rate)
termination_by msg.length
decreasing_by simp only [List.length_drop]; omega

/-- The message padded to a multiple of `rate` bytes: the domain bits `suffix` (with the first
padding bit above them), zeros, and a last byte with its top bit set. -/
def pad (rate : Nat) (suffix : UInt8) (msg : List UInt8) : List UInt8 :=
  let fill := rate - msg.length % rate
  let tail := (suffix :: List.replicate (fill - 1) 0)
  msg ++ tail.set (fill - 1) (tail.getD (fill - 1) 0 ||| 0x80)

/-- The first `n` output bytes of a state, reading `rate` bytes per permutation; `fuel` bounds
the permutations. -/
def squeeze (rate : Nat) : Nat → Array UInt64 → Nat → List UInt8
  | 0, _, _ => []
  | fuel + 1, a, n =>
    let block := (a.toList.flatMap laneBytes).take rate
    if n ≤ rate then block.take n
    else block ++ squeeze rate fuel (permute a) (n - rate)

def sponge (rate : Nat) (suffix : UInt8) (msg : List UInt8) (n : Nat) : List UInt8 :=
  squeeze rate (n / max rate 1 + 1) (absorb rate (Array.replicate 25 0) (pad rate suffix msg)) n

def shake256 (msg : List UInt8) (n : Nat) : List UInt8 := sponge 136 0x1F msg n

end Keccak

end ClusterDeploy
