/-!
# SHA-256

The SHA-256 digest of a list of bytes (FIPS 180-4).  The message is padded with one set bit,
zeros, and its length in bits as eight big-endian bytes, to a multiple of 64 bytes; each block
of 64 bytes is spread into 64 words of 32 bits (`Sha256.schedule`) and mixed into the eight
words of the state by 64 rounds (`Sha256.compress`); the digest is the final state, big-endian.
-/

namespace ClusterDeploy

namespace Sha256

/-- the round constants: the first 32 bits of the fractional parts of the cube roots of the
first 64 primes -/
def roundConstants : Array UInt32 := #[
  0x428a2f98, 0x71374491, 0xb5c0fbcf, 0xe9b5dba5, 0x3956c25b, 0x59f111f1,
  0x923f82a4, 0xab1c5ed5, 0xd807aa98, 0x12835b01, 0x243185be, 0x550c7dc3,
  0x72be5d74, 0x80deb1fe, 0x9bdc06a7, 0xc19bf174, 0xe49b69c1, 0xefbe4786,
  0x0fc19dc6, 0x240ca1cc, 0x2de92c6f, 0x4a7484aa, 0x5cb0a9dc, 0x76f988da,
  0x983e5152, 0xa831c66d, 0xb00327c8, 0xbf597fc7, 0xc6e00bf3, 0xd5a79147,
  0x06ca6351, 0x14292967, 0x27b70a85, 0x2e1b2138, 0x4d2c6dfc, 0x53380d13,
  0x650a7354, 0x766a0abb, 0x81c2c92e, 0x92722c85, 0xa2bfe8a1, 0xa81a664b,
  0xc24b8b70, 0xc76c51a3, 0xd192e819, 0xd6990624, 0xf40e3585, 0x106aa070,
  0x19a4c116, 0x1e376c08, 0x2748774c, 0x34b0bcb5, 0x391c0cb3, 0x4ed8aa4a,
  0x5b9cca4f, 0x682e6ff3, 0x748f82ee, 0x78a5636f, 0x84c87814, 0x8cc70208,
  0x90befffa, 0xa4506ceb, 0xbef9a3f7, 0xc67178f2]

/-- the initial state: the first 32 bits of the fractional parts of the square roots of the
first 8 primes -/
def initial : List UInt32 := [
  0x6a09e667, 0xbb67ae85, 0x3c6ef372, 0xa54ff53a,
  0x510e527f, 0x9b05688c, 0x1f83d9ab, 0x5be0cd19]

def rotr (x : UInt32) (n : UInt32) : UInt32 := (x >>> n) ||| (x <<< (32 - n))

def word (bs : List UInt8) : UInt32 :=
  bs.foldl (fun acc b => (acc <<< 8) ||| b.toUInt32) 0

def bytes (w : UInt32) : List UInt8 :=
  [(w >>> 24).toUInt8, (w >>> 16).toUInt8, (w >>> 8).toUInt8, w.toUInt8]

def words : List UInt8 → List UInt32
  | a :: b :: c :: d :: rest => word [a, b, c, d] :: words rest
  | _ => []

def schedule (block : List UInt8) : Array UInt32 :=
  (List.range 48).foldl (fun (w : Array UInt32) i =>
    let x := w.getD (i + 1) 0
    let y := w.getD (i + 14) 0
    let s0 := rotr x 7 ^^^ rotr x 18 ^^^ (x >>> 3)
    let s1 := rotr y 17 ^^^ rotr y 19 ^^^ (y >>> 10)
    w.push (w.getD i 0 + s0 + w.getD (i + 9) 0 + s1)) (words block).toArray

/-- One round: the state after mixing in the word `w` with the constant `k`. -/
def round (s : List UInt32) (k w : UInt32) : List UInt32 :=
  match s with
  | [a, b, c, d, e, f, g, h] =>
    let t1 := h + (rotr e 6 ^^^ rotr e 11 ^^^ rotr e 25) + ((e &&& f) ^^^ (~~~e &&& g)) + k + w
    let t2 := (rotr a 2 ^^^ rotr a 13 ^^^ rotr a 22) + ((a &&& b) ^^^ (a &&& c) ^^^ (b &&& c))
    [t1 + t2, a, b, c, d + t1, e, f, g]
  | _ => s

def compress (s : List UInt32) (block : List UInt8) : List UInt32 :=
  let w := schedule block
  let mixed := (List.range 64).foldl (fun t i => round t (roundConstants.getD i 0) (w.getD i 0)) s
  List.zipWith (· + ·) s mixed

def pad (msg : List UInt8) : List UInt8 :=
  let n := msg.length
  let bits := n * 8
  msg ++ [0x80] ++ List.replicate ((119 - n % 64) % 64) 0 ++
    (List.range 8).reverse.map fun i => (bits / Nat.pow 2 (8 * i)).toUInt8

/-- Mixes the blocks of a padded message into the state, 64 bytes at a time. -/
def absorb (s : List UInt32) (msg : List UInt8) : List UInt32 :=
  if _h : msg.length < 64 then s
  else absorb (compress s (msg.take 64)) (msg.drop 64)
termination_by msg.length
decreasing_by simp only [List.length_drop]; omega

def hash (msg : List UInt8) : List UInt8 := (absorb initial (pad msg)).flatMap bytes

/-- the initial state of SHA-224: the second 32 bits of the fractional parts of the square roots
of the ninth to sixteenth primes -/
def initial224 : List UInt32 := [
  0xc1059ed8, 0x367cd507, 0x3070dd17, 0xf70e5939,
  0xffc00b31, 0x68581511, 0x64f98fa7, 0xbefa4fa4]

/-- The SHA-224 digest of a message: SHA-256 from its own initial state, cut to 28 bytes. -/
def hash224 (msg : List UInt8) : List UInt8 :=
  ((absorb initial224 (pad msg)).flatMap bytes).take 28

end Sha256

end ClusterDeploy
