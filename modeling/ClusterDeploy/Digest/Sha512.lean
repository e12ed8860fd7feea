/-!
# SHA-512

The SHA-512 digest of a list of bytes (FIPS 180-4).  The message is padded with one set bit,
zeros, and its length in bits as sixteen big-endian bytes, to a multiple of 128 bytes; each
block of 128 bytes is spread into 80 words of 64 bits (`Sha512.schedule`) and mixed into the
eight words of the state by 80 rounds (`Sha512.compress`); the digest is the final state,
big-endian.
-/

namespace ClusterDeploy

namespace Sha512

/-- the round constants: the first 64 bits of the fractional parts of the cube roots of the
first 80 primes -/
def roundConstants : Array UInt64 := #[
  0x428a2f98d728ae22, 0x7137449123ef65cd, 0xb5c0fbcfec4d3b2f,
  0xe9b5dba58189dbbc, 0x3956c25bf348b538, 0x59f111f1b605d019,
  0x923f82a4af194f9b, 0xab1c5ed5da6d8118, 0xd807aa98a3030242,
  0x12835b0145706fbe, 0x243185be4ee4b28c, 0x550c7dc3d5ffb4e2,
  0x72be5d74f27b896f, 0x80deb1fe3b1696b1, 0x9bdc06a725c71235,
  0xc19bf174cf692694, 0xe49b69c19ef14ad2, 0xefbe4786384f25e3,
  0x0fc19dc68b8cd5b5, 0x240ca1cc77ac9c65, 0x2de92c6f592b0275,
  0x4a7484aa6ea6e483, 0x5cb0a9dcbd41fbd4, 0x76f988da831153b5,
  0x983e5152ee66dfab, 0xa831c66d2db43210, 0xb00327c898fb213f,
  0xbf597fc7beef0ee4, 0xc6e00bf33da88fc2, 0xd5a79147930aa725,
  0x06ca6351e003826f, 0x142929670a0e6e70, 0x27b70a8546d22ffc,
  0x2e1b21385c26c926, 0x4d2c6dfc5ac42aed, 0x53380d139d95b3df,
  0x650a73548baf63de, 0x766a0abb3c77b2a8, 0x81c2c92e47edaee6,
  0x92722c851482353b, 0xa2bfe8a14cf10364, 0xa81a664bbc423001,
  0xc24b8b70d0f89791, 0xc76c51a30654be30, 0xd192e819d6ef5218,
  0xd69906245565a910, 0xf40e35855771202a, 0x106aa07032bbd1b8,
  0x19a4c116b8d2d0c8, 0x1e376c085141ab53, 0x2748774cdf8eeb99,
  0x34b0bcb5e19b48a8, 0x391c0cb3c5c95a63, 0x4ed8aa4ae3418acb,
  0x5b9cca4f7763e373, 0x682e6ff3d6b2b8a3, 0x748f82ee5defb2fc,
  0x78a5636f43172f60, 0x84c87814a1f0ab72, 0x8cc702081a6439ec,
  0x90befffa23631e28, 0xa4506cebde82bde9, 0xbef9a3f7b2c67915,
  0xc67178f2e372532b, 0xca273eceea26619c, 0xd186b8c721c0c207,
  0xeada7dd6cde0eb1e, 0xf57d4f7fee6ed178, 0x06f067aa72176fba,
  0x0a637dc5a2c898a6, 0x113f9804bef90dae, 0x1b710b35131c471b,
  0x28db77f523047d84, 0x32caab7b40c72493, 0x3c9ebe0a15c9bebc,
  0x431d67c49c100d4c, 0x4cc5d4becb3e42b6, 0x597f299cfc657e2a,
  0x5fcb6fab3ad6faec, 0x6c44198c4a475817]

/-- the initial state: the first 64 bits of the fractional parts of the square roots of the
first 8 primes -/
def initial : List UInt64 := [
  0x6a09e667f3bcc908, 0xbb67ae8584caa73b, 0x3c6ef372fe94f82b,
  0xa54ff53a5f1d36f1, 0x510e527fade682d1, 0x9b05688c2b3e6c1f,
  0x1f83d9abfb41bd6b, 0x5be0cd19137e2179]

def rotr (x : UInt64) (n : UInt64) : UInt64 := (x >>> n) ||| (x <<< (64 - n))

def word (bs : List UInt8) : UInt64 :=
  bs.foldl (fun acc b => (acc <<< 8) ||| b.toUInt64) 0

def bytes (w : UInt64) : List UInt8 :=
  (List.range 8).reverse.map fun i => (w >>> (8 * i).toUInt64).toUInt8

def words (bs : List UInt8) : List UInt64 :=
  if _h : bs.length < 8 then []
  else word (bs.take 8) :: words (bs.drop 8)
termination_by bs.length
decreasing_by simp only [List.length_drop]; omega

def schedule (block : List UInt8) : Array UInt64 :=
  (List.range 64).foldl (fun (w : Array UInt64) i =>
    let x := w.getD (i + 1) 0
    let y := w.getD (i + 14) 0
    let s0 := rotr x 1 ^^^ rotr x 8 ^^^ (x >>> 7)
    let s1 := rotr y 19 ^^^ rotr y 61 ^^^ (y >>> 6)
    w.push (w.getD i 0 + s0 + w.getD (i + 9) 0 + s1)) (words block).toArray

/-- One round: the state after mixing in the word `w` with the constant `k`. -/
def round (s : List UInt64) (k w : UInt64) : List UInt64 :=
  match s with
  | [a, b, c, d, e, f, g, h] =>
    let t1 := h + (rotr e 14 ^^^ rotr e 18 ^^^ rotr e 41) + ((e &&& f) ^^^ (~~~e &&& g)) + k + w
    let t2 := (rotr a 28 ^^^ rotr a 34 ^^^ rotr a 39) + ((a &&& b) ^^^ (a &&& c) ^^^ (b &&& c))
    [t1 + t2, a, b, c, d + t1, e, f, g]
  | _ => s

def compress (s : List UInt64) (block : List UInt8) : List UInt64 :=
  let w := schedule block
  let mixed := (List.range 80).foldl (fun t i => round t (roundConstants.getD i 0) (w.getD i 0)) s
  List.zipWith (· + ·) s mixed

def pad (msg : List UInt8) : List UInt8 :=
  let n := msg.length
  let bits := n * 8
  msg ++ [0x80] ++ List.replicate ((239 - n % 128) % 128) 0 ++
    (List.range 16).reverse.map fun i => (bits / Nat.pow 2 (8 * i)).toUInt8

/-- Mixes the blocks of a padded message into the state, 128 bytes at a time. -/
def absorb (s : List UInt64) (msg : List UInt8) : List UInt64 :=
  if _h : msg.length < 128 then s
  else absorb (compress s (msg.take 128)) (msg.drop 128)
termination_by msg.length
decreasing_by simp only [List.length_drop]; omega

def hash (msg : List UInt8) : List UInt8 := (absorb initial (pad msg)).flatMap bytes

/-- the initial state of SHA-384: the first 64 bits of the fractional parts of the square roots
of the ninth to sixteenth primes -/
def initial384 : List UInt64 := [
  0xcbbb9d5dc1059ed8, 0x629a292a367cd507, 0x9159015a3070dd17,
  0x152fecd8f70e5939, 0x67332667ffc00b31, 0x8eb44a8768581511,
  0xdb0c2e0d64f98fa7, 0x47b5481dbefa4fa4]

/-- The SHA-384 digest of a message: SHA-512 from its own initial state, cut to 48 bytes. -/
def hash384 (msg : List UInt8) : List UInt8 :=
  ((absorb initial384 (pad msg)).flatMap bytes).take 48

end Sha512

end ClusterDeploy
