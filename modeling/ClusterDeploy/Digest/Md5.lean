/-!
# MD5

The MD5 digest of a list of bytes (RFC 1321), kept for the older encrypted key files that derive
their keys with it.  The message is padded like SHA-256's but with its bit length written
little-endian; each block of 64 bytes is read as 16 little-endian words and mixed into the four
words of the state by 64 steps in four groups of 16 (`Md5.compress`).  Each group has its own
function of three words and its own order of the block's words.  Each step adds a constant,
the integer part of `2³²·|sin(i + 1)|`, and rotates by a step-specific amount.
-/

namespace ClusterDeploy

namespace Md5

def constants : Array UInt32 := #[
  0xd76aa478, 0xe8c7b756, 0x242070db, 0xc1bdceee,
  0xf57c0faf, 0x4787c62a, 0xa8304613, 0xfd469501,
  0x698098d8, 0x8b44f7af, 0xffff5bb1, 0x895cd7be,
  0x6b901122, 0xfd987193, 0xa679438e, 0x49b40821,
  0xf61e2562, 0xc040b340, 0x265e5a51, 0xe9b6c7aa,
  0xd62f105d, 0x02441453, 0xd8a1e681, 0xe7d3fbc8,
  0x21e1cde6, 0xc33707d6, 0xf4d50d87, 0x455a14ed,
  0xa9e3e905, 0xfcefa3f8, 0x676f02d9, 0x8d2a4c8a,
  0xfffa3942, 0x8771f681, 0x6d9d6122, 0xfde5380c,
  0xa4beea44, 0x4bdecfa9, 0xf6bb4b60, 0xbebfbc70,
  0x289b7ec6, 0xeaa127fa, 0xd4ef3085, 0x04881d05,
  0xd9d4d039, 0xe6db99e5, 0x1fa27cf8, 0xc4ac5665,
  0xf4292244, 0x432aff97, 0xab9423a7, 0xfc93a039,
  0x655b59c3, 0x8f0ccc92, 0xffeff47d, 0x85845dd1,
  0x6fa87e4f, 0xfe2ce6e0, 0xa3014314, 0x4e0811a1,
  0xf7537e82, 0xbd3af235, 0x2ad7d2bb, 0xeb86d391]

def rotations : Array UInt32 := #[7, 12, 17, 22, 5, 9, 14, 20, 4, 11, 16, 23, 6, 10, 15, 21]

def initial : List UInt32 := [0x67452301, 0xefcdab89, 0x98badcfe, 0x10325476]

def rotl (x : UInt32) (n : UInt32) : UInt32 := (x <<< n) ||| (x >>> (32 - n))

def word (bs : List UInt8) : UInt32 :=
  bs.foldr (fun b acc => (acc <<< 8) ||| b.toUInt32) 0

def bytes (w : UInt32) : List UInt8 :=
  [w.toUInt8, (w >>> 8).toUInt8, (w >>> 16).toUInt8, (w >>> 24).toUInt8]

def words : List UInt8 → List UInt32
  | a :: b :: c :: d :: rest => word [a, b, c, d] :: words rest
  | _ => []

/-- One step `i`: the state after mixing in the block's words `m`. -/
def step (m : Array UInt32) (s : List UInt32) (i : Nat) : List UInt32 :=
  match s with
  | [a, b, c, d] =>
    let (f, g) : UInt32 × Nat :=
      if i < 16 then ((b &&& c) ||| (~~~b &&& d), i)
      else if i < 32 then ((d &&& b) ||| (~~~d &&& c), (5 * i + 1) % 16)
      else if i < 48 then (b ^^^ c ^^^ d, (3 * i + 5) % 16)
      else (c ^^^ (b ||| ~~~d), 7 * i % 16)
    let r := rotations.getD (4 * (i / 16) + i % 4) 0
    [d, b + rotl (f + a + constants.getD i 0 + m.getD g 0) r, b, c]
  | _ => s

def compress (s : List UInt32) (block : List UInt8) : List UInt32 :=
  let m := (words block).toArray
  let mixed := (List.range 64).foldl (step m) s
  List.zipWith (· + ·) s mixed

/-- The message padded to a multiple of 64 bytes, its bit length last, little-endian. -/
def pad (msg : List UInt8) : List UInt8 :=
  let n := msg.length
  let bits := n * 8
  msg ++ [0x80] ++ List.replicate ((119 - n % 64) % 64) 0 ++
    (List.range 8).map fun i => (bits / Nat.pow 2 (8 * i)).toUInt8

/-- Mixes the blocks of a padded message into the state, 64 bytes at a time. -/
def absorb (s : List UInt32) (msg : List UInt8) : List UInt32 :=
  if _h : msg.length < 64 then s
  else absorb (compress s (msg.take 64)) (msg.drop 64)
termination_by msg.length
decreasing_by simp only [List.length_drop]; omega

def hash (msg : List UInt8) : List UInt8 := (absorb initial (pad msg)).flatMap bytes

end Md5

end ClusterDeploy
