import ClusterDeploy.Digest.Sha256

/-!
# SHA-1

The SHA-1 digest of a list of bytes (FIPS 180-4), kept for the key files that still derive their
keys with it.  The message is padded exactly as for SHA-256; each block of 64 bytes is spread
into 80 words, each later word the one-bit rotation of the sum of four earlier ones
(`Sha1.schedule`), and mixed into the five words of the state by 80 rounds in four groups of
20, each group with its own function of three words and its own constant (`Sha1.compress`).
-/

namespace ClusterDeploy

namespace Sha1

def initial : List UInt32 := [0x67452301, 0xefcdab89, 0x98badcfe, 0x10325476, 0xc3d2e1f0]

def rotl (x : UInt32) (n : UInt32) : UInt32 := (x <<< n) ||| (x >>> (32 - n))

def schedule (block : List UInt8) : Array UInt32 :=
  (List.range 64).foldl (fun (w : Array UInt32) i =>
    w.push (rotl (w.getD (i + 13) 0 ^^^ w.getD (i + 8) 0 ^^^ w.getD (i + 2) 0 ^^^ w.getD i 0) 1))
    (Sha256.words block).toArray

def round (s : List UInt32) (i : Nat) (w : UInt32) : List UInt32 :=
  match s with
  | [a, b, c, d, e] =>
    let (f, k) : UInt32 × UInt32 :=
      if i < 20 then ((b &&& c) ||| (~~~b &&& d), 0x5a827999)
      else if i < 40 then (b ^^^ c ^^^ d, 0x6ed9eba1)
      else if i < 60 then ((b &&& c) ||| (b &&& d) ||| (c &&& d), 0x8f1bbcdc)
      else (b ^^^ c ^^^ d, 0xca62c1d6)
    [rotl a 5 + f + e + k + w, a, rotl b 30, c, d]
  | _ => s

def compress (s : List UInt32) (block : List UInt8) : List UInt32 :=
  let w := schedule block
  let mixed := (List.range 80).foldl (fun t i => round t i (w.getD i 0)) s
  List.zipWith (· + ·) s mixed

/-- Mixes the blocks of a padded message into the state, 64 bytes at a time. -/
def absorb (s : List UInt32) (msg : List UInt8) : List UInt32 :=
  if _h : msg.length < 64 then s
  else absorb (compress s (msg.take 64)) (msg.drop 64)
termination_by msg.length
decreasing_by simp only [List.length_drop]; omega

def hash (msg : List UInt8) : List UInt8 := (absorb initial (Sha256.pad msg)).flatMap Sha256.bytes

end Sha1

end ClusterDeploy
