import ClusterDeploy.Digest.Sha512

/-!
# Ed25519 public keys

An Ed25519 key pair (RFC 8032) lives on the twisted Edwards curve `-x² + y² = 1 + d·x²·y²` over
the integers modulo the prime `2²⁵⁵ - 19`.  The private key is a 32-byte seed; the public key is
the point `a·B`, where `B` is the curve's base point and the scalar `a` is the first half of the
seed's SHA-512 digest, read little-endian, with its three lowest bits cleared, its bit 255
cleared and its bit 254 set.  A point is written as its `y` coordinate in 32 little-endian
bytes, the top bit holding the parity of `x`.

Points are kept in extended coordinates `(X, Y, Z, T)` with `x = X/Z`, `y = Y/Z`, `x·y = T/Z`,
where one addition formula, complete on this curve, also doubles.
-/

namespace ClusterDeploy

namespace Ed25519

def prime : Nat := Nat.pow 2 255 - 19

def curveD : Nat := 37095705934669439343138083508754565189542113879843219016388785533085940283555

/-- A point in extended coordinates. -/
structure Point where
  x : Nat
  y : Nat
  z : Nat
  t : Nat
deriving Repr, Inhabited

def base : Point :=
  let x := 15112221349535400772501151409588531511454012693041857206046113283949847762202
  let y := 46316835694926478169428394003475163141307993866256225615783033603165251855960
  ⟨x, y, 1, x * y % prime⟩

def neutral : Point := ⟨0, 1, 1, 0⟩

def sub (a b : Nat) : Nat := (a + prime - b % prime) % prime

def add (p q : Point) : Point :=
  let a := sub p.y p.x * sub q.y q.x % prime
  let b := (p.y + p.x) * (q.y + q.x) % prime
  let c := 2 * curveD * p.t % prime * q.t % prime
  let d := 2 * p.z * q.z % prime
  let e := sub b a
  let f := sub d c
  let g := (d + c) % prime
  let h := (b + a) % prime
  ⟨e * f % prime, g * h % prime, f * g % prime, e * h % prime⟩

/-- `n·p`, by doubling and adding over the bits of `n` from the top. -/
def mul (n : Nat) (p : Point) : Point :=
  (List.range 256).reverse.foldl (fun acc i =>
    let twice := add acc acc
    if n.testBit i then add twice p else twice) neutral

/-- The inverse of a residue, as its power `prime - 2`, computed by squaring. -/
def inverse (a : Nat) : Nat :=
  (List.range 255).reverse.foldl (fun acc i =>
    let sq := acc * acc % prime
    if (prime - 2).testBit i then sq * a % prime else sq) 1

def ofLittleEndian (bs : List UInt8) : Nat := bs.foldr (fun b acc => acc * 256 + b.toNat) 0

def toLittleEndian (n : Nat) : List UInt8 := (List.range 32).map fun i => (n / Nat.pow 2 (8 * i)).toUInt8

/-- The 32-byte form of a point: `y`, with the parity of `x` in the top bit. -/
def encode (p : Point) : List UInt8 :=
  let zi := inverse p.z
  let x := p.x * zi % prime
  let y := p.y * zi % prime
  toLittleEndian (y + (x % 2) * Nat.pow 2 255)

def scalar (seed : List UInt8) : Nat :=
  let n := ofLittleEndian ((Sha512.hash seed).take 32)
  n % Nat.pow 2 254 / 8 * 8 + Nat.pow 2 254

def publicKey (seed : List UInt8) : List UInt8 := encode (mul (scalar seed) base)

end Ed25519

end ClusterDeploy
