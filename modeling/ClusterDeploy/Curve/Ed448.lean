import ClusterDeploy.Digest.Keccak

/-!
# Ed448 public keys

An Ed448 key pair (RFC 8032) lives on the Edwards curve `x² + y² = 1 + d·x²·y²` with `d = -39081`
over the integers modulo the prime `2⁴⁴⁸ - 2²²⁴ - 1`.  The private key is a 57-byte seed.  The
public key is the point `s·B`, where `B` is the curve's base point and the scalar `s` comes from
the first 57 bytes of the seed's 114-byte SHAKE256 output, read little-endian.  Its two lowest
bits are cleared, its last byte is cleared and bit 447 is set.  A point is written as its `y`
coordinate in 57 little-endian bytes, the top bit holding the parity of `x`.

Points are kept in projective coordinates `(X, Y, Z)` with `x = X/Z`, `y = Y/Z`.  Since `d` is
not a square, one addition formula is complete on the curve and also doubles.
-/

namespace ClusterDeploy

namespace Ed448

def prime : Nat := Nat.pow 2 448 - Nat.pow 2 224 - 1

def curveD : Nat := prime - 39081

/-- A point in projective coordinates. -/
structure Point where
  x : Nat
  y : Nat
  z : Nat
deriving Repr, Inhabited

def base : Point :=
  ⟨224580040295924300187604334099896036246789641632564134246125461686950415467406032909029192869357953282578032075146446173674602635247710,
   298819210078481492676017930443930673437544040154080242095928241372331506189835876003536878655418784733982303233503462500531545062832660,
   1⟩

def neutral : Point := ⟨0, 1, 1⟩

def sub (a b : Nat) : Nat := (a + prime - b % prime) % prime

def add (p q : Point) : Point :=
  let a := p.z * q.z % prime
  let b := a * a % prime
  let c := p.x * q.x % prime
  let d := p.y * q.y % prime
  let e := curveD * c % prime * d % prime
  let f := sub b e
  let g := (b + e) % prime
  let h := (p.x + p.y) * (q.x + q.y) % prime
  ⟨a * f % prime * sub (sub h c) d % prime, a * g % prime * sub d c % prime, f * g % prime⟩

/-- `n·p`, by doubling and adding over the bits of `n` from the top. -/
def mul (n : Nat) (p : Point) : Point :=
  (List.range 448).reverse.foldl (fun acc i =>
    let twice := add acc acc
    if n.testBit i then add twice p else twice) neutral

/-- The inverse of a residue, as its power `prime - 2`, computed by squaring. -/
def inverse (a : Nat) : Nat :=
  (List.range 448).reverse.foldl (fun acc i =>
    let sq := acc * acc % prime
    if (prime - 2).testBit i then sq * a % prime else sq) 1

def ofLittleEndian (bs : List UInt8) : Nat := bs.foldr (fun b acc => acc * 256 + b.toNat) 0

def toLittleEndian (n : Nat) : List UInt8 :=
  (List.range 57).map fun i => (n / Nat.pow 2 (8 * i)).toUInt8

/-- The 57-byte form of a point: `y`, with the parity of `x` in the top bit. -/
def encode (p : Point) : List UInt8 :=
  let zi := inverse p.z
  let x := p.x * zi % prime
  let y := p.y * zi % prime
  toLittleEndian (y + (x % 2) * Nat.pow 2 455)

def scalar (seed : List UInt8) : Nat :=
  let n := ofLittleEndian ((Keccak.shake256 seed 114).take 57)
  n % Nat.pow 2 447 / 4 * 4 + Nat.pow 2 447

def publicKey (seed : List UInt8) : List UInt8 := encode (mul (scalar seed) base)

end Ed448

end ClusterDeploy
