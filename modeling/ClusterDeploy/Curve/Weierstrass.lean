import ClusterDeploy.Number.Modular

/-!
# Short Weierstrass curves over prime fields

The elliptic curves that ECDSA keys use: P-256, P-384 and P-521 (FIPS 186-4), named `nistp256`,
`nistp384` and `nistp521` in SSH, and secp256k1 (SEC 2), which SSH names by its object
identifier `1.3.132.0.10`.  Each is `y² = x³ + a·x + b` over the integers modulo a prime `p`,
with a base point `G` of prime order `n`; `a` is `-3` on the NIST curves and `0` on secp256k1.

Points are kept in affine coordinates, the point at infinity being `none`; a sum divides by a
difference of coordinates, computed with a modular inverse.  `Curve.mul` multiplies by doubling
and adding over the bits of the scalar.

A point is written, as in X9.62, either uncompressed (`04`, then `x` and `y` in big-endian
bytes of the field's size) or compressed (`02` or `03` for an even or odd `y`, then `x`).
`Curve.decode` reads either form and refuses what is not a point of the curve.  It reports the
first of these that goes wrong: no bytes, a first byte that names no form, or a wrong length, a
coordinate beyond the field, or a point off the curve.  Since `p ≡ 3 (mod 4)` on all four
curves, the `y` of a compressed point is the power `(p + 1)/4` of `x³ + a·x + b`, when that is a
square.
-/

namespace ClusterDeploy

/-- A prime curve `y² = x³ + a·x + b` with its base point. -/
structure Curve where
  /-- the curve's name in SSH -/
  name : String
  /-- the field's prime -/
  prime : Nat
  /-- the coefficient of `x`, as a residue -/
  a : Nat
  /-- the constant term -/
  b : Nat
  /-- the order of the base point -/
  order : Nat
  /-- the base point -/
  gx : Nat
  gy : Nat
  /-- the number of bytes of a coordinate -/
  size : Nat
deriving Repr, Inhabited

namespace Curve

def p256 : Curve :=
  ⟨"nistp256",
   115792089210356248762697446949407573530086143415290314195533631308867097853951,
   115792089210356248762697446949407573530086143415290314195533631308867097853948,
   41058363725152142129326129780047268409114441015993725554835256314039467401291,
   115792089210356248762697446949407573529996955224135760342422259061068512044369,
   48439561293906451759052585252797914202762949526041747995844080717082404635286,
   36134250956749795798585127919587881956611106672985015071877198253568414405109, 32⟩

def p384 : Curve :=
  ⟨"nistp384",
   39402006196394479212279040100143613805079739270465446667948293404245721771496870329047266088258938001861606973112319,
   39402006196394479212279040100143613805079739270465446667948293404245721771496870329047266088258938001861606973112316,
   27580193559959705877849011840389048093056905856361568521428707301988689241309860865136260764883745107765439761230575,
   39402006196394479212279040100143613805079739270465446667946905279627659399113263569398956308152294913554433653942643,
   26247035095799689268623156744566981891852923491109213387815615900925518854738050089022388053975719786650872476732087,
   8325710961489029985546751289520108179287853048861315594709205902480503199884419224438643760392947333078086511627871, 48⟩

def p521 : Curve :=
  ⟨"nistp521",
   6864797660130609714981900799081393217269435300143305409394463459185543183397656052122559640661454554977296311391480858037121987999716643812574028291115057151,
   6864797660130609714981900799081393217269435300143305409394463459185543183397656052122559640661454554977296311391480858037121987999716643812574028291115057148,
   1093849038073734274511112390766805569936207598951683748994586394495953116150735016013708737573759623248592132296706313309438452531591012912142327488478985984,
   6864797660130609714981900799081393217269435300143305409394463459185543183397655394245057746333217197532963996371363321113864768612440380340372808892707005449,
   2661740802050217063228768716723360960729859168756973147706671368418802944996427808491545080627771902352094241225065558662157113545570916814161637315895999846,
   3757180025770020463545507224491183603594455134769762486694567779615544477440556316691234405012945539562144444537289428522585666729196580810124344277578376784, 66⟩

def secp256k1 : Curve :=
  ⟨"1.3.132.0.10",
   115792089237316195423570985008687907853269984665640564039457584007908834671663, 0, 7,
   115792089237316195423570985008687907852837564279074904382605163141518161494337,
   55066263022277343669578718895168534326250603453777594175500187360389116729240,
   32670510020758816978083085130507043184471273380659243275938904335757337482424, 32⟩

def all : List Curve := [p256, p384, p521, secp256k1]

def named? (name : String) : Option Curve := all.find? (·.name == name)

/-- A point of a curve in affine coordinates; `none` is the point at infinity. -/
abbrev Point := Option (Nat × Nat)

def sub (c : Curve) (a b : Nat) : Nat := (a + c.prime - b % c.prime) % c.prime

def div (c : Curve) (a b : Nat) : Nat :=
  a * Modular.pow b (c.prime - 2) c.prime % c.prime

def double (c : Curve) : Point → Point
  | none => none
  | some (x, y) =>
    if y % c.prime == 0 then none
    else
      let l := c.div ((3 * x * x + c.a) % c.prime) (2 * y)
      let x3 := c.sub (l * l) (2 * x)
      some (x3, c.sub (l * c.sub x x3) y)

def add (c : Curve) : Point → Point → Point
  | none, q => q
  | p, none => p
  | some (x1, y1), some (x2, y2) =>
    if x1 % c.prime == x2 % c.prime then
      (if y1 % c.prime == y2 % c.prime then c.double (some (x1, y1)) else none)
    else
      let l := c.div (c.sub y2 y1) (c.sub x2 x1)
      let x3 := c.sub (c.sub (l * l) x1) x2
      some (x3, c.sub (l * c.sub x1 x3) y1)

/-- `n·P`, by doubling and adding over the bits of `n` from the top. -/
def mul (c : Curve) (n : Nat) (p : Point) : Point :=
  (List.range (n.log2 + 1)).reverse.foldl (fun acc i =>
    let twice := c.double acc
    if n.testBit i then c.add twice p else twice) none

def base (c : Curve) : Point := some (c.gx, c.gy)

def rhs (c : Curve) (x : Nat) : Nat := (x * x % c.prime * x + c.a * x + c.b) % c.prime

/-- whether a point with coordinates below the prime lies on the curve -/
def onCurve (c : Curve) (x y : Nat) : Bool :=
  x < c.prime && y < c.prime && y * y % c.prime == c.rhs x

def bigEndian (bs : List UInt8) : Nat := bs.foldl (fun acc b => acc * 256 + b.toNat) 0

def toBytes (size n : Nat) : List UInt8 :=
  (List.range size).reverse.map fun i => (n / Nat.pow 2 (8 * i)).toUInt8

def encode (c : Curve) (x y : Nat) : List UInt8 := 0x04 :: (toBytes c.size x ++ toBytes c.size y)

/-- Reads a point in either form; the message says why bytes are not a point of the curve. -/
def decode (c : Curve) (bs : List UInt8) : Except String (Nat × Nat) :=
  let invalid := Except.error "Invalid EC key."
  match bs with
  | [] => .error "data must not be an empty byte string"
  | form :: rest =>
    if form == 0x04 then
      if rest.length != 2 * c.size then invalid
      else
        let x := bigEndian (rest.take c.size)
        let y := bigEndian (rest.drop c.size)
        if c.onCurve x y then .ok (x, y) else invalid
    else if form == 0x02 || form == 0x03 then
      if rest.length != c.size then invalid
      else
        let x := bigEndian rest
        let y := Modular.pow (c.rhs x) ((c.prime + 1) / 4) c.prime
        let y := if (y % 2 == 1) == (form == 0x03) then y else c.sub 0 y
        if c.onCurve x y && (y % 2 == 1) == (form == 0x03) then .ok (x, y) else invalid
    else .error "Unsupported elliptic curve point type"

/-- Whether explicit curve parameters are those of the curve: its prime, the coefficients `a`
and `b`, the uncompressed base point and its order. -/
def hasParameters (c : Curve) (p a b : Int) (point : List UInt8) (n : Int) : Bool :=
  p == c.prime && a == c.a && b == c.b && point == c.encode c.gx c.gy && n == c.order

end Curve

end ClusterDeploy
