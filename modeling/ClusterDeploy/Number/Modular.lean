/-!
# Modular arithmetic

Powers and inverses of natural numbers modulo another, as the key formats need them: the public
value of a DSA key is a power of the group's generator, and the points of elliptic curves are
added with inverses of residues.

`Modular.pow` squares over the bits of the exponent from the top, so it takes as many steps as
the exponent has bits.  `Modular.inverse?` runs the extended Euclidean algorithm, with a bound on
its steps that the length of the numbers guarantees.  `Modular.powInt` is the power of integers
of any sign, a negative exponent standing for a power of the inverse.

`Modular.isPrime` is the Baillie–PSW test: the strong probable prime test, here to the twenty
primes below 72 as bases, and the strong Lucas test with Selfridge's parameters.  No composite
is known to pass it, while composites built to pass the strong test to many fixed bases (such as
strong pseudoprimes to every prime base below 300) fail the Lucas part; RSA keys are checked
with random bases, which catch such numbers too.
-/

namespace ClusterDeploy

namespace Modular

/-- `b ^ e` modulo `m`, by squaring over the bits of `e` from the top. -/
def pow (b e m : Nat) : Nat :=
  (List.range (e.log2 + 1)).reverse.foldl (fun acc i =>
    let sq := acc * acc % m
    if e.testBit i then sq * b % m else sq) (1 % m)

/-- The extended Euclidean algorithm on `(r₀, r₁)` with the coefficients of `a` that give them:
the greatest common divisor and its coefficient; `fuel` bounds the steps. -/
def euclid : Nat → Int → Int → Int → Int → Int × Int
  | 0, r₀, _, s₀, _ => (r₀, s₀)
  | fuel + 1, r₀, r₁, s₀, s₁ =>
    if r₁ == 0 then (r₀, s₀)
    else
      let q := r₀ / r₁
      euclid fuel r₁ (r₀ - q * r₁) s₁ (s₀ - q * s₁)

/-- The inverse of `a` modulo `m`, when `a` and `m` have no common divisor. -/
def inverse? (a m : Nat) : Option Nat :=
  let (g, s) := euclid (2 * (m.log2 + a.log2) + 4) (a % m) m 1 0
  if g == 1 then some (s % (m : Int)).toNat else none

/-- `b ^ e` modulo `m` for integers: the exponent may be negative when `b` is invertible, and the
result has the sign of `m`; the error says why there is no power. -/
def powInt (b e m : Int) : Except String Int := do
  if m == 0 then throw "pow() 3rd argument cannot be 0"
  let k := m.natAbs
  let base ← if e < 0 then
      match inverse? (b % (k : Int)).toNat k with
      | some i => pure i
      | none => throw "base is not invertible for the given modulus"
    else pure (b % (k : Int)).toNat
  let r := pow base e.natAbs k
  pure (if m < 0 && r != 0 then (r : Int) - k else r)

/-- `n` as `2 ^ s · d` with `d` odd, for positive `n`: `(s, d)`; `fuel` bounds the halvings. -/
def splitTwos : Nat → Nat → Nat × Nat
  | 0, n => (0, n)
  | fuel + 1, n =>
    if n > 0 && n % 2 == 0 then
      let (s, d) := splitTwos fuel (n / 2)
      (s + 1, d)
    else (0, n)

/-- Whether the odd number `n` passes the strong probable prime test to base `a`: with
`n - 1 = 2 ^ s · d`, either `a ^ d ≡ 1` or one of `a ^ (2 ^ r · d)`, `r < s`, is `-1`. -/
def strongProbable (n a : Nat) : Bool :=
  let (s, d) := splitTwos (n.log2 + 1) (n - 1)
  let x := pow a d n
  x == 1 || x == n - 1 ||
    ((List.range (s - 1)).foldl (fun (acc : Nat × Bool) _ =>
      let y := acc.1 * acc.1 % n
      (y, acc.2 || y == n - 1)) (x, false)).2

def smallPrimes : List Nat :=
  [2, 3, 5, 7, 11, 13, 17, 19, 23, 29, 31, 37, 41, 43, 47, 53, 59, 61, 67, 71]

/-- The largest number whose square is at most `n`, by Newton's method from a power of two above
it. -/
def sqrtFloor (n : Nat) : Nat :=
  go (n.log2 + 8) (Nat.pow 2 (n.log2 / 2 + 1))
where
  /-- Newton's steps from `x`, while they go down; `fuel` bounds them -/
  go : Nat → Nat → Nat
    | 0, x => x
    | fuel + 1, x =>
      let y := (x + n / x) / 2
      if y < x then go fuel y else x

/-- The Jacobi symbol `(a/n)` for odd positive `n`, as `-1`, `0` or `1`.  Each step takes out
the factors two of `a` and turns the symbol over by quadratic reciprocity, like a step of
Euclid's algorithm; `fuel` bounds the steps. -/
def jacobi : Nat → Nat → Nat → Int
  | 0, _, _ => 0
  | fuel + 1, a, n =>
    let a := a % n
    if n == 1 then 1
    else if a == 0 then 0
    else
      let (t, odd) := splitTwos (a.log2 + 1) a
      let twos : Int := if t % 2 == 1 && (n % 8 == 3 || n % 8 == 5) then -1 else 1
      let turn : Int := if odd % 4 == 3 && n % 4 == 3 then -1 else 1
      twos * turn * jacobi fuel n odd

/-- Selfridge's parameter `D` for the Lucas test of `n`: the first of `5, -7, 9, -11, …`, from the
`k`-th on, whose Jacobi symbol modulo `n` is `-1`; `none` when one before it has a factor in
common with `n`, or when `fuel` candidates are not enough. -/
def selfridge (n : Nat) : Nat → Nat → Option Int
  | 0, _ => none
  | fuel + 1, k =>
    let d : Int := if k % 2 == 0 then 5 + 2 * k else -(5 + 2 * k)
    let j := jacobi (4 * (n.log2 + 2)) (d % (n : Int)).toNat n
    if j == -1 then some d
    else if j == 0 then none
    else selfridge n fuel (k + 1)

/-- Whether the odd number `n` passes the strong Lucas probable prime test for the Lucas
sequences of `P = 1` and `Q = (1 - D)/4`: with `n + 1 = 2 ^ s · d`, either `U_d ≡ 0` or
`V_(2^r·d) ≡ 0` for some `r < s`.  The terms of index `d` are found over its bits from the top,
doubling the index and adding one as the bits say. -/
def strongLucas (n : Nat) (D : Int) : Bool :=
  let m : Int := n
  let half := fun (x : Int) => (if x % 2 == 0 then x else x + m) / 2
  let q := (1 - D) / 4 % m
  let (s, d) := splitTwos (n.log2 + 2) (n + 1)
  let (u, v, qk) := (List.range d.log2).reverse.foldl (fun (acc : Int × Int × Int) i =>
    let (u, v, qk) := acc
    let u2 := u * v % m
    let v2 := (v * v - 2 * qk) % m
    let q2 := qk * qk % m
    if d.testBit i then (half ((u2 + v2) % m), half ((D * u2 + v2) % m), q2 * q % m)
    else (u2, v2, q2)) (1, 1, q)
  u == 0 || v == 0 ||
    ((List.range (s - 1)).foldl (fun (acc : Int × Int × Bool) _ =>
      let (v, qk, found) := acc
      let v2 := (v * v - 2 * qk) % m
      (v2, qk * qk % m, found || v2 == 0)) (v, qk, false)).2.2

/-- Whether `n` is prime: trial division by the small primes, the strong probable prime test to
each of them as a base, and the strong Lucas test with Selfridge's parameter (the Baillie–PSW
test, with more bases).  A square is composite, and so is a number that shares a factor with one
of Selfridge's candidates. -/
def isPrime (n : Nat) : Bool :=
  if n < 2 then false
  else if smallPrimes.contains n then true
  else if smallPrimes.any (n % · == 0) then false
  else if !smallPrimes.all (strongProbable n) then false
  else if sqrtFloor n * sqrtFloor n == n then false
  else
    match selfridge n (4 * (n.log2 + 8)) 0 with
    | some d => strongLucas n d
    | none => false

end Modular

end ClusterDeploy
