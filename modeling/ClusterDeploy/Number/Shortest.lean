import ClusterDeploy.Number.Binary64

/-!
# Shortest decimal text of a double

`Binary64.shortest` finds, for a finite nonzero double, the decimal with the fewest significant
digits that reads back to it, and of two such candidates the one nearer to the double.  It works
in exact `Nat` arithmetic: the double `m * 2 ^ q` owns the interval of reals that round to it
(its ends belong to it iff `m` is even), and for `n = 1, 2, …, 17` digits the two neighbours of the
double on the grid of `n`-digit decimals are tested against that interval.

`Binary64.repr` lays the digits out the way a number is echoed back by an interactive
interpreter: positional notation with at least one fractional digit when the decimal point falls
within the first sixteen places and no more than four zeros follow it, exponent notation
(`1e+16`, `5e-324`, `1.5e-05`) otherwise, and `inf`, `-inf`, `nan` for the special values.
-/

namespace ClusterDeploy

namespace Binary64

def digitCount (n : Nat) : Nat := (Nat.toDigits 10 n).length

/-- The least `j` with `num * 10 ^ j ≥ den`, searched up to `fuel`. -/
def decadesBelow (num den : Nat) : Nat → Nat → Nat
  | 0, j => j
  | fuel + 1, j => if num * Nat.pow 10 j ≥ den then j else decadesBelow num den fuel (j + 1)

def floorLog10 (num den : Nat) : Int :=
  if num ≥ den then (digitCount (num / den) : Int) - 1
  else -((decadesBelow num den 1100 1 : Nat) : Int)

def compareScaled (c : Nat) (k : Int) (t : Nat) (s : Int) : Ordering :=
  let a := (-s).toNat
  let b := (-k).toNat
  let lhs := c * Nat.pow 10 (k + b).toNat * Nat.pow 2 a
  let rhs := t * Nat.pow 2 (s + a).toNat * Nat.pow 10 b
  compare lhs rhs

/-- The interval of reals that read back as the finite positive double `m * 2 ^ q`, in units of
`2 ^ (q - 2)`: its low end, its high end, and whether the ends belong to it. -/
def roundingInterval (m : Nat) (lowerHalfGap : Bool) : Nat × Nat × Bool :=
  (4 * m - (if lowerHalfGap then 1 else 2), 4 * m + 2, m % 2 == 0)

/-- whether `c * 10 ^ k` reads back as the double whose interval is given -/
def inInterval (c : Nat) (k : Int) (lo hi : Nat) (closed : Bool) (s : Int) : Bool :=
  let above := compareScaled c k lo s
  let below := compareScaled c k hi s
  (above == .gt || (closed && above == .eq)) && (below == .lt || (closed && below == .eq))

/-- Tries `n`, `n + 1`, … digits, up to `fuel` more counts, and returns the first hit. -/
def searchDigits (m : Nat) (q : Int) (e10 : Int) (lo hi : Nat) (closed : Bool) :
    Nat → Nat → Nat × Int
  | 0, _ => (m, q)
  | fuel + 1, n =>
    let k : Int := e10 - n + 1
    let s := q - 2
    -- the grid neighbours: c0 ≤ m * 2 ^ q / 10 ^ k < c0 + 1
    let c0 :=
      let a := (-q).toNat
      let b := (-k).toNat
      (m * Nat.pow 2 (q + a).toNat * Nat.pow 10 b) / (Nat.pow 10 (k + b).toNat * Nat.pow 2 a)
    let c1 := c0 + 1
    let ok0 := inInterval c0 k lo hi closed s
    let ok1 := inInterval c1 k lo hi closed s
    if ok0 && ok1 then
      -- the nearer one wins; a tie goes to the even digit
      match compareScaled (2 * c0 + 1) k m (q + 1) with
      | .lt => (c1, k)
      | .gt => (c0, k)
      | .eq => if c0 % 2 == 0 then (c0, k) else (c1, k)
    else if ok0 then (c0, k)
    else if ok1 then (c1, k)
    else searchDigits m q e10 lo hi closed fuel (n + 1)

def trimZeros (c : Nat) (k : Int) : Nat → Nat × Int
  | 0 => (c, k)
  | fuel + 1 => if c != 0 && c % 10 == 0 then trimZeros (c / 10) (k + 1) fuel else (c, k)

/-- The shortest digits `c` and exponent `k` with `c * 10 ^ k` reading back as the finite nonzero
double `x`; `c` has no trailing zero. -/
def shortest (x : Binary64) : Nat × Int :=
  let m := x.significand
  let q := x.exponent
  let lowerHalfGap := x.fraction == 0 && x.biasedExp > 1
  let (lo, hi, closed) := roundingInterval m lowerHalfGap
  let e10 :=
    if q ≥ 0 then floorLog10 (m * Nat.pow 2 q.toNat) 1 else floorLog10 m (Nat.pow 2 (-q).toNat)
  let (c, k) := searchDigits m q e10 lo hi closed 17 1
  trimZeros c k 40

def twoDigits (n : Nat) : String :=
  let s := toString n
  if s.length < 2 then "0" ++ s else s

/-- The echoed text of a double: shortest digits, positional for decimal points from four zeros
after the point up to sixteen digits before it, exponent notation otherwise. -/
def toText (x : Binary64) : String :=
  if x.isNaN then "nan"
  else if x.isInf then (if x.negative then "-inf" else "inf")
  else
    let sign := if x.negative then "-" else ""
    if x.isZero then sign ++ "0.0"
    else
      let (c, k) := x.shortest
      let ds := toString c
      let n : Int := ds.length
      let point := n + k
      let body :=
        if -4 < point && point ≤ 16 then
          if point ≤ 0 then "0." ++ String.ofList (List.replicate (-point).toNat '0') ++ ds
          else if point ≥ n then
            ds ++ String.ofList (List.replicate (point - n).toNat '0') ++ ".0"
          else
            String.ofList (ds.toList.take point.toNat) ++ "." ++
              String.ofList (ds.toList.drop point.toNat)
        else
          let lead := String.ofList (ds.toList.take 1)
          let rest := String.ofList (ds.toList.drop 1)
          let mant := if rest.isEmpty then lead else lead ++ "." ++ rest
          let e := point - 1
          mant ++ "e" ++ (if e < 0 then "-" else "+") ++ twoDigits e.natAbs
      sign ++ body

end Binary64

end ClusterDeploy
