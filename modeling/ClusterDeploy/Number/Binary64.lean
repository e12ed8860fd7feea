/-!
# Binary64 numbers as bit patterns

A `Binary64` is an IEEE 754 double kept as its 64 bits, so that two values compare exactly
and every operation here is plain `Nat` arithmetic.  The main operation is `ofRatio`, which
rounds a positive rational to the nearest double with ties to the even significand; reading
decimal text (`ofText?`) and converting integers go through it, so they are correctly
rounded.

A finite double is `significand * 2 ^ exponent` up to its sign; `ofRatio` picks the exponent
that puts the quotient between `2 ^ 52` and `2 ^ 53`, clamps it at the subnormal floor
`-1074`, and carries into the next binade when rounding reaches `2 ^ 53`.
-/

namespace ClusterDeploy

/-- An IEEE 754 binary64 value, stored as its bit pattern. -/
structure Binary64 where
  bits : UInt64
deriving DecidableEq, Repr, Inhabited

namespace Binary64

def negative (x : Binary64) : Bool := (x.bits >>> 63) == 1

def biasedExp (x : Binary64) : Nat := ((x.bits >>> 52) &&& 0x7FF).toNat

def fraction (x : Binary64) : Nat := (x.bits &&& 0xFFFFFFFFFFFFF).toNat

/-- Assembles a value from its sign, biased exponent and fraction fields. -/
def make (neg : Bool) (e f : Nat) : Binary64 :=
  ⟨((if neg then Nat.pow 2 63 else 0) + (e % 2048) * Nat.pow 2 52 + f % Nat.pow 2 52).toUInt64⟩

def isNaN (x : Binary64) : Bool := x.biasedExp == 2047 && x.fraction != 0

def isInf (x : Binary64) : Bool := x.biasedExp == 2047 && x.fraction == 0

def isFinite (x : Binary64) : Bool := x.biasedExp != 2047

def isZero (x : Binary64) : Bool := x.biasedExp == 0 && x.fraction == 0

/-- the integer significand: the fraction with the hidden bit of a normal number -/
def significand (x : Binary64) : Nat :=
  if x.biasedExp == 0 then x.fraction else x.fraction + Nat.pow 2 52

/-- the power of two that scales the significand of a finite value -/
def exponent (x : Binary64) : Int :=
  if x.biasedExp == 0 then -1074 else (x.biasedExp : Int) - 1075

def zero : Binary64 := make false 0 0

def negZero : Binary64 := make true 0 0

def infinity : Binary64 := make false 2047 0

def negInfinity : Binary64 := make true 2047 0

def nan : Binary64 := make false 2047 (Nat.pow 2 51)

def neg (x : Binary64) : Binary64 := make (!x.negative) x.biasedExp x.fraction

/-- Rounds `a / b` to the nearest natural number, a tie going to the even one. -/
def roundHalfEven (a b : Nat) : Nat :=
  let q := a / b
  let r := a % b
  if 2 * r < b then q
  else if 2 * r > b then q + 1
  else if q % 2 == 0 then q else q + 1

/-- the binary exponent `e` with `2 ^ 52 ≤ num / (den * 2 ^ e) < 2 ^ 53`, for positive `num`, `den` -/
def scaleExponent (num den : Nat) : Int :=
  let e : Int := (num.log2 : Int) - (den.log2 : Int) - 52
  let below : Bool :=
    if e ≥ 0 then num < Nat.pow 2 52 * (den * Nat.pow 2 e.toNat)
    else num * Nat.pow 2 (-e).toNat < Nat.pow 2 52 * den
  if below then e - 1 else e

/-- The nearest double to `num / den`, ties to even; `neg` gives the sign. -/
def ofRatio (neg : Bool) (num den : Nat) : Binary64 :=
  if num == 0 || den == 0 then make neg 0 0
  else
    let e := max (scaleExponent num den) (-1074)
    let q :=
      if e ≥ 0 then roundHalfEven num (den * Nat.pow 2 e.toNat)
      else roundHalfEven (num * Nat.pow 2 (-e).toNat) den
    let (q, e) := if q == Nat.pow 2 53 then (Nat.pow 2 52, e + 1) else (q, e)
    if e > 971 then make neg 2047 0
    else if q < Nat.pow 2 52 then make neg 0 q
    else make neg (e + 1075).toNat (q - Nat.pow 2 52)

/-- The nearest double to `m * 10 ^ k`; far beyond the finite range it is an infinity or a zero. -/
def ofDecimal (neg : Bool) (m : Nat) (k : Int) : Binary64 :=
  if m == 0 then make neg 0 0
  else
    let size : Int := (Nat.toDigits 10 m).length
    if size + k > 400 then make neg 2047 0
    else if size + k < -400 then make neg 0 0
    else if k ≥ 0 then ofRatio neg (m * Nat.pow 10 k.toNat) 1
    else ofRatio neg m (Nat.pow 10 (-k).toNat)

def ofInt (i : Int) : Binary64 := ofDecimal (i < 0) i.natAbs 0

/-- the exact value of a finite double as a signed ratio `(negative, num, den)` -/
def toRatio (x : Binary64) : Bool × Nat × Nat :=
  let e := x.exponent
  if e ≥ 0 then (x.negative, x.significand * Nat.pow 2 e.toNat, 1)
  else (x.negative, x.significand, Nat.pow 2 (-e).toNat)

/-- the exact value of a finite double as a signed numerator and a denominator -/
def signedRatio (x : Binary64) : Int × Nat :=
  let (neg, num, den) := x.toRatio
  ((if neg then -(num : Int) else num), den)

/-- The sum of two doubles, rounded to the nearest.  NaN, or two infinities of opposite signs,
give NaN; two zeros give a negative zero only when both are negative, and an exact zero sum of
other values is a positive zero. -/
def add (a b : Binary64) : Binary64 :=
  if a.isNaN || b.isNaN then nan
  else if a.isInf && b.isInf then (if a.negative == b.negative then a else nan)
  else if a.isInf then a
  else if b.isInf then b
  else if a.isZero && b.isZero then make (a.negative && b.negative) 0 0
  else
    let (an, ad) := a.signedRatio
    let (bn, bd) := b.signedRatio
    let num := an * bd + bn * ad
    ofRatio (num < 0) num.natAbs (ad * bd)

/-- The product of two doubles, rounded to the nearest; its sign is the exclusive or of the
signs.  NaN, or an infinity times a zero, give NaN. -/
def mul (a b : Binary64) : Binary64 :=
  let neg := a.negative != b.negative
  if a.isNaN || b.isNaN then nan
  else if a.isInf || b.isInf then (if a.isZero || b.isZero then nan else make neg 2047 0)
  else
    let (_, an, ad) := a.toRatio
    let (_, bn, bd) := b.toRatio
    ofRatio neg (an * bn) (ad * bd)

/-- The integer a finite double equals, if it has no fractional part. -/
def toInt? (x : Binary64) : Option Int :=
  if !x.isFinite then none
  else
    let (neg, num, den) := x.toRatio
    if num % den != 0 then none
    else
      let n : Int := (num / den : Nat)
      some (if neg then -n else n)

def isPositive (x : Binary64) : Bool := !x.isNaN && !x.negative && !x.isZero

/-- whether a value counts as true in a condition: every value but the two zeros does -/
def truthy (x : Binary64) : Bool := !x.isZero

/-- whether the value is finite and strictly between `-2 ^ 63` and `2 ^ 63` -/
def fitsInt64 (x : Binary64) : Bool :=
  x.isFinite && (x.isZero || x.exponent + (x.significand.log2 : Int) < 63)

def digitRun (cs : List Char) : Nat × Nat × List Char :=
  let ds := cs.takeWhile Char.isDigit
  (ds.foldl (fun acc c => 10 * acc + (c.toNat - 48)) 0, ds.length, cs.dropWhile Char.isDigit)

def signedDigits? (cs : List Char) : Option Int :=
  let (neg, rest) := match cs with
    | '-' :: r => (true, r)
    | '+' :: r => (false, r)
    | r => (false, r)
  let (v, n, tail) := digitRun rest
  if n == 0 || !tail.isEmpty then none else some (if neg then -(v : Int) else v)

def sameWord (a b : List Char) : Bool := a.map Char.toLower == b.map Char.toLower

/-- Reads decimal text: an optional sign, digits with an optional point (at least one digit),
an optional exponent, or one of the words `inf`, `infinity`, `nan` in any case.
Surrounding blanks and underscores are not accepted. -/
def ofText? (s : String) : Option Binary64 :=
  let cs := s.toList
  let (neg, body) := match cs with
    | '-' :: r => (true, r)
    | '+' :: r => (false, r)
    | r => (false, r)
  if sameWord body "inf".toList || sameWord body "infinity".toList then
    some (make neg 2047 0)
  else if sameWord body "nan".toList then some (make neg 2047 (Nat.pow 2 51))
  else
    let (ip, ni, rest) := digitRun body
    let (fp, nf, rest) := match rest with
      | '.' :: r => digitRun r
      | r => (0, 0, r)
    if ni + nf == 0 then none
    else
      let exp? : Option Int := match rest with
        | [] => some 0
        | c :: r => if c == 'e' || c == 'E' then signedDigits? r else none
      match exp? with
      | none => none
      | some k => some (ofDecimal neg (ip * Nat.pow 10 nf + fp) (k - nf))

end Binary64

end ClusterDeploy
