/-!
# Base64

The base64 alphabet, `A`-`Z`, `a`-`z`, `0`-`9`, `+` and `/`, writes three bytes as four
characters of six bits each:

* `Base64.decode` reads text leniently: characters outside the alphabet are skipped, and `=`
  padding that completes a group ends the data; a group left incomplete is an error, worded as
  the common decoders word it;
* `Base64.encode` writes bytes, padding the last group with `=`.
-/

namespace ClusterDeploy

namespace Base64

def value (c : Char) : Option Nat :=
  if 'A' ≤ c && c ≤ 'Z' then some (c.toNat - 65)
  else if 'a' ≤ c && c ≤ 'z' then some (c.toNat - 71)
  else if c.isDigit then some (c.toNat + 4)
  else if c == '+' then some 62
  else if c == '/' then some 63
  else none

/-- Decodes base64, skipping characters outside the alphabet and stopping at padding that
completes a group; a group left incomplete is an error. -/
def decode (cs : List Char) : Except String (List UInt8) :=
  let rec go : List Char → Nat → Nat → Nat → List UInt8 → Except String (List UInt8)
    | [], quad, _, _, out =>
      if quad == 0 then .ok out.reverse
      else if quad == 1 then
        .error ("Invalid base64-encoded string: number of data characters (" ++
          toString (out.length / 3 * 4 + 1) ++ ") cannot be 1 more than a multiple of 4")
      else .error "Incorrect padding"
    | c :: rest, quad, left, pads, out =>
      if c == '=' then
        if quad ≥ 2 && quad + (pads + 1) ≥ 4 then .ok out.reverse
        else go rest quad left (if quad ≥ 2 then pads + 1 else pads) out
      else
        match value c with
        | none => go rest quad left pads out
        | some v =>
          match quad with
          | 0 => go rest 1 v 0 out
          | 1 => go rest 2 (v % 16) 0 ((left * 4 + v / 16).toUInt8 :: out)
          | 2 => go rest 3 (v % 4) 0 ((left * 16 + v / 4).toUInt8 :: out)
          | _ => go rest 0 0 0 ((left * 64 + v).toUInt8 :: out)
  go cs 0 0 0 []

def digit (n : Nat) : Char :=
  if n < 26 then Char.ofNat (n + 65)
  else if n < 52 then Char.ofNat (n + 71)
  else if n < 62 then Char.ofNat (n - 4)
  else if n == 62 then '+'
  else '/'

def encode : List UInt8 → String
  | [] => ""
  | [a] =>
    let n := a.toNat * 65536
    String.ofList [digit (n / 262144), digit (n / 4096 % 64), '=', '=']
  | [a, b] =>
    let n := a.toNat * 65536 + b.toNat * 256
    String.ofList [digit (n / 262144), digit (n / 4096 % 64), digit (n / 64 % 64), '=']
  | a :: b :: c :: rest =>
    let n := a.toNat * 65536 + b.toNat * 256 + c.toNat
    String.ofList [digit (n / 262144), digit (n / 4096 % 64), digit (n / 64 % 64), digit (n % 64)] ++
      encode rest

end Base64

end ClusterDeploy
