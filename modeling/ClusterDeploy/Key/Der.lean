import ClusterDeploy.Text.Utf8

/-!
# DER values

The distinguished encoding of ASN.1 values, as key files use it.  Each value is a tag, a length
and that many bytes of content (`Der.readOne`):

* the tag byte holds the class in its two high bits, whether the value is constructed in bit
  `0x20`, and the tag number in its five low bits; when these are all set, the number follows
  in base-128 digits, the high bit marking that more follow;
* the length is one byte below `0x80`, else `0x80` plus the count of the big-endian length
  bytes that follow; `0x80` alone (an indefinite length) is refused, and so is a value that
  runs past the data.

A universal tag of a known type gives that type, which must be primitive or constructed as the
type requires: booleans (content `0x00` or `0xff`), integers in two's complement (no content is
zero), bit strings (the count of unused bits first, at most 7), octet strings, null (no content),
object identifiers, UTF-8 strings, IA5 strings, sequences and sets.  Any other constructed value
holds exactly one value; any other primitive value is kept as its content.

An object identifier's first byte gives the first two arcs, `40·a + b` below 80 and `2` and the
byte less 80 above; each later arc is a base-128 number with no leading zero digit, and the
content may not stop inside one.

Reading fails in one of three ways (`Der.Fault`): bytes that are not DER, a UTF-8 string whose
bytes are not UTF-8 text, or a bit string whose unused bits are not zero or have no byte to be
in.  The first failure in reading order is the one reported.
-/

namespace ClusterDeploy

/-- An ASN.1 value. -/
inductive Der where
  | boolean (b : Bool)
  | integer (n : Int)
  | bits (unused : Nat) (bs : List UInt8)
  | octets (bs : List UInt8)
  | null
  | oid (arcs : List Nat)
  | utf8 (s : String)
  | ia5 (bs : List UInt8)
  | sequence (items : List Der)
  | set (items : List Der)
  /-- a constructed value of a tag without a type of its own: its class, its number, and the
  one value it holds -/
  | tagged (cls tag : Nat) (value : Der)
  /-- a primitive value of a tag without a type of its own: its class, its number and its
  content -/
  | raw (cls tag : Nat) (bs : List UInt8)
deriving Repr, Inhabited, BEq

namespace Der

/-- Why bytes could not be read as a DER value. -/
inductive Fault where
  /-- the bytes are not a well-formed DER value -/
  | malformed
  /-- a UTF-8 string holds bytes that are not UTF-8 text -/
  | text (u : Utf8.Undecodable)
  /-- a bit string's unused bits are set, or it has unused bits and no byte; the text says
  which -/
  | unusedBits (message : String)
deriving DecidableEq, Repr, Inhabited

def bigEndian (bs : List UInt8) : Nat := bs.foldl (fun acc b => acc * 256 + b.toNat) 0

def signed (bs : List UInt8) : Int :=
  match bs with
  | b :: _ =>
    if b ≥ 128 then (bigEndian bs : Int) - (Nat.pow 2 (8 * bs.length) : Nat) else bigEndian bs
  | [] => 0

/-- The integer a value stands for where any integer is accepted: an integer, or a boolean as
`0` or `1`. -/
def asInt? : Der → Option Int
  | .integer n => some n
  | .boolean b => some (if b then 1 else 0)
  | _ => none

/-- The arcs after the first byte of an object identifier's content, `acc` being the digits of
the arc under way; a zero digit may not start an arc, and the content may not end inside one. -/
def laterArcs (acc : Nat) : List UInt8 → Except Fault (List Nat)
  | [] => if acc == 0 then .ok [] else .error .malformed
  | b :: rest =>
    if b == 0x80 && acc == 0 then .error .malformed
    else if b < 0x80 then (laterArcs 0 rest).map ((acc * 128 + b.toNat) :: ·)
    else laterArcs (acc * 128 + (b &&& 0x7f).toNat) rest

def oidArcs : List UInt8 → Except Fault (List Nat)
  | [] => .error .malformed
  | b :: rest =>
    let first := if b < 80 then [b.toNat / 40, b.toNat % 40] else [2, b.toNat - 80]
    (laterArcs 0 rest).map (first ++ ·)

/-- A bit string's content: the count of unused bits, at most 7, then the bytes, whose last
byte must have those bits clear. -/
def bitString : List UInt8 → Except Fault Der
  | [] => .error .malformed
  | u :: bs =>
    if u > 7 then .error .malformed
    else if u == 0 then .ok (.bits 0 bs)
    else
      match bs.getLast? with
      | none => .error (.unusedBits "Can't have unused bits with empty value")
      | some last =>
        if last &&& ((1 <<< u) - 1) != 0 then
          .error (.unusedBits "Unused bits in value should be zero")
        else .ok (.bits u.toNat bs)

/-- The tag number written in base-128 digits after a tag byte whose low bits are all set,
`acc` being the digits so far, and what follows it. -/
def longTag (acc : Nat) : List UInt8 → Except Fault (Nat × List UInt8)
  | [] => .error .malformed
  | b :: rest =>
    if b < 0x80 then .ok (acc * 128 + b.toNat, rest)
    else longTag (acc * 128 + (b &&& 0x7f).toNat) rest

/-- The length field at the head of `bs` and what follows it.  A long form takes the length
bytes there are, and a length that runs past them is caught when the content is cut. -/
def readLength : List UInt8 → Except Fault (Nat × List UInt8)
  | [] => .error .malformed
  | b :: rest =>
    if b < 0x80 then .ok (b.toNat, rest)
    else if b == 0x80 then .error .malformed
    else
      let n := (b &&& 0x7f).toNat
      if rest.length < n then .error .malformed
      else .ok (bigEndian (rest.take n), rest.drop n)

/-- The header of a value at the head of `bs`: its class, whether it is constructed, its tag
number, its content, and what follows the value. -/
def header (bs : List UInt8) : Except Fault (Nat × Bool × Nat × List UInt8 × List UInt8) := do
  match bs with
  | t :: rest@(_ :: _) =>
    let cls := (t >>> 6).toNat
    let constructed := t &&& 0x20 != 0
    let (tag, rest) ← if t &&& 0x1f == 0x1f then longTag 0 rest else pure ((t &&& 0x1f).toNat, rest)
    let (len, body) ← readLength rest
    if body.length < len then throw .malformed
    pure (cls, constructed, tag, body.take len, body.drop len)
  | _ => throw .malformed

/-- Refuses a value that is constructed when its type is primitive, or the reverse. -/
def requireForm (constructed wanted : Bool) : Except Fault Unit :=
  if constructed == wanted then .ok () else .error .malformed

mutual

/-- Reads one value from the head of `bs`: the value and what follows it. -/
def readOne (fuel : Nat) (bs : List UInt8) : Except Fault (Der × List UInt8) := do
  match fuel with
  | 0 => throw .malformed
  | fuel + 1 =>
    let (cls, constructed, tag, content, after) ← header bs
    let value ← if cls == 0 then
        match tag with
        | 1 => do
          requireForm constructed false
          match content with
          | [0x00] => pure (boolean false)
          | [0xff] => pure (boolean true)
          | _ => throw .malformed
        | 2 => do requireForm constructed false; pure (integer (signed content))
        | 3 => do requireForm constructed false; bitString content
        | 4 => do requireForm constructed false; pure (octets content)
        | 5 => do
          requireForm constructed false
          if content.isEmpty then pure null else throw .malformed
        | 6 => do requireForm constructed false; oid <$> oidArcs content
        | 12 => do
          requireForm constructed false
          match Utf8.decode content with
          | .ok s => pure (utf8 s)
          | .error u => throw (.text u)
        | 16 => do requireForm constructed true; sequence <$> readAll fuel content
        | 17 => do requireForm constructed true; set <$> readAll fuel content
        | 22 => do requireForm constructed false; pure (ia5 content)
        | _ => other fuel cls constructed tag content
      else other fuel cls constructed tag content
    pure (value, after)

/-- A value of a tag without a type of its own: a constructed one holds exactly one value, a
primitive one keeps its content. -/
def other (fuel cls : Nat) (constructed : Bool) (tag : Nat) (content : List UInt8) :
    Except Fault Der :=
  match fuel with
  | 0 => .error .malformed
  | fuel + 1 =>
    if constructed then do
      let (v, rest) ← readOne fuel content
      if rest.isEmpty then pure (tagged cls tag v) else throw .malformed
    else .ok (raw cls tag content)

def readAll (fuel : Nat) (bs : List UInt8) : Except Fault (List Der) :=
  match fuel, bs with
  | _, [] => .ok []
  | 0, _ => .error .malformed
  | fuel + 1, _ => do
    let (d, rest) ← readOne fuel bs
    let ds ← readAll fuel rest
    pure (d :: ds)

end

/-- Reads the value at the head of `bs`, whatever follows it: the value and what follows. -/
def readFront (bs : List UInt8) : Except Fault (Der × List UInt8) :=
  readOne (2 * bs.length + 2) bs

def read (bs : List UInt8) : Except Fault Der := do
  let (d, rest) ← readFront bs
  if rest.isEmpty then pure d else throw .malformed

end Der

end ClusterDeploy
