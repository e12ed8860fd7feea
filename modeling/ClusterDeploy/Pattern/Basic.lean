/-!
# Byte patterns

A pattern describes a set of byte strings in the usual notation of regular expressions over
bytes: literal bytes, sets `[...]`, `.`, anchors, repetitions greedy, lazy or possessive,
capturing and named groups, back references, look-around, atomic groups, conditional groups and
inline flags.  This module holds the parsed form (`Node`), the modes that inline flags switch
(`Modes`), the least and greatest length a piece can match (`Node.width`), and the faults a
pattern can have (`Fault`), with their texts.

The classes of bytes are those of ASCII: `\d` the digits, `\s` space, tab, line feed, vertical
tab, form feed and carriage return, `\w` letters, digits and the underscore.  Case is folded in
ASCII only.
-/

namespace ClusterDeploy

namespace Pattern

/-- A class of bytes that an escape names. -/
inductive Category where
  /-- the ASCII digits -/
  | digit
  /-- the six ASCII blanks -/
  | space
  /-- ASCII letters and digits and the underscore -/
  | word
deriving DecidableEq, Repr, Inhabited

/-- One member of a set of bytes. -/
inductive Member where
  | byte (b : UInt8)
  | range (lo hi : UInt8)
  /-- the bytes of a class, or those outside it -/
  | category (c : Category) (negated : Bool)
deriving DecidableEq, Repr, Inhabited

/-- A place between two bytes that an anchor asks for. -/
inductive Anchor where
  /-- `^`: the start of the text, or of a line when lines count -/
  | lineStart
  /-- `$`: the end of the text or before a final line feed, or the end of a line when lines
  count -/
  | lineEnd
  /-- `\A`: the start of the text -/
  | textStart
  /-- `\Z`: the end of the text -/
  | textEnd
  /-- `\b`: between a word byte and a byte that is not one -/
  | boundary
  /-- `\B`: not at a boundary -/
  | inside
deriving DecidableEq, Repr, Inhabited

/-- How a repetition picks its count. -/
inductive Greed where
  /-- as many as it can first, then fewer -/
  | greedy
  /-- as few as it can first, then more -/
  | lazy
  /-- as many as it can, and never fewer -/
  | possessive
deriving DecidableEq, Repr, Inhabited

/-- The modes that flags switch: case folding (`i`), lines (`m`), a `.` that also takes line
feeds (`s`), and blanks and comments in the pattern text (`x`). -/
structure Modes where
  ignoreCase : Bool
  multiline : Bool
  dotAll : Bool
  verbose : Bool
deriving DecidableEq, Repr, Inhabited

/-- A piece of a parsed pattern. -/
inductive Node where
  | byte (b : UInt8)
  /-- one byte in the set, or outside it -/
  | set (negated : Bool) (members : List Member)
  /-- `.`: any byte but a line feed, or any byte at all -/
  | any
  | anchor (a : Anchor)
  /-- the body from `min` to `max` times, no `max` for no bound -/
  | repeated (min : Nat) (max : Option Nat) (greed : Greed) (body : List Node)
  /-- a group, captured under its number if it has one, with flags turned on and off -/
  | group (index : Option Nat) (on off : List Char) (body : List Node)
  /-- the first way the body matches, never given back -/
  | atomic (body : List Node)
  /-- the first alternative that lets the rest match -/
  | branch (alternatives : List (List Node))
  /-- the body matches here or, looking behind, ends here; or it does not -/
  | look (behind negated : Bool) (body : List Node)
  /-- the text a group captured, again; the group's width as parsed -/
  | backref (index : Nat) (width : Nat × Nat)
  /-- `yes` if the group has captured, else `no` -/
  | ifGroup (index : Nat) (yes : List Node) (no : Option (List Node))
deriving Repr, Inhabited

/-- The greatest width a pattern reports; greater widths are reported as this. -/
def widthCap : Nat := Nat.pow 2 64

def noBound : Nat := 4294967295

mutual

/-- The least and greatest number of bytes a piece matches, before the cap. -/
def Node.widthOf : Node → Nat × Nat
  | .byte _ | .set _ _ | .any => (1, 1)
  | .anchor _ | .look _ _ _ => (0, 0)
  | .repeated lo hi _ body =>
    let (i, j) := seqWidth body
    match hi with
    | some h => (i * lo, j * h)
    | none => (i * lo, if j == 0 then 0 else widthCap)
  | .group _ _ _ body | .atomic body => seqWidth body
  | .branch alts => alternativesWidth alts
  | .backref _ w => w
  | .ifGroup _ yes no =>
    let (i, j) := seqWidth yes
    match no with
    | some n =>
      let (l, h) := seqWidth n
      (min i l, max j h)
    | none => (0, j)

/-- The least and greatest number of bytes a sequence matches, each at most the cap. -/
def seqWidth : List Node → Nat × Nat
  | [] => (0, 0)
  | n :: rest =>
    let (i, j) := n.widthOf
    let (l, h) := seqWidth rest
    (min (i + l) widthCap, min (j + h) widthCap)

/-- The least of the least and the greatest of the greatest widths of alternatives. -/
def alternativesWidth : List (List Node) → Nat × Nat
  | [] => (widthCap, 0)
  | a :: rest =>
    let (i, j) := seqWidth a
    let (l, h) := alternativesWidth rest
    (min i l, max j h)

end

/-- A fault of a pattern. -/
inductive Fault where
  /-- the pattern is malformed; the text says how and where -/
  | malformed (text : String)
  /-- a repetition count is beyond the greatest one allowed -/
  | tooLarge
deriving DecidableEq, Repr, Inhabited

namespace Fault

def message : Fault → String
  | .malformed t => t
  | .tooLarge => "the repetition number is too large"

/-- The kind of a fault, as the library that reads patterns names it. -/
def kind : Fault → String
  | .malformed _ => "error"
  | .tooLarge => "OverflowError"

end Fault

def hexDigit (n : Nat) : Char :=
  if n < 10 then Char.ofNat (48 + n) else Char.ofNat (87 + n)

/-- Bytes as text: ASCII as it is, any other byte as a backslash, `x` and two hexadecimal
digits. -/
def asciiText (bs : List UInt8) : String :=
  String.join (bs.map fun b =>
    if b < 128 then (Char.ofNat b.toNat).toString
    else String.ofList ['\\', 'x', hexDigit (b.toNat / 16), hexDigit (b.toNat % 16)])

/-- Bytes quoted as a name is quoted in a message: between single quotes, or double quotes if
the name holds a single quote and no double quote; a backslash and the chosen quote escaped
with a backslash, tab, line feed and carriage return as `\t`, `\n`, `\r`, and any other control
byte or byte outside ASCII as `\x` and two hexadecimal digits. -/
def quoted (bs : List UInt8) : String :=
  let q : UInt8 := if bs.contains 39 && !bs.contains 34 then 34 else 39
  let body := bs.map fun b =>
    if b == q || b == 92 then String.ofList ['\\', Char.ofNat b.toNat]
    else if b == 9 then "\\t"
    else if b == 10 then "\\n"
    else if b == 13 then "\\r"
    else if b < 32 || b ≥ 127 then
      String.ofList ['\\', 'x', hexDigit (b.toNat / 16), hexDigit (b.toNat % 16)]
    else (Char.ofNat b.toNat).toString
  let qc := (Char.ofNat q.toNat).toString
  qc ++ String.join body ++ qc

/-- A malformed pattern's fault: the text, where in the pattern it was found, and, for a
pattern of several lines, the line and column of that place. -/
def Fault.at (pattern : List UInt8) (text : String) (position : Int) : Fault :=
  let before := pattern.take position.toNat
  let line := before.count 10 + 1
  let column : Int := match (before.reverse.idxOf? 10) with
    | some i => (i : Int) + 1
    | none => position + 1
  let place := text ++ " at position " ++ toString position
  if pattern.contains 10 then
    .malformed (place ++ " (line " ++ toString line ++ ", column " ++ toString column ++ ")")
  else .malformed place

end Pattern

end ClusterDeploy
