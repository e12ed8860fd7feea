/-!
# UTF-8 text

Bytes are UTF-8 text when they split into well-formed sequences (`Utf8.sequenceLength?`): one
byte below `0x80`, or a start byte announcing one to three continuation bytes, with no overlong
form, no surrogate and nothing beyond `U+10FFFF`.  `Utf8.decode` gives the text, or the first bad
sequence (`Utf8.Undecodable`) in the decoder's own terms:

* a byte that starts no sequence is an invalid start byte, a sequence of one byte;
* a sequence whose next byte does not fit is cut before that byte, an invalid continuation;
* a sequence that the bytes end inside runs to their end, an unexpected end of data.

A message names a sequence of one byte by its value and a longer one by its first and last
position (`Utf8.Undecodable.span`).
-/

namespace ClusterDeploy

namespace Utf8

def decode? (b : List UInt8) : Option String := String.fromUTF8? (ByteArray.mk b.toArray)

/-- Whether the bytes from the front of `bs` start with one well-formed UTF-8 sequence, and its
length: no overlong forms, no surrogates, nothing beyond `U+10FFFF`. -/
def sequenceLength? (bs : List UInt8) : Option Nat :=
  let cont := fun (i : Nat) (lo hi : UInt8) => match bs[i]? with
    | some x => lo ≤ x && x ≤ hi
    | none => false
  match bs with
  | [] => none
  | b :: _ =>
    if b < 0x80 then some 1
    else if 0xC2 ≤ b && b ≤ 0xDF then (if cont 1 0x80 0xBF then some 2 else none)
    else if 0xE0 ≤ b && b ≤ 0xEF then
      let (lo, hi) : UInt8 × UInt8 :=
        if b == 0xE0 then (0xA0, 0xBF) else if b == 0xED then (0x80, 0x9F) else (0x80, 0xBF)
      if cont 1 lo hi && cont 2 0x80 0xBF then some 3 else none
    else if 0xF0 ≤ b && b ≤ 0xF4 then
      let (lo, hi) : UInt8 × UInt8 :=
        if b == 0xF0 then (0x90, 0xBF) else if b == 0xF4 then (0x80, 0x8F) else (0x80, 0xBF)
      if cont 1 lo hi && cont 2 0x80 0xBF && cont 3 0x80 0xBF then some 4 else none
    else none

/-- The length of the longest front of `bs` that is UTF-8 text, counting from `done`; `fuel`
bounds the number of sequences read. -/
def validFront : Nat → List UInt8 → Nat → Nat
  | 0, _, done => done
  | fuel + 1, bs, done =>
    match sequenceLength? bs with
    | some n => validFront fuel (bs.drop n) (done + n)
    | none => done

/-- Why a UTF-8 sequence is bad. -/
inductive Reason where
  /-- its first byte starts no sequence -/
  | invalidStart
  /-- a byte after the first does not continue it -/
  | invalidContinuation
  /-- the bytes end before it does -/
  | unexpectedEnd
deriving DecidableEq, Repr, Inhabited

/-- Bytes that are not UTF-8 text, at their first bad sequence: its first byte, where it starts,
where it stops (exclusive) and why it is bad.  The sequence is the start byte and the bytes
after it that still fit a well-formed sequence, and the bad byte ends it unless it is the start
byte; when the bytes end first, it runs to their end. -/
structure Undecodable where
  byte : UInt8
  start : Nat
  stop : Nat
  reason : Reason
deriving DecidableEq, Repr, Inhabited

/-- The continuation bytes a start byte announces, with the range its first one must lie in;
none for a byte that starts no sequence of several bytes. -/
def announced (b : UInt8) : Option (Nat × UInt8 × UInt8) :=
  if 0xC2 ≤ b && b ≤ 0xDF then some (1, 0x80, 0xBF)
  else if b == 0xE0 then some (2, 0xA0, 0xBF)
  else if b == 0xED then some (2, 0x80, 0x9F)
  else if 0xE1 ≤ b && b ≤ 0xEF then some (2, 0x80, 0xBF)
  else if b == 0xF0 then some (3, 0x90, 0xBF)
  else if b == 0xF4 then some (3, 0x80, 0x8F)
  else if 0xF1 ≤ b && b ≤ 0xF3 then some (3, 0x80, 0xBF)
  else none

/-- The bad sequence at the front of `bs`, which starts at `start` and is not well formed. -/
def badSequence (start : Nat) (b : UInt8) (rest : List UInt8) : Undecodable :=
  match announced b with
  | none => ⟨b, start, start + 1, .invalidStart⟩
  | some (need, lo, hi) =>
    let fits := fun (p : UInt8 × Nat) =>
      if p.2 == 0 then lo ≤ p.1 && p.1 ≤ hi else 0x80 ≤ p.1 && p.1 ≤ 0xBF
    let good := ((rest.take need).zipIdx.takeWhile fits).length
    if good < need && good < rest.length then ⟨b, start, start + good + 1, .invalidContinuation⟩
    else ⟨b, start, start + 1 + rest.length, .unexpectedEnd⟩

def decode (b : List UInt8) : Except Undecodable String :=
  let v := validFront b.length b 0
  match b.drop v with
  | x :: rest => .error (badSequence v x rest)
  | [] => .ok ((decode? b).getD "")

def hexByte (b : UInt8) : String :=
  let d := fun (n : Nat) => if n < 10 then Char.ofNat (48 + n) else Char.ofNat (87 + n)
  String.ofList [d (b.toNat / 16), d (b.toNat % 16)]

/-- The bytes a bad sequence spans, as messages name them: one byte by its value, several by
their first and last position. -/
def Undecodable.span (u : Undecodable) : String :=
  if u.stop == u.start + 1 then "byte 0x" ++ hexByte u.byte ++ " in position " ++ toString u.start
  else "bytes in position " ++ toString u.start ++ "-" ++ toString (u.stop - 1)

/-- The wording of a bad sequence found when a value is put in its JSON form, which gives no
reason beyond the bytes being invalid. -/
def Undecodable.message (u : Undecodable) : String :=
  "'utf-8' codec can't decode " ++ u.span ++ ": invalid utf-8"

/-- The wording of a bad sequence found when text is decoded, with its reason. -/
def Undecodable.decoderMessage (u : Undecodable) : String :=
  let reason := match u.reason with
    | .invalidStart => "invalid start byte"
    | .invalidContinuation => "invalid continuation byte"
    | .unexpectedEnd => "unexpected end of data"
  "'utf-8' codec can't decode " ++ u.span ++ ": " ++ reason

end Utf8

end ClusterDeploy
