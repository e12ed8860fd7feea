import ClusterDeploy.Key.Der
import ClusterDeploy.Text.Base64
import ClusterDeploy.Pattern.Search

/-!
# Wrapped keys

Key data holds a key in one of a few wrappings, and `Armor.next` finds the first it recognizes:

* data whose first byte is `0x30`, the tag of a DER sequence, and whose head reads as one DER
  value is that value, whatever follows it.  Head bytes that are not DER fall through to the
  lines, but a value that fails in another way (`Der.Fault`) is an error;
* otherwise the lines are read in order, each without the white space at its end (so a line
  indented by white space opens nothing):
  * `-----BEGIN NAME KIND-----`, where `KIND` is `PRIVATE KEY` or `PUBLIC KEY`, opens a PEM block
    named `NAME` (blanks around it dropped, often empty).  The block runs from the next line to
    its footer, found as the first match of a pattern (`Armor.footer`) from there, or from the
    start of the data when the opening line is the last and has no line feed.  The pattern is
    the opening line's first five characters, `END`, the opening line from its eleventh
    character on, then blanks to the end of a line, from the start of a line.  The name is
    pattern text, so a `.` in it stands for any character, and a name that is not a well-formed
    pattern is a fault of the pattern.  The block begins with header lines `Name: value`, and
    the rest is the key in base64;
  * for public keys, `---- BEGIN SSH2 PUBLIC KEY ----` opens a block in the SSH public key file
    format, whose footer `---- END SSH2 PUBLIC KEY ----` is found the same way: header lines, a
    backslash at the end of one continuing it on the next, then the key in base64;
  * for public keys, a line `algorithm base64 [comment]` whose algorithm is that of a known key
    or certificate holds the key, and any other line is skipped.

A block whose footer never comes is an error, and so is base64 that cannot be decoded.
-/

namespace ClusterDeploy

namespace Armor

/-- A key found in data, in the wrapping it was found in. -/
inductive Found where
  /-- a DER value at the head of the data -/
  | der (value : Der)
  /-- a PEM block: its name, its headers, and its content -/
  | pem (name : List UInt8) (headers : List (List UInt8 × List UInt8)) (body : List UInt8)
  /-- a public key line: its algorithm and the key -/
  | line (algorithm : List UInt8) (blob : List UInt8)
  /-- a public key in the SSH public key file format -/
  | sshFile (blob : List UInt8)
deriving Repr, Inhabited

def bytesOf (s : String) : List UInt8 := s.toUTF8.toList

def latin1 (bs : List UInt8) : String := String.ofList (bs.map fun b => Char.ofNat b.toNat)

/-- Text of ASCII bytes, or the decoder's complaint about the first byte that is not ASCII. -/
def ascii (bs : List UInt8) : Except String String :=
  match bs.findIdx? (· ≥ 128) with
  | some i =>
    .error ("'ascii' codec can't decode byte 0x" ++ Utf8.hexByte (bs.getD i 0) ++ " in position " ++
      toString i ++ ": ordinal not in range(128)")
  | none => .ok (latin1 bs)

def isBlank (b : UInt8) : Bool := b == 32 || (9 ≤ b && b ≤ 13)

def strip (bs : List UInt8) : List UInt8 :=
  ((bs.dropWhile isBlank).reverse.dropWhile isBlank).reverse

def stripEnd (bs : List UInt8) : List UInt8 :=
  (bs.reverse.dropWhile isBlank).reverse

def lines (bs : List UInt8) : List (List UInt8) :=
  let (last, done) := bs.foldl (fun (acc : List UInt8 × List (List UInt8)) b =>
    if b == 10 then ([], (b :: acc.1).reverse :: acc.2) else (b :: acc.1, acc.2)) ([], [])
  (if last.isEmpty then done else last.reverse :: done).reverse

def body (line : List UInt8) : List UInt8 :=
  if line.getLast? == some 10 then line.dropLast else line

/-- Why key data cannot be unwrapped. -/
inductive Fault where
  /-- the wrapping is broken; the text says how -/
  | broken (message : String)
  /-- the pattern of a block's footer, built from its opening line, is not well formed -/
  | footerPattern (fault : Pattern.Fault)
  /-- the DER value at the head of the data holds a UTF-8 string that is not UTF-8 text -/
  | undecodable (u : Utf8.Undecodable)
  /-- the DER value at the head of the data holds a bit string with impossible unused bits; the
  text says how -/
  | unusedBits (message : String)
deriving DecidableEq, Repr, Inhabited

/-- The lines of data, each with where the search for a block it opens begins: just after its
line feed, or, for a last line without one, the start of the data. -/
def linesWithEnds (bs : List UInt8) : List (List UInt8 × Nat) :=
  let (_, out) := (lines bs).foldl (fun (acc : Nat × List (List UInt8 × Nat)) l =>
    let stop := acc.1 + l.length
    (stop, (l, if l.getLast? == some 10 then stop else 0) :: acc.2)) (0, [])
  out.reverse

/-- The pattern of the footer of a block that `opening` opens: its first five characters, `END`,
and the line from its eleventh character on, at the start of a line and followed by blanks to
the end of one. -/
def footer (opening : List UInt8) : List UInt8 :=
  bytesOf "^" ++ opening.take 5 ++ bytesOf "END" ++ opening.drop 10 ++ bytesOf "[ \\t\\r\\f\\v]*$"

/-- The data from `start` up to where the footer of the block that `opening` opens begins;
`format` names the block in the fault for a missing footer. -/
def block (data : Array UInt8) (start : Nat) (opening : List UInt8) (format : String) :
    Except Fault (List UInt8) := do
  let compiled ← (Pattern.compile (footer opening) ['m']).mapError Fault.footerPattern
  match compiled.search data start with
  | some (s, _) => pure (data.extract start s).toList
  | none => throw (.broken ("Missing " ++ format ++ " footer"))

/-- A header line split at its first colon, white space around name and value dropped. -/
def header? (line : List UInt8) : Option (List UInt8 × List UInt8) :=
  let l := strip line
  match l.idxOf? 58 with
  | some i => some (strip (l.take i), strip (l.drop (i + 1)))
  | none => none

/-- The header lines at the front of a block, and the lines after them. -/
def headers : List (List UInt8) → List (List UInt8 × List UInt8) × List (List UInt8)
  | [] => ([], [])
  | l :: rest =>
    match header? l with
    | some h =>
      let (hs, after) := headers rest
      (h :: hs, after)
    | none => ([], l :: rest)

/-- The lines after a header line whose value is `value`: while the value ends in a backslash,
the next line, without the white space around it, continues it. -/
def afterContinued (value : List UInt8) : List (List UInt8) → List (List UInt8)
  | [] => []
  | l :: rest =>
    if value.getLast? == some 92 then afterContinued (value.dropLast ++ strip l) rest
    else l :: rest

/-- The lines of a block in the SSH public key file format after its header lines, a header
whose value ends in a backslash running on into the next line; `fuel` bounds the headers. -/
def afterFileHeaders : Nat → List (List UInt8) → List (List UInt8)
  | 0, ls => ls
  | _, [] => []
  | fuel + 1, l :: rest =>
    match header? l with
    | some (_, _) =>
      let value := ((strip l).dropWhile (· != 58)).drop 1
      afterFileHeaders fuel (afterContinued value rest)
    | none => l :: rest

/-- The lines of a block in the SSH public key file format after its header lines. -/
def fileHeaders (ls : List (List UInt8)) : List (List UInt8) := afterFileHeaders ls.length ls

def unarmor (text : List UInt8) : Except String (List UInt8) :=
  Base64.decode (text.map fun b => Char.ofNat b.toNat)

/-- the algorithms a public key line may name: those of keys and those of certificates -/
def lineAlgorithms : List String :=
  let keys := ["ssh-ed25519", "ssh-ed448", "ssh-rsa", "ssh-dss", "ecdsa-sha2-nistp256",
    "ecdsa-sha2-nistp384", "ecdsa-sha2-nistp521", "ecdsa-sha2-1.3.132.0.10",
    "sk-ssh-ed25519@openssh.com", "sk-ecdsa-sha2-nistp256@openssh.com"]
  let certificates := ["ssh-ed25519", "ssh-ed448", "ssh-rsa", "ssh-dss", "ecdsa-sha2-nistp256",
    "ecdsa-sha2-nistp384", "ecdsa-sha2-nistp521", "ecdsa-sha2-1.3.132.0.10", "sk-ssh-ed25519",
    "sk-ecdsa-sha2-nistp256"].map (· ++ "-cert-v01@openssh.com")
  keys ++ certificates

/-- Reads a public key line `algorithm base64 [comment]`, words separated by white space. -/
def keyLine? (line : List UInt8) : Option Found :=
  let words := (line.splitOn 32 |>.flatMap (·.splitOn 9) |>.flatMap (·.splitOn 10)
    |>.flatMap (·.splitOn 11) |>.flatMap (·.splitOn 12) |>.flatMap (·.splitOn 13)).filter
    (!·.isEmpty)
  match words with
  | alg :: encoded :: _ =>
    if lineAlgorithms.any (bytesOf · == alg) then
      match unarmor encoded with
      | .ok blob => some (.line alg blob)
      | .error _ => none
    else none
  | _ => none

/-- Looks through the lines of `data`, each with where a block it opens begins, for the first
key of kind `kind` (`PRIVATE KEY` or `PUBLIC KEY`), public key lines and files counting when
`forPublic`. -/
def scan (data : Array UInt8) (kind : List UInt8) (forPublic : Bool) :
    List (List UInt8 × Nat) → Except Fault (Option Found)
  | [] => .ok none
  | (l, stop) :: rest =>
    let line := stripEnd l
    let opening := bytesOf "-----BEGIN "
    let closing := bytesOf " " ++ kind ++ bytesOf "-----"
    if opening.isPrefixOf line && closing.isSuffixOf line then do
      let name := strip ((line.drop 11).take (line.length - 11 - closing.length))
      let (hs, text) := headers (lines (← block data stop line "PEM"))
      match unarmor text.flatten with
      | .ok content => pure (some (.pem name hs content))
      | .error _ => throw (.broken "Invalid PEM data")
    else if forPublic && line == bytesOf "---- BEGIN SSH2 PUBLIC KEY ----" then do
      match unarmor (fileHeaders (lines (← block data stop line "RFC4716"))).flatten with
      | .ok content => pure (some (.sshFile content))
      | .error _ => throw (.broken "Invalid RFC4716 data")
    else if forPublic then
      match keyLine? line with
      | some f => .ok (some f)
      | none => scan data kind forPublic rest
    else scan data kind forPublic rest

def next (data : List UInt8) (kind : String) (forPublic : Bool) : Except Fault (Option Found) :=
  let lines := fun (_ : Unit) => scan data.toArray (bytesOf kind) forPublic (linesWithEnds data)
  if data.head? == some 0x30 then
    match Der.readFront data with
    | .ok (d, _) => .ok (some (.der d))
    | .error .malformed => lines ()
    | .error (.text u) => .error (.undecodable u)
    | .error (.unusedBits m) => .error (.unusedBits m)
  else lines ()

end Armor

end ClusterDeploy
