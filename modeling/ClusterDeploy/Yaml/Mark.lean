/-!
# Positions and errors in YAML text

A `Mark` is a position in the text: the character index, and the line and column counted from
zero.  A `YamlError` names what was being read (the context, with its mark) and what went wrong
(the problem, with its mark).  `YamlError.message` renders it: the context, then the context's
position unless it coincides with the problem's, then the problem and its position; a position
is written `  in "<unicode string>", line L, column C:` followed by the line it is on (cut to
about 75 characters around the mark, ` ... ` standing for what is left out) and a caret under
the mark.

Text holding a character that YAML does not allow at all is refused before it is read, with the
character's code and position (`YamlError.forbiddenChar`).  A number read from the text that its
conversion refuses is a failure of its own (`YamlError.conversion`), not a syntax error.
-/

namespace ClusterDeploy

namespace Yaml

/-- A position in YAML text. -/
structure Mark where
  index : Nat
  line : Nat
  column : Nat
deriving DecidableEq, Repr, Inhabited

/-- A failure to read YAML text. -/
inductive YamlError where
  /-- a character outside the allowed set, with its code and index -/
  | forbiddenChar (code : Nat) (index : Nat)
  /-- a syntax or structure error: what was being read, and what went wrong -/
  | marked (context : Option String) (contextMark : Option Mark) (problem : String)
      (problemMark : Option Mark)
  /-- a number read from the text is out of the range of the conversion it goes through: an
  escaped character code beyond `U+10FFFF`, or a version number of more digits than an integer
  is read from; the text is the conversion's -/
  | conversion (message : String)
deriving DecidableEq, Repr, Inhabited

def isBreakChar (c : Char) : Bool :=
  c == '\r' || c == '\n' || c.toNat == 0x85 || c.toNat == 0x2028 || c.toNat == 0x2029

def endsSnippet (c : Char) : Bool := c == '\x00' || isBreakChar c

/-- Steps back from `p` to the start of its line, but no more than 37 characters. -/
def snippetStart (src : Array Char) (p : Nat) : Nat × Bool :=
  let rec go : Nat → Nat → Nat × Bool
    | 0, s => (s, false)
    | fuel + 1, s =>
      if s > 0 && !endsSnippet (src.getD (s - 1) '\x00') then
        let s := s - 1
        if p - s ≥ 37 then (s + 5, true) else go fuel s
      else (s, false)
  go (p + 1) p

/-- Steps forward from `p` to the end of its line, but no more than 37 characters. -/
def snippetEnd (src : Array Char) (p : Nat) : Nat × Bool :=
  let rec go : Nat → Nat → Nat × Bool
    | 0, e => (e, false)
    | fuel + 1, e =>
      if e < src.size && !endsSnippet (src.getD e '\x00') then
        let e := e + 1
        if e - p ≥ 37 then (e - 5, true) else go fuel e
      else (e, false)
  go (src.size + 1) p

def Mark.snippet (src : Array Char) (m : Mark) : String :=
  let p := m.index
  let (start, cutHead) := snippetStart src p
  let (stop, cutTail) := snippetEnd src p
  let head := if cutHead then " ... " else ""
  let tail := if cutTail then " ... " else ""
  let text := String.ofList ((src.extract start stop).toList)
  "    " ++ head ++ text ++ tail ++ "\n" ++
    String.ofList (List.replicate (4 + (p - start) + head.length) ' ') ++ "^"

def Mark.describe (src : Array Char) (m : Mark) : String :=
  "  in \"<unicode string>\", line " ++ toString (m.line + 1) ++ ", column " ++
    toString (m.column + 1) ++ ":\n" ++ m.snippet src

def hex4 (n : Nat) : String :=
  let ds := Nat.toDigits 16 n
  String.ofList (List.replicate (4 - ds.length) '0' ++ ds)

def YamlError.message (src : Array Char) : YamlError → String
  | .forbiddenChar code index =>
    "unacceptable character #x" ++ hex4 code ++ ": special characters are not allowed\n" ++
      "  in \"<unicode string>\", position " ++ toString index
  | .marked context contextMark problem problemMark =>
    let showContextMark :=
      match contextMark, problemMark with
      | some c, some p => c.line != p.line || c.column != p.column
      | some _, none => true
      | none, _ => false
    let parts :=
      context.toList ++
      (if showContextMark then (contextMark.map (Mark.describe src)).toList else []) ++
      [problem] ++ (problemMark.map (Mark.describe src)).toList
    String.intercalate "\n" parts
  | .conversion m => m

def allowedChar (c : Char) : Bool :=
  let n := c.toNat
  n == 9 || n == 10 || n == 13 || (0x20 ≤ n && n ≤ 0x7E) || n == 0x85 ||
    (0xA0 ≤ n && n ≤ 0xD7FF) || (0xE000 ≤ n && n ≤ 0xFFFD) || (0x10000 ≤ n && n ≤ 0x10FFFF)

/-- The first character that YAML text may not hold, with its index. -/
def firstForbidden (src : Array Char) : Option YamlError :=
  match (src.toList.zipIdx).find? (fun p => !allowedChar p.1) with
  | some (c, i) => some (.forbiddenChar c.toNat i)
  | none => none

end Yaml

end ClusterDeploy
