import ClusterDeploy.Data
import ClusterDeploy.Number.Shortest
import ClusterDeploy.Yaml.Tag

/-!
# Writing YAML

`Yaml.dump` writes a value as a YAML document in block style, two spaces per level, lines
folded at 80 columns, ASCII only:

* a mapping writes `key: value` lines, a sequence `- item` lines; a sequence under a mapping
  key is not indented further; empty collections are written `[]` and `{}`;
* a key longer than 127 characters (counting its tag's short name), an empty key or one with a
  line break is written in the explicit form `? key` / `: value`;
* a scalar is written plain when that reads back as the same value, else in single quotes,
  else (for control and non-ASCII characters, or spaces next to line breaks) in double quotes
  with escapes; text that would read back as another type (`'yes'`, `'1'`, `'null'`) is
  quoted;
* numbers are written as they print, a double always with a point or an exponent (`1.0e+17`),
  and `.inf`, `-.inf`, `.nan`; null is `null`, booleans `true` and `false`; `Yaml.dumpChecked`
  refuses an integer of more than `Data.decimalLimit` digits.

A document whose root is a plain scalar ends with `...`.

The writer keeps the column, whether the last character written was white space, and whether
the line so far is only indentation; these decide where line breaks and separating spaces go.
-/

namespace ClusterDeploy

namespace Yaml

/-- What is known about a scalar's text that decides how it can be written. -/
structure Analysis where
  empty : Bool
  multiline : Bool
  allowFlowPlain : Bool
  allowBlockPlain : Bool
  allowSingleQuoted : Bool
  allowBlock : Bool
deriving Repr, Inhabited

def isBlankOrNul (c : Char) : Bool :=
  c == '\x00' || c == ' ' || c == '\t' || c == '\r' || c == '\n' || c.toNat == 0x85 ||
    c.toNat == 0x2028 || c.toNat == 0x2029

def isLineBreak (c : Char) : Bool :=
  c == '\n' || c.toNat == 0x85 || c.toNat == 0x2028 || c.toNat == 0x2029

/-- whether a character can only be written escaped, in double quotes -/
def isSpecialChar (c : Char) : Bool :=
  !(c == '\n' || (0x20 ≤ c.toNat && c.toNat ≤ 0x7E))

def analyze (s : Array Char) : Analysis := Id.run do
  let n := s.size
  if n == 0 then return ⟨true, false, false, true, true, false⟩
  let at_ := fun (i : Nat) => s.getD i '\x00'
  let text := String.ofList s.toList
  let mut blockInd := text.startsWith "---" || text.startsWith "..."
  let mut flowInd := blockInd
  let mut lineBreaks := false
  let mut special := false
  let mut leadingSpace := false
  let mut leadingBreak := false
  let mut trailingSpace := false
  let mut trailingBreak := false
  let mut breakSpace := false
  let mut spaceBreak := false
  let mut precededByWs := true
  let mut followedByWs := n == 1 || isBlankOrNul (at_ 1)
  let mut previousSpace := false
  let mut previousBreak := false
  for i in List.range n do
    let ch := at_ i
    if i == 0 then
      if "#,[]\x7b\x7d&*!|>'\"%@`".toList.contains ch then
        flowInd := true
        blockInd := true
      if ch == '?' || ch == ':' then
        flowInd := true
        if followedByWs then blockInd := true
      if ch == '-' && followedByWs then
        flowInd := true
        blockInd := true
    else
      if ",?[]\x7b\x7d".toList.contains ch then flowInd := true
      if ch == ':' then
        flowInd := true
        if followedByWs then blockInd := true
      if ch == '#' && precededByWs then
        flowInd := true
        blockInd := true
    if isLineBreak ch then lineBreaks := true
    if isSpecialChar ch then special := true
    if ch == ' ' then
      if i == 0 then leadingSpace := true
      if i == n - 1 then trailingSpace := true
      if previousBreak then breakSpace := true
      previousSpace := true
      previousBreak := false
    else if isLineBreak ch then
      if i == 0 then leadingBreak := true
      if i == n - 1 then trailingBreak := true
      if previousSpace then spaceBreak := true
      previousSpace := false
      previousBreak := true
    else
      previousSpace := false
      previousBreak := false
    precededByWs := isBlankOrNul ch
    followedByWs := i + 2 ≥ n || isBlankOrNul (at_ (i + 2))
  let mut flowPlain := true
  let mut blockPlain := true
  let mut single := true
  let mut block := true
  if leadingSpace || leadingBreak || trailingSpace || trailingBreak then
    flowPlain := false
    blockPlain := false
  if trailingSpace then block := false
  if breakSpace then
    flowPlain := false
    blockPlain := false
    single := false
  if spaceBreak || special then
    flowPlain := false
    blockPlain := false
    single := false
    block := false
  if lineBreaks then
    flowPlain := false
    blockPlain := false
  if flowInd then flowPlain := false
  if blockInd then blockPlain := false
  return ⟨false, lineBreaks, flowPlain, blockPlain, single, block⟩

/-- How a scalar is written. -/
inductive ScalarStyle where
  | plain | singleQuoted | doubleQuoted
deriving DecidableEq, Repr, Inhabited

/-- The style of a scalar: plain if it reads back as itself, else single-quoted if allowed,
else double-quoted. -/
def chooseStyle (a : Analysis) (readsBack simpleKey : Bool) : ScalarStyle :=
  if readsBack && !(simpleKey && (a.empty || a.multiline)) && a.allowBlockPlain then .plain
  else if a.allowSingleQuoted && !(simpleKey && a.multiline) then .singleQuoted
  else .doubleQuoted

/-- The writer's state. -/
structure Pen where
  out : List String
  column : Nat
  whitespace : Bool
  indention : Bool
  openEnded : Bool
deriving Repr, Inhabited

abbrev PenM := StateM Pen

def bestWidth : Nat := 80

def put (s : String) : PenM Unit :=
  modify fun p => { p with out := s :: p.out, column := p.column + s.length }

def writeIndicator (s : String) (needWs ws indention : Bool) : PenM Unit := do
  let p ← get
  let data := if p.whitespace || !needWs then s else " " ++ s
  set { p with whitespace := ws, indention := p.indention && indention, openEnded := false }
  put data

def writeLineBreak (br : String) : PenM Unit :=
  modify fun p => { p with out := br :: p.out, column := 0, whitespace := true, indention := true }

/-- Goes to column `indent`, on a new line unless the line so far is only indentation. -/
def writeIndent (indent : Nat) : PenM Unit := do
  let p ← get
  if !p.indention || p.column > indent || (p.column == indent && !p.whitespace) then
    writeLineBreak "\n"
  let p ← get
  if p.column < indent then
    set { p with whitespace := true }
    put (String.ofList (List.replicate (indent - p.column) ' '))

def slice (s : Array Char) (a b : Nat) : String := String.ofList (s.extract a b).toList

/-- Writes the line breaks `s[a, b)`: an extra one first when they start with a line feed. -/
def writeBreaks (s : Array Char) (a b : Nat) : PenM Unit := do
  if s.getD a ' ' == '\n' then writeLineBreak "\n"
  for c in (s.extract a b).toList do
    writeLineBreak c.toString

/-- Writes a plain scalar, folding at single spaces past the line width when `split`. -/
def writePlain (s : Array Char) (split root : Bool) (indent : Nat) : PenM Unit := do
  if root then modify fun p => { p with openEnded := true }
  if s.size == 0 then return
  if !(← get).whitespace then put " "
  modify fun p => { p with whitespace := false, indention := false }
  let n := s.size
  let mut spaces := false
  let mut breaks := false
  let mut start := 0
  for e in List.range (n + 1) do
    let ch := s[e]?
    if spaces then
      if ch != some ' ' then
        if start + 1 == e && (← get).column > bestWidth && split then
          writeIndent indent
          modify fun p => { p with whitespace := false, indention := false }
        else put (slice s start e)
        start := e
    else if breaks then
      if !(ch.map isLineBreak).getD false then
        writeBreaks s start e
        writeIndent indent
        modify fun p => { p with whitespace := false, indention := false }
        start := e
    else
      if ch.isNone || ch == some ' ' || (ch.map isLineBreak).getD false then
        put (slice s start e)
        start := e
    if let some c := ch then
      spaces := c == ' '
      breaks := isLineBreak c

/-- Writes a single-quoted scalar, doubling quotes and folding like a plain one. -/
def writeSingleQuoted (s : Array Char) (split : Bool) (indent : Nat) : PenM Unit := do
  writeIndicator "'" true false false
  let n := s.size
  let mut spaces := false
  let mut breaks := false
  let mut start := 0
  for e in List.range (n + 1) do
    let ch := s[e]?
    if spaces then
      if ch != some ' ' then
        if start + 1 == e && (← get).column > bestWidth && split && start != 0 && e != n then
          writeIndent indent
        else put (slice s start e)
        start := e
    else if breaks then
      if !(ch.map isLineBreak).getD false then
        writeBreaks s start e
        writeIndent indent
        start := e
    else
      if ch.isNone || ch == some ' ' || (ch.map isLineBreak).getD false || ch == some '\'' then
        if start < e then
          put (slice s start e)
          start := e
    if ch == some '\'' then
      put "''"
      start := e + 1
    if let some c := ch then
      spaces := c == ' '
      breaks := isLineBreak c
  writeIndicator "'" false false false

/-- upper-case hexadecimal digits of `n`, at least `width` of them -/
def hexUpper (width n : Nat) : String :=
  let ds := (Nat.toDigits 16 n).map Char.toUpper
  String.ofList (List.replicate (width - ds.length) '0' ++ ds)

def escapeOf (c : Char) : String :=
  match c.toNat with
  | 0 => "\\0"
  | 7 => "\\a"
  | 8 => "\\b"
  | 9 => "\\t"
  | 10 => "\\n"
  | 11 => "\\v"
  | 12 => "\\f"
  | 13 => "\\r"
  | 27 => "\\e"
  | 34 => "\\\""
  | 92 => "\\\\"
  | 0x85 => "\\N"
  | 0xA0 => "\\_"
  | 0x2028 => "\\L"
  | 0x2029 => "\\P"
  | n =>
    if n ≤ 0xFF then "\\x" ++ hexUpper 2 n
    else if n ≤ 0xFFFF then "\\u" ++ hexUpper 4 n
    else "\\U" ++ hexUpper 8 n

def needsEscape (c : Char) : Bool :=
  c == '"' || c == '\\' || !(0x20 ≤ c.toNat && c.toNat ≤ 0x7E)

/-- Writes a double-quoted scalar with escapes, folding long lines with a backslash. -/
def writeDoubleQuoted (s : Array Char) (split : Bool) (indent : Nat) : PenM Unit := do
  writeIndicator "\"" true false false
  let n := s.size
  let mut start := 0
  for e in List.range (n + 1) do
    let ch := s[e]?
    if ch.isNone || (ch.map needsEscape).getD false then
      if start < e then
        put (slice s start e)
        start := e
      if let some c := ch then
        put (escapeOf c)
        start := e + 1
    -- the line so far plus the text still held back, which is one character less than nothing
    -- right after an escape
    if 0 < e && e + 1 < n && (ch == some ' ' || start ≥ e) &&
        (← get).column + e > bestWidth + start && split then
      put (slice s start e ++ "\\")
      if start < e then start := e
      writeIndent indent
      modify fun p => { p with whitespace := false, indention := false }
      if s.getD start 'x' == ' ' then put "\\"
  writeIndicator "\"" false false false

/-- A scalar to write: its text, and whether a plain form of it reads back as it. -/
structure ScalarText where
  text : String
  readsBack : Bool
  tagLength : Nat

def doubleText (x : Binary64) : String :=
  if x.isNaN then ".nan"
  else if x.isInf then (if x.negative then "-.inf" else ".inf")
  else
    let t := x.toText.toLower
    if !t.toList.contains '.' && t.toList.contains 'e' then t.replace "e" ".0e" else t

def scalarText : Data → ScalarText
  | .null => ⟨"null", true, 6⟩
  | .bool b => ⟨if b then "true" else "false", true, 6⟩
  | .int i => ⟨toString i, true, 5⟩
  | .float x => ⟨doubleText x, true, 7⟩
  | .str s => ⟨s, implicitTag s == repoTag "str", 5⟩
  | .bytes b => ⟨Data.bytesText b, false, 8⟩
  | .date d => ⟨d.iso, true, 11⟩
  | .time t => ⟨t.spaced, true, 11⟩
  | _ => ⟨"", false, 0⟩

/-- Where a node stands. -/
structure Place where
  root : Bool
  mapping : Bool
  simpleKey : Bool

def writeScalar (d : Data) (place : Place) (indent : Option Nat) : PenM Unit := do
  let st := scalarText d
  let s := st.text.toList.toArray
  let own := (indent.map (· + 2)).getD 2
  let split := !place.simpleKey
  match chooseStyle (analyze s) st.readsBack place.simpleKey with
  | .plain => writePlain s split place.root own
  | .singleQuoted => writeSingleQuoted s split own
  | .doubleQuoted => writeDoubleQuoted s split own

def isScalar : Data → Bool
  | .seq _ | .map _ | .loop _ => false
  | _ => true

def simpleKeyOk (k : Data) : Bool :=
  match k with
  | .seq [] | .map [] => true
  | .seq _ | .map _ => false
  | _ =>
    let st := scalarText k
    let a := analyze st.text.toList.toArray
    st.tagLength + st.text.length < 128 && !a.empty && !a.multiline

mutual

/-- Writes a node inside a parent at indentation `indent` (none at the root). -/
def writeNode (d : Data) (place : Place) (indent : Option Nat) : PenM Unit :=
  match d with
  | .seq [] => do
    writeIndicator "[" true true false
    writeIndicator "]" false false false
  | .map [] => do
    writeIndicator "\x7b" true true false
    writeIndicator "\x7d" false false false
  | .seq items => do
    let indentless := place.mapping && !(← get).indention
    let own := match indent with
      | none => 0
      | some i => if indentless then i else i + 2
    writeItems items own
  | .map es => do
    let own := match indent with
      | none => 0
      | some i => i + 2
    writeEntries es own
  | .loop t => writeNode t place indent
  | _ => writeScalar d place indent

def writeItems (items : List Data) (own : Nat) : PenM Unit :=
  match items with
  | [] => pure ()
  | x :: rest => do
    writeIndent own
    writeIndicator "-" true false true
    writeNode x ⟨false, false, false⟩ (some own)
    writeItems rest own

def writeEntries (es : List (Data × Data)) (own : Nat) : PenM Unit :=
  match es with
  | [] => pure ()
  | (k, v) :: rest => do
    writeIndent own
    if simpleKeyOk k then
      writeNode k ⟨false, true, true⟩ (some own)
      writeIndicator ":" false false false
    else
      writeIndicator "?" true false true
      writeNode k ⟨false, true, false⟩ (some own)
      writeIndent own
      writeIndicator ":" true false true
    writeNode v ⟨false, true, false⟩ (some own)
    writeEntries rest own

end

def dump (d : Data) : String :=
  let write : PenM Unit := do
    writeNode d ⟨true, false, false⟩ none
    writeIndent 0
    if (← get).openEnded then
      writeIndicator "..." true false false
      writeIndent 0
  let (_, p) := write.run ⟨[], 0, true, true, false⟩
  String.join p.out.reverse

/-- A value as a YAML document, unless it holds an integer whose decimal text is too long to
be written. -/
def dumpChecked (d : Data) : Except Data.Unwritable String :=
  if d.holdsLongInteger then .error .longInteger else .ok (dump d)

end Yaml

end ClusterDeploy
