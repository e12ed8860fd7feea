import ClusterDeploy.Yaml.Token
import ClusterDeploy.Text.Echo
import ClusterDeploy.Data

/-!
# The YAML lexer

`Lexer` cuts YAML text into tokens on demand.  Block structure is found from indentation: the
lexer keeps the stack of indentation columns and emits `blockSequenceStart`,
`blockMappingStart` and `blockEnd` as columns open and close.  A simple key (`key: value`
without `?`) is only recognised when its `:` arrives, so the lexer remembers, per flow level,
where a simple key could have started, and inserts the `key` token there, with its absolute
token number, when the `:` shows up.  A possible key goes stale when its line ends or after
1024 characters; a stale key that was required (one at the block indentation column) is an
error.

Because a later `:` can still insert a token in front of the first queued one, the lexer only
hands out a token when no remembered key points at it (`Lexer.ensure`).  The parser therefore
pulls tokens one at a time through `peekToken`, `checkToken` and `getToken`, and a syntax error
far ahead is only reported once the parser gets there.

Every loop here either consumes characters or stops, and runs on a fuel bounded by the length
of the text.
-/

namespace ClusterDeploy

namespace Yaml

/-- A place where a simple key may start. -/
structure SimpleKey where
  tokenNumber : Nat
  required : Bool
  index : Nat
  line : Nat
  column : Nat
  mark : Mark
deriving DecidableEq, Repr, Inhabited

/-- The lexer's state: the text, the position, the queued tokens and the block structure.
`rest` is the text from `index` on, so that looking ahead does not walk the text from its
start. -/
structure Lexer where
  src : Array Char
  rest : List Char
  index : Nat
  line : Nat
  column : Nat
  done : Bool
  flowLevel : Nat
  tokens : List Token
  taken : Nat
  indent : Int
  indents : List Int
  allowSimpleKey : Bool
  keys : List (Nat × SimpleKey)
deriving Repr, Inhabited

abbrev LexM := StateT Lexer (Except YamlError)

def isBreakZ (c : Char) : Bool := c == '\x00' || isBreakChar c

def isBlankZ (c : Char) : Bool := c == ' ' || c == '\t' || isBreakZ c

def isWordChar (c : Char) : Bool :=
  ('0' ≤ c && c ≤ '9') || ('A' ≤ c && c ≤ 'Z') || ('a' ≤ c && c ≤ 'z') || c == '-' || c == '_'

def isHexChar (c : Char) : Bool :=
  ('0' ≤ c && c ≤ '9') || ('A' ≤ c && c ≤ 'F') || ('a' ≤ c && c ≤ 'f')

namespace Lexer

/-- A lexer at the start of `src`, with the stream-start token queued. -/
def start (src : Array Char) : Lexer :=
  ⟨src, src.toList, 0, 0, 0, false, 0, [⟨.streamStart, ⟨0, 0, 0⟩, ⟨0, 0, 0⟩⟩], 0, -1, [], true,
    []⟩

def peekAt (lx : Lexer) (k : Nat) : Char := lx.rest.getD k '\x00'

def mark (lx : Lexer) : Mark := ⟨lx.index, lx.line, lx.column⟩

/-- Moves one character ahead, counting lines and columns (a byte-order mark takes no column). -/
def step (lx : Lexer) : Lexer :=
  match lx.rest with
  | [] => lx
  | c :: more =>
    let next := more.headD '\x00'
    if c == '\n' || c.toNat == 0x85 || c.toNat == 0x2028 || c.toNat == 0x2029 ||
        (c == '\r' && next != '\n') then
      { lx with rest := more, index := lx.index + 1, line := lx.line + 1, column := 0 }
    else if c.toNat == 0xFEFF then { lx with rest := more, index := lx.index + 1 }
    else { lx with rest := more, index := lx.index + 1, column := lx.column + 1 }

def advance : Lexer → Nat → Lexer
  | lx, 0 => lx
  | lx, n + 1 => advance lx.step n

def ahead (lx : Lexer) (n : Nat) : String :=
  String.ofList (lx.rest.take n)

end Lexer

section Monad

def peek (k : Nat) : LexM Char := do return (← get).peekAt k

def forward (n : Nat) : LexM Unit := modify (·.advance n)

def here : LexM Mark := do return (← get).mark

def ahead (n : Nat) : LexM String := do return (← get).ahead n

/-- the number of characters from `k` places ahead on that satisfy `p` -/
def countAhead (k : Nat) (p : Char → Bool) : LexM Nat := do
  return (((← get).rest.drop k).takeWhile p).length

def skipWhile (p : Char → Bool) : LexM Unit := do forward (← countAhead 0 p)

def lexFail {α : Type} (context : Option String) (contextMark : Option Mark) (problem : String)
    (problemMark : Mark) : LexM α :=
  throw (.marked context contextMark problem (some problemMark))

def addToken (t : Token) : LexM Unit := modify fun lx => { lx with tokens := lx.tokens ++ [t] }

def insertToken (i : Nat) (t : Token) : LexM Unit :=
  modify fun lx => { lx with tokens := lx.tokens.take i ++ [t] ++ lx.tokens.drop i }

def echoChar (c : Char) : String := Text.echo c.toString

end Monad

def dropLevel (keys : List (Nat × SimpleKey)) (level : Nat) : List (Nat × SimpleKey) :=
  keys.filter (fun e => e.1 != level)

def nextKeyNumber (keys : List (Nat × SimpleKey)) : Option Nat :=
  keys.foldl (fun acc e => match acc with
    | none => some e.2.tokenNumber
    | some m => some (min m e.2.tokenNumber)) none

/-- Forgets keys whose line has ended or that lie more than 1024 characters back; a required
one of them is an error. -/
def staleKeys : LexM Unit := do
  let lx ← get
  let mut kept : List (Nat × SimpleKey) := []
  for e in lx.keys do
    if e.2.line != lx.line || lx.index - e.2.index > 1024 then
      if e.2.required then
        lexFail (some "while scanning a simple key") (some e.2.mark) "could not find expected ':'"
          lx.mark
    else kept := kept ++ [e]
  set { lx with keys := kept }

/-- Forgets the key remembered at the current flow level; a required one is an error. -/
def removeKey : LexM Unit := do
  let lx ← get
  match lx.keys.lookup lx.flowLevel with
  | some key =>
    if key.required then
      lexFail (some "while scanning a simple key") (some key.mark) "could not find expected ':'"
        lx.mark
    else set { lx with keys := dropLevel lx.keys lx.flowLevel }
  | none => pure ()

def saveKey : LexM Unit := do
  let lx ← get
  let required := lx.flowLevel == 0 && lx.indent == (lx.column : Int)
  if lx.allowSimpleKey then
    removeKey
    let lx ← get
    let key : SimpleKey :=
      ⟨lx.taken + lx.tokens.length, required, lx.index, lx.line, lx.column, lx.mark⟩
    set { lx with keys := dropLevel lx.keys lx.flowLevel ++ [(lx.flowLevel, key)] }

def unwindIndent (col : Int) : LexM Unit := do
  let lx ← get
  if lx.flowLevel == 0 then
    let rec close : List Int → Int → List Token → (List Int × Int × List Token)
      | [], indent, out => ([], indent, out)
      | i :: rest, indent, out =>
        if indent > col then close rest i (out ++ [⟨.blockEnd, lx.mark, lx.mark⟩])
        else (i :: rest, indent, out)
    let (indents, indent, ends) := close lx.indents lx.indent []
    set { lx with indents := indents, indent := indent, tokens := lx.tokens ++ ends }

def addIndent (col : Int) : LexM Bool := do
  let lx ← get
  if lx.indent < col then
    set { lx with indents := lx.indent :: lx.indents, indent := col }
    return true
  else return false

/-- Consumes a line break, giving the break it stands for (`\n` for CR, LF, CRLF and NEL). -/
def scanLineBreak : LexM String := do
  let c ← peek 0
  if c == '\r' || c == '\n' || c.toNat == 0x85 then
    if (← ahead 2) == "\r\n" then forward 2 else forward 1
    return "\n"
  else if c.toNat == 0x2028 || c.toNat == 0x2029 then
    forward 1
    return c.toString
  else return ""

def scanToNextToken : LexM Unit := do
  let lx ← get
  if lx.index == 0 && lx.peekAt 0 == Char.ofNat 0xFEFF then forward 1
  let rec go : Nat → LexM Unit
    | 0 => pure ()
    | fuel + 1 => do
      skipWhile (· == ' ')
      if (← peek 0) == '#' then skipWhile (fun c => !isBreakZ c)
      if (← scanLineBreak) != "" then
        if (← get).flowLevel == 0 then modify fun lx => { lx with allowSimpleKey := true }
        go fuel
      else pure ()
  go (lx.src.size + 1)

section Scalars

def scanPlainSpaces (_indent : Int) : LexM (Option (List String)) := do
  let n ← countAhead 0 (· == ' ')
  let whitespaces ← ahead n
  forward n
  let c ← peek 0
  if isBreakChar c then
    let lineBreak ← scanLineBreak
    modify fun lx => { lx with allowSimpleKey := true }
    let separator : LexM Bool := do
      let p ← ahead 3
      return (p == "---" || p == "...") && isBlankZ (← peek 3)
    if ← separator then return none
    let rec breaks : Nat → List String → LexM (Option (List String))
      | 0, acc => return some acc
      | fuel + 1, acc => do
        let c ← peek 0
        if c == ' ' then
          forward 1
          breaks fuel acc
        else if isBreakChar c then
          let b ← scanLineBreak
          if ← separator then return none
          breaks fuel (acc ++ [b])
        else return some acc
    match ← breaks ((← get).src.size + 1) [] with
    | none => return none
    | some bs =>
      let lead := if lineBreak != "\n" then [lineBreak] else if bs.isEmpty then [" "] else []
      return some (lead ++ bs)
  else if !whitespaces.isEmpty then return some [whitespaces]
  else return some []

/-- Scans a plain scalar: words separated by blanks, possibly over several lines. -/
def scanPlain : LexM Token := do
  let startMark ← here
  let indent := (← get).indent + 1
  let rec go : Nat → List String → List String → Mark → LexM (List String × Mark)
    | 0, chunks, _, endMark => return (chunks, endMark)
    | fuel + 1, chunks, spaces, endMark => do
      if (← peek 0) == '#' then return (chunks, endMark)
      let flow := (← get).flowLevel != 0
      let stops := fun (c next : Char) =>
        isBlankZ c ||
          (c == ':' && (isBlankZ next || (flow && ",[]\x7b\x7d".toList.contains next))) ||
          (flow && ",?[]\x7b\x7d".toList.contains c)
      let lx ← get
      let rec len : Nat → Nat → Nat
        | 0, l => l
        | f + 1, l => if stops (lx.peekAt l) (lx.peekAt (l + 1)) then l else len f (l + 1)
      let length := len (lx.src.size + 1) 0
      if length == 0 then return (chunks, endMark)
      modify fun lx => { lx with allowSimpleKey := false }
      let word ← ahead length
      forward length
      let chunks := chunks ++ spaces ++ [word]
      let endMark ← here
      match ← scanPlainSpaces indent with
      | none => return (chunks, endMark)
      | some sp =>
        let lx ← get
        if sp.isEmpty || lx.peekAt 0 == '#' || (lx.flowLevel == 0 && (lx.column : Int) < indent) then
          return (chunks, endMark)
        else go fuel chunks sp endMark
  let (chunks, endMark) ← go ((← get).src.size + 1) [] [] startMark
  return ⟨.scalar (String.join chunks) true none, startMark, endMark⟩

/-- the character an escape letter of a double-quoted scalar stands for -/
def escapeReplacement (c : Char) : Option Char :=
  match c with
  | '0' => some '\x00'
  | 'a' => some (Char.ofNat 7)
  | 'b' => some (Char.ofNat 8)
  | 't' => some '\t'
  | '\t' => some '\t'
  | 'n' => some '\n'
  | 'v' => some (Char.ofNat 11)
  | 'f' => some (Char.ofNat 12)
  | 'r' => some '\r'
  | 'e' => some (Char.ofNat 27)
  | ' ' => some ' '
  | '"' => some '"'
  | '\\' => some '\\'
  | '/' => some '/'
  | 'N' => some (Char.ofNat 0x85)
  | '_' => some (Char.ofNat 0xA0)
  | 'L' => some (Char.ofNat 0x2028)
  | 'P' => some (Char.ofNat 0x2029)
  | _ => none

def escapeCodeLength (c : Char) : Option Nat :=
  match c with
  | 'x' => some 2
  | 'u' => some 4
  | 'U' => some 8
  | _ => none

def hexValue (s : String) : Nat :=
  s.toList.foldl (fun acc c =>
    16 * acc + (if c.isDigit then c.toNat - 48
      else if 'a' ≤ c && c ≤ 'f' then c.toNat - 87 else c.toNat - 55)) 0

/-- Line breaks inside a quoted scalar; a document separator there is an error. -/
def scanFlowScalarBreaks (startMark : Mark) : LexM (List String) := do
  let rec go : Nat → List String → LexM (List String)
    | 0, acc => return acc
    | fuel + 1, acc => do
      let p ← ahead 3
      if (p == "---" || p == "...") && isBlankZ (← peek 3) then
        lexFail (some "while scanning a quoted scalar") (some startMark)
          "found unexpected document separator" (← here)
      skipWhile (fun c => c == ' ' || c == '\t')
      if isBreakChar (← peek 0) then
        let b ← scanLineBreak
        go fuel (acc ++ [b])
      else return acc
  go ((← get).src.size + 1) []

/-- The characters of a quoted scalar up to the next blank, quote or break. -/
def scanFlowScalarNonSpaces (double : Bool) (startMark : Mark) : LexM (List String) := do
  let rec go : Nat → List String → LexM (List String)
    | 0, acc => return acc
    | fuel + 1, acc => do
      let n ← countAhead 0 (fun c => !(c == '\'' || c == '"' || c == '\\' || isBlankZ c))
      let acc ← if n > 0 then do
          let s ← ahead n
          forward n
          pure (acc ++ [s])
        else pure acc
      let c ← peek 0
      if !double && c == '\'' && (← peek 1) == '\'' then
        forward 2
        go fuel (acc ++ ["'"])
      else if (double && c == '\'') || (!double && (c == '"' || c == '\\')) then
        forward 1
        go fuel (acc ++ [c.toString])
      else if double && c == '\\' then
        forward 1
        let e ← peek 0
        match escapeReplacement e with
        | some r =>
          forward 1
          go fuel (acc ++ [r.toString])
        | none =>
          match escapeCodeLength e with
          | some len =>
            forward 1
            for k in List.range len do
              let d ← peek k
              if !isHexChar d then
                lexFail (some "while scanning a double-quoted scalar") (some startMark)
                  ("expected escape sequence of " ++ toString len ++
                    " hexadecimal numbers, but found " ++ echoChar d) (← here)
            let code := hexValue (← ahead len)
            if code > 0x10FFFF then throw (.conversion "chr() arg not in range(0x110000)")
            forward len
            go fuel (acc ++ [(Char.ofNat code).toString])
          | none =>
            if isBreakChar e then
              let _ ← scanLineBreak
              let bs ← scanFlowScalarBreaks startMark
              go fuel (acc ++ bs)
            else
              lexFail (some "while scanning a double-quoted scalar") (some startMark)
                ("found unknown escape character " ++ echoChar e) (← here)
      else return acc
  go ((← get).src.size + 1) []

def scanFlowScalarSpaces (startMark : Mark) : LexM (List String) := do
  let n ← countAhead 0 (fun c => c == ' ' || c == '\t')
  let whitespaces ← ahead n
  forward n
  let c ← peek 0
  if c == '\x00' then
    lexFail (some "while scanning a quoted scalar") (some startMark)
      "found unexpected end of stream" (← here)
  else if isBreakChar c then
    let lineBreak ← scanLineBreak
    let bs ← scanFlowScalarBreaks startMark
    let lead := if lineBreak != "\n" then [lineBreak] else if bs.isEmpty then [" "] else []
    return lead ++ bs
  else return [whitespaces]

def scanFlowScalar (double : Bool) : LexM Token := do
  let startMark ← here
  let quote ← peek 0
  forward 1
  let first ← scanFlowScalarNonSpaces double startMark
  let rec go : Nat → List String → LexM (List String)
    | 0, acc => return acc
    | fuel + 1, acc => do
      if (← peek 0) == quote then return acc
      let sp ← scanFlowScalarSpaces startMark
      let ns ← scanFlowScalarNonSpaces double startMark
      go fuel (acc ++ sp ++ ns)
  let chunks ← go ((← get).src.size + 1) first
  forward 1
  let endMark ← here
  return ⟨.scalar (String.join chunks) false (some (if double then '"' else '\'')), startMark, endMark⟩

/-- The chomping and indentation indicators of a block scalar header. -/
def scanBlockScalarIndicators (startMark : Mark) : LexM (Option Bool × Option Nat) := do
  let context := some "while scanning a block scalar"
  let c ← peek 0
  let (chomping, increment) ←
    if c == '+' || c == '-' then do
      forward 1
      let d ← peek 0
      if d.isDigit then
        if d == '0' then
          lexFail context (some startMark)
            "expected indentation indicator in the range 1-9, but found 0" (← here)
        forward 1
        pure (some (c == '+'), some (d.toNat - 48))
      else pure (some (c == '+'), none)
    else if c.isDigit then do
      if c == '0' then
        lexFail context (some startMark)
          "expected indentation indicator in the range 1-9, but found 0" (← here)
      forward 1
      let d ← peek 0
      if d == '+' || d == '-' then
        forward 1
        pure (some (d == '+'), some (c.toNat - 48))
      else pure (none, some (c.toNat - 48))
    else pure (none, none)
  let c ← peek 0
  if !(c == '\x00' || c == ' ' || isBreakChar c) then
    lexFail context (some startMark)
      ("expected chomping or indentation indicators, but found " ++ echoChar c) (← here)
  return (chomping, increment)

/-- The rest of a block scalar's header line: blanks and a comment. -/
def scanBlockScalarIgnoredLine (startMark : Mark) : LexM Unit := do
  skipWhile (· == ' ')
  if (← peek 0) == '#' then skipWhile (fun c => !isBreakZ c)
  let c ← peek 0
  if !isBreakZ c then
    lexFail (some "while scanning a block scalar") (some startMark)
      ("expected a comment or a line break, but found " ++ echoChar c) (← here)
  let _ ← scanLineBreak

/-- Leading empty lines of a block scalar with automatic indentation: the breaks, the deepest
indentation seen, and the end mark. -/
def scanBlockScalarIndentation : LexM (List String × Nat × Mark) := do
  let rec go : Nat → List String → Nat → Mark → LexM (List String × Nat × Mark)
    | 0, acc, m, e => return (acc, m, e)
    | fuel + 1, acc, m, e => do
      let c ← peek 0
      if c == ' ' then
        forward 1
        let col := (← get).column
        go fuel acc (max m col) e
      else if isBreakChar c then
        let b ← scanLineBreak
        go fuel (acc ++ [b]) m (← here)
      else return (acc, m, e)
  go ((← get).src.size + 1) [] 0 (← here)

/-- Empty lines inside a block scalar, up to the indentation `indent`. -/
def scanBlockScalarBreaks (indent : Nat) : LexM (List String × Mark) := do
  let skipIndent : LexM Unit := do
    let lx ← get
    let n := (lx.rest.takeWhile (· == ' ')).length
    forward (min n (indent - lx.column))
  let endMark ← here
  skipIndent
  let rec go : Nat → List String → Mark → LexM (List String × Mark)
    | 0, acc, e => return (acc, e)
    | fuel + 1, acc, e => do
      if isBreakChar (← peek 0) then
        let b ← scanLineBreak
        let e ← here
        skipIndent
        go fuel (acc ++ [b]) e
      else return (acc, e)
  go ((← get).src.size + 1) [] endMark

def scanBlockScalar (folded : Bool) : LexM Token := do
  let startMark ← here
  forward 1
  let (chomping, increment) ← scanBlockScalarIndicators startMark
  scanBlockScalarIgnoredLine startMark
  let minIndent := max ((← get).indent + 1) 1
  let (breaks, indent, endMark) ← match increment with
    | none => do
      let (bs, maxIndent, e) ← scanBlockScalarIndentation
      pure (bs, max minIndent.toNat maxIndent, e)
    | some inc => do
      let ind := minIndent.toNat + inc - 1
      let (bs, e) ← scanBlockScalarBreaks ind
      pure (bs, ind, e)
  let rec go : Nat → List String → List String → String → Mark →
      LexM (List String × List String × String × Mark)
    | 0, chunks, bs, lb, e => return (chunks, bs, lb, e)
    | fuel + 1, chunks, bs, lb, e => do
      let lx ← get
      if !(lx.column == indent && lx.peekAt 0 != '\x00') then return (chunks, bs, lb, e)
      let chunks := chunks ++ bs
      let leadingNonSpace := !(lx.peekAt 0 == ' ' || lx.peekAt 0 == '\t')
      let n ← countAhead 0 (fun c => !isBreakZ c)
      let line ← ahead n
      forward n
      let chunks := chunks ++ [line]
      let lineBreak ← scanLineBreak
      let (bs, e) ← scanBlockScalarBreaks indent
      let lx ← get
      if lx.column == indent && lx.peekAt 0 != '\x00' then
        let nextBlank := lx.peekAt 0 == ' ' || lx.peekAt 0 == '\t'
        let chunks :=
          if folded && lineBreak == "\n" && leadingNonSpace && !nextBlank then
            (if bs.isEmpty then chunks ++ [" "] else chunks)
          else chunks ++ [lineBreak]
        go fuel chunks bs lineBreak e
      else return (chunks, bs, lineBreak, e)
  let (chunks, bs, lineBreak, endMark) ←
    go ((← get).src.size + 1) [] breaks "" endMark
  let chunks := if chomping != some false then chunks ++ [lineBreak] else chunks
  let chunks := if chomping == some true then chunks ++ bs else chunks
  return ⟨.scalar (String.join chunks) false (some (if folded then '>' else '|')), startMark,
    endMark⟩

end Scalars

section Names

def scanAnchor (isAlias : Bool) : LexM Token := do
  let startMark ← here
  let context := some (if isAlias then "while scanning an alias" else "while scanning an anchor")
  forward 1
  let n ← countAhead 0 isWordChar
  if n == 0 then
    lexFail context (some startMark)
      ("expected alphabetic or numeric character, but found " ++ echoChar (← peek 0)) (← here)
  let name ← ahead n
  forward n
  let c ← peek 0
  if !(isBlankZ c || "?:,]\x7d%@`".toList.contains c) then
    lexFail context (some startMark)
      ("expected alphabetic or numeric character, but found " ++ echoChar c) (← here)
  let endMark ← here
  return ⟨if isAlias then .aliasRef name else .anchor name, startMark, endMark⟩

def decodeUtf8 (bytes : List Nat) : Except String String :=
  (Utf8.decode (bytes.map (·.toUInt8))).mapError (·.decoderMessage)

def scanUriEscapes (name : String) (startMark : Mark) : LexM String := do
  let m ← here
  let rec go : Nat → List Nat → LexM (List Nat)
    | 0, acc => return acc
    | fuel + 1, acc => do
      if (← peek 0) != '%' then return acc
      forward 1
      for k in [0, 1] do
        let d ← peek k
        if !isHexChar d then
          lexFail (some ("while scanning a " ++ name)) (some startMark)
            ("expected URI escape sequence of 2 hexadecimal numbers, but found " ++ echoChar d)
            (← here)
      let v := hexValue (← ahead 2)
      forward 2
      go fuel (acc ++ [v])
  let codes ← go ((← get).src.size + 1) []
  match decodeUtf8 codes with
  | .ok s => return s
  | .error e => lexFail (some ("while scanning a " ++ name)) (some startMark) e m

def isUriChar (c : Char) : Bool :=
  ('0' ≤ c && c ≤ '9') || ('A' ≤ c && c ≤ 'Z') || ('a' ≤ c && c ≤ 'z') ||
    "-;/?:@&=+$,_.!~*'()[]%".toList.contains c

def scanTagUri (name : String) (startMark : Mark) : LexM String := do
  let rec go : Nat → List String → LexM (List String)
    | 0, acc => return acc
    | fuel + 1, acc => do
      let n ← countAhead 0 (fun c => isUriChar c && c != '%')
      let acc ← if n > 0 then do
          let s ← ahead n
          forward n
          pure (acc ++ [s])
        else pure acc
      if (← peek 0) == '%' then
        let s ← scanUriEscapes name startMark
        go fuel (acc ++ [s])
      else return acc
  let chunks ← go ((← get).src.size + 1) []
  if chunks.isEmpty then
    lexFail (some ("while parsing a " ++ name)) (some startMark)
      ("expected URI, but found " ++ echoChar (← peek 0)) (← here)
  return String.join chunks

def scanTagHandle (name : String) (startMark : Mark) : LexM String := do
  let c ← peek 0
  if c != '!' then
    lexFail (some ("while scanning a " ++ name)) (some startMark)
      ("expected '!', but found " ++ echoChar c) (← here)
  let length ← if (← peek 1) != ' ' then do
      let n ← countAhead 1 isWordChar
      let d ← peek (n + 1)
      if d != '!' then
        forward (n + 1)
        lexFail (some ("while scanning a " ++ name)) (some startMark)
          ("expected '!', but found " ++ echoChar d) (← here)
      pure (n + 2)
    else pure 1
  let value ← ahead length
  forward length
  return value

def endsTag (c : Char) : Bool := c == '\x00' || c == ' ' || isBreakChar c

def scanTag : LexM Token := do
  let startMark ← here
  let c ← peek 1
  let (handle, suffix) ←
    if c == '<' then do
      forward 2
      let suffix ← scanTagUri "tag" startMark
      let d ← peek 0
      if d != '>' then
        lexFail (some "while parsing a tag") (some startMark)
          ("expected '>', but found " ++ echoChar d) (← here)
      forward 1
      pure (none, suffix)
    else if isBlankZ c then do
      forward 1
      pure (none, "!")
    else do
      let lx ← get
      let rec findBang : Nat → Nat → Bool
        | 0, _ => false
        | f + 1, l =>
          let ch := lx.peekAt l
          if endsTag ch then false else if ch == '!' then true else findBang f (l + 1)
      let useHandle := findBang (lx.src.size + 1) 1
      let handle ← if useHandle then scanTagHandle "tag" startMark else do
          forward 1
          pure "!"
      let suffix ← scanTagUri "tag" startMark
      pure (some handle, suffix)
  let d ← peek 0
  if !endsTag d then
    lexFail (some "while scanning a tag") (some startMark)
      ("expected ' ', but found " ++ echoChar d) (← here)
  let endMark ← here
  return ⟨.tag handle suffix, startMark, endMark⟩

end Names

section Directives

def scanDirectiveName (startMark : Mark) : LexM String := do
  let n ← countAhead 0 isWordChar
  if n == 0 then
    lexFail (some "while scanning a directive") (some startMark)
      ("expected alphabetic or numeric character, but found " ++ echoChar (← peek 0)) (← here)
  let name ← ahead n
  forward n
  let c ← peek 0
  if !(c == '\x00' || c == ' ' || isBreakChar c) then
    lexFail (some "while scanning a directive") (some startMark)
      ("expected alphabetic or numeric character, but found " ++ echoChar c) (← here)
  return name

def scanVersionNumber (startMark : Mark) : LexM Nat := do
  let c ← peek 0
  if !c.isDigit then
    lexFail (some "while scanning a directive") (some startMark)
      ("expected a digit, but found " ++ echoChar c) (← here)
  let n ← countAhead 0 Char.isDigit
  if n > Data.decimalLimit then throw (.conversion (Data.longDecimalMessage n))
  let s ← ahead n
  forward n
  return s.toNat?.getD 0

def scanVersion (startMark : Mark) : LexM DirectiveValue := do
  skipWhile (· == ' ')
  let major ← scanVersionNumber startMark
  let c ← peek 0
  if c != '.' then
    lexFail (some "while scanning a directive") (some startMark)
      ("expected a digit or '.', but found " ++ echoChar c) (← here)
  forward 1
  let minor ← scanVersionNumber startMark
  let c ← peek 0
  if !(c == '\x00' || c == ' ' || isBreakChar c) then
    lexFail (some "while scanning a directive") (some startMark)
      ("expected a digit or ' ', but found " ++ echoChar c) (← here)
  return .version major minor

def scanTagDirective (startMark : Mark) : LexM DirectiveValue := do
  skipWhile (· == ' ')
  let handle ← scanTagHandle "directive" startMark
  let c ← peek 0
  if c != ' ' then
    lexFail (some "while scanning a directive") (some startMark)
      ("expected ' ', but found " ++ echoChar c) (← here)
  skipWhile (· == ' ')
  let pfx ← scanTagUri "directive" startMark
  let c ← peek 0
  if !(c == '\x00' || c == ' ' || isBreakChar c) then
    lexFail (some "while scanning a directive") (some startMark)
      ("expected ' ', but found " ++ echoChar c) (← here)
  return .tag handle pfx

def scanDirective : LexM Token := do
  let startMark ← here
  forward 1
  let name ← scanDirectiveName startMark
  let (value, endMark) ←
    if name == "YAML" then do
      let v ← scanVersion startMark
      pure (v, ← here)
    else if name == "TAG" then do
      let v ← scanTagDirective startMark
      pure (v, ← here)
    else do
      let e ← here
      skipWhile (fun c => !isBreakZ c)
      pure (DirectiveValue.other, e)
  skipWhile (· == ' ')
  if (← peek 0) == '#' then skipWhile (fun c => !isBreakZ c)
  let c ← peek 0
  if !isBreakZ c then
    lexFail (some "while scanning a directive") (some startMark)
      ("expected a comment or a line break, but found " ++ echoChar c) (← here)
  let _ ← scanLineBreak
  return ⟨.directive name value, startMark, endMark⟩

end Directives

section Fetch

def indicator (k : TokenKind) (width : Nat) : LexM Unit := do
  let s ← here
  forward width
  addToken ⟨k, s, ← here⟩

def fetchStreamEnd : LexM Unit := do
  unwindIndent (-1)
  removeKey
  modify fun lx => { lx with allowSimpleKey := false, keys := [] }
  let m ← here
  addToken ⟨.streamEnd, m, m⟩
  modify fun lx => { lx with done := true }

def fetchDocumentIndicator (k : TokenKind) : LexM Unit := do
  unwindIndent (-1)
  removeKey
  modify fun lx => { lx with allowSimpleKey := false }
  indicator k 3

def fetchFlowCollectionStart (k : TokenKind) : LexM Unit := do
  saveKey
  modify fun lx => { lx with flowLevel := lx.flowLevel + 1, allowSimpleKey := true }
  indicator k 1

def fetchFlowCollectionEnd (k : TokenKind) : LexM Unit := do
  removeKey
  modify fun lx => { lx with flowLevel := lx.flowLevel - 1, allowSimpleKey := false }
  indicator k 1

def fetchFlowEntry : LexM Unit := do
  modify fun lx => { lx with allowSimpleKey := true }
  removeKey
  indicator .flowEntry 1

def fetchBlockEntry : LexM Unit := do
  let lx ← get
  if lx.flowLevel == 0 then
    if !lx.allowSimpleKey then
      lexFail none none "sequence entries are not allowed here" lx.mark
    if ← addIndent lx.column then
      addToken ⟨.blockSequenceStart, lx.mark, lx.mark⟩
  modify fun lx => { lx with allowSimpleKey := true }
  removeKey
  indicator .blockEntry 1

def fetchKey : LexM Unit := do
  let lx ← get
  if lx.flowLevel == 0 then
    if !lx.allowSimpleKey then
      lexFail none none "mapping keys are not allowed here" lx.mark
    if ← addIndent lx.column then
      addToken ⟨.blockMappingStart, lx.mark, lx.mark⟩
  modify fun lx => { lx with allowSimpleKey := lx.flowLevel == 0 }
  removeKey
  indicator .key 1

/-- `:` of a mapping value; a remembered simple key becomes a `key` token here. -/
def fetchValue : LexM Unit := do
  let lx ← get
  match lx.keys.lookup lx.flowLevel with
  | some key =>
    set { lx with keys := dropLevel lx.keys lx.flowLevel }
    insertToken (key.tokenNumber - lx.taken) ⟨.key, key.mark, key.mark⟩
    if lx.flowLevel == 0 then
      if ← addIndent key.column then
        insertToken (key.tokenNumber - lx.taken) ⟨.blockMappingStart, key.mark, key.mark⟩
    modify fun lx => { lx with allowSimpleKey := false }
  | none =>
    if lx.flowLevel == 0 then
      if !lx.allowSimpleKey then
        lexFail none none "mapping values are not allowed here" lx.mark
      if ← addIndent lx.column then
        addToken ⟨.blockMappingStart, lx.mark, lx.mark⟩
    modify fun lx => { lx with allowSimpleKey := lx.flowLevel == 0 }
    removeKey
  indicator .value 1

/-- whether the next characters are a document indicator `s` followed by a blank -/
def checkDocumentIndicator (s : String) : LexM Bool := do
  let lx ← get
  return lx.column == 0 && lx.ahead 3 == s && isBlankZ (lx.peekAt 3)

def checkPlain : LexM Bool := do
  let lx ← get
  let c := lx.peekAt 0
  let next := lx.peekAt 1
  return !(isBlankZ c || "-?:,[]\x7b\x7d#&*!|>'\"%@`".toList.contains c) ||
    (!isBlankZ next && (c == '-' || (lx.flowLevel == 0 && (c == '?' || c == ':'))))

def fetchMore : LexM Unit := do
  scanToNextToken
  staleKeys
  unwindIndent (← get).column
  let lx ← get
  let c := lx.peekAt 0
  let blankNext := isBlankZ (lx.peekAt 1)
  if c == '\x00' then fetchStreamEnd
  else if c == '%' && lx.column == 0 then
    unwindIndent (-1)
    removeKey
    modify fun lx => { lx with allowSimpleKey := false }
    addToken (← scanDirective)
  else if c == '-' && (← checkDocumentIndicator "---") then fetchDocumentIndicator .documentStart
  else if c == '.' && (← checkDocumentIndicator "...") then fetchDocumentIndicator .documentEnd
  else if c == '[' then fetchFlowCollectionStart .flowSequenceStart
  else if c == '{' then fetchFlowCollectionStart .flowMappingStart
  else if c == ']' then fetchFlowCollectionEnd .flowSequenceEnd
  else if c == '}' then fetchFlowCollectionEnd .flowMappingEnd
  else if c == ',' then fetchFlowEntry
  else if c == '-' && blankNext then fetchBlockEntry
  else if c == '?' && (lx.flowLevel != 0 || blankNext) then fetchKey
  else if c == ':' && (lx.flowLevel != 0 || blankNext) then fetchValue
  else if c == '*' then
    saveKey
    modify fun lx => { lx with allowSimpleKey := false }
    addToken (← scanAnchor true)
  else if c == '&' then
    saveKey
    modify fun lx => { lx with allowSimpleKey := false }
    addToken (← scanAnchor false)
  else if c == '!' then
    saveKey
    modify fun lx => { lx with allowSimpleKey := false }
    addToken (← scanTag)
  else if (c == '|' || c == '>') && lx.flowLevel == 0 then
    modify fun lx => { lx with allowSimpleKey := true }
    removeKey
    addToken (← scanBlockScalar (c == '>'))
  else if c == '\'' || c == '"' then
    saveKey
    modify fun lx => { lx with allowSimpleKey := false }
    addToken (← scanFlowScalar (c == '"'))
  else if ← checkPlain then
    saveKey
    modify fun lx => { lx with allowSimpleKey := false }
    addToken (← scanPlain)
  else
    lexFail (some "while scanning for the next token") none
      ("found character " ++ echoChar c ++ " that cannot start any token") lx.mark

end Fetch

section Pull

/-- whether the first queued token may still get a key token in front of it -/
def needMore : LexM Bool := do
  let lx ← get
  if lx.done then return false
  if lx.tokens.isEmpty then return true
  staleKeys
  let lx ← get
  return nextKeyNumber lx.keys == some lx.taken

def ensure : LexM Unit := do
  let rec go : Nat → LexM Unit
    | 0 => pure ()
    | fuel + 1 => do
      if ← needMore then
        fetchMore
        go fuel
  go ((← get).src.size + 2)

def peekToken : LexM Token := do
  ensure
  match (← get).tokens with
  | t :: _ => return t
  | [] => do
    let m ← here
    return ⟨.streamEnd, m, m⟩

def checkToken (cs : List TokenClass) : LexM Bool := do
  ensure
  match (← get).tokens with
  | t :: _ => return cs.any t.kind.isA
  | [] => return false

def getToken : LexM Token := do
  ensure
  let lx ← get
  match lx.tokens with
  | t :: rest =>
    set { lx with tokens := rest, taken := lx.taken + 1 }
    return t
  | [] => return ⟨.streamEnd, lx.mark, lx.mark⟩

end Pull

end Yaml

end ClusterDeploy
