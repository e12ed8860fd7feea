import ClusterDeploy.Pattern.Basic

/-!
# Reading pattern text

`Pattern.compile` reads the text of a pattern into nodes, or says what is wrong with it and
where, in the words and at the positions of the common regular expression library.

The text is read in tokens: a byte, or a backslash and the byte after it.  A position is that of
a byte in the text, and a fault names the position where its reader stood, less what the fault
says it had already read.  So `a**` is a "multiple repeat" at position 2, and `(a` is "missing ),
unterminated subpattern" at position 0, where the group opened.

* A quantifier `?`, `*`, `+` or `{m,n}` repeats the piece before it; `?` after it makes it lazy
  and `+` possessive.  A `{` that does not open a count `{m}`, `{m,}`, `{,n}` or `{m,n}` stands
  for itself.
* A group is `(...)`, `(?P<name>...)`, `(?:...)`, `(?>...)`, `(?=...)`, `(?!...)`, `(?<=...)`,
  `(?<!...)`, `(?(g)yes|no)`, or `(?flags:...)`, flags being `i`, `m`, `s`, `x`, `a`, `L`
  turned on and, after a `-`, off.  Flags alone, `(?flags)`, are for the whole pattern and
  may only open it.  `(?#...)` is a comment, and `(?P=name)` and `\1` to `\99` refer back.
* A look-behind must match a fixed width.
-/

namespace ClusterDeploy

namespace Pattern

/-- A token of pattern text: a byte, or a backslash and the byte after it. -/
inductive Token where
  | plain (b : UInt8)
  | escaped (b : UInt8)
deriving DecidableEq, Repr, Inhabited

namespace Token

def width : Token → Nat
  | .plain _ => 1
  | .escaped _ => 2

def bytes : Token → List UInt8
  | .plain b => [b]
  | .escaped b => [92, b]

def is (t : Token) (c : Char) : Bool := t == .plain c.toNat.toUInt8

def text (t : Token) : String := asciiText t.bytes

end Token

def byteOf (c : Char) : UInt8 := c.toNat.toUInt8

def isDigit (b : UInt8) : Bool := 48 ≤ b && b ≤ 57

def isOctal (b : UInt8) : Bool := 48 ≤ b && b ≤ 55

def isHex (b : UInt8) : Bool := isDigit b || (65 ≤ b && b ≤ 70) || (97 ≤ b && b ≤ 102)

def isAsciiLetter (b : UInt8) : Bool := (65 ≤ b && b ≤ 90) || (97 ≤ b && b ≤ 122)

def isLetter (b : UInt8) : Bool :=
  isAsciiLetter b || b == 0xAA || b == 0xB5 || b == 0xBA || (0xC0 ≤ b && b != 0xD7 && b != 0xF7)

/-- Whether bytes, read as Latin-1 characters, are a name: a letter or underscore, then
letters, underscores, digits and middle dots. -/
def isName : List UInt8 → Bool
  | [] => false
  | b :: rest => (isLetter b || b == 95) &&
    rest.all fun c => isLetter c || c == 95 || isDigit c || c == 0xB7

def digitsValue (base : Nat) (ds : List UInt8) : Nat :=
  ds.foldl (fun acc d =>
    let v := if isDigit d then d.toNat - 48 else (d.toNat ||| 32) - 87
    acc * base + v) 0

/-- Digits with single underscores between them, as the digits alone. -/
def underscoredDigits : List UInt8 → Option (List UInt8)
  | [] => none
  | d :: rest =>
    if !isDigit d then none
    else match rest with
      | [] => some [d]
      | 95 :: more => (underscoredDigits more).map (d :: ·)
      | more => (underscoredDigits more).map (d :: ·)

/-- The integer that Latin-1 text stands for in decimal: blanks around (no-break spaces and
next-line characters count), an optional sign, and digits with single underscores between
them, at most 4300 of them. -/
def decimalValue? (bs : List UInt8) : Option Int :=
  let cs := bs.map fun b => if b == 0x85 || b == 0xA0 then 32 else b
  if cs.any (· ≥ 127) then none
  else
    let blank := fun (b : UInt8) => b == 32 || (9 ≤ b && b ≤ 13)
    let t := ((cs.dropWhile blank).reverse.dropWhile blank).reverse
    let (neg, body) := match t with
      | 45 :: r => (true, r)
      | 43 :: r => (false, r)
      | r => (false, r)
    match underscoredDigits body with
    | some ds =>
      if ds.length > 4300 then none
      else
        let n : Int := digitsValue 10 ds
        some (if neg then -n else n)
    | none => none

def groupLimit : Nat := 1073741823

/-- Where parsing stands: the text, the token ahead and where the one after it starts, and what
is known so far of the groups. -/
structure Reader where
  text : Array UInt8
  /-- where the token after the one ahead starts -/
  index : Nat
  ahead : Option Token
  /-- the widths of the groups by number, `none` while a group is open; number 0 is the whole
  pattern, which is never closed -/
  widths : Array (Option (Nat × Nat))
  names : List (List UInt8 × Nat)
  /-- the number of groups when the outermost look-behind being read opened -/
  behindFrom : Option Nat
  /-- the groups conditions name by number, each with the position it was first named at -/
  conditioned : List (Nat × Int)
  /-- the flags of the whole pattern -/
  flags : List Char
deriving Inhabited

abbrev Reading := StateT Reader (Except Fault)

section Reading

/-- Moves to the next token, failing on a backslash that ends the text. -/
def step : Reading Unit := do
  let r ← get
  match r.text[r.index]? with
  | none => set { r with ahead := none }
  | some 92 =>
    match r.text[r.index + 1]? with
    | none => throw (Fault.at r.text.toList "bad escape (end of pattern)" (r.text.size - 1 : Int))
    | some b => set { r with index := r.index + 2, ahead := some (.escaped b) }
  | some b => set { r with index := r.index + 1, ahead := some (.plain b) }

def peek : Reading (Option Token) := do
  return (← get).ahead

def tell : Reading Nat := do
  let r ← get
  return r.index - (r.ahead.map Token.width).getD 0

def take : Reading (Option Token) := do
  let t := (← get).ahead
  step
  return t

def accept (c : Char) : Reading Bool := do
  if ((← get).ahead.map (·.is c)).getD false then
    step
    return true
  else return false

def failAt {α : Type} (message : String) (position : Int) : Reading α := do
  throw (Fault.at (← get).text.toList message position)

def fail {α : Type} (message : String) (back : Nat) : Reading α := do
  let p ← tell
  failAt message ((p : Int) - back)

def takeWhile (ok : UInt8 → Bool) : Nat → Reading (List UInt8)
  | 0 => return []
  | n + 1 => do
    match ← peek with
    | some (.plain b) =>
      if ok b then
        step
        return b :: (← takeWhile ok n)
      else return []
    | _ => return []

/-- The bytes of the tokens before `terminator`, which is taken too; `what` names the bytes in
the faults for none and for a text that ends first. -/
def takeUntil (terminator : Char) (what : String) : Nat → List UInt8 → Reading (List UInt8)
  | 0, acc => return acc.reverse
  | fuel + 1, acc => do
    match ← take with
    | none =>
      if acc.isEmpty then fail ("missing " ++ what) 0
      else fail ("missing " ++ terminator.toString ++ ", unterminated name") acc.length
    | some t =>
      if t.is terminator then
        if acc.isEmpty then fail ("missing " ++ what) 1 else return acc.reverse
      else takeUntil terminator what fuel (t.bytes.reverse ++ acc)

def nameUntil (terminator : Char) : Reading (List UInt8) := do
  takeUntil terminator "group name" ((← get).text.size + 1) []

/-- Fails unless bytes are a name; `back` is how far before the name's end the reader stands. -/
def checkName (name : List UInt8) (back : Nat) : Reading Unit := do
  unless isName name do
    fail ("bad character in group name " ++ quoted name) (name.length + back)

/-- the number of groups opened so far, the whole pattern counted -/
def groupCount : Reading Nat := do
  return (← get).widths.size

def isClosed (g : Nat) : Reading Bool := do
  match (← get).widths[g]? with
  | some (some _) => return true
  | _ => return false

def widthOfGroup (g : Nat) : Reading (Nat × Nat) := do
  match (← get).widths[g]? with
  | some (some w) => return w
  | _ => return (0, 0)

/-- Inside a look-behind, a group referred to must be closed and opened before the
look-behind. -/
def checkBehind (g : Nat) : Reading Unit := do
  match (← get).behindFrom with
  | none => return
  | some first =>
    unless (← isClosed g) do fail "cannot refer to an open group" 0
    if g ≥ first then fail "cannot refer to group defined in the same lookbehind subpattern" 0

/-- Opens a group, with a name if it has one, and gives its number. -/
def openGroup (name : Option (List UInt8)) : Reading Nat := do
  let r ← get
  let g := r.widths.size
  match name with
  | some n =>
    match r.names.lookup n with
    | some earlier =>
      fail ("redefinition of group name " ++ quoted n ++ " as group " ++ toString g ++
        "; was group " ++ toString earlier) (n.length + 1)
    | none => set { r with widths := r.widths.push none, names := r.names ++ [(n, g)] }
  | none => set { r with widths := r.widths.push none }
  return g

def closeGroup (g : Nat) (body : List Node) : Reading Unit :=
  modify fun r => { r with widths := r.widths.set! g (some (seqWidth body)) }

/-- Skips a comment in a pattern with blanks and comments: up to a line feed or the end. -/
def skipComment : Nat → Reading Unit
  | 0 => return
  | fuel + 1 => do
    match ← take with
    | none => return
    | some t => if t.is '\n' then return else skipComment fuel

/-- Skips the body of a `(?#...)` comment that opened at `start`, its `)` included. -/
def skipNote (start : Nat) : Nat → Reading Unit
  | 0 => return
  | fuel + 1 => do
    if (← peek).isNone then failAt "missing ), unterminated comment" start
    match ← take with
    | some t => if t.is ')' then return else skipNote start fuel
    | none => return

end Reading

/-- the node of a class escape `\d`, `\D`, `\s`, `\S`, `\w` or `\W` -/
def categoryOf? (c : UInt8) : Option Member :=
  if c == byteOf 'd' then some (.category .digit false)
  else if c == byteOf 'D' then some (.category .digit true)
  else if c == byteOf 's' then some (.category .space false)
  else if c == byteOf 'S' then some (.category .space true)
  else if c == byteOf 'w' then some (.category .word false)
  else if c == byteOf 'W' then some (.category .word true)
  else none

/-- the byte a control escape `\a`, `\f`, `\n`, `\r`, `\t`, `\v` or `\\` stands for -/
def controlOf? (c : UInt8) : Option UInt8 :=
  if c == byteOf 'a' then some 7
  else if c == byteOf 'f' then some 12
  else if c == byteOf 'n' then some 10
  else if c == byteOf 'r' then some 13
  else if c == byteOf 't' then some 9
  else if c == byteOf 'v' then some 11
  else if c == 92 then some 92
  else none

def hexEscape : Reading UInt8 := do
  let ds ← takeWhile isHex 2
  if ds.length != 2 then
    fail ("incomplete escape \\x" ++ asciiText ds) (2 + ds.length)
  return (digitsValue 16 ds).toUInt8

/-- Reads an escape inside a set, the backslash and `c` taken: a byte or a class. -/
def setEscape (c : UInt8) : Reading Member := do
  if c == byteOf 'b' then return .byte 8
  match controlOf? c, categoryOf? c with
  | some b, _ => return .byte b
  | none, some m => return m
  | none, none =>
    if c == byteOf 'x' then return .byte (← hexEscape)
    else if isOctal c then
      let ds := c :: (← takeWhile isOctal 2)
      let v := digitsValue 8 ds
      if v > 255 then
        fail ("octal escape value \\" ++ asciiText ds ++ " outside of range 0-0o377")
          (1 + ds.length)
      return .byte v.toUInt8
    else if isDigit c || isAsciiLetter c then
      fail ("bad escape \\" ++ asciiText [c]) 2
    else return .byte c

/-- Reads the members of a set after its `[` at `here` and an optional `^`; `fuel` bounds the
tokens. -/
def setMembers (here : Nat) : Nat → Array Member → Reading (List Member)
  | 0, acc => return acc.toList
  | fuel + 1, acc => do
    let some this ← take | failAt "unterminated character set" here
    if this.is ']' && !acc.isEmpty then return acc.toList
    let first ← match this with
      | .escaped c => setEscape c
      | .plain c => pure (Member.byte c)
    if (← accept '-') then
      let some that ← take | failAt "unterminated character set" here
      if that.is ']' then return (acc.push first |>.push (.byte 45)).toList
      let last ← match that with
        | .escaped c => setEscape c
        | .plain c => pure (Member.byte c)
      let bad := "bad character range " ++ this.text ++ "-" ++ that.text
      match first, last with
      | .byte lo, .byte hi =>
        if hi < lo then fail bad (this.width + 1 + that.width)
        setMembers here fuel (acc.push (.range lo hi))
      | _, _ => fail bad (this.width + 1 + that.width)
    else setMembers here fuel (acc.push first)

def bracket : Reading Node := do
  let here := (← tell) - 1
  let negated ← accept '^'
  let members ← setMembers here ((← get).text.size + 1) #[]
  return .set negated members

def flagLetters : List Char := ['i', 'L', 'm', 's', 'x', 'a', 't', 'u']

def flagOf? : Token → Option Char
  | .plain b => flagLetters.find? (byteOf · == b)
  | .escaped _ => none

def Token.isLetter : Token → Bool
  | .plain b => Pattern.isLetter b
  | .escaped _ => false

/-- the flags that choose how classes of bytes are read; at most one of them may be on -/
def typeFlags : List Char := ['a', 'L', 'u']

/-- Reads the flags turned on, the first flag `f` taken, up to `)`, `-` or `:`. -/
def flagsOn : Nat → Char → List Char → Reading (List Char × Token)
  | 0, _, acc => return (acc, .plain 0)
  | fuel + 1, f, acc => do
    if f == 'u' then fail "bad inline flags: cannot use 'u' flag with a bytes pattern" 0
    let acc := if acc.contains f then acc else acc ++ [f]
    if typeFlags.contains f && acc.any (fun g => typeFlags.contains g && g != f) then
      fail "bad inline flags: flags 'a', 'u' and 'L' are incompatible" 0
    let some t ← take | fail "missing -, : or )" 0
    if t.is ')' || t.is '-' || t.is ':' then return (acc, t)
    match flagOf? t with
    | some g => flagsOn fuel g acc
    | none => fail (if t.isLetter then "unknown flag" else "missing -, : or )") t.width

/-- Reads the flags turned off, the first flag `f` taken, up to `:`. -/
def flagsOff : Nat → Char → List Char → Reading (List Char)
  | 0, _, acc => return acc
  | fuel + 1, f, acc => do
    if typeFlags.contains f then
      fail "bad inline flags: cannot turn off flags 'a', 'u' and 'L'" 0
    let acc := if acc.contains f then acc else acc ++ [f]
    let some t ← take | fail "missing :" 0
    if t.is ':' then return acc
    match flagOf? t with
    | some g => flagsOff fuel g acc
    | none => fail (if t.isLetter then "unknown flag" else "missing :") t.width

/-- Reads inline flags, the first token `t` taken: `none` for flags of the whole pattern, which
are then on, or the flags a group turns on and off. -/
def inlineFlags (t : Token) : Reading (Option (List Char × List Char)) := do
  let fuel := (← get).text.size + 1
  let (on, t) ← match flagOf? t with
    | some f => flagsOn fuel f []
    | none => pure ([], t)
  if t.is ')' then
    modify fun r => { r with flags := r.flags ++ on }
    return none
  if on.contains 't' then fail "bad inline flags: cannot turn on global flag" 1
  let off ← if t.is '-' then do
      let some u ← take | fail "missing flag" 0
      match flagOf? u with
      | some f => flagsOff fuel f []
      | none => fail (if u.isLetter then "unknown flag" else "missing flag") u.width
    else pure []
  if off.contains 't' then fail "bad inline flags: cannot turn off global flag" 1
  if on.any off.contains then fail "bad inline flags: flag turned on and off" 1
  return some (on, off)

def escape (c : UInt8) : Reading Node := do
  let anchor? : Option Anchor :=
    if c == byteOf 'A' then some .textStart
    else if c == byteOf 'Z' then some .textEnd
    else if c == byteOf 'b' then some .boundary
    else if c == byteOf 'B' then some .inside
    else none
  match anchor?, categoryOf? c, controlOf? c with
  | some a, _, _ => return .anchor a
  | none, some m, _ => return .set false [m]
  | none, none, some b => return .byte b
  | none, none, none =>
    if c == byteOf 'x' then return .byte (← hexEscape)
    else if c == byteOf '0' then
      return .byte (digitsValue 8 (c :: (← takeWhile isOctal 2))).toUInt8
    else if isDigit c then
      let ds ← match ← peek with
        | some (.plain d) =>
          if isDigit d then do step; pure [c, d] else pure [c]
        | _ => pure [c]
      let third ← match ds, ← peek with
        | [a, b], some (.plain e) =>
          if isOctal a && isOctal b && isOctal e then do step; pure (some e) else pure none
        | _, _ => pure none
      match third with
      | some e =>
        let all := ds ++ [e]
        let v := digitsValue 8 all
        if v > 255 then
          fail ("octal escape value \\" ++ asciiText all ++ " outside of range 0-0o377") 4
        return .byte v.toUInt8
      | none =>
        let g := digitsValue 10 ds
        if g < (← groupCount) then
          unless (← isClosed g) do fail "cannot refer to an open group" (1 + ds.length)
          checkBehind g
          return .backref g (← widthOfGroup g)
        fail ("invalid group reference " ++ toString g) ds.length
    else if isAsciiLetter c then fail ("bad escape \\" ++ asciiText [c]) 2
    else return .byte c

/-- Reads a quantifier, its first character `c` taken, and applies it to the last of the nodes
read so far; a `{` that opens no count stands for itself. -/
def quantify (c : Char) (nodes : Array Node) : Reading (Array Node) := do
  let here ← tell
  let fuel := (← get).text.size + 1
  let bounds ← if c == '?' then pure (some (0, some 1))
    else if c == '*' then pure (some (0, none))
    else if c == '+' then pure (some (1, none))
    else if ((← peek).map (·.is '}')).getD false then pure none
    else do
      let lo ← takeWhile isDigit fuel
      let hi ← if (← accept ',') then takeWhile isDigit fuel else pure lo
      if !(← accept '}') then
        modify fun r => { r with index := here }
        step
        pure none
      else
      let least := if lo.isEmpty then 0 else digitsValue 10 lo
      if least ≥ noBound then throw .tooLarge
      let most ← if hi.isEmpty then pure none else do
        let m := digitsValue 10 hi
        if m ≥ noBound then throw Fault.tooLarge
        if m < least then fail "min repeat greater than max repeat" ((← tell) - here)
        pure (some m)
      pure (some (least, most))
  match bounds with
  | none => return nodes.push (.byte (byteOf '{'))
  | some (least, most) =>
    let back := (← tell) - here + 1
    let body ← match nodes.back? with
      | none | some (.anchor _) => fail "nothing to repeat" back
      | some (.repeated _ _ _ _) => fail "multiple repeat" back
      | some (.group none [] [] b) => pure b
      | some n => pure [n]
    let greed ← do
      if (← accept '?') then pure Greed.lazy
      else if (← accept '+') then pure Greed.possessive
      else pure Greed.greedy
    return nodes.pop.push (.repeated least most greed body)

/-- Reads the number or name of the group a condition `(?(...)` asks about. -/
def conditionGroup : Reading Nat := do
  let name ← nameUntil ')'
  if isName name then
    match (← get).names.lookup name with
    | some g => return g
    | none => fail ("unknown group name " ++ quoted name) (name.length + 1)
  else
    match decimalValue? name with
    | some (.ofNat g) =>
      if g == 0 then fail "bad group number" (name.length + 1)
      if g ≥ groupLimit then fail ("invalid group reference " ++ toString g) (name.length + 1)
      let place : Int := ((← tell) : Int) - name.length - 1
      modify fun r => if r.conditioned.any (·.1 == g) then r
        else { r with conditioned := r.conditioned ++ [(g, place)] }
      return g
    | _ => fail ("bad character in group name " ++ quoted name) (name.length + 1)

mutual

/-- Reads alternatives separated by `|` up to a `)` or the end of the text. -/
def alternation : Nat → Bool → Nat → Reading (List Node)
  | 0, _, _ => return []
  | fuel + 1, verbose, nested => do
    match ← alternatives fuel verbose nested [] with
    | [one] => return one
    | alts => return [.branch alts]

def alternatives : Nat → Bool → Nat → List (List Node) → Reading (List (List Node))
  | 0, _, _, acc => return acc.reverse
  | fuel + 1, verbose, nested, acc => do
    let item ← sequence fuel verbose (nested + 1) (nested == 0 && acc.isEmpty) #[]
    if (← accept '|') then
      let whole := (← get).flags.contains 'x'
      let verbose := if nested == 0 then whole else verbose
      alternatives fuel verbose nested (item :: acc)
    else return (item :: acc).reverse

/-- Reads pieces up to a `|`, a `)` or the end of the text; `first` when they open the pattern. -/
def sequence : Nat → Bool → Nat → Bool → Array Node → Reading (List Node)
  | 0, _, _, _, acc => return acc.toList
  | fuel + 1, verbose, nested, first, acc => do
    let some t ← peek | return acc.toList
    if t.is '|' || t.is ')' then return acc.toList
    step
    match t with
    | .escaped c => sequence fuel verbose nested first (acc.push (← escape c))
    | .plain c =>
      if verbose && (c == 32 || (9 ≤ c && c ≤ 13)) then
        sequence fuel verbose nested first acc
      else if verbose && c == byteOf '#' then
        skipComment ((← get).text.size + 1)
        sequence fuel verbose nested first acc
      else if c == byteOf '[' then sequence fuel verbose nested first (acc.push (← bracket))
      else if c == byteOf '*' || c == byteOf '+' || c == byteOf '?' || c == byteOf '{' then
        sequence fuel verbose nested first (← quantify (Char.ofNat c.toNat) acc)
      else if c == byteOf '.' then sequence fuel verbose nested first (acc.push .any)
      else if c == byteOf '^' then sequence fuel verbose nested first (acc.push (.anchor .lineStart))
      else if c == byteOf '$' then sequence fuel verbose nested first (acc.push (.anchor .lineEnd))
      else if c == byteOf '(' then
        let (acc, verbose) ← group fuel verbose nested first acc
        sequence fuel verbose nested first acc
      else sequence fuel verbose nested first (acc.push (.byte c))

/-- Reads a group, its `(` taken, onto the nodes read so far; also gives whether blanks and
comments are skipped from here on, which flags of the whole pattern may change. -/
def group : Nat → Bool → Nat → Bool → Array Node → Reading (Array Node × Bool)
  | 0, verbose, _, _, acc => return (acc, verbose)
  | fuel + 1, verbose, nested, first, acc => do
    let start := (← tell) - 1
    let unterminated : Reading Unit := do
      unless (← accept ')') do failAt "missing ), unterminated subpattern" start
    if !(← accept '?') then
      let g ← openGroup none
      let body ← alternation fuel verbose (nested + 1)
      unterminated
      closeGroup g body
      return (acc.push (.group (some g) [] [] body), verbose)
    let some t ← take | fail "unexpected end of pattern" 0
    if t.is 'P' then
      if (← accept '<') then
        let name ← nameUntil '>'
        checkName name 1
        let g ← openGroup (some name)
        let body ← alternation fuel verbose (nested + 1)
        unterminated
        closeGroup g body
        return (acc.push (.group (some g) [] [] body), verbose)
      else if (← accept '=') then
        let name ← nameUntil ')'
        checkName name 1
        let some g := (← get).names.lookup name
          | fail ("unknown group name " ++ quoted name) (name.length + 1)
        unless (← isClosed g) do fail "cannot refer to an open group" (name.length + 1)
        checkBehind g
        return (acc.push (.backref g (← widthOfGroup g)), verbose)
      else
        let some u ← take | fail "unexpected end of pattern" 0
        fail ("unknown extension ?P" ++ u.text) (u.width + 2)
    else if t.is ':' || t.is '>' then
      let body ← alternation fuel verbose (nested + 1)
      unterminated
      return (acc.push (if t.is '>' then .atomic body else .group none [] [] body), verbose)
    else if t.is '#' then
      skipNote start ((← get).text.size + 1)
      return (acc, verbose)
    else if t.is '=' || t.is '!' || t.is '<' then
      let (behind, negated) ← if t.is '<' then do
          let some u ← take | fail "unexpected end of pattern" 0
          unless u.is '=' || u.is '!' do fail ("unknown extension ?<" ++ u.text) (u.width + 2)
          pure (true, u.is '!')
        else pure (false, t.is '!')
      let outer := (← get).behindFrom
      if behind && outer.isNone then
        let n ← groupCount
        modify fun r => { r with behindFrom := some n }
      let body ← alternation fuel verbose (nested + 1)
      if behind && outer.isNone then modify fun r => { r with behindFrom := none }
      unterminated
      return (acc.push (.look behind negated body), verbose)
    else if t.is '(' then
      let g ← conditionGroup
      checkBehind g
      let yes ← sequence fuel verbose (nested + 1) false #[]
      let no ← if (← accept '|') then do
          let no ← sequence fuel verbose (nested + 1) false #[]
          if ((← peek).map (·.is '|')).getD false then
            fail "conditional backref with more than two branches" 0
          pure (some no)
        else pure none
      unterminated
      return (acc.push (.ifGroup g yes no), verbose)
    else if (flagOf? t).isSome || t.is '-' then
      match ← inlineFlags t with
      | none =>
        if !first || !acc.isEmpty then
          failAt "global flags not at the start of the expression" start
        return (acc, (← get).flags.contains 'x')
      | some (on, off) =>
        let inner := (verbose || on.contains 'x') && !off.contains 'x'
        let body ← alternation fuel inner (nested + 1)
        unterminated
        return (acc.push (.group none on off body), verbose)
    else fail ("unknown extension ?" ++ t.text) (t.width + 1)

end

/-- The name of a repetition in the message that refuses it under the template flag. -/
def Greed.operator : Greed → String
  | .greedy => "MAX_REPEAT"
  | .lazy => "MIN_REPEAT"
  | .possessive => "POSSESSIVE_REPEAT"

def behindLimit : Nat := 4294967295

mutual

/-- The first fault of parsed nodes, in the order they are written: a repetition under the
template flag, or a look-behind whose width is too great or not fixed. -/
def seqFault (template : Bool) : List Node → Option Fault
  | [] => none
  | n :: rest => (nodeFault template n).orElse fun _ => seqFault template rest

def nodeFault (template : Bool) : Node → Option Fault
  | .repeated _ _ g body =>
    if template then some (.malformed ("internal: unsupported template operator " ++ g.operator))
    else seqFault template body
  | .look behind _ body =>
    let (lo, hi) := seqWidth body
    if behind && lo > behindLimit then some (.malformed "looks too much behind")
    else if behind && lo != hi then some (.malformed "look-behind requires fixed-width pattern")
    else seqFault template body
  | .group _ _ _ body | .atomic body => seqFault template body
  | .branch alts => alternativesFault template alts
  | .ifGroup _ yes no => (seqFault template yes).orElse fun _ =>
    match no with
    | some n => seqFault template n
    | none => none
  | _ => none

def alternativesFault (template : Bool) : List (List Node) → Option Fault
  | [] => none
  | a :: rest => (seqFault template a).orElse fun _ => alternativesFault template rest

end

/-- A parsed pattern: its nodes, the number of groups with the whole pattern counted, the
flags it was compiled under, and the length of its text. -/
structure Compiled where
  nodes : List Node
  groups : Nat
  modes : Modes
  length : Nat
deriving Inhabited

def readAll : Reading (List Node) := do
  step
  let r ← get
  let body ← alternation (4 * r.text.size + 8) (r.flags.contains 'x') 0
  if (← peek).isSome then fail "unbalanced parenthesis" 0
  let r ← get
  for (g, place) in r.conditioned do
    if g ≥ r.widths.size then failAt ("invalid group reference " ++ toString g) place
  return body

/-- Parses a pattern under flags given as letters (`i`, `m`, `s`, `x`), and checks it as it
would be compiled. -/
def compile (text : List UInt8) (flags : List Char) : Except Fault Compiled := do
  let start : Reader := ⟨text.toArray, 0, none, #[none], [], none, [], flags⟩
  let (nodes, r) ← readAll.run start
  match seqFault (r.flags.contains 't') nodes with
  | some f => throw f
  | none =>
    let on := r.flags
    return ⟨nodes, r.widths.size,
      ⟨on.contains 'i', on.contains 'm', on.contains 's', on.contains 'x'⟩, text.length⟩

end Pattern

end ClusterDeploy
