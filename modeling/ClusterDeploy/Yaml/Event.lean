import ClusterDeploy.Yaml.Token.Lexer

/-!
# YAML events

The parser turns tokens into a stream of events: the stream and each document start and end,
scalars, aliases, and the starts and ends of sequences and mappings.  Tags are resolved against
the document's tag handles here (`!!` stands for `tag:yaml.org,2002:`), so an event carries a
full tag or none.  A scalar event says whether its tag may be left to the resolver: `plainImplicit`
for an untagged plain scalar, `quotedImplicit` for an untagged quoted one.

The parser is a state machine: `Phase` says what the grammar expects next, and the parser keeps
a stack of phases to return to after a nested node, and the marks where the open collections
start (for error messages).  `nextEvent` produces one event and moves to the next phase; the
tokens it needs are pulled from the lexer just in time, so errors are found in reading order.
-/

namespace ClusterDeploy

namespace Yaml

/-- What an event is. -/
inductive EventKind where
  | streamStart
  | streamEnd
  | documentStart (explicit : Bool)
  | documentEnd (explicit : Bool)
  | aliasRef (name : String)
  | scalar (anchor tag : Option String) (plainImplicit quotedImplicit : Bool) (value : String)
      (style : Option Char)
  | sequenceStart (anchor tag : Option String) (implicit flow : Bool)
  | sequenceEnd
  | mappingStart (anchor tag : Option String) (implicit flow : Bool)
  | mappingEnd
deriving DecidableEq, Repr, Inhabited

/-- An event with the marks where it starts and ends. -/
structure Event where
  kind : EventKind
  start : Mark
  stop : Mark
deriving DecidableEq, Repr, Inhabited

def EventKind.anchor? : EventKind → Option String
  | .scalar a _ _ _ _ _ => a
  | .sequenceStart a _ _ _ => a
  | .mappingStart a _ _ _ => a
  | _ => none

/-- What the grammar expects next. -/
inductive Phase where
  | streamStart
  | implicitDocumentStart
  | documentStart
  | documentEnd
  | documentContent
  | blockNode
  | blockSequenceFirstEntry
  | blockSequenceEntry
  | indentlessSequenceEntry
  | blockMappingFirstKey
  | blockMappingKey
  | blockMappingValue
  | flowSequenceFirstEntry
  | flowSequenceEntry
  | flowSequenceEntryMappingKey
  | flowSequenceEntryMappingValue
  | flowSequenceEntryMappingEnd
  | flowMappingFirstKey
  | flowMappingKey
  | flowMappingValue
  | flowMappingEmptyValue
  | finished
deriving DecidableEq, Repr, Inhabited

/-- The parser's state: the lexer, the phase, the phases to return to, the marks of the open
collections, and the tag handles of the current document. -/
structure Parser where
  lexer : Lexer
  phase : Phase
  stack : List Phase
  marks : List Mark
  handles : List (String × String)
deriving Repr, Inhabited

abbrev ParseM := StateT Parser (Except YamlError)

def defaultHandles : List (String × String) := [("!", "!"), ("!!", "tag:yaml.org,2002:")]

namespace Parser

def start (src : Array Char) : Parser := ⟨Lexer.start src, .streamStart, [], [], []⟩

end Parser

section Steps

def lex {α : Type} (m : LexM α) : ParseM α := fun p => do
  let (a, lx) ← m p.lexer
  pure (a, { p with lexer := lx })

def sees (cs : List TokenClass) : ParseM Bool := lex (checkToken cs)

def parseFail {α : Type} (context : Option String) (contextMark : Option Mark) (problem : String)
    (problemMark : Mark) : ParseM α :=
  throw (.marked context contextMark problem (some problemMark))

def goTo (ph : Phase) : ParseM Unit := modify fun p => { p with phase := ph }

def pushPhase (ph : Phase) : ParseM Unit := modify fun p => { p with stack := ph :: p.stack }

def popPhase : ParseM Unit := modify fun p =>
  match p.stack with
  | ph :: rest => { p with phase := ph, stack := rest }
  | [] => { p with phase := .finished }

def pushMark (m : Mark) : ParseM Unit := modify fun p => { p with marks := m :: p.marks }

def popMark : ParseM Unit := modify fun p => { p with marks := p.marks.drop 1 }

def topMark : ParseM Mark := do return (← get).marks.headD ⟨0, 0, 0⟩

def emptyScalar (m : Mark) : Event := ⟨.scalar none none true false "" none, m, m⟩

/-- Reads the directives in front of a document: its tag handles, with the defaults added. -/
def processDirectives : ParseM Unit := do
  let rec go : Nat → Option (Nat × Nat) → List (String × String) →
      ParseM (List (String × String))
    | 0, _, hs => return hs
    | fuel + 1, version, hs => do
      if !(← sees [.directive]) then return hs
      let t ← lex getToken
      match t.kind with
      | .directive "YAML" (.version major minor) =>
        if version.isSome then
          parseFail none none "found duplicate YAML directive" t.start
        if major != 1 then
          parseFail none none "found incompatible YAML document (version 1.* is required)" t.start
        go fuel (some (major, minor)) hs
      | .directive "TAG" (.tag handle pfx) =>
        if (hs.lookup handle).isSome then
          parseFail none none ("duplicate tag handle " ++ Text.echo handle) t.start
        go fuel version (hs ++ [(handle, pfx)])
      | _ => go fuel version hs
  let hs ← go ((← get).lexer.src.size + 1) none []
  let missing := defaultHandles.filter fun (h, _) => (hs.lookup h).isNone
  modify fun p => { p with handles := hs ++ missing }

/-- A node without content: an empty scalar if it has an anchor or a tag, else an error. -/
def noContent (block : Bool) (anchor tag : Option String) (implicit : Bool)
    (startMark endMark : Mark) (next : Token) : ParseM Event := do
  if anchor.isSome || tag.isSome then
    popPhase
    return ⟨.scalar anchor tag implicit false "" none, startMark, endMark⟩
  else
    parseFail (some ("while parsing a " ++ (if block then "block" else "flow") ++ " node"))
      (some startMark) ("expected the node content, but found " ++ Text.echo next.kind.name)
      next.start

/-- A node: an alias, or a scalar or the start of a collection, with its anchor and tag. -/
def parseNode (block indentless : Bool) : ParseM Event := do
  if ← sees [.aliasRef] then
    let t ← lex getToken
    popPhase
    match t.kind with
    | .aliasRef name => return ⟨.aliasRef name, t.start, t.stop⟩
    | _ => return ⟨.aliasRef "", t.start, t.stop⟩
  let readAnchor : ParseM (Option (String × Mark × Mark)) := do
    if ← sees [.anchor] then
      let t ← lex getToken
      match t.kind with
      | .anchor name => return some (name, t.start, t.stop)
      | _ => return none
    else return none
  let readTag : ParseM (Option ((Option String × String) × Mark × Mark)) := do
    if ← sees [.tag] then
      let t ← lex getToken
      match t.kind with
      | .tag h s => return some ((h, s), t.start, t.stop)
      | _ => return none
    else return none
  -- an anchor and a tag may come in either order
  let (anchor, tag, startMark, endMark, tagMark) ←
    if ← sees [.anchor] then do
      let a ← readAnchor
      let tg ← readTag
      let sm := a.map (·.2.1)
      let em := match tg with
        | some (_, _, e) => some e
        | none => a.map (·.2.2)
      pure (a.map (·.1), tg.map (·.1), sm, em, tg.map (·.2.1))
    else if ← sees [.tag] then do
      let tg ← readTag
      let a ← readAnchor
      let sm := tg.map (·.2.1)
      let em := match a with
        | some (_, _, e) => some e
        | none => tg.map (·.2.2)
      pure (a.map (·.1), tg.map (·.1), sm, em, sm)
    else pure (none, none, none, none, none)
  let tag ← match tag with
    | none => pure none
    | some (none, suffix) => pure (some suffix)
    | some (some handle, suffix) => do
      match (← get).handles.lookup handle with
      | some pfx => pure (some (pfx ++ suffix))
      | none =>
        parseFail (some "while parsing a node") startMark
          ("found undefined tag handle " ++ Text.echo handle) (tagMark.getD ⟨0, 0, 0⟩)
  let next ← lex peekToken
  let (startMark, endMark) := match startMark, endMark with
    | some s, some e => (s, e)
    | _, _ => (next.start, next.start)
  let implicit := tag.isNone || tag == some "!"
  if indentless && (← sees [.blockEntry]) then
    goTo .indentlessSequenceEntry
    return ⟨.sequenceStart anchor tag implicit false, startMark, next.stop⟩
  match next.kind with
  | .scalar value plain style =>
    let t ← lex getToken
    let (pi, qi) :=
      if (plain && tag.isNone) || tag == some "!" then (true, false)
      else if tag.isNone then (false, true)
      else (false, false)
    popPhase
    return ⟨.scalar anchor tag pi qi value style, startMark, t.stop⟩
  | .flowSequenceStart =>
    goTo .flowSequenceFirstEntry
    return ⟨.sequenceStart anchor tag implicit true, startMark, next.stop⟩
  | .flowMappingStart =>
    goTo .flowMappingFirstKey
    return ⟨.mappingStart anchor tag implicit true, startMark, next.stop⟩
  | .blockSequenceStart =>
    if block then
      goTo .blockSequenceFirstEntry
      return ⟨.sequenceStart anchor tag implicit false, startMark, next.start⟩
    else noContent block anchor tag implicit startMark endMark next
  | .blockMappingStart =>
    if block then
      goTo .blockMappingFirstKey
      return ⟨.mappingStart anchor tag implicit false, startMark, next.start⟩
    else noContent block anchor tag implicit startMark endMark next
  | _ => noContent block anchor tag implicit startMark endMark next

def parseStreamStart : ParseM Event := do
  let t ← lex getToken
  goTo .implicitDocumentStart
  return ⟨.streamStart, t.start, t.stop⟩

def parseDocumentStart : ParseM Event := do
  let rec skipEnds : Nat → ParseM Unit
    | 0 => pure ()
    | fuel + 1 => do
      if ← sees [.documentEnd] then
        let _ ← lex getToken
        skipEnds fuel
  skipEnds ((← get).lexer.src.size + 1)
  if ← sees [.streamEnd] then
    let t ← lex getToken
    goTo .finished
    return ⟨.streamEnd, t.start, t.stop⟩
  let first ← lex peekToken
  processDirectives
  if !(← sees [.documentStart]) then
    let t ← lex peekToken
    parseFail none none ("expected '<document start>', but found " ++ Text.echo t.kind.name)
      t.start
  let t ← lex getToken
  pushPhase .documentEnd
  goTo .documentContent
  return ⟨.documentStart true, first.start, t.stop⟩

def parseImplicitDocumentStart : ParseM Event := do
  if ← sees [.directive, .documentStart, .streamEnd] then parseDocumentStart
  else
    modify fun p => { p with handles := defaultHandles }
    let t ← lex peekToken
    pushPhase .documentEnd
    goTo .blockNode
    return ⟨.documentStart false, t.start, t.start⟩

def parseDocumentEnd : ParseM Event := do
  let t ← lex peekToken
  goTo .documentStart
  if ← sees [.documentEnd] then
    let e ← lex getToken
    return ⟨.documentEnd true, t.start, e.stop⟩
  else return ⟨.documentEnd false, t.start, t.start⟩

def parseDocumentContent : ParseM Event := do
  if ← sees [.directive, .documentStart, .documentEnd, .streamEnd] then
    let t ← lex peekToken
    popPhase
    return emptyScalar t.start
  else parseNode true false

def parseBlockSequenceEntry : ParseM Event := do
  if ← sees [.blockEntry] then
    let t ← lex getToken
    if !(← sees [.blockEntry, .blockEnd]) then
      pushPhase .blockSequenceEntry
      parseNode true false
    else
      goTo .blockSequenceEntry
      return emptyScalar t.stop
  else
    if !(← sees [.blockEnd]) then
      let t ← lex peekToken
      parseFail (some "while parsing a block collection") (some (← topMark))
        ("expected <block end>, but found " ++ Text.echo t.kind.name) t.start
    let t ← lex getToken
    popPhase
    popMark
    return ⟨.sequenceEnd, t.start, t.stop⟩

/-- An entry of a sequence written at its mapping key's indentation, or its end. -/
def parseIndentlessSequenceEntry : ParseM Event := do
  if ← sees [.blockEntry] then
    let t ← lex getToken
    if !(← sees [.blockEntry, .key, .value, .blockEnd]) then
      pushPhase .indentlessSequenceEntry
      parseNode true false
    else
      goTo .indentlessSequenceEntry
      return emptyScalar t.stop
  else
    let t ← lex peekToken
    popPhase
    return ⟨.sequenceEnd, t.start, t.start⟩

def parseBlockMappingKey : ParseM Event := do
  if ← sees [.key] then
    let t ← lex getToken
    if !(← sees [.key, .value, .blockEnd]) then
      pushPhase .blockMappingValue
      parseNode true true
    else
      goTo .blockMappingValue
      return emptyScalar t.stop
  else
    if !(← sees [.blockEnd]) then
      let t ← lex peekToken
      parseFail (some "while parsing a block mapping") (some (← topMark))
        ("expected <block end>, but found " ++ Text.echo t.kind.name) t.start
    let t ← lex getToken
    popPhase
    popMark
    return ⟨.mappingEnd, t.start, t.stop⟩

def parseBlockMappingValue : ParseM Event := do
  if ← sees [.value] then
    let t ← lex getToken
    if !(← sees [.key, .value, .blockEnd]) then
      pushPhase .blockMappingKey
      parseNode true true
    else
      goTo .blockMappingKey
      return emptyScalar t.stop
  else
    goTo .blockMappingKey
    let t ← lex peekToken
    return emptyScalar t.start

def parseFlowSequenceEntry (first : Bool) : ParseM Event := do
  if !(← sees [.flowSequenceEnd]) then
    if !first then
      if ← sees [.flowEntry] then
        let _ ← lex getToken
      else
        let t ← lex peekToken
        parseFail (some "while parsing a flow sequence") (some (← topMark))
          ("expected ',' or ']', but got " ++ Text.echo t.kind.name) t.start
    if ← sees [.key] then
      let t ← lex peekToken
      goTo .flowSequenceEntryMappingKey
      return ⟨.mappingStart none none true true, t.start, t.stop⟩
    else if !(← sees [.flowSequenceEnd]) then
      pushPhase .flowSequenceEntry
      return ← parseNode false false
  let t ← lex getToken
  popPhase
  popMark
  return ⟨.sequenceEnd, t.start, t.stop⟩

def parseFlowSequenceEntryMappingKey : ParseM Event := do
  let t ← lex getToken
  if !(← sees [.value, .flowEntry, .flowSequenceEnd]) then
    pushPhase .flowSequenceEntryMappingValue
    parseNode false false
  else
    goTo .flowSequenceEntryMappingValue
    return emptyScalar t.stop

def parseFlowSequenceEntryMappingValue : ParseM Event := do
  if ← sees [.value] then
    let t ← lex getToken
    if !(← sees [.flowEntry, .flowSequenceEnd]) then
      pushPhase .flowSequenceEntryMappingEnd
      parseNode false false
    else
      goTo .flowSequenceEntryMappingEnd
      return emptyScalar t.stop
  else
    goTo .flowSequenceEntryMappingEnd
    let t ← lex peekToken
    return emptyScalar t.start

def parseFlowSequenceEntryMappingEnd : ParseM Event := do
  goTo .flowSequenceEntry
  let t ← lex peekToken
  return ⟨.mappingEnd, t.start, t.start⟩

def parseFlowMappingKey (first : Bool) : ParseM Event := do
  if !(← sees [.flowMappingEnd]) then
    if !first then
      if ← sees [.flowEntry] then
        let _ ← lex getToken
      else
        let t ← lex peekToken
        parseFail (some "while parsing a flow mapping") (some (← topMark))
          ("expected ',' or '\x7d', but got " ++ Text.echo t.kind.name) t.start
    if ← sees [.key] then
      let t ← lex getToken
      if !(← sees [.value, .flowEntry, .flowMappingEnd]) then
        pushPhase .flowMappingValue
        return ← parseNode false false
      else
        goTo .flowMappingValue
        return emptyScalar t.stop
    else if !(← sees [.flowMappingEnd]) then
      pushPhase .flowMappingEmptyValue
      return ← parseNode false false
  let t ← lex getToken
  popPhase
  popMark
  return ⟨.mappingEnd, t.start, t.stop⟩

def parseFlowMappingValue : ParseM Event := do
  if ← sees [.value] then
    let t ← lex getToken
    if !(← sees [.flowEntry, .flowMappingEnd]) then
      pushPhase .flowMappingKey
      parseNode false false
    else
      goTo .flowMappingKey
      return emptyScalar t.stop
  else
    goTo .flowMappingKey
    let t ← lex peekToken
    return emptyScalar t.start

/-- Takes the token that opens a collection and remembers where it starts. -/
def openCollection : ParseM Unit := do
  let t ← lex getToken
  pushMark t.start

def nextEvent : ParseM Event := do
  match (← get).phase with
  | .streamStart => parseStreamStart
  | .implicitDocumentStart => parseImplicitDocumentStart
  | .documentStart => parseDocumentStart
  | .documentEnd => parseDocumentEnd
  | .documentContent => parseDocumentContent
  | .blockNode => parseNode true false
  | .blockSequenceFirstEntry => do openCollection; parseBlockSequenceEntry
  | .blockSequenceEntry => parseBlockSequenceEntry
  | .indentlessSequenceEntry => parseIndentlessSequenceEntry
  | .blockMappingFirstKey => do openCollection; parseBlockMappingKey
  | .blockMappingKey => parseBlockMappingKey
  | .blockMappingValue => parseBlockMappingValue
  | .flowSequenceFirstEntry => do openCollection; parseFlowSequenceEntry true
  | .flowSequenceEntry => parseFlowSequenceEntry false
  | .flowSequenceEntryMappingKey => parseFlowSequenceEntryMappingKey
  | .flowSequenceEntryMappingValue => parseFlowSequenceEntryMappingValue
  | .flowSequenceEntryMappingEnd => parseFlowSequenceEntryMappingEnd
  | .flowMappingFirstKey => do openCollection; parseFlowMappingKey true
  | .flowMappingKey => parseFlowMappingKey false
  | .flowMappingValue => parseFlowMappingValue
  | .flowMappingEmptyValue => do
    goTo .flowMappingKey
    let t ← lex peekToken
    return emptyScalar t.start
  | .finished => do
    let m := (← get).lexer.mark
    return ⟨.streamEnd, m, m⟩

end Steps

end Yaml

end ClusterDeploy
