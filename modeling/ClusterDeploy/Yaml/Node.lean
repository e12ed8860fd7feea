import ClusterDeploy.Yaml.Event
import ClusterDeploy.Yaml.Tag

/-!
# YAML nodes

A document's events compose into a tree of nodes: scalars with their text, sequences and
mappings, each with a full tag and the mark where it starts.  An untagged scalar (or one tagged
`!`) takes its tag from its text when it is plain, and is a string when it is quoted; untagged
collections are plain sequences and mappings.

An anchor names the node it stands on, and a later alias stands for a copy of that node.  An
alias to a name not yet seen, and a second anchor of a name already in use, are errors.  An
alias inside the very collection its anchor names stands for that collection again
(`Node.again`): once the document has been read, each such node is given the whole collection,
in which the aliases to it are left as they are.

Composition reads events one at a time and keeps a stack of the open collections, so it runs
in one pass over the events with no recursion; `Node.ofText?` reads a whole stream that must
hold at most one document.
-/

namespace ClusterDeploy

namespace Yaml

/-- A node of a YAML document. -/
inductive Node where
  | scalar (tag : String) (value : String) (start : Mark)
  | seq (tag : String) (items : List Node) (start : Mark)
  | map (tag : String) (entries : List (Node × Node)) (start : Mark)
  /-- an alias inside the collection its anchor names, met while that collection is still
  being read: the collection again, by its anchor, tag, start and kind (a mapping or not), and
  the whole collection once the document has been read -/
  | again (anchor : String) (tag : String) (start : Mark) (mapping : Bool) (whole : Option Node)
deriving Repr, Inhabited

namespace Node

def tag : Node → String
  | .scalar t _ _ => t
  | .seq t _ _ => t
  | .map t _ _ => t
  | .again _ t _ _ _ => t

def start : Node → Mark
  | .scalar _ _ m => m
  | .seq _ _ m => m
  | .map _ _ m => m
  | .again _ _ m _ _ => m

def withTag (t : String) : Node → Node
  | .scalar _ v m => .scalar t v m
  | .seq _ xs m => .seq t xs m
  | .map _ es m => .map t es m
  | .again a _ m b w => .again a t m b w

def kindName : Node → String
  | .scalar _ _ _ => "scalar"
  | .seq _ _ _ => "sequence"
  | .map _ _ _ => "mapping"
  | .again _ _ _ b _ => if b then "mapping" else "sequence"

def isAgain : Node → Bool
  | .again _ _ _ _ _ => true
  | _ => false

/-- The collection an anchor names, met again while it is still being read. -/
def againOf (anchor : String) : Node → Node
  | .seq t _ m => .again anchor t m false none
  | .map t _ m => .again anchor t m true none
  | n => n

end Node

/-- A collection being composed. -/
inductive OpenNode where
  | seq (tag : String) (start : Mark) (anchor : Option String) (items : List Node)
  | map (tag : String) (start : Mark) (anchor : Option String) (entries : List (Node × Node))
      (key : Option Node)
deriving Repr, Inhabited

def OpenNode.anchor : OpenNode → Option String
  | .seq _ _ a _ => a
  | .map _ _ a _ _ => a

/-- What an anchor names: the node, and where it starts. -/
structure Anchored where
  start : Mark
  node : Node
deriving Repr, Inhabited

mutual

/-- The node with each collection met again inside itself given the whole collection, as
`anchors` name it at the end of the document; the aliases inside that whole are left as they
are. -/
def Node.close (anchors : List (String × Anchored)) : Node → Node
  | .seq t items m => .seq t (closeList anchors items) m
  | .map t es m => .map t (closeEntries anchors es) m
  | .again a t m b _ => .again a t m b ((anchors.lookup a).map (·.node))
  | n => n

def closeList (anchors : List (String × Anchored)) : List Node → List Node
  | [] => []
  | n :: rest => n.close anchors :: closeList anchors rest

def closeEntries (anchors : List (String × Anchored)) : List (Node × Node) → List (Node × Node)
  | [] => []
  | (k, v) :: rest => (k.close anchors, v.close anchors) :: closeEntries anchors rest

end

def nodeTag (tag : Option String) (resolved : String) : String :=
  match tag with
  | none => resolved
  | some "!" => resolved
  | some t => t

def anchorNode (anchors : List (String × Anchored)) (anchor : Option String) (start : Mark)
    (node : Node) : List (String × Anchored) :=
  match anchor with
  | none => anchors
  | some a => anchors.filter (fun e => e.1 != a) ++ [(a, ⟨start, node⟩)]

def freshAnchor (anchors : List (String × Anchored)) (anchor : Option String) (here : Mark) :
    Except YamlError Unit :=
  match anchor with
  | none => .ok ()
  | some a =>
    match anchors.lookup a with
    | some first =>
      .error (.marked (some ("found duplicate anchor " ++ Text.echo a ++ "; first occurrence"))
        (some first.start) "second occurrence" (some here))
    | none => .ok ()

/-- Puts a finished node into the innermost open collection; `none` means it was the root. -/
def place (node : Node) : List OpenNode → Option (List OpenNode)
  | [] => none
  | .seq t m a items :: rest => some (.seq t m a (items ++ [node]) :: rest)
  | .map t m a es none :: rest => some (.map t m a es (some node) :: rest)
  | .map t m a es (some k) :: rest => some (.map t m a (es ++ [(k, node)]) none :: rest)

/-- Composes the root node of a document from its events, after its start event. -/
def composeRoot : ParseM Node := do
  let rec go : Nat → List OpenNode → List (String × Anchored) → ParseM Node
    | 0, _, _ => return .scalar (repoTag "null") "" ⟨0, 0, 0⟩
    | fuel + 1, stack, anchors => do
      let ev ← nextEvent
      -- a finished node goes into its parent, or ends the document
      let finish (node : Node) (anchors : List (String × Anchored)) : ParseM Node :=
        match place node stack.tail with
        | none => return node.close anchors
        | some stack' => go fuel stack' anchors
      let finishLeaf (node : Node) (anchors : List (String × Anchored)) : ParseM Node :=
        match place node stack with
        | none => return node
        | some stack' => go fuel stack' anchors
      match ev.kind with
      | .aliasRef name =>
        match anchors.lookup name with
        | some a =>
          -- an alias inside the collection it names, which is still open
          if stack.any (·.anchor == some name) then finishLeaf (a.node.againOf name) anchors
          else finishLeaf a.node anchors
        | none =>
          throw (.marked none none ("found undefined alias " ++ Text.echo name) (some ev.start))
      | .scalar anchor tag plainImplicit _ value _ =>
        match freshAnchor anchors anchor ev.start with
        | .error e => throw e
        | .ok () =>
          let resolved := if plainImplicit then implicitTag value else repoTag "str"
          let node := Node.scalar (nodeTag tag resolved) value ev.start
          finishLeaf node (anchorNode anchors anchor ev.start node)
      | .sequenceStart anchor tag _ _ =>
        match freshAnchor anchors anchor ev.start with
        | .error e => throw e
        | .ok () =>
          let t := nodeTag tag (repoTag "seq")
          go fuel (.seq t ev.start anchor [] :: stack)
            (anchorNode anchors anchor ev.start (.seq t [] ev.start))
      | .mappingStart anchor tag _ _ =>
        match freshAnchor anchors anchor ev.start with
        | .error e => throw e
        | .ok () =>
          let t := nodeTag tag (repoTag "map")
          go fuel (.map t ev.start anchor [] none :: stack)
            (anchorNode anchors anchor ev.start (.map t [] ev.start))
      | .sequenceEnd | .mappingEnd =>
        match stack with
        | .seq t m a items :: _ =>
          let node := Node.seq t items m
          finish node (anchorNode anchors a m node)
        | .map t m a es _ :: _ =>
          let node := Node.map t es m
          finish node (anchorNode anchors a m node)
        | [] => return .scalar (repoTag "null") "" ev.start
      | _ => return .scalar (repoTag "null") "" ev.start
  go (8 * (← get).lexer.src.size + 16) [] []

/-- Reads a stream that holds at most one document: its root node, or none for an empty stream. -/
def readSingleNode : ParseM (Option Node) := do
  let _ ← nextEvent
  let ev ← nextEvent
  match ev.kind with
  | .streamEnd => return none
  | _ =>
    let root ← composeRoot
    let _ ← nextEvent
    let after ← nextEvent
    match after.kind with
    | .streamEnd => return some root
    | _ =>
      throw (.marked (some "expected a single document in the stream") (some root.start)
        "but found another document" (some after.start))

def Node.ofText? (text : String) : Except YamlError (Option Node) :=
  let src := text.toList.toArray
  match firstForbidden src with
  | some e => .error e
  | none => (readSingleNode.run (Parser.start src)).map (·.1)

end Yaml

end ClusterDeploy
