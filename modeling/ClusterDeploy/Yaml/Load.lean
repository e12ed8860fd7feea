import ClusterDeploy.Yaml.Node
import ClusterDeploy.Yaml.Scalar
import ClusterDeploy.Data.SetOrder

/-!
# Loading YAML into data

`Yaml.load` reads YAML text that holds at most one document into `Data`, with the tags of the
YAML type repository and nothing else:

* scalars by their tag (`null`, `bool`, `int`, `float`, `binary`, `timestamp`, `str`);
* `seq` as a sequence, `map` as a mapping, `set` as the sequence of a mapping's keys in the
  order a set lists them (`Data.inSetOrder`), `omap` and `pairs` as sequences of key-value
  pairs;
* the merge key `<<` in a mapping brings in the entries of another mapping, or of a list of
  mappings (the earlier ones winning), ahead of the mapping's own entries, which win over
  them; a `=` key is the text `=`;
* a later entry for an equal key replaces the value of the earlier one, in its place;
* an alias inside the collection its anchor names is that collection again, built as
  `Data.loop` of the whole collection, in which the aliases to it are built as `Data.loop` of
  an empty collection; merging such a collection while it is being read makes the mapping that
  merges it hold itself too, since the entries it brings in lead back to that mapping.

Any other tag, a collection where a scalar is needed, a sequence or mapping as a key, and text a
tag cannot read are errors.  When there are several, the one reported is the first met
breadth-first: a collection's own entries are all read before the entries of the collections
inside it.  `Yaml.check` walks the nodes in that order to find the first error, and
`Yaml.build` then builds the value depth-first.
-/

namespace ClusterDeploy

namespace Yaml

/-- Why YAML text could not be loaded. -/
inductive LoadError where
  /-- the text is not well-formed YAML, or a node cannot be constructed -/
  | malformed (e : YamlError)
  /-- a tagged scalar's text is not a value of its tag -/
  | fault (f : ScalarFault)
deriving DecidableEq, Repr, Inhabited

/-- How a collection tag is built. -/
inductive Collection where
  | seq | map | set | omap | pairs
deriving DecidableEq, Repr, Inhabited

def collectionOf (tag : String) : Option Collection :=
  if tag == repoTag "seq" then some .seq
  else if tag == repoTag "map" then some .map
  else if tag == repoTag "set" then some .set
  else if tag == repoTag "omap" then some .omap
  else if tag == repoTag "pairs" then some .pairs
  else none

def scalarTags : List String :=
  ["null", "bool", "int", "float", "binary", "timestamp", "str"].map repoTag

def constructFail {α : Type} (context : Option String) (contextMark : Option Mark)
    (problem : String) (at_ : Mark) : Except LoadError α :=
  .error (.malformed (.marked context contextMark problem (some at_)))

/-- A character by its code, as an encoding error names it: `\xNN`, `\uNNNN` or `\UNNNNNNNN`. -/
def codeEscape (c : Char) : String :=
  let n := c.toNat
  if n ≤ 0xFF then "\\x" ++ Text.hexDigits 2 n
  else if n ≤ 0xFFFF then "\\u" ++ Text.hexDigits 4 n
  else "\\U" ++ Text.hexDigits 8 n

/-- The first run of characters beyond ASCII in text, as an encoding error names it: one
character by its code, several by their first and last position. -/
def nonAsciiRun (cs : List Char) : String :=
  let pos := (cs.takeWhile (·.toNat < 128)).length
  match (cs.drop pos).takeWhile (·.toNat ≥ 128) with
  | [c] => "character '" ++ codeEscape c ++ "' in position " ++ toString pos
  | run => "characters in position " ++ toString pos ++ "-" ++ toString (pos + run.length - 1)

def scalarValue (tag value : String) (start : Mark) : Except LoadError Data :=
  let lift := fun {α : Type} (r : Except ScalarFault α) => r.mapError LoadError.fault
  if tag == repoTag "null" then .ok .null
  else if tag == repoTag "bool" then (lift (boolScalar value)).map Data.bool
  else if tag == repoTag "int" then (lift (intScalar value)).map Data.int
  else if tag == repoTag "float" then (lift (floatScalar value)).map Data.float
  else if tag == repoTag "timestamp" then lift (timestampScalar value)
  else if tag == repoTag "binary" then
    match value.toList.find? (·.toNat ≥ 128) with
    | some _ =>
      constructFail none none ("failed to convert base64 data into ascii: 'ascii' codec can't " ++
        "encode " ++ nonAsciiRun value.toList ++ ": ordinal not in range(128)") start
    | none =>
      match Base64.decode value.toList with
      | .ok bs => .ok (.bytes bs)
      | .error e => constructFail none none ("failed to decode base64 data: " ++ e) start
  else .ok (.str value)

mutual

/-- The entries of a mapping node's entry list after merging: the merged entries first. -/
def flattenEntries (start : Mark) : List (Node × Node) → Except LoadError (List (Node × Node) × List (Node × Node))
  | [] => .ok ([], [])
  | (k, v) :: rest =>
    if k.tag == repoTag "merge" then do
      let merged ← mergeSource start v
      let (more, own) ← flattenEntries start rest
      return (merged ++ more, own)
    else if k.tag == repoTag "value" then do
      let (more, own) ← flattenEntries start rest
      return (more, (k.withTag (repoTag "str"), v) :: own)
    else do
      let (more, own) ← flattenEntries start rest
      return (more, (k, v) :: own)

/-- The entries a merge key brings in.  A collection met again inside itself brings in what the
whole collection would, and nothing while it is still being read. -/
def mergeSource (start : Mark) : Node → Except LoadError (List (Node × Node))
  | .map _ es s => do
    let (more, own) ← flattenEntries s es
    return more ++ own
  | .seq _ items _ => do
    let groups ← mergeList start items
    return groups.reverse.flatten
  | .again _ _ _ true (some (.map _ es s)) => do
    let (more, own) ← flattenEntries s es
    return more ++ own
  | .again _ _ _ false (some (.seq _ items _)) => do
    let groups ← mergeList start items
    return groups.reverse.flatten
  | .again _ _ _ _ _ => .ok []
  | other =>
    constructFail (some "while constructing a mapping") (some start)
      ("expected a mapping or list of mappings for merging, but found " ++ other.kindName)
      other.start

def mergeList (start : Mark) : List Node → Except LoadError (List (List (Node × Node)))
  | [] => .ok []
  | n :: rest => do
    let first ← match n with
      | .map _ es s => do
        let (more, own) ← flattenEntries s es
        pure (more ++ own)
      | .again _ _ _ true (some (.map _ es s)) => do
        let (more, own) ← flattenEntries s es
        pure (more ++ own)
      | .again _ _ _ true _ => pure []
      | other =>
        constructFail (some "while constructing a mapping") (some start)
          ("expected a mapping for merging, but found " ++ other.kindName) other.start
    let others ← mergeList start rest
    return first :: others

end

def mappingEntries : Node → Except LoadError (List (Node × Node))
  | .map _ es s => do
    let (more, own) ← flattenEntries s es
    return more ++ own
  | other =>
    constructFail none none ("expected a mapping node, but found " ++ other.kindName) other.start

/-- Starts constructing a node: a scalar is read at once, a collection is queued, and a
collection met again inside itself is already under construction. -/
def startNode (node : Node) : Except LoadError (List (Node × Collection)) :=
  if node.isAgain then .ok [] else
  match collectionOf node.tag with
  | some c => .ok [(node, c)]
  | none =>
    if scalarTags.contains node.tag then
      match node with
      | .scalar t v s => (scalarValue t v s).map fun _ => []
      | other =>
        constructFail none none ("expected a scalar node, but found " ++ other.kindName)
          other.start
    else
      constructFail none none ("could not determine a constructor for the tag " ++
        Text.echo node.tag) node.start

/-- Starts constructing each node in turn, collecting the queued collections. -/
def startNodes : List Node → Except LoadError (List (Node × Collection))
  | [] => .ok []
  | n :: rest => do
    let q ← startNode n
    let qs ← startNodes rest
    return q ++ qs

/-- Starts constructing the entries of a mapping; a sequence or mapping key is an error. -/
def startEntries (start : Mark) : List (Node × Node) → Except LoadError (List (Node × Collection))
  | [] => .ok []
  | (k, v) :: rest => do
    let qk ← startNode k
    -- every collection is built as a list, a mapping or a set, none of which can be a key
    if k.isAgain || !qk.isEmpty then
      constructFail (some "while constructing a mapping") (some start) "found unhashable key"
        k.start
    let qv ← startNode v
    let qs ← startEntries start rest
    return qk ++ qv ++ qs

/-- Starts constructing the pairs of an ordered map: each item must be a one-entry mapping. -/
def startPairs (context : String) (start : Mark) : List Node →
    Except LoadError (List (Node × Collection))
  | [] => .ok []
  | .map _ [(k, v)] _ :: rest => do
    let qk ← startNode k
    let qv ← startNode v
    let qs ← startPairs context start rest
    return qk ++ qv ++ qs
  | .map _ es ms :: _ =>
    constructFail (some context) (some start)
      ("expected a single mapping item, but found " ++ toString es.length ++ " items") ms
  | .again _ _ _ true (some (.map _ [(k, v)] _)) :: rest => do
    let qk ← startNode k
    let qv ← startNode v
    let qs ← startPairs context start rest
    return qk ++ qv ++ qs
  | .again _ _ _ true (some (.map _ es _)) :: _ =>
    constructFail (some context) (some start)
      ("expected a single mapping item, but found " ++ toString es.length ++ " items") start
  -- still being read: it is the collection under construction, checked where it stands
  | .again _ _ _ _ none :: rest => startPairs context start rest
  | other :: _ =>
    constructFail (some context) (some start)
      ("expected a mapping of length 1, but found " ++ other.kindName) other.start

/-- Constructs the body of a queued collection, giving the collections it queues in turn. -/
def collectionBody (node : Node) (c : Collection) : Except LoadError (List (Node × Collection)) :=
  match c with
  | .seq =>
    match node with
    | .seq _ items _ => startNodes items
    | other =>
      constructFail none none ("expected a sequence node, but found " ++ other.kindName)
        other.start
  | .map | .set => do
    let es ← mappingEntries node
    startEntries node.start es
  | .omap | .pairs =>
    let context := if c == .omap then "while constructing an ordered map" else "while constructing pairs"
    match node with
    | .seq _ items s => startPairs context s items
    | other =>
      constructFail (some context) (some other.start)
        ("expected a sequence, but found " ++ other.kindName) other.start

mutual

def Node.count : Node → Nat
  | .scalar _ _ _ => 1
  | .seq _ items _ => 1 + countList items
  | .map _ es _ => 1 + countEntries es
  | .again _ _ _ _ _ => 1

def countList : List Node → Nat
  | [] => 0
  | n :: rest => n.count + countList rest

def countEntries : List (Node × Node) → Nat
  | [] => 0
  | (k, v) :: rest => k.count + v.count + countEntries rest

end

def check (root : Node) : Except LoadError Unit := do
  let first ← startNode root
  let rec run : Nat → List (Node × Collection) → Except LoadError Unit
    | 0, _ => .ok ()
    | _, [] => .ok ()
    | fuel + 1, (n, c) :: rest => do
      let more ← collectionBody n c
      run fuel (rest ++ more)
  -- merging can copy entries, so the queue is bounded by a generous multiple of the nodes
  run (root.count * root.count + 1) first

/-- The entries of a built mapping, looking through the marks of a collection met again. -/
def entriesWithin : Data → List (Data × Data)
  | .map es => es
  | .loop t => entriesWithin t
  | _ => []

/-- The entries a built merge value brings in: a mapping's entries, or those of a list of
mappings with the earlier ones last, so that they win. -/
def mergedEntries : Data → List (Data × Data)
  | .seq items => (items.reverse.map entriesWithin).flatten
  | .loop t => mergedEntries t
  | d => entriesWithin d

/-- Whether a merge value is, or lists, a mapping met again inside itself while it was still
being read: the mapping that merges it then holds itself. -/
def Node.mergesOpen : Node → Bool
  | .again _ _ _ _ none => true
  | .seq _ items _ => items.any fun
    | .again _ _ _ _ none => true
    | _ => false
  | _ => false

mutual

def build : Node → Except LoadError Data
  | .scalar t v s =>
    match collectionOf t with
    | some .map => .ok (.map [])
    | some _ => .ok (.seq [])
    | none => scalarValue t v s
  | .seq t items _ =>
    match collectionOf t with
    | some .omap | some .pairs => (pairsOf items).map Data.seq
    | _ => (buildList items).map Data.seq
  | .map t es _ => do
    let built ← buildEntries es
    -- merged entries come first so that the mapping's own entries win
    let merged := (built.filter (·.1)).flatMap fun e => mergedEntries e.2.2
    let own := (built.filter (!·.1)).map (·.2)
    let m := (merged ++ own).foldl (fun acc e => Data.insertEntry acc e.1 e.2) []
    let d := if collectionOf t == some .set then Data.seq (Data.inSetOrder (m.map (·.1)))
      else .map m
    -- merging the collection it lies in, while that is still read, makes a mapping hold itself
    let open_ := es.any fun e => e.1.tag == repoTag "merge" && e.2.mergesOpen
    return if open_ then .loop d else d
  | .again _ _ _ _ (some w) => Data.loop <$> build w
  | .again _ t _ b none =>
    .ok (.loop (if b && collectionOf t != some .set then .map [] else .seq []))

def buildList : List Node → Except LoadError (List Data)
  | [] => .ok []
  | n :: rest => do
    let d ← build n
    let ds ← buildList rest
    return d :: ds

/-- Builds the entries of a mapping, marking those of merge keys. -/
def buildEntries : List (Node × Node) → Except LoadError (List (Bool × Data × Data))
  | [] => .ok []
  | (k, v) :: rest => do
    let kd ← build k
    let vd ← build v
    let es ← buildEntries rest
    return (k.tag == repoTag "merge", kd, vd) :: es

def pairsOf : List Node → Except LoadError (List Data)
  | [] => .ok []
  | .map _ [(k, v)] _ :: rest => do
    let kd ← build k
    let vd ← build v
    let ps ← pairsOf rest
    return .seq [kd, vd] :: ps
  | .again _ _ _ true (some (.map _ [(k, v)] _)) :: rest => do
    let kd ← build k
    let vd ← build v
    let ps ← pairsOf rest
    return .seq [kd, vd] :: ps
  -- a pair of the collection under construction, which therefore holds itself
  | .again _ _ _ _ none :: rest => do
    let ps ← pairsOf rest
    return .loop (.seq []) :: ps
  | _ :: rest => pairsOf rest

end

/-- Loads YAML text holding at most one document; an empty stream is null. -/
def load (text : String) : Except LoadError Data :=
  match Node.ofText? text with
  | .error (.conversion m) => .error (.fault (.outOfRange m))
  | .error e => .error (.malformed e)
  | .ok none => .ok .null
  | .ok (some root) => do
    check root
    build root

end Yaml

end ClusterDeploy
