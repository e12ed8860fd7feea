import ClusterDeploy.Number.Shortest
import ClusterDeploy.Text.Utf8

/-!
# Loaded data

`Data` is the dynamic value a YAML document or a JSON request is read into before the settings
models check it: null, booleans, integers of any size, doubles, text, raw bytes (from `!!binary`),
calendar days and timestamps (from YAML's timestamp form), sequences, and mappings that keep
their keys in insertion order.

Mappings follow the rules of a dictionary: `Data.insertEntry` replaces the value of a key that
is already present and keeps the key's first position, and keys are compared by `Data.sameKey`,
under which numbers of different kinds are equal when their values are (`1`, `1.0` and `true`
are one key).

A YAML alias inside the very collection its anchor names makes that collection hold itself;
`Data.loop` marks each such place, standing for the collection it repeats.

`Data.plain` turns a value into its JSON-compatible form (bytes become their UTF-8 text, dates
and timestamps their ISO 8601 text, non-finite doubles null, mapping keys text).  Bytes that are
not UTF-8 text have no such form, and neither has a collection that holds itself or a key that
is an integer of more than `Data.decimalLimit` digits: the first of these, in the order the form
is written, is reported (`Unwritable`), bytes with their first bad byte.  `Data.keyText` is the
text of a mapping key inside an error location.
-/

namespace ClusterDeploy

/-- A day of the proleptic Gregorian calendar. -/
structure CalendarDate where
  year : Nat
  month : Nat
  day : Nat
deriving DecidableEq, Repr, Inhabited

/-- A point in time with microseconds, and its offset from UTC in minutes when it has one. -/
structure Timestamp where
  date : CalendarDate
  hour : Nat
  minute : Nat
  second : Nat
  micro : Nat
  offset : Option Int
deriving DecidableEq, Repr, Inhabited

def padded (width n : Nat) : String :=
  let s := toString n
  String.ofList (List.replicate (width - s.length) '0') ++ s

def CalendarDate.iso (d : CalendarDate) : String :=
  padded 4 d.year ++ "-" ++ padded 2 d.month ++ "-" ++ padded 2 d.day

def offsetText (m : Int) : String :=
  (if m < 0 then "-" else "+") ++ padded 2 (m.natAbs / 60) ++ ":" ++ padded 2 (m.natAbs % 60)

def clockText (t : Timestamp) : String :=
  padded 2 t.hour ++ ":" ++ padded 2 t.minute ++ ":" ++ padded 2 t.second ++
    (if t.micro == 0 then "" else "." ++ padded 6 t.micro)

/-- ISO 8601 text of a timestamp as JSON carries it: UTC is written `Z`. -/
def Timestamp.iso (t : Timestamp) : String :=
  t.date.iso ++ "T" ++ clockText t ++
    match t.offset with
    | none => ""
    | some 0 => "Z"
    | some m => offsetText m

/-- The text a timestamp prints as: a blank between day and time, UTC as `+00:00`. -/
def Timestamp.spaced (t : Timestamp) : String :=
  t.date.iso ++ " " ++ clockText t ++
    match t.offset with
    | none => ""
    | some m => offsetText m

def CalendarDate.repr (d : CalendarDate) : String :=
  "datetime.date(" ++ toString d.year ++ ", " ++ toString d.month ++ ", " ++ toString d.day ++ ")"

/-- The text the zone of an offset of `m` minutes from UTC echoes as: UTC itself for no offset,
else a fixed zone whose offset is a span of days and seconds, the days rounded down and the
seconds what is left, each shown only when it is not zero. -/
def offsetRepr (m : Int) : String :=
  if m == 0 then "datetime.timezone.utc"
  else
    let secs := m * 60
    let days := Int.fdiv secs 86400
    let rest := Int.fmod secs 86400
    let parts := (if days != 0 then ["days=" ++ toString days] else []) ++
      (if rest != 0 then ["seconds=" ++ toString rest] else [])
    "datetime.timezone(datetime.timedelta(" ++ ", ".intercalate parts ++ "))"

/-- The text a timestamp echoes as: `datetime.datetime(…)` with the day, the hour and the minute,
then the second and the microseconds unless they are zero from the end on, then its zone. -/
def Timestamp.repr (t : Timestamp) : String :=
  let fields := [t.date.year, t.date.month, t.date.day, t.hour, t.minute, t.second, t.micro]
  let fields := if t.micro != 0 then fields else if t.second != 0 then fields.take 6
    else fields.take 5
  let zone := match t.offset with
    | none => ""
    | some m => ", tzinfo=" ++ offsetRepr m
  "datetime.datetime(" ++ ", ".intercalate (fields.map toString) ++ zone ++ ")"

/-- A value read from a document or a request. -/
inductive Data where
  | null
  | bool (b : Bool)
  | int (i : Int)
  | float (x : Binary64)
  | str (s : String)
  | bytes (b : List UInt8)
  | date (d : CalendarDate)
  | time (t : Timestamp)
  | seq (items : List Data)
  | map (entries : List (Data × Data))
  /-- a sequence or mapping met again inside itself, standing for `target`: that collection,
  with the places where it holds itself marked again -/
  | loop (target : Data)
deriving Repr, Inhabited

namespace Data

mutual

/-- Equality of values, constructor by constructor, structurally so that it evaluates. -/
def beq : Data → Data → Bool
  | .null, .null => true
  | .bool a, .bool b => a == b
  | .int a, .int b => a == b
  | .float a, .float b => a == b
  | .str a, .str b => a == b
  | .bytes a, .bytes b => a == b
  | .date a, .date b => a == b
  | .time a, .time b => a == b
  | .seq as, .seq bs => beqItems as bs
  | .map as, .map bs => beqEntries as bs
  | .loop a, .loop b => beq a b
  | _, _ => false

def beqItems : List Data → List Data → Bool
  | [], [] => true
  | a :: as, b :: bs => beq a b && beqItems as bs
  | _, _ => false

def beqEntries : List (Data × Data) → List (Data × Data) → Bool
  | [], [] => true
  | (k, v) :: as, (k', v') :: bs => beq k k' && beq v v' && beqEntries as bs
  | _, _ => false

end

instance : BEq Data := ⟨beq⟩

/-- Truthiness: null, false, zero, and empty text, bytes, sequences and mappings are false. -/
def truthy : Data → Bool
  | .null => false
  | .bool b => b
  | .int i => i != 0
  | .float x => x.truthy
  | .str s => !s.isEmpty
  | .bytes b => !b.isEmpty
  | .date _ => true
  | .time _ => true
  | .seq xs => !xs.isEmpty
  | .map es => !es.isEmpty
  | .loop _ => true

/-- the numeric value of a boolean, integer or double, as a signed ratio, when it is finite -/
def numericValue? : Data → Option (Bool × Nat × Nat)
  | .bool b => some (false, if b then 1 else 0, 1)
  | .int i => some (i < 0, i.natAbs, 1)
  | .float x => if x.isFinite then some x.toRatio else none
  | _ => none

/-- Equality of mapping keys: numbers are equal when their values are, whatever their kind. -/
def sameKey (a b : Data) : Bool :=
  match a.numericValue?, b.numericValue? with
  | some (s1, n1, d1), some (s2, n2, d2) =>
    n1 * d2 == n2 * d1 && (n1 == 0 || s1 == s2)
  | _, _ => a == b

/-- whether a value can be a mapping key (sequences and mappings cannot) -/
def hashable : Data → Bool
  | .seq _ => false
  | .map _ => false
  | .loop _ => false
  | _ => true

/-- Adds a key to a mapping's entries: a present key keeps its place and takes the new value. -/
def insertEntry (es : List (Data × Data)) (k v : Data) : List (Data × Data) :=
  if es.any (fun e => sameKey e.1 k) then
    es.map (fun e => if sameKey e.1 k then (e.1, v) else e)
  else es ++ [(k, v)]

/-- Builds a mapping's entries from pairs in order, the last value of a key winning. -/
def entriesOf (pairs : List (Data × Data)) : List (Data × Data) :=
  pairs.foldl (fun acc p => insertEntry acc p.1 p.2) []

def lookupText (es : List (Data × Data)) (k : String) : Option Data :=
  (es.find? (fun e => e.1 == .str k)).map (·.2)

/-- Why a value cannot be written: it has no JSON form, or holds a number too long for text. -/
inductive Unwritable where
  /-- it holds bytes that are not UTF-8 text -/
  | undecodable (u : Utf8.Undecodable)
  /-- it holds a collection inside that same collection -/
  | circular
  /-- it holds an integer whose decimal text is longer than `decimalLimit` digits -/
  | longInteger
deriving DecidableEq, Repr, Inhabited

/-- The most decimal digits an integer is written with or read from; more is refused, so that
no conversion between text and integer takes time that grows faster than its length. -/
def decimalLimit : Nat := 4300

/-- The wording of a decimal text longer than `decimalLimit`, read as an integer. -/
def longDecimalMessage (digits : Nat) : String :=
  "Exceeds the limit (" ++ toString decimalLimit ++
    " digits) for integer string conversion: value has " ++ toString digits ++
    " digits; use sys.set_int_max_str_digits() to increase the limit"

/-- Whether the decimal text of an integer, without its sign, is longer than `decimalLimit`. -/
def isLongInteger (i : Int) : Bool := (toString i.natAbs).length > decimalLimit

def Unwritable.message : Unwritable → String
  | .undecodable u => u.message
  | .circular => "Circular reference detected (id repeated)"
  | .longInteger => "Exceeds the limit (" ++ toString decimalLimit ++
      " digits) for integer string conversion; " ++
      "use sys.set_int_max_str_digits() to increase the limit"

/-- The printed form of bytes: `b'…'` with printable ASCII kept and other bytes escaped. -/
def bytesText (b : List UInt8) : String :=
  let quote := if b.contains 39 && !b.contains 34 then '"' else '\''
  let body := b.foldl (fun acc x =>
    let c := Char.ofNat x.toNat
    acc ++
      if x == 92 then "\\\\"
      else if c == quote then "\\" ++ c.toString
      else if x == 9 then "\\t" else if x == 10 then "\\n" else if x == 13 then "\\r"
      else if x ≥ 32 && x < 127 then c.toString
      else "\\x" ++ Utf8.hexByte x) ""
  "b" ++ quote.toString ++ body ++ quote.toString

/-- The text of a mapping key inside an error location: text as it is, numbers as they print. -/
def keyText : Data → String
  | .null => "None"
  | .bool b => if b then "True" else "False"
  | .int i => toString i
  | .float x => x.toText
  | .str s => s
  | .bytes b => bytesText b
  | .date d => d.iso
  | .time t => t.spaced
  | .seq _ => "[…]"
  | .map _ => "\x7b…\x7d"
  | .loop t => t.keyText

/-- The name of a value's type, as messages about a value of the wrong type give it. -/
def typeName : Data → String
  | .null => "NoneType"
  | .bool _ => "bool"
  | .int _ => "int"
  | .float _ => "float"
  | .str _ => "str"
  | .bytes _ => "bytes"
  | .date _ => "datetime.date"
  | .time _ => "datetime.datetime"
  | .seq _ => "list"
  | .map _ => "dict"
  | .loop t => t.typeName

mutual

/-- Whether a value holds an integer whose decimal text is longer than `decimalLimit` digits,
as a key or as a value. -/
def holdsLongInteger : Data → Bool
  | .int i => isLongInteger i
  | .seq xs => holdsLongIntegerList xs
  | .map es => holdsLongIntegerEntries es
  | _ => false

def holdsLongIntegerList : List Data → Bool
  | [] => false
  | x :: xs => holdsLongInteger x || holdsLongIntegerList xs

def holdsLongIntegerEntries : List (Data × Data) → Bool
  | [] => false
  | (k, v) :: es => holdsLongInteger k || holdsLongInteger v || holdsLongIntegerEntries es

end

def plainFloat (x : Binary64) : Data := if x.isFinite then .float x else .null

/-- The text of a mapping key in JSON: booleans in lower case, null as `None`, bytes as their
UTF-8 text.  A number that is not finite has no JSON form and is written as null is, so it
becomes `None` too. -/
def plainKey : Data → Except Unwritable String
  | .bool b => .ok (if b then "true" else "false")
  | .float x => .ok (if x.isFinite then x.toText else "None")
  | .bytes b => (Utf8.decode b).mapError .undecodable
  | .time t => .ok t.iso
  | .int i => if isLongInteger i then .error .longInteger else .ok (toString i)
  | d => .ok (keyText d)

mutual

/-- The JSON-compatible form of a value; bytes that are not UTF-8 text and a collection that
holds itself have none.  Each key of a mapping is written before its value, so the first fault
in that order is the one reported. -/
def plain : Data → Except Unwritable Data
  | .float x => .ok (plainFloat x)
  | .bytes b => .str <$> (Utf8.decode b).mapError .undecodable
  | .date d => .ok (.str d.iso)
  | .time t => .ok (.str t.iso)
  | .seq xs => .seq <$> plainList xs
  | .map es => (fun ps => .map (entriesOf ps)) <$> plainEntries es
  | .loop _ => .error .circular
  | d => .ok d

def plainList : List Data → Except Unwritable (List Data)
  | [] => .ok []
  | x :: xs => do
    let y ← plain x
    let ys ← plainList xs
    pure (y :: ys)

def plainEntries : List (Data × Data) → Except Unwritable (List (Data × Data))
  | [] => .ok []
  | (k, v) :: es => do
    let k ← plainKey k
    let v ← plain v
    let rest ← plainEntries es
    pure ((.str k, v) :: rest)

end

end Data

end ClusterDeploy
