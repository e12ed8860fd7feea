import ClusterDeploy.Data
import ClusterDeploy.Schema.Issue
import ClusterDeploy.Text.Echo

/-!
# Lax coercions

The settings models accept more than the exact type of a field, the way hand-written
configuration files need:

* text accepts text, and bytes that are valid UTF-8;
* an integer accepts integers, booleans, doubles without a fractional part strictly between
  `-2 ^ 63` and `2 ^ 63`, and text holding an optionally signed decimal (surrounding blanks,
  leading zeros with underscores among them, single underscores and a point followed by one or
  more zeros are allowed; a minus sign right after the leading zeros counts, `0-9` being `-9`);
* a flag accepts booleans, the integers and doubles `0` and `1`, and the words
  `0 off f false n no` and `1 on t true y yes` in any case;
* a number accepts doubles, integers, booleans and decimal text, whose underscores are dropped
  when none is at an end and no two are next to each other.

Each function checks one value and reports the first problem of that value; the location is
added by the caller.
-/

namespace ClusterDeploy

namespace Data

def isBlankChar (c : Char) : Bool :=
  let n := c.toNat
  (9 ≤ n && n ≤ 13) || n == 32 || n == 0x85 || n == 0xA0 || n == 0x1680 ||
    (0x2000 ≤ n && n ≤ 0x200A) || n == 0x2028 || n == 0x2029 || n == 0x202F ||
    n == 0x205F || n == 0x3000

def trimBlanks (s : String) : String :=
  let cs := (s.toList.dropWhile isBlankChar).reverse.dropWhile isBlankChar
  String.ofList cs.reverse

/-- The sign of a decimal and the text after it: a leading `-` makes it negative, a leading
`+` is dropped. -/
def splitSign (cs : List Char) : Bool × List Char :=
  match cs with
  | '-' :: r => (true, r)
  | '+' :: r => (false, r)
  | r => (false, r)

def digitsValue (ds : List Char) : Nat := ds.foldl (fun acc d => acc * 10 + (d.toNat - 48)) 0

/-- The text of an integer from its first significant character, if it can hold one.  Zeros at
its front, and underscores among them, are dropped; the first other digit or sign ends them and
stays, and a point ends them keeping the character before it.  Text of zeros and underscores only
keeps its last character, and text that starts with anything but a digit or a sign holds no
integer.  A sign after the zeros stays, so `0-9` is left as `-9`. -/
def dropLeadingZeros (cs : List Char) : Option (List Char) :=
  match cs with
  | '0' :: rest => go '0' rest
  | c :: _ => if ('1' ≤ c && c ≤ '9') || c == '-' || c == '+' then some cs else none
  | [] => none
where
  /-- the rest after the zeros, `prev` being the last character dropped -/
  go (prev : Char) : List Char → Option (List Char)
    | [] => some [prev]
    | c :: rest =>
      if c == '0' || c == '_' then go c rest
      else if ('1' ≤ c && c ≤ '9') || c == '-' || c == '+' then some (c :: rest)
      else if c == '.' then some (prev :: c :: rest)
      else none

/-- Text without a fraction of zeros: the part before its last point, when one or more zeros and
nothing else follow that point. -/
def dropZeroFraction (cs : List Char) : List Char :=
  let rev := cs.reverse
  let zeros := rev.takeWhile (· == '0')
  match rev.drop zeros.length with
  | '.' :: before => if zeros.isEmpty then cs else before.reverse
  | _ => cs

/-- Text with its underscores removed, unless it starts or ends with one or holds two in a
row. -/
def dropUnderscores (cs : List Char) : Option (List Char) :=
  if cs.head? == some '_' || cs.getLast? == some '_' ||
      (cs.zip cs.tail).any (fun (a, b) => a == '_' && b == '_') then none
  else some (cs.filter (· != '_'))

/-- The integer of a JSON integer, or why there is none: an optional minus sign, then `0` or
digits that do not start with `0`.  More than `decimalLimit` digits are too many, whatever
follows them. -/
def jsonInteger (cs : List Char) : Checked Int :=
  let (neg, rest) := match cs with
    | '-' :: r => (true, r)
    | r => (false, r)
  let digits := rest.takeWhile Char.isDigit
  if digits.isEmpty || (digits.head? == some '0' && digits.length > 1) then
    Checked.fail .unparsableInteger
  else if digits.length > decimalLimit then Checked.fail .integerTooLarge
  else if digits.length < rest.length then Checked.fail .unparsableInteger
  else .ok (if neg then -(digitsValue digits : Int) else digitsValue digits)

/-- The integer in text, or why there is none.  Blanks are trimmed and a sign at the front is
taken off; then the zeros at the front go (`dropLeadingZeros`), a minus sign goes back on, a
fraction of zeros is dropped (`dropZeroFraction`), single underscores are removed
(`dropUnderscores`), and what is left must be a JSON integer (`jsonInteger`). -/
def integerOfText (s : String) : Checked Int :=
  let (neg, body) := splitSign (trimBlanks s).toList
  match dropLeadingZeros body with
  | none => Checked.fail .unparsableInteger
  | some b =>
    match dropUnderscores (dropZeroFraction ((if neg then ['-'] else []) ++ b)) with
    | none => Checked.fail .unparsableInteger
    | some cs => jsonInteger cs

def integerOfDouble (x : Binary64) : Checked Int :=
  if !x.isFinite then Checked.fail .notFinite
  else
    match x.toInt? with
    | none => Checked.fail .fractional
    | some i => if x.fitsInt64 then .ok i else Checked.fail .integerTooLarge

def asText : Data → Checked String
  | .str s => .ok s
  | .bytes b =>
    match Utf8.decode? b with
    | some s => .ok s
    | none => Checked.fail .undecodableText
  | _ => Checked.fail .notText

def asInteger : Data → Checked Int
  | .int i => .ok i
  | .bool b => .ok (if b then 1 else 0)
  | .float x => integerOfDouble x
  | .str s => integerOfText s
  | .bytes b =>
    match Utf8.decode? b with
    | some s => integerOfText s
    | none => Checked.fail .unparsableInteger
  | _ => Checked.fail .notInteger

def flagOfWord? (s : String) : Option Bool :=
  let w := s.toLower
  if s == "0" || ["f", "n", "no", "off", "false"].contains w then some false
  else if s == "1" || ["t", "y", "on", "yes", "true"].contains w then some true
  else none

def asFlag : Data → Checked Bool
  | .bool b => .ok b
  | .str s =>
    match flagOfWord? s with
    | some b => .ok b
    | none => Checked.fail .unreadableFlag
  | .bytes b =>
    match Utf8.decode? b >>= flagOfWord? with
    | some f => .ok f
    | none => Checked.fail .unreadableFlag
  | .int i =>
    if i == 0 then .ok false
    else if i == 1 then .ok true
    else if -(Nat.pow 2 63 : Int) ≤ i && i < (Nat.pow 2 63 : Int) then Checked.fail .unreadableFlag
    else Checked.fail .notFlag
  | .float x =>
    match integerOfDouble x with
    | .ok 0 => .ok false
    | .ok 1 => .ok true
    | .ok _ => Checked.fail .unreadableFlag
    | .error _ => Checked.fail .notFlag
  | _ => Checked.fail .notFlag

/-- Text with its underscores removed, unless it starts or ends with one or holds two in a
row. -/
def withoutUnderscores? (s : String) : Option String :=
  let cs := s.toList
  if cs.head? == some '_' || cs.getLast? == some '_' || (s.splitOn "__").length > 1 then none
  else some (String.ofList (cs.filter (· != '_')))

/-- The double in text, or why there is none: the text without blanks at its ends, or else the
whole text without its underscores. -/
def numberOfText (s : String) : Checked Binary64 :=
  match Binary64.ofText? (trimBlanks s) with
  | some x => .ok x
  | none =>
    match withoutUnderscores? s >>= Binary64.ofText? with
    | some x => .ok x
    | none => Checked.fail .unparsableNumber

def asNumber : Data → Checked Binary64
  | .float x => .ok x
  | .str s => numberOfText s
  | .bytes b =>
    match Utf8.decode? b with
    | some s => numberOfText s
    | none => Checked.fail .unparsableNumber
  | .bool b => .ok (Binary64.ofInt (if b then 1 else 0))
  | .int i =>
    let x := Binary64.ofInt i
    if x.isInf then Checked.fail .notNumber else .ok x
  | _ => Checked.fail .notNumber

/-- Checks a value for a list field; a collection met again inside itself is read as the
collection it repeats. -/
def asList : Data → Checked (List Data)
  | .seq xs => .ok xs
  | .loop t => t.asList
  | _ => Checked.fail .notList

def asDict : Data → Checked (List (Data × Data))
  | .map es => .ok es
  | .loop t => t.asDict
  | _ => Checked.fail .notDict

def asModel (name : String) : Data → Checked (List (Data × Data))
  | .map es => .ok es
  | .loop t => t.asModel name
  | _ => Checked.fail (.notModel name)

end Data

def Checked.textList (d : Data) : Checked (List String) :=
  d.asList >>= Checked.each Data.asText

/-- Entries with text keys put into a dictionary in order: a key met again keeps its first
place and takes the later value. -/
def mergeTextKeys {α : Type} (es : List (String × α)) : List (String × α) :=
  es.foldl (fun acc e =>
    if acc.any (·.1 == e.1) then acc.map (fun a => if a.1 == e.1 then e else a)
    else acc ++ [e]) []

/-- Checks a mapping of text keys to values checked by `f`: each key at `key.[key]`, each value
at its key.  Keys that become the same text (text and the bytes of that text) are one key of the
result, with the last value. -/
def Checked.textMap {α : Type} (f : Data → Checked α) (d : Data) :
    Checked (List (String × α)) :=
  match d.asDict with
  | .error es => .error es
  | .ok es =>
    let rec go : List (Data × Data) → Checked (List (String × α))
      | [] => .ok []
      | (k, v) :: rest =>
        let key := k.asText.within "[key]" |>.within k.locText
        let val := (f v).within k.locText
        match Checked.both (Checked.both key val) (go rest) with
        | .ok ((k', v'), tail) => .ok ((k', v') :: tail)
        | .error es => .error es
    (go es).map mergeTextKeys

end ClusterDeploy
