import ClusterDeploy.Data
import ClusterDeploy.Text.Echo
import ClusterDeploy.Text.Case
import ClusterDeploy.Yaml.Tag
import ClusterDeploy.Text.Space
import ClusterDeploy.Text.Base64

/-!
# Values of tagged scalars

Each scalar tag of the YAML type repository reads its text into a value:

* `null` is null, whatever the text;
* `bool` looks the lower-cased text up among `yes no true false on off`;
* `int` drops underscores, takes a sign, and reads `0b` binary, `0x` hexadecimal, `0`-led octal,
  base 60 (`1:30` is 90) or decimal;
* `float` drops underscores, lower-cases, takes a sign, and reads `.inf`, `.nan`, base 60 or a
  decimal;
* `timestamp` reads a day, or a day and a time with an optional fraction (cut to microseconds)
  and zone;
* `binary` decodes base64, skipping characters outside the alphabet.

Numbers are read the way the host's integer and float conversions read text: a decimal digit of
any script counts as its ASCII digit, white space of any script counts as a space, and ASCII
blanks around the number are dropped.  A base-60 float sums its places as doubles, each place
times its power of sixty rounded to a double.

Text that a tag cannot read is a `ScalarFault`; the faults of the number and date readers are
value errors of the host's conversions, and their wording follows those conversions.
-/

namespace ClusterDeploy

namespace Yaml

/-- Why the text of a tagged scalar is not a value of its tag. -/
inductive ScalarFault where
  /-- the text is not an integer in the base -/
  | notInteger (base : Nat) (text : String)
  /-- a decimal integer with more digits than conversions accept -/
  | tooManyDigits (count : Nat)
  /-- the text is not a decimal number -/
  | notFloat (text : String)
  /-- an integer too large for a double takes part in a product with one -/
  | floatOverflow
  /-- the text is empty where a first character is needed -/
  | emptyText
  /-- the lower-cased text is not a boolean word -/
  | notFlag (text : String)
  /-- the text does not have the form of a timestamp -/
  | notTimestamp
  /-- a part of a date or time is out of its range -/
  | outOfRange (message : String)
deriving DecidableEq, Repr, Inhabited

def ScalarFault.errorClass : ScalarFault → String
  | .notInteger _ _ | .tooManyDigits _ | .notFloat _ | .outOfRange _ => "ValueError"
  | .emptyText => "IndexError"
  | .notFlag _ => "KeyError"
  | .notTimestamp => "AttributeError"
  | .floatOverflow => "OverflowError"

def ScalarFault.message : ScalarFault → String
  | .notInteger base t => "invalid literal for int() with base " ++ toString base ++ ": " ++
      String.ofList ((Text.echo t).toList.take 200)
  | .tooManyDigits n => Data.longDecimalMessage n
  | .notFloat t => "could not convert string to float: " ++ Text.echo t
  | .emptyText => "string index out of range"
  | .notFlag t => Text.echo t
  | .notTimestamp => "'NoneType' object has no attribute 'groupdict'"
  | .outOfRange m => m
  | .floatOverflow => "int too large to convert to float"

def digitValue (c : Char) : Option Nat :=
  if c.isDigit then some (c.toNat - 48)
  else if 'a' ≤ c && c ≤ 'z' then some (c.toNat - 87)
  else if 'A' ≤ c && c ≤ 'Z' then some (c.toNat - 55)
  else none

/-- The characters of a numeral as the number readers see them: ASCII stays as it is, a decimal
digit of another script becomes its ASCII digit, other white space becomes a space, and any other
character becomes `?`, which no reader accepts. -/
def numeralChars (t : String) : List Char :=
  t.toList.map fun c =>
    if c.toNat < 127 then c
    else if Text.isSpace c then ' '
    else match Text.decimalValue? c with
      | some d => Char.ofNat (48 + d)
      | none => '?'

/-- whether a character is one of the six ASCII blanks: space, tab, line feed, vertical tab,
form feed and carriage return -/
def isAsciiBlank (c : Char) : Bool := c == ' ' || (9 ≤ c.toNat && c.toNat ≤ 13)

def trimAsciiBlanks (cs : List Char) : List Char :=
  ((cs.dropWhile isAsciiBlank).reverse.dropWhile isAsciiBlank).reverse

/-- The integer that text stands for in a base: blanks around, an optional sign, for bases 2, 8
and 16 an optional `0b`, `0o` or `0x`, then digits.  A run of more than `Data.decimalLimit`
digits in a base that is not a power of two is refused before anything after it is looked at. -/
def integerIn (base : Nat) (t : String) : Except ScalarFault Int :=
  let bad := ScalarFault.notInteger base t
  let cs := (numeralChars t).dropWhile isAsciiBlank
  let (neg, body) := match cs with
    | '-' :: r => (true, r)
    | '+' :: r => (false, r)
    | r => (false, r)
  let pfx := match base with
    | 2 => some 'b'
    | 8 => some 'o'
    | 16 => some 'x'
    | _ => none
  let body := match pfx, body with
    | some p, '0' :: c :: r => if c.toLower == p then r else body
    | _, _ => body
  let isDigitHere : Char → Bool := fun c => match digitValue c with
    | some d => d < base
    | none => false
  let digits := body.takeWhile isDigitHere
  let rest := body.dropWhile isDigitHere
  if digits.length > Data.decimalLimit && base != 2 && base != 8 && base != 16 then
    .error (.tooManyDigits digits.length)
  else if digits.isEmpty || !(rest.all isAsciiBlank) then .error bad
  else
    let n := digits.foldl (fun acc c => acc * base + (digitValue c).getD 0) 0
    .ok (if neg then -(n : Int) else n)

/-- The double that text stands for: blanks around, then a decimal or `inf`, `infinity`,
`nan`. -/
def floatOf (t : String) : Except ScalarFault Binary64 :=
  match Binary64.ofText? (String.ofList (trimAsciiBlanks (numeralChars t))) with
  | some x => .ok x
  | none => .error (.notFloat t)

/-- The sum of base-60 places, the least significant first, each place times `scale` and the
next scale sixty times larger.  As with any integer in a product with a double, the scale is
first rounded to a double, and a scale beyond the largest double is refused. -/
def sixtiethsSum (acc : Binary64) (scale : Nat) :
    List Binary64 → Except ScalarFault Binary64
  | [] => .ok acc
  | d :: rest =>
    let s := Binary64.ofRatio false scale 1
    if !s.isFinite then .error .floatOverflow
    else sixtiethsSum (acc.add (d.mul s)) (scale * 60) rest

def sixtiethsValue (parts : List Int) : Int :=
  parts.foldl (fun acc d => acc * 60 + d) 0

def intScalar (text : String) : Except ScalarFault Int := do
  let v := text.toList.filter (· != '_')
  let first ← match v.head? with
    | some c => pure c
    | none => throw ScalarFault.emptyText
  let sign : Int := if first == '-' then -1 else 1
  let v := if first == '+' || first == '-' then v.drop 1 else v
  let vs := String.ofList v
  if vs == "0" then return 0
  else if vs.startsWith "0b" then return sign * (← integerIn 2 (String.ofList (v.drop 2)))
  else if vs.startsWith "0x" then return sign * (← integerIn 16 (String.ofList (v.drop 2)))
  else match v with
    | [] => throw ScalarFault.emptyText
    | '0' :: _ => return sign * (← integerIn 8 vs)
    | _ =>
      if v.contains ':' then
        let parts ← (vs.splitOn ":").mapM (integerIn 10)
        return sign * sixtiethsValue parts
      else return sign * (← integerIn 10 vs)

def floatScalar (text : String) : Except ScalarFault Binary64 := do
  let v := (Text.lower text).toList.filter (· != '_')
  let first ← match v.head? with
    | some c => pure c
    | none => throw ScalarFault.emptyText
  let neg := first == '-'
  let v := if first == '+' || first == '-' then v.drop 1 else v
  let vs := String.ofList v
  let signed := fun (x : Binary64) => if neg then x.neg else x
  if vs == ".inf" then return signed Binary64.infinity
  else if vs == ".nan" then return Binary64.nan
  else if v.contains ':' then
    let parts ← (vs.splitOn ":").mapM floatOf
    return signed (← sixtiethsSum Binary64.zero 1 parts.reverse)
  else return signed (← floatOf vs)

def boolScalar (text : String) : Except ScalarFault Bool :=
  let w := Text.lower text
  if w == "yes" || w == "true" || w == "on" then .ok true
  else if w == "no" || w == "false" || w == "off" then .ok false
  else .error (.notFlag w)

def daysInMonth (year month : Nat) : Nat :=
  if month == 2 then
    (if year % 4 == 0 && (year % 100 != 0 || year % 400 == 0) then 29 else 28)
  else if month == 4 || month == 6 || month == 9 || month == 11 then 30
  else 31

def checkDate (year month day : Nat) : Except ScalarFault CalendarDate :=
  if year < 1 || year > 9999 then .error (.outOfRange ("year " ++ toString year ++ " is out of range"))
  else if month < 1 || month > 12 then .error (.outOfRange "month must be in 1..12")
  else if day < 1 || day > daysInMonth year month then
    .error (.outOfRange "day is out of range for month")
  else .ok ⟨year, month, day⟩

/-- The parts of a timestamp's text, as the text has them. -/
structure StampParts where
  year : List Char
  month : List Char
  day : List Char
  clock : Option (List Char × List Char × List Char × Option (List Char))
  zone : Option (Option (Bool × List Char × Option (List Char)))

def twoDigits? : List Char → Option (List Char × List Char)
  | a :: b :: rest =>
    if a.isDigit then (if b.isDigit then some ([a, b], rest) else some ([a], b :: rest)) else none
  | [a] => if a.isDigit then some ([a], []) else none
  | [] => none

def exactDigits? (n : Nat) (cs : List Char) : Option (List Char × List Char) :=
  if (cs.take n).length == n && (cs.take n).all Char.isDigit then some (cs.take n, cs.drop n)
  else none

/-- whether what is left of the text is nothing, or a final line feed -/
def atEnd (cs : List Char) : Bool := cs.isEmpty || cs == ['\n']

def stampParts? (t : String) : Option StampParts := do
  let (year, r) ← exactDigits? 4 t.toList
  let r ← Scan.lit "-" r
  let (month, r) ← twoDigits? r
  let r ← Scan.lit "-" r
  let (day, r) ← twoDigits? r
  if atEnd r then return ⟨year, month, day, none, none⟩
  let r ← Scan.orElse (Scan.one fun c => c == 'T' || c == 't') (Scan.many1 isBlankTab) r
  let (hour, r) ← twoDigits? r
  let r ← Scan.lit ":" r
  let (minute, r) ← exactDigits? 2 r
  let r ← Scan.lit ":" r
  let (second, r) ← exactDigits? 2 r
  let (fraction, r) := match r with
    | '.' :: rest => (some (rest.takeWhile Char.isDigit), rest.dropWhile Char.isDigit)
    | _ => (none, r)
  let clock := some (hour, minute, second, fraction)
  if atEnd r then return ⟨year, month, day, clock, none⟩
  let r := r.dropWhile isBlankTab
  match r with
  | 'Z' :: rest =>
    if atEnd rest then return ⟨year, month, day, clock, some none⟩ else none
  | s :: rest =>
    if s == '+' || s == '-' then
      let (zh, r) ← twoDigits? rest
      let (zm, r) := match r with
        | ':' :: a :: b :: rest => if a.isDigit && b.isDigit then (some [a, b], rest) else (none, r)
        | _ => (none, r)
      if atEnd r then return ⟨year, month, day, clock, some (some (s == '-', zh, zm))⟩ else none
    else none
  | [] => none

def digitsValue (cs : List Char) : Nat := cs.foldl (fun acc c => acc * 10 + (c.toNat - 48)) 0

/-- A time span of `minutes`, as it is echoed: whole days (rounded down) and the seconds left. -/
def spanText (minutes : Int) : String :=
  let secs := minutes * 60
  let days := secs.fdiv 86400
  let rest := secs - days * 86400
  "datetime.timedelta(" ++
    (if days != 0 then "days=" ++ toString days ++ (if rest != 0 then ", " else "") else "") ++
    (if rest != 0 then "seconds=" ++ toString rest else "") ++
    (if days == 0 && rest == 0 then "0" else "") ++ ")"

def timestampScalar (text : String) : Except ScalarFault Data := do
  let some p := stampParts? text | throw ScalarFault.notTimestamp
  let year := digitsValue p.year
  let month := digitsValue p.month
  let day := digitsValue p.day
  match p.clock with
  | none => return .date (← checkDate year month day)
  | some (h, m, s, fraction) =>
    let micro := match fraction with
      | some f => if f.isEmpty then 0 else digitsValue ((f.take 6) ++ List.replicate (6 - f.length) '0')
      | none => 0
    let offset ← match p.zone with
      | none => pure none
      | some none => pure (some 0)
      | some (some (neg, zh, zm)) =>
        let mins : Int := digitsValue zh * 60 + (zm.map digitsValue).getD 0
        let mins := if neg then -mins else mins
        if mins.natAbs ≥ 24 * 60 then
          throw (ScalarFault.outOfRange ("offset must be a timedelta strictly between " ++
            "-timedelta(hours=24) and timedelta(hours=24), not " ++ spanText mins ++ "."))
        else pure (some mins)
    let date ← checkDate year month day
    let hour := digitsValue h
    let minute := digitsValue m
    let second := digitsValue s
    if hour > 23 then throw (ScalarFault.outOfRange "hour must be in 0..23")
    if minute > 59 then throw (ScalarFault.outOfRange "minute must be in 0..59")
    if second > 59 then throw (ScalarFault.outOfRange "second must be in 0..59")
    return .time ⟨date, hour, minute, second, micro, offset⟩

end Yaml

end ClusterDeploy
