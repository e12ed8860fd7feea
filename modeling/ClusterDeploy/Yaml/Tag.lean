/-!
# Implicit tags of plain scalars

A plain scalar without a tag gets one from its text, by the YAML 1.1 type repository:

* `bool`       `yes no true false on off` in lower, capitalised or upper case;
* `float`      a decimal with a point (`1.5`, `1.`, `.5`, `._5`, `1_000.0`, `1.5e+3`), base 60 with a
               fraction (`1:30.5`), `.inf`, `-.inf`, `.nan`;
* `int`        decimal, `0b` binary, `0`-led octal, `0x` hexadecimal, base 60 (`1:30`), with
               underscores allowed among the digits;
* `merge`      `<<`;
* `null`       `~`, `null`, `Null`, `NULL` and the empty text;
* `timestamp`  `2001-12-14`, or a date and a time with an optional fraction and zone;
* `value`      `=`;
* `str`        everything else.

Only the types whose first characters fit the text's first character are tried, in the order
above.  A text matches when all of it matches, or all of it but a final line feed.

The patterns are read by `Scan`s: each consumes a prefix of the text, greedily, and gives back
the rest.  Greedy reading is exact for these patterns, because whatever may follow an optional
or repeated part can never start like it.
-/

namespace ClusterDeploy

namespace Yaml

def repoTag (name : String) : String := "tag:yaml.org,2002:" ++ name

/-- A reader of a prefix: the rest of the text, if the prefix fits. -/
abbrev Scan := List Char → Option (List Char)

namespace Scan

def one (p : Char → Bool) : Scan
  | c :: cs => if p c then some cs else none
  | [] => none

def many (p : Char → Bool) : Scan := fun cs => some (cs.dropWhile p)

/-- at least one character that satisfies `p`, then as many as satisfy it -/
def many1 (p : Char → Bool) : Scan := fun cs => one p cs >>= many p

def lit (s : String) : Scan := fun cs =>
  if s.toList.isPrefixOf cs then some (cs.drop s.length) else none

def opt (s : Scan) : Scan := fun cs => (s cs).getD cs

def andThen (a b : Scan) : Scan := fun cs => a cs >>= b

def orElse (a b : Scan) : Scan := fun cs => (a cs).orElse fun _ => b cs

def chain : List Scan → Scan
  | [] => some
  | s :: ss => andThen s (chain ss)

/-- whether `s` reads all of the text, or all of it but a final line feed -/
def whole (s : Scan) (t : String) : Bool :=
  match s t.toList with
  | some [] => true
  | some ['\n'] => true
  | _ => false

def digits12 : Scan := andThen (one Char.isDigit) (opt (one Char.isDigit))

/-- A base-60 place: `:` and one digit, or two digits of which the first is at most 5. -/
def sixtiethPlace : Scan
  | ':' :: a :: b :: rest =>
    if '0' ≤ a && a ≤ '5' && b.isDigit then some rest
    else if a.isDigit then some (b :: rest) else none
  | [':', a] => if a.isDigit then some [] else none
  | _ => none

def sixtiethPlaces : Scan := fun cs =>
  let rec more : Nat → List Char → List Char
    | 0, cs => cs
    | fuel + 1, cs =>
      match sixtiethPlace cs with
      | some rest => more fuel rest
      | none => cs
  (sixtiethPlace cs).map (more cs.length)

end Scan

open Scan

def signScan : Scan := opt (one fun c => c == '+' || c == '-')

def isDigitOrUnderscore (c : Char) : Bool := c.isDigit || c == '_'

def exponentScan : Scan :=
  chain [one (fun c => c == 'e' || c == 'E'), one (fun c => c == '+' || c == '-'),
    many1 Char.isDigit]

def isBoolWord (t : String) : Bool :=
  ["yes", "Yes", "YES", "no", "No", "NO", "true", "True", "TRUE", "false", "False", "FALSE",
    "on", "On", "ON", "off", "Off", "OFF"].any fun w => whole (lit w) t

def isFloatText (t : String) : Bool :=
  whole (chain [signScan, one Char.isDigit, many isDigitOrUnderscore, lit ".",
    many isDigitOrUnderscore, opt exponentScan]) t ||
  whole (chain [lit ".", many1 isDigitOrUnderscore, opt exponentScan]) t ||
  whole (chain [signScan, one Char.isDigit, many isDigitOrUnderscore, sixtiethPlaces, lit ".",
    many isDigitOrUnderscore]) t ||
  whole (chain [signScan, lit ".", orElse (lit "inf") (orElse (lit "Inf") (lit "INF"))]) t ||
  whole (chain [lit ".", orElse (lit "nan") (orElse (lit "NaN") (lit "NAN"))]) t

def isIntText (t : String) : Bool :=
  whole (chain [signScan, lit "0b", many1 (fun c => c == '0' || c == '1' || c == '_')]) t ||
  whole (chain [signScan, lit "0", many1 (fun c => ('0' ≤ c && c ≤ '7') || c == '_')]) t ||
  whole (chain [signScan, orElse (lit "0")
    (andThen (one fun c => '1' ≤ c && c ≤ '9') (many isDigitOrUnderscore))]) t ||
  whole (chain [signScan, lit "0x", many1 (fun c => c.isDigit || ('a' ≤ c && c ≤ 'f') ||
    ('A' ≤ c && c ≤ 'F') || c == '_')]) t ||
  whole (chain [signScan, one (fun c => '1' ≤ c && c ≤ '9'), many isDigitOrUnderscore,
    sixtiethPlaces]) t

def isNullWord (t : String) : Bool :=
  ["~", "null", "Null", "NULL", ""].any fun w => whole (lit w) t

def isBlankTab (c : Char) : Bool := c == ' ' || c == '\t'

def zoneScan : Scan :=
  orElse (lit "Z")
    (chain [one (fun c => c == '+' || c == '-'), digits12,
      opt (chain [lit ":", one Char.isDigit, one Char.isDigit])])

def isTimestampText (t : String) : Bool :=
  let d := one Char.isDigit
  whole (chain [d, d, d, d, lit "-", d, d, lit "-", d, d]) t ||
  whole (chain [d, d, d, d, lit "-", digits12, lit "-", digits12,
    orElse (one fun c => c == 'T' || c == 't') (many1 isBlankTab),
    digits12, lit ":", d, d, lit ":", d, d, opt (andThen (lit ".") (many Char.isDigit)),
    opt (andThen (many isBlankTab) zoneScan)]) t

def implicitTag (t : String) : String :=
  let first := t.toList.head?
  let starts (cs : String) : Bool := match first with
    | some c => cs.toList.contains c
    | none => false
  if starts "yYnNtTfFoO" && isBoolWord t then repoTag "bool"
  else if starts "-+0123456789." && isFloatText t then repoTag "float"
  else if starts "-+0123456789" && isIntText t then repoTag "int"
  else if starts "<" && whole (lit "<<") t then repoTag "merge"
  else if (first.isNone || starts "~nN") && isNullWord t then repoTag "null"
  else if starts "0123456789" && isTimestampText t then repoTag "timestamp"
  else if starts "=" && whole (lit "=") t then repoTag "value"
  else repoTag "str"

end Yaml

end ClusterDeploy
