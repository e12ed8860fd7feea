import ClusterDeploy.Net.IpAddress
import ClusterDeploy.Text.Case
import ClusterDeploy.Text.Echo

/-!
# URLs

`Url.split` cuts a URL into scheme, network location, path, query and fragment, the way generic
URL syntax reads them: a scheme is a letter and then letters, digits, `+`, `-`, `.` up to the first
colon; the network location follows `//` up to the first `/`, `?` or `#`.  Leading blanks and
controls are dropped and tabs and line breaks removed first.  A network location with a bracket
must have both.  Its host and port, after its last `@`, are then checked (`Url.checkBracketed`):
a bracket there must open the host and close it before the port, and what the brackets enclose
must be an IPv6 address (or an `IPvFuture` form); with no bracket there, the host must be such an
address itself, unbracketed.  The network location may not hold a character whose compatibility
form is a delimiter (`Url.hidesDelimiter`).

`UrlParts.hostname` is the host in lower case without brackets; `UrlParts.port` is the port,
which must be ASCII digits, at most `Data.decimalLimit` of them, in `0 … 65535`.
-/

namespace ClusterDeploy

/-- Why a URL was refused. -/
inductive UrlError where
  | invalidIPv6
  | invalidFuture
  | bracketedV4
  | notAnAddress (text : String)
  | portNotInteger (text : String)
  | portTooLong (digits : Nat)
  | portOutOfRange
  | compatibilityDelimiter (netloc : String)
deriving DecidableEq, Repr

def UrlError.message : UrlError → String
  | .invalidIPv6 => "Invalid IPv6 URL"
  | .invalidFuture => "IPvFuture address is invalid"
  | .bracketedV4 => "An IPv4 address cannot be in brackets"
  | .notAnAddress t => Text.echo t ++ " does not appear to be an IPv4 or IPv6 address"
  | .portNotInteger t => "Port could not be cast to integer value as " ++ Text.echo t
  | .portTooLong n => Data.longDecimalMessage n
  | .portOutOfRange => "Port out of range 0-65535"
  | .compatibilityDelimiter n =>
    "netloc '" ++ n ++ "' contains invalid characters under NFKC normalization"

/-- The five parts of a URL. -/
structure UrlParts where
  scheme : String
  netloc : String
  path : String
  query : String
  fragment : String
deriving DecidableEq, Repr

namespace Url

def isSchemeChar (c : Char) : Bool :=
  (c.isAlphanum && c.toNat < 128) || c == '+' || c == '-' || c == '.'

/-- Splits at the first occurrence of `c`: the part before and, if `c` occurs, the part after. -/
def splitFirst (cs : List Char) (c : Char) : List Char × Option (List Char) :=
  match cs.idxOf? c with
  | some i => (cs.take i, some (cs.drop (i + 1)))
  | none => (cs, none)

def splitLast (cs : List Char) (c : Char) : Option (List Char) × List Char :=
  match splitFirst cs.reverse c with
  | (after, some before) => (some before.reverse, after.reverse)
  | (all, none) => (none, all.reverse)

def checkBracketedHost (h : String) : Except UrlError Unit :=
  if h.startsWith "v" then
    let cs := h.toList.drop 1
    let hex := cs.takeWhile (fun c => c.isDigit || ('a' ≤ c && c ≤ 'f') || ('A' ≤ c && c ≤ 'F'))
    let rest := cs.drop hex.length
    if !hex.isEmpty && rest.head? == some '.' && rest.length ≥ 2 && !rest.contains '\n' then .ok ()
    else .error .invalidFuture
  else if IpAddress.isV4 h then .error .bracketedV4
  else if IpAddress.isV6 h then .ok ()
  else .error (.notAnAddress h)

/-- Checks a network location holding brackets, from its last `@` on (the host and the port).
Where a `[` stands there, nothing may come before it, only a port after `:` may follow the first
`]` after it, and what the two enclose must be a bracketed host; where none stands, the host
before the first `:` must be one. -/
def checkBracketed (netloc : String) : Except UrlError Unit := do
  let hostAndPort := (splitLast netloc.toList '@').2
  match splitFirst hostAndPort '[' with
  | (before, some bracketed) =>
    if !before.isEmpty then throw .invalidIPv6
    let (host, port) := splitFirst bracketed ']'
    if let some p := port then
      if !p.isEmpty && p.head? != some ':' then throw .invalidIPv6
    checkBracketedHost (String.ofList host)
  | (_, none) => checkBracketedHost (String.ofList (splitFirst hostAndPort ':').1)

/-- The characters whose compatibility form holds one of the delimiters `/ ? # @ :`, such as the
account-of sign `℀` (`a/c`) or the fullwidth solidus.  Host names are compared after
compatibility normalization, so a network location that holds one of them could name a different
place once normalized. -/
def hidesDelimiter (c : Char) : Bool :=
  [0x2047, 0x2048, 0x2049, 0x2100, 0x2101, 0x2105, 0x2106, 0x2A74, 0xFE13, 0xFE16, 0xFE55,
    0xFE56, 0xFE5F, 0xFE6B, 0xFF03, 0xFF0F, 0xFF1A, 0xFF1F, 0xFF20].contains c.toNat

def isLeadingJunk (c : Char) : Bool := c.toNat ≤ 32

def split (url : String) : Except UrlError UrlParts :=
  let cs := (url.toList.dropWhile isLeadingJunk).filter (fun c => c != '\t' && c != '\r' && c != '\n')
  let (scheme, rest) :=
    match cs.idxOf? ':' with
    | some i =>
      match cs.head? with
      | some c0 =>
        if i > 0 && c0.toNat < 128 && c0.isAlpha && (cs.take i).all isSchemeChar then
          (String.ofList ((cs.take i).map Char.toLower), cs.drop (i + 1))
        else ("", cs)
      | none => ("", cs)
    | none => ("", cs)
  let (netloc, rest) :=
    if rest.take 2 == ['/', '/'] then
      let r := rest.drop 2
      let n := r.takeWhile (fun c => c != '/' && c != '?' && c != '#')
      (some n, r.drop n.length)
    else (none, rest)
  let netlocCheck : Except UrlError Unit :=
    match netloc with
    | none => .ok ()
    | some n =>
      if (n.contains '[' && !n.contains ']') || (n.contains ']' && !n.contains '[') then
        .error .invalidIPv6
      else if n.contains '[' && n.contains ']' then checkBracketed (String.ofList n)
      else .ok ()
  let netlocCheck : Except UrlError Unit := netlocCheck.bind fun () =>
    match netloc with
    | some n => if n.any hidesDelimiter then .error (.compatibilityDelimiter (String.ofList n))
      else .ok ()
    | none => .ok ()
  match netlocCheck with
  | .error e => .error e
  | .ok () =>
    let (rest, fragment) := splitFirst rest '#'
    let (path, query) := splitFirst rest '?'
    .ok ⟨scheme, String.ofList (netloc.getD []), String.ofList path,
      String.ofList (query.getD []), String.ofList (fragment.getD [])⟩

end Url

namespace UrlParts

def hostInfo (u : UrlParts) : List Char × Option (List Char) :=
  let info := (Url.splitLast u.netloc.toList '@').2
  match Url.splitFirst info '[' with
  | (_, some bracketed) =>
    let (host, after) := Url.splitFirst bracketed ']'
    let port := (Url.splitFirst (after.getD []) ':').2
    (host, match port with | some [] => none | p => p)
  | (_, none) =>
    let (host, port) := Url.splitFirst info ':'
    (host, match port with | some [] => none | p => p)

/-- The host in lower case (a zone after `%` keeps its case), empty when there is none. -/
def hostname (u : UrlParts) : String :=
  let (host, zone) := Url.splitFirst u.hostInfo.1 '%'
  Text.lower (String.ofList host) ++
    match zone with
    | some z => "%" ++ String.ofList z
    | none => ""

def port (u : UrlParts) : Except UrlError (Option Nat) :=
  match u.hostInfo.2 with
  | none => .ok none
  | some p =>
    if p.all (fun c => c.isDigit) then
      let n := p.foldl (fun acc c => 10 * acc + (c.toNat - 48)) 0
      if p.length > Data.decimalLimit then .error (.portTooLong p.length)
      else if n > 65535 then .error .portOutOfRange else .ok (some n)
    else .error (.portNotInteger (String.ofList p))

end UrlParts

end ClusterDeploy
