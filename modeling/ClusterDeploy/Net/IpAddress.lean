/-!
# IP address literals

`IpAddress.isV4` accepts the dotted-quad form: four decimal parts of one to three digits without
leading zeros, each at most 255.  `IpAddress.isV6` accepts the colon form: eight groups of one to
four hexadecimal digits, or fewer with one `::` standing for the missing ones, the last two
groups possibly written as a dotted quad, and an optional non-empty `%zone` suffix.
-/

namespace ClusterDeploy

namespace IpAddress

def isV4Part (p : String) : Bool :=
  let cs := p.toList
  !cs.isEmpty && cs.length ≤ 3 && cs.all Char.isDigit &&
    (cs.length == 1 || cs.head? != some '0') &&
    cs.foldl (fun acc c => 10 * acc + (c.toNat - 48)) 0 ≤ 255

/-- The fields of a text: what stands between the occurrences of `c`. -/
def fields (s : String) (c : Char) : List String := (s.toList.splitOn c).map String.ofList

def isV4 (s : String) : Bool :=
  let parts := fields s '.'
  parts.length == 4 && parts.all isV4Part

def isHextet (p : String) : Bool :=
  let cs := p.toList
  !cs.isEmpty && cs.length ≤ 4 &&
    cs.all (fun c => c.isDigit || ('a' ≤ c && c ≤ 'f') || ('A' ≤ c && c ≤ 'F'))

/-- whether the groups of an address (its last two groups already in hexadecimal) form an
IPv6 address: eight groups, or one empty group inside standing for at least one missing group,
with an empty first or last group only beside it -/
def groupsOk (parts : List String) : Bool :=
  let n := parts.length
  if n > 9 then false
  else
    let firstEmpty := parts.head? == some ""
    let lastEmpty := parts.getLast? == some ""
    match (List.range n).filter (fun i => 0 < i && i + 1 < n && parts[i]? == some "") with
    | [] => n == 8 && !firstEmpty && !lastEmpty && parts.all isHextet
    | [skip] =>
      let hi := if firstEmpty then skip - 1 else skip
      let lo := if lastEmpty then n - skip - 2 else n - skip - 1
      (!firstEmpty || hi == 0) && (!lastEmpty || lo == 0) && hi + lo < 8 &&
        (parts.take hi).all isHextet && (parts.drop (n - lo)).all isHextet
    | _ => false

def isV6 (s : String) : Bool :=
  let (addr, zoneOk) := match fields s '%' with
    | [a] => (a, true)
    | [a, z] => (a, !z.isEmpty)
    | _ => ("", false)
  let parts := fields addr ':'
  if !zoneOk || addr.isEmpty || parts.length < 3 then false
  else
    match parts.getLast? with
    | some last =>
      if last.toList.contains '.' then isV4 last && groupsOk (parts.dropLast ++ ["0", "0"])
      else groupsOk parts
    | none => false

end IpAddress

end ClusterDeploy
