import ClusterDeploy.Data

/-!
# The order of a set's members

A set keeps its members in a table of `2 ^ k` slots, each member in a slot chosen by its hash,
and lists them in slot order.  A set read from YAML is filled with the members of a mapping, in
the order the document gives them, so its order is that of the table after those additions.

* `Data.hashCode?` is the hash of a number: its value reduced modulo the prime `2 ^ 61 - 1` (a
  fraction `n / 2 ^ k` counts as `n · 2 ^ (-k)`), negated for a negative number, `-1` becoming
  `-2`; an infinity hashes to `± 314159`.  Text, bytes, dates and NaN hash with a key chosen
  afresh for every process, so a set holding one has no fixed order, and `Data.inSetOrder`
  leaves the document's order.
* A member goes to the first free slot of its probe sequence (`Table.freeSlot`): from slot
  `h mod size`, that slot and, when they lie inside the table, the nine after it; then a jump to
  `(5 i + 1 + p) mod size`, where `p` is the hash as an unsigned 64-bit word, shifted right by
  five more bits before every jump.
* The table starts with 8 slots.  Before `n` members are added at once it grows to the least
  power of two above `2 n` when `5 n ≥ 21`, and after an addition that leaves
  `5 · filled ≥ 3 · (size - 1)` it grows to the least power of two above `4 · filled`; growing
  adds the members again in slot order.
-/

namespace ClusterDeploy

namespace Data

def hashModulus : Nat := Nat.pow 2 61 - 1

/-- The hash of the number `±(n / d)`, where `d` is a power of two. -/
def numberHash (negative : Bool) (n d : Nat) : Int :=
  let k := Nat.log2 d
  let h : Int := (n % hashModulus * Nat.pow 2 ((61 - k % 61) % 61) % hashModulus : Nat)
  let v := if negative then -h else h
  if v == -1 then -2 else v

/-- The hash of a value whose hash is the same in every process: booleans and numbers other
than NaN. -/
def hashCode? : Data → Option Int
  | .bool b => some (if b then 1 else 0)
  | .int i => some (numberHash (i < 0) i.natAbs 1)
  | .float x =>
    if x.isNaN then none
    else if x.isInf then some (if x.negative then -314159 else 314159)
    else
      let (neg, n, d) := x.toRatio
      some (numberHash neg n d)
  | _ => none

end Data

namespace SetOrder

/-- A table of slots, each free or holding a member's hash and its place among the members. -/
abbrev Table := Array (Option (UInt64 × Nat))

def Table.isFree (t : Table) (i : Nat) : Bool :=
  match t[i]? with
  | some none => true
  | _ => false

/-- The first free slot of the probe sequence that is at slot `i` with the rest `perturb` of
the hash; `fuel` bounds the jumps. -/
def Table.freeSlot (t : Table) (mask : UInt64) : Nat → UInt64 → UInt64 → Nat
  | 0, i, _ => i.toNat
  | fuel + 1, i, perturb =>
    let near := if i + 9 ≤ mask then List.range 10 else [0]
    match near.find? fun j => t.isFree (i.toNat + j) with
    | some j => i.toNat + j
    | none =>
      let p := perturb >>> 5
      t.freeSlot mask fuel ((i * 5 + 1 + p) &&& mask) p

/-- The table with a member of hash `h`, the `place`-th member, put in its slot. -/
def Table.insert (t : Table) (h : UInt64) (place : Nat) : Table :=
  let mask := (t.size - 1).toUInt64
  t.set! (t.freeSlot mask (64 + t.size) (h &&& mask) h) (some (h, place))

def Table.members (t : Table) : List (UInt64 × Nat) := t.toList.filterMap id

def sizeAbove (n : Nat) : Nat := max 8 (Nat.pow 2 (Nat.log2 n + 1))

/-- A table of `size` slots holding the members of `t`, added again in slot order. -/
def Table.grow (t : Table) (size : Nat) : Table :=
  t.members.foldl (fun acc m => acc.insert m.1 m.2) (Array.replicate size none)

/-- The table after adding members of hashes `hs` one after another, numbered from `place`,
`filled` slots being taken before. -/
def Table.addAll (t : Table) (filled place : Nat) : List UInt64 → Table
  | [] => t
  | h :: hs =>
    let t := t.insert h place
    let filled := filled + 1
    let t := if filled * 5 ≥ (t.size - 1) * 3 then
        t.grow (sizeAbove (if filled > 50000 then filled * 2 else filled * 4))
      else t
    t.addAll filled (place + 1) hs

/-- The places of the members in the order a set lists them, for members of hashes `hs` added
at once to an empty set. -/
def order (hs : List UInt64) : List Nat :=
  let n := hs.length
  let start : Table := Array.replicate (if n * 5 ≥ 21 then sizeAbove (2 * n) else 8) none
  ((start.addAll 0 0 hs).members).map (·.2)

end SetOrder

namespace Data

/-- The members of a set, given in the order they were added, in the order the set lists them;
the given order when a member's hash differs from process to process. -/
def inSetOrder (members : List Data) : List Data :=
  match members.mapM hashCode? with
  | some hs =>
    let words := hs.map fun h => UInt64.ofNat (h % Int.pow 2 64).toNat
    (SetOrder.order words).filterMap fun i => members[i]?
  | none => members

end Data

end ClusterDeploy
