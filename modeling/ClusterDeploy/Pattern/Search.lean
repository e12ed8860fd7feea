import ClusterDeploy.Pattern.Parse

/-!
# Searching text for a pattern

`Compiled.search` finds the first place at or after a start where a compiled pattern matches,
and where that match ends.  Matching backtracks: alternatives are tried left to right, a greedy
repetition tries its most iterations first and a lazy one its fewest, and the first way that
lets the rest of the pattern match is the match.

* A repetition stops iterating once an iteration beyond its least count matched nothing, so
  that a body that can match nothing does not loop.
* An atomic group, a possessive repetition and a look-around keep the first way their body
  matches and never try another.
* A look-behind starts its body its fixed width before the place, which must be that far in.
* A back reference matches the text its group captured last; a group that has not captured
  matches nothing.
* Anchors look at the whole text, not only the part searched: `^` holds at its start, and
  after a line feed when lines count.

The matcher passes on what must match next as a function (`Rest`), and `fuel` bounds how deep
that nesting goes.
-/

namespace ClusterDeploy

namespace Pattern

/-- Where a match stands: the next position in the text, and the span each group captured. -/
structure Cursor where
  pos : Nat
  spans : Array (Option (Nat × Nat))
deriving Inhabited

/-- What must match after a piece, from where the piece left off. -/
abbrev Rest := Cursor → Option Cursor

def lowerByte (b : UInt8) : UInt8 := if 65 ≤ b && b ≤ 90 then b + 32 else b

def upperByte (b : UInt8) : UInt8 := if 97 ≤ b && b ≤ 122 then b - 32 else b

/-- whether a byte is a word byte: an ASCII letter or digit, or the underscore -/
def isWordByte (b : UInt8) : Bool := isAsciiLetter b || isDigit b || b == 95

def Category.has : Category → UInt8 → Bool
  | .digit, b => isDigit b
  | .space, b => b == 32 || (9 ≤ b && b ≤ 13)
  | .word, b => isWordByte b

def Member.has : Member → UInt8 → Bool
  | .byte c, b => b == c
  | .range lo hi, b => lo ≤ b && b ≤ hi
  | .category c negated, b => c.has b != negated

def Modes.switch (m : Modes) (on off : List Char) : Modes :=
  let flag := fun (c : Char) (now : Bool) => (now || on.contains c) && !off.contains c
  ⟨flag 'i' m.ignoreCase, flag 'm' m.multiline, flag 's' m.dotAll, flag 'x' m.verbose⟩

/-- Whether two bytes are equal, in ASCII case folded when case is ignored. -/
def Modes.same (m : Modes) (a b : UInt8) : Bool :=
  if m.ignoreCase then lowerByte a == lowerByte b else a == b

/-- Whether a set takes a byte; when case is ignored, a byte is in the set if either of its
cases is. -/
def setHas (m : Modes) (negated : Bool) (members : List Member) (b : UInt8) : Bool :=
  let has := fun x => members.any (·.has x)
  let found := if m.ignoreCase then has (lowerByte b) || has (upperByte b) else has b
  found != negated

/-- The test a piece that matches exactly one byte puts to that byte, if the piece is one. -/
def Node.unit? (m : Modes) : Node → Option (UInt8 → Bool)
  | .byte c => some (m.same c)
  | .set negated members => some (setHas m negated members)
  | .any => some fun b => m.dotAll || b != 10
  | .group none on off [n] => n.unit? (m.switch on off)
  | _ => none

/-- the test a body that matches exactly one byte puts to it, if it is such a body -/
def unitBody? (m : Modes) : List Node → Option (UInt8 → Bool)
  | [n] => n.unit? m
  | _ => none

section Search

variable (text : Array UInt8)

def Anchor.holds (m : Modes) (pos : Nat) : Anchor → Bool
  | .lineStart => pos == 0 || (m.multiline && text[pos - 1]? == some 10)
  | .lineEnd =>
    pos == text.size || (m.multiline && text[pos]? == some 10) ||
      (!m.multiline && pos + 1 == text.size && text[pos]? == some 10)
  | .textStart => pos == 0
  | .textEnd => pos == text.size
  | .boundary => text.size != 0 && (wordBefore pos != wordAt pos)
  | .inside => text.size != 0 && (wordBefore pos == wordAt pos)
where
  wordAt (i : Nat) : Bool := (text[i]?.map isWordByte).getD false
  wordBefore (i : Nat) : Bool := i != 0 && wordAt (i - 1)

/-- The number of bytes from `pos` on, at most `limit`, that pass a test. -/
def runLength (ok : UInt8 → Bool) (pos : Nat) : Nat → Nat → Nat
  | 0, acc => acc
  | limit + 1, acc =>
    match text[pos + acc]? with
    | some b => if ok b then runLength ok pos limit (acc + 1) else acc
    | none => acc

def repeats (m : Modes) (s e pos : Nat) : Bool :=
  pos + (e - s) ≤ text.size &&
    (List.range (e - s)).all fun j => m.same (text.getD (s + j) 0) (text.getD (pos + j) 0)

/-- A repetition of a body that matches one byte: all the bytes that pass its test are counted
at once, and the rest is tried after each count the repetition allows, in the order of its
greed. -/
def repeatUnit (ok : UInt8 → Bool) (lo : Nat) (hi : Option Nat) (g : Greed) (c : Cursor)
    (k : Rest) : Option Cursor :=
  let room := text.size - c.pos
  let limit := match hi with
    | some h => min h room
    | none => room
  let run := runLength text ok c.pos limit 0
  if run < lo then none
  else match g with
    | .greedy => (List.range (run - lo + 1)).findSome? fun j => k { c with pos := c.pos + run - j }
    | .lazy => (List.range (run - lo + 1)).findSome? fun j => k { c with pos := c.pos + lo + j }
    | .possessive => k { c with pos := c.pos + run }

mutual

def seqAt : Nat → Modes → List Node → Cursor → Rest → Option Cursor
  | 0, _, _, _, _ => none
  | _ + 1, _, [], c, k => k c
  | fuel + 1, m, n :: ns, c, k => nodeAt fuel m n c fun c' => seqAt fuel m ns c' k

def nodeAt : Nat → Modes → Node → Cursor → Rest → Option Cursor
  | 0, _, _, _, _ => none
  | fuel + 1, m, node, c, k =>
    match node with
    | .anchor a => if a.holds text m c.pos then k c else none
    | .repeated lo hi g body =>
      match unitBody? m body, g with
      | some ok, _ => repeatUnit text ok lo hi g c k
      | none, .greedy => greedyAt fuel m lo hi body 0 none c k
      | none, .lazy => lazyAt fuel m lo hi body 0 none c k
      | none, .possessive => possessiveAt fuel m lo hi body 0 none c k
    | .group index on off body =>
      seqAt fuel (m.switch on off) body c fun c' =>
        match index with
        | some i => k { c' with spans := c'.spans.set! i (some (c.pos, c'.pos)) }
        | none => k c'
    | .atomic body =>
      match seqAt fuel m body c some with
      | some c' => k c'
      | none => none
    | .branch alts => branchAt fuel m alts c k
    | .look behind negated body =>
      let width := (seqWidth body).1
      let from? := if !behind then some c.pos
        else if width ≤ c.pos then some (c.pos - width) else none
      let found := match from? with
        | some s => seqAt fuel m body { c with pos := s } some
        | none => none
      match found, negated with
      | some c', false => k { c' with pos := c.pos }
      | none, true => k c
      | _, _ => none
    | .backref i _ =>
      match c.spans[i]? with
      | some (some (s, e)) =>
        if repeats text m s e c.pos then k { c with pos := c.pos + (e - s) } else none
      | _ => none
    | .ifGroup i yes no =>
      match c.spans[i]? with
      | some (some _) => seqAt fuel m yes c k
      | _ => seqAt fuel m (no.getD []) c k
    | n =>
      match n.unit? m, text[c.pos]? with
      | some ok, some b => if ok b then k { c with pos := c.pos + 1 } else none
      | _, _ => none

def branchAt : Nat → Modes → List (List Node) → Cursor → Rest → Option Cursor
  | 0, _, _, _, _ => none
  | _ + 1, _, [], _, _ => none
  | fuel + 1, m, a :: rest, c, k =>
    (seqAt fuel m a c k).orElse fun _ => branchAt fuel m rest c k

/-- A greedy repetition after `count` iterations, the last optional one begun at `last`:
another iteration first, then the rest. -/
def greedyAt : Nat → Modes → Nat → Option Nat → List Node → Nat → Option Nat → Cursor →
    Rest → Option Cursor
  | 0, _, _, _, _, _, _, _, _ => none
  | fuel + 1, m, lo, hi, body, count, last, c, k =>
    if count < lo then
      seqAt fuel m body c fun c' => greedyAt fuel m lo hi body (count + 1) last c' k
    else
      let more := if hi.all (count < ·) && last != some c.pos then
          seqAt fuel m body c fun c' => greedyAt fuel m lo hi body (count + 1) (some c.pos) c' k
        else none
      more.orElse fun _ => k c

/-- A lazy repetition after `count` iterations: the rest first, then another iteration. -/
def lazyAt : Nat → Modes → Nat → Option Nat → List Node → Nat → Option Nat → Cursor →
    Rest → Option Cursor
  | 0, _, _, _, _, _, _, _, _ => none
  | fuel + 1, m, lo, hi, body, count, last, c, k =>
    if count < lo then
      seqAt fuel m body c fun c' => lazyAt fuel m lo hi body (count + 1) last c' k
    else
      (k c).orElse fun _ =>
        if hi.all (count < ·) && last != some c.pos then
          seqAt fuel m body c fun c' => lazyAt fuel m lo hi body (count + 1) (some c.pos) c' k
        else none

/-- A possessive repetition after `count` iterations, the last begun at `last`: each iteration
is the first way the body matches, and iterating stops at the first that fails or matches
nothing. -/
def possessiveAt : Nat → Modes → Nat → Option Nat → List Node → Nat → Option Nat → Cursor →
    Rest → Option Cursor
  | 0, _, _, _, _, _, _, _, _ => none
  | fuel + 1, m, lo, hi, body, count, last, c, k =>
    if count < lo then
      match seqAt fuel m body c some with
      | some c' => possessiveAt fuel m lo hi body (count + 1) none c' k
      | none => none
    else if hi.all (count < ·) && last != some c.pos then
      match seqAt fuel m body c some with
      | some c' => possessiveAt fuel m lo hi body (count + 1) (some c.pos) c' k
      | none => k c
    else k c

end

end Search

/-- The first match of a pattern in a text at or after `start`: where it begins and where it
ends. -/
def Compiled.search (p : Compiled) (text : Array UInt8) (start : Nat) : Option (Nat × Nat) :=
  let first := min start text.size
  let fuel := (text.size + 2) * (p.length + 2) * 4 + 65536
  let spans : Array (Option (Nat × Nat)) := Array.replicate p.groups none
  (List.range (text.size + 1 - first)).findSome? fun i =>
    (seqAt text fuel p.modes p.nodes ⟨first + i, spans⟩ some).map fun c => (first + i, c.pos)

end Pattern

end ClusterDeploy
