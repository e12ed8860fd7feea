import ClusterDeploy.Text.Unicode

/-!
# Lower case

`Text.lower` maps text to lower case the way Unicode's full case mapping does.  Most letters
have a one-letter lower case (`Text.lowerSimple`).  A capital dotted I becomes `i` followed by a
combining dot above, so one character may become two.  A capital sigma becomes the final small
sigma `ς` where it ends a word, and `σ` elsewhere.  It ends a word when a cased character comes
before it and none comes after it, looking past case-ignorable characters on both sides.  The
context is read in the text as given, not in its lower case.
-/

namespace ClusterDeploy

namespace Text

/-- whether a capital sigma with `before` (nearest first) and `after` it ends a word -/
def endsWord (before after : List Char) : Bool :=
  (match before.dropWhile caseIgnorable with
    | c :: _ => cased c
    | [] => false) &&
  (match after.dropWhile caseIgnorable with
    | c :: _ => !cased c
    | [] => true)

/-- The lower case of `cs`, where `before` is the text before it, nearest first. -/
def lowerFrom (before : List Char) : List Char → List Char
  | [] => []
  | c :: after =>
    let here :=
      if c.toNat == 0x3A3 then [if endsWord before after then 'ς' else 'σ']
      else if c.toNat == 0x130 then ['i', Char.ofNat 0x307]
      else [lowerSimple c]
    here ++ lowerFrom (c :: before) after

def lower (s : String) : String := String.ofList (lowerFrom [] s.toList)

end Text

end ClusterDeploy
