/-!
# Validation issues

A document is checked against the settings models field by field, and every value that does not
fit is reported as an `Issue`: where it sits (`loc`, the keys and list positions leading to it)
and what is wrong with it (`Problem`).  `Problem.message` holds the wording of every problem in
one place, and `Issue.text` joins the location with dots in front of it, as in
`nodes.0.ssh.port: Input should be greater than or equal to 1`.

`Checked α` is a checking result that carries every issue found, so that a model can report all
of its bad fields at once; `Checked.within` puts a key or position in front of the locations of
a nested check.
-/

namespace ClusterDeploy

/-- What can be wrong with one value. -/
inductive Problem where
  | notText
  | undecodableText
  | notInteger
  | unparsableInteger
  | fractional
  | integerTooLarge
  | notFinite
  | notFlag
  | unreadableFlag
  | notNumber
  | unparsableNumber
  | notList
  | notDict
  | notModel (name : String)
  | missing
  | extraForbidden
  | keyNotText
  | notAbove (bound : String)
  | notAtLeast (bound : String)
  | notAtMost (bound : String)
  | notChoice (expected : String)
  | rejected (reason : String)
deriving DecidableEq, Repr, Inhabited

def Problem.message : Problem → String
  | .notText => "Input should be a valid string"
  | .undecodableText => "Input should be a valid string, unable to parse raw data as a unicode string"
  | .notInteger => "Input should be a valid integer"
  | .unparsableInteger => "Input should be a valid integer, unable to parse string as an integer"
  | .fractional => "Input should be a valid integer, got a number with a fractional part"
  | .integerTooLarge => "Unable to parse input string as an integer, exceeded maximum size"
  | .notFinite => "Input should be a finite number"
  | .notFlag => "Input should be a valid boolean"
  | .unreadableFlag => "Input should be a valid boolean, unable to interpret input"
  | .notNumber => "Input should be a valid number"
  | .unparsableNumber => "Input should be a valid number, unable to parse string as a number"
  | .notList => "Input should be a valid list"
  | .notDict => "Input should be a valid dictionary"
  | .notModel name => "Input should be a valid dictionary or instance of " ++ name
  | .missing => "Field required"
  | .extraForbidden => "Extra inputs are not permitted"
  | .keyNotText => "Keys should be strings"
  | .notAbove b => "Input should be greater than " ++ b
  | .notAtLeast b => "Input should be greater than or equal to " ++ b
  | .notAtMost b => "Input should be less than or equal to " ++ b
  | .notChoice e => "Input should be " ++ e
  | .rejected r => "Value error, " ++ r

/-- One bad value: the path to it and its problem. -/
structure Issue where
  loc : List String
  problem : Problem
deriving DecidableEq, Repr, Inhabited

def Issue.text (i : Issue) : String :=
  String.intercalate "." i.loc ++ ": " ++ i.problem.message

/-- The result of checking a value: the value, or every issue found. -/
abbrev Checked (α : Type) := Except (List Issue) α

namespace Checked

def fail {α : Type} (p : Problem) : Checked α := .error [⟨[], p⟩]

def issues {α : Type} : Checked α → List Issue
  | .ok _ => []
  | .error es => es

def within {α : Type} (seg : String) : Checked α → Checked α
  | .ok a => .ok a
  | .error es => .error (es.map (fun i => { i with loc := seg :: i.loc }))

def both {α β : Type} : Checked α → Checked β → Checked (α × β)
  | .ok a, .ok b => .ok (a, b)
  | x, y => .error (x.issues ++ y.issues)

def each {α β : Type} (f : α → Checked β) (xs : List α) : Checked (List β) :=
  let rec go : Nat → List α → Checked (List β)
    | _, [] => .ok []
    | i, x :: rest =>
      match both ((f x).within (toString i)) (go (i + 1) rest) with
      | .ok (y, ys) => .ok (y :: ys)
      | .error es => .error es
  go 0 xs

end Checked

end ClusterDeploy
