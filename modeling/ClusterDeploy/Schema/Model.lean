import ClusterDeploy.Schema.Coerce

/-!
# Fields of a model

A model is checked from a mapping.  Each field is looked up under its alias first and then under
its own name (`Data.fieldEntry?`); a value found is checked at the key it was found under, a field
not given takes its default, and a field without a default is `missing` at its alias.
The keys used for fields are remembered, so that the remaining keys can be ignored, kept as
extra entries (`extraEntries`), or refused (`refuseExtra`).
-/

namespace ClusterDeploy

namespace Data

/-- The key and value given for a field under one of `names`, the first name that is present
winning. -/
def fieldEntry? (es : List (Data × Data)) : List String → Option (String × Data)
  | [] => none
  | n :: rest =>
    match lookupText es n with
    | some v => some (n, v)
    | none => fieldEntry? es rest

end Data

/-- A field's name and, when it is spelled differently in documents, its alias. -/
structure FieldName where
  name : String
  spelled : Option String := none
deriving DecidableEq, Repr, Inhabited

namespace FieldName

def keys (f : FieldName) : List String :=
  match f.spelled with
  | some a => [a, f.name]
  | none => [f.name]

def key (f : FieldName) : String := f.spelled.getD f.name

end FieldName

namespace Checked

/-- Checks one field of a model: the given value at its key, else the default, else `missing`. -/
def field {α : Type} (es : List (Data × Data)) (f : FieldName) (check : Data → Checked α)
    (default : Option α) : Checked α :=
  match Data.fieldEntry? es f.keys with
  | some (k, v) => (check v).within k
  | none =>
    match default with
    | some d => .ok d
    | none => .error [⟨[f.key], .missing⟩]

def usedKeys (es : List (Data × Data)) (fs : List FieldName) : List String :=
  fs.filterMap (fun f => (Data.fieldEntry? es f.keys).map (·.1))

/-- The entries that are not fields, in order; a key that is not text is an issue. -/
def extraEntries (es : List (Data × Data)) (used : List String) :
    Checked (List (String × Data)) :=
  let rec go : List (Data × Data) → Checked (List (String × Data))
    | [] => .ok []
    | (k, v) :: rest =>
      let this : Checked (List (String × Data)) :=
        match k with
        | .str s => .ok (if used.contains s then [] else [(s, v)])
        | _ => .error [⟨[k.locText], .keyNotText⟩]
      match both this (go rest) with
      | .ok (a, b) => .ok (a ++ b)
      | .error e => .error e
  go es

def refuseExtra (es : List (Data × Data)) (used : List String) : Checked Unit :=
  match extraEntries es used with
  | .ok [] => .ok ()
  | .ok xs => .error (xs.map (fun x => ⟨[x.1], .extraForbidden⟩))
  | .error e => .error e

end Checked

end ClusterDeploy
