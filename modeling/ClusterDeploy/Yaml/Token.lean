import ClusterDeploy.Yaml.Mark

/-!
# YAML tokens

The lexer cuts YAML text into tokens: stream and document markers, the invisible starts and ends
of block collections, flow brackets, the `?`, `:`, `-` and `,` indicators, aliases, anchors,
tags and scalars.  `TokenKind.name` is how a token is called in error messages.
-/

namespace ClusterDeploy

namespace Yaml

/-- The value of a `%` directive. -/
inductive DirectiveValue where
  | version (major minor : Nat)
  | tag (handle pfx : String)
  | other
deriving DecidableEq, Repr, Inhabited

/-- What a token is. -/
inductive TokenKind where
  | streamStart
  | streamEnd
  | directive (name : String) (value : DirectiveValue)
  | documentStart
  | documentEnd
  | blockSequenceStart
  | blockMappingStart
  | blockEnd
  | flowSequenceStart
  | flowMappingStart
  | flowSequenceEnd
  | flowMappingEnd
  | key
  | value
  | blockEntry
  | flowEntry
  | aliasRef (name : String)
  | anchor (name : String)
  | tag (handle : Option String) (suffix : String)
  | scalar (text : String) (plain : Bool) (style : Option Char)
deriving DecidableEq, Repr, Inhabited

/-- A token with the marks where it starts and ends. -/
structure Token where
  kind : TokenKind
  start : Mark
  stop : Mark
deriving DecidableEq, Repr, Inhabited

def TokenKind.name : TokenKind → String
  | .streamStart => "<stream start>"
  | .streamEnd => "<stream end>"
  | .directive _ _ => "<directive>"
  | .documentStart => "<document start>"
  | .documentEnd => "<document end>"
  | .blockSequenceStart => "<block sequence start>"
  | .blockMappingStart => "<block mapping start>"
  | .blockEnd => "<block end>"
  | .flowSequenceStart => "["
  | .flowMappingStart => "\x7b"
  | .flowSequenceEnd => "]"
  | .flowMappingEnd => "\x7d"
  | .key => "?"
  | .value => ":"
  | .blockEntry => "-"
  | .flowEntry => ","
  | .aliasRef _ => "<alias>"
  | .anchor _ => "<anchor>"
  | .tag _ _ => "<tag>"
  | .scalar _ _ _ => "<scalar>"

/-- The kinds of tokens that the parser asks about. -/
inductive TokenClass where
  | streamEnd | directive | documentStart | documentEnd | blockSequenceStart
  | blockMappingStart | blockEnd | flowSequenceStart | flowMappingStart | flowSequenceEnd
  | flowMappingEnd | key | value | blockEntry | flowEntry | aliasRef | anchor | tag | scalar
deriving DecidableEq, Repr, Inhabited

def TokenKind.isA (k : TokenKind) (c : TokenClass) : Bool :=
  match k, c with
  | .streamEnd, .streamEnd => true
  | .directive _ _, .directive => true
  | .documentStart, .documentStart => true
  | .documentEnd, .documentEnd => true
  | .blockSequenceStart, .blockSequenceStart => true
  | .blockMappingStart, .blockMappingStart => true
  | .blockEnd, .blockEnd => true
  | .flowSequenceStart, .flowSequenceStart => true
  | .flowMappingStart, .flowMappingStart => true
  | .flowSequenceEnd, .flowSequenceEnd => true
  | .flowMappingEnd, .flowMappingEnd => true
  | .key, .key => true
  | .value, .value => true
  | .blockEntry, .blockEntry => true
  | .flowEntry, .flowEntry => true
  | .aliasRef _, .aliasRef => true
  | .anchor _, .anchor => true
  | .tag _ _, .tag => true
  | .scalar _ _ _, .scalar => true
  | _, _ => false

end Yaml

end ClusterDeploy
