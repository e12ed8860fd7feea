/-!
# Occurrence of text in text

`Text.occursIn part whole` says whether `part` stands somewhere in `whole`, as a run of
consecutive characters; the empty text occurs in every text.
-/

namespace ClusterDeploy

namespace Text

def occursInChars (part : List Char) : List Char → Bool
  | [] => part.isEmpty
  | c :: rest => part.isPrefixOf (c :: rest) || occursInChars part rest

def occursIn (part whole : String) : Bool := occursInChars part.toList whole.toList

end Text

end ClusterDeploy
