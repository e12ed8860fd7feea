/-!
# White space

`Text.isSpace` is the white space that text functions strip: the ASCII controls tab to carriage
return and the file, group, record and unit separators, the space, and the Unicode spaces and
line and paragraph separators.  `Text.strip` removes it from both ends of text, `Text.dropTrailing`
removes one character from the end as long as it is there.
-/

namespace ClusterDeploy

namespace Text

def isSpace (c : Char) : Bool :=
  let n := c.toNat
  (9 ≤ n && n ≤ 13) || (0x1C ≤ n && n ≤ 0x20) || n == 0x85 || n == 0xA0 || n == 0x1680 ||
    (0x2000 ≤ n && n ≤ 0x200A) || n == 0x2028 || n == 0x2029 || n == 0x202F || n == 0x205F ||
    n == 0x3000

def stripChars (cs : List Char) : List Char :=
  ((cs.dropWhile isSpace).reverse.dropWhile isSpace).reverse

def strip (s : String) : String := String.ofList (stripChars s.toList)

def dropTrailing (c : Char) (s : String) : String :=
  String.ofList (s.toList.reverse.dropWhile (· == c)).reverse

end Text

end ClusterDeploy
