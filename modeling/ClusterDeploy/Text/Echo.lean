import ClusterDeploy.Data
import ClusterDeploy.Text.Unicode

/-!
# Echoed text

Messages quote the offending value the way an interactive interpreter echoes it back.
`Text.echo` quotes text: single quotes, or double quotes when the text holds a single quote and
no double quote; backslash, the chosen quote, tab, line feed and carriage return are escaped,
other characters that do not print are written as `\xNN`, `\uNNNN` or `\UNNNNNNNN`.
`Data.echo` does the same for any value: `None`, `True`, numbers as they print, `[…]` lists and
`{…: …}` mappings, days and timestamps as the calls that build them.

A mapping key inside an error location is shown by `Data.locText`: text as it is, a boolean or
an integer that fits 64 bits by its decimal value (`true` is `1`), and anything else as it
echoes, except an integer too long to write in decimal (`Data.isLongInteger`), which is shown
as `<unprintable int object>`.

Which characters print is `Text.printable`, the Unicode table of printing characters.
-/

namespace ClusterDeploy

namespace Text

def hexDigits (width n : Nat) : String :=
  let ds := Nat.toDigits 16 n
  String.ofList (List.replicate (width - ds.length) '0' ++ ds)

def echoChar (q : Char) (c : Char) : String :=
  if c == '\\' then "\\\\"
  else if c == q then "\\" ++ c.toString
  else if c == '\t' then "\\t"
  else if c == '\n' then "\\n"
  else if c == '\r' then "\\r"
  else if printable c then c.toString
  else if c.toNat < 0x100 then "\\x" ++ hexDigits 2 c.toNat
  else if c.toNat < 0x10000 then "\\u" ++ hexDigits 4 c.toNat
  else "\\U" ++ hexDigits 8 c.toNat

def echo (s : String) : String :=
  let q := if s.toList.contains '\'' && !s.toList.contains '"' then '"' else '\''
  q.toString ++ String.join (s.toList.map (echoChar q)) ++ q.toString

end Text

namespace Data

mutual

def echo : Data → String
  | .str s => Text.echo s
  | .seq xs => "[" ++ String.intercalate ", " (echoList xs) ++ "]"
  | .map es => "\x7b" ++ String.intercalate ", " (echoEntries es) ++ "\x7d"
  | .date d => d.repr
  | .time t => t.repr
  -- a collection met again inside itself is echoed as an ellipsis in its brackets
  | .loop (.map _) => "\x7b...\x7d"
  | .loop _ => "[...]"
  | d => keyText d

def echoList : List Data → List String
  | [] => []
  | x :: xs => echo x :: echoList xs

def echoEntries : List (Data × Data) → List String
  | [] => []
  | (k, v) :: es => (echo k ++ ": " ++ echo v) :: echoEntries es

end

def locText : Data → String
  | .str s => s
  | .bool b => if b then "1" else "0"
  | .int i => if isLongInteger i then "<unprintable int object>" else toString i
  | d => d.echo

end Data

end ClusterDeploy
