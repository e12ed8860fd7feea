/-!
# Shell words

`ShellWord.quote` turns any text into one word of a POSIX shell command line: text made only of
letters, digits and `@%+=:,./_-` stands as it is, and everything else, the empty text included, is
put between single quotes, a single quote inside being written `'"'"'` (close the quotes, a
double-quoted quote, reopen them).

`ShellWord.split` reads a command line back into its words the way the shell does, for lines
that are plain lists of words: blanks separate words, and quotes and backslashes are removed
after they have done their work.  A line holding anything more outside quotes (an operator, an
expansion, a pattern, a comment) has no such reading.  `ShellWord.splitList` reads a line that
is an and-list of such commands, `a && b`, into the words of each.
-/

namespace ClusterDeploy

namespace ShellWord

def isSafe (c : Char) : Bool :=
  (c.isAlphanum && c.toNat < 128) || "@%+=:,./_-".toList.contains c

def quotedChar (c : Char) : List Char :=
  if c == '\'' then "'\"'\"'".toList else [c]

def quote (s : String) : String :=
  if !s.isEmpty && s.all isSafe then s
  else String.ofList ('\'' :: (s.toList.flatMap quotedChar ++ ['\'']))

def isBlank (c : Char) : Bool := c == ' ' || c == '\t'

/-- characters that, outside quotes, do more than stand for themselves: operators, the end of
the line, expansions, patterns and the home-directory prefix -/
def isSpecial (c : Char) : Bool := "|&;<>()$`*?[~\n".toList.contains c

/-- whether a text can name a shell variable: an ASCII letter or an underscore, then ASCII
letters, digits and underscores -/
def isName (s : String) : Bool :=
  match s.toList with
  | [] => false
  | c :: cs => (c.isAlpha || c == '_') && cs.all fun d => d.isAlphanum || d == '_'

/-- Where a reader of a command line stands. -/
inductive Place where
  /-- between words -/
  | gap
  /-- in a word and outside quotes, with the characters of the word read so far -/
  | bare (w : List Char)
  /-- right after a backslash outside quotes; `none` when it started no word yet -/
  | escaped (w : Option (List Char))
  /-- inside single quotes -/
  | single (w : List Char)
  /-- inside double quotes -/
  | double (w : List Char)
  /-- right after a backslash inside double quotes -/
  | doubleEscaped (w : List Char)
deriving DecidableEq, Repr, Inhabited

namespace Place

def unquoted (w : List Char) (c : Char) : Option (Place × Option String) :=
  if c == '\'' then some (.single w, none)
  else if c == '"' then some (.double w, none)
  else if c == '\\' then some (.escaped (some w), none)
  else if isSpecial c then none
  else some (.bare (w ++ [c]), none)

/-- One character read at a place: the place after it, and the word it ends when it ends one;
none when the character starts more than a word. -/
def next : Place → Char → Option (Place × Option String)
  | .gap, c =>
    if isBlank c then some (.gap, none)
    else if c == '\\' then some (.escaped none, none)
    else if c == '#' then none
    else unquoted [] c
  | .bare w, c => if isBlank c then some (.gap, some (String.ofList w)) else unquoted w c
  | .escaped w, c =>
    -- a backslash before a line break joins the two lines
    if c == '\n' then some ((w.map Place.bare).getD .gap, none)
    else some (.bare (w.getD [] ++ [c]), none)
  | .single w, c => if c == '\'' then some (.bare w, none) else some (.single (w ++ [c]), none)
  | .double w, c =>
    if c == '"' then some (.bare w, none)
    else if c == '\\' then some (.doubleEscaped w, none)
    else if "$`".toList.contains c then none
    else some (.double (w ++ [c]), none)
  | .doubleEscaped w, c =>
    if c == '\n' then some (.double w, none)
    else if "$`\"\\".toList.contains c then some (.double (w ++ [c]), none)
    else some (.double (w ++ ['\\', c]), none)

/-- The words still owed when the line ends at a place; none inside quotes or after a
backslash. -/
def finish : Place → Option (List String)
  | .gap => some []
  | .bare w => some [String.ofList w]
  | _ => none

end Place

def readFrom : Place → List Char → Option (List String)
  | p, [] => p.finish
  | p, c :: cs =>
    match p.next c with
    | none => none
    | some (q, none) => readFrom q cs
    | some (q, some w) => (readFrom q cs).map (w :: ·)

/-- The words of a command line that is a plain list of words, as a POSIX shell reads them:
blanks separate words; single quotes keep what they enclose; double quotes keep what they
enclose but a backslash before a dollar sign, a backtick, a double quote, a backslash or a line
break; a backslash outside quotes keeps the next character.  A line with an unclosed quote, or
with an operator, an expansion, a pattern, a tilde or a comment outside quotes, has none. -/
def split (line : String) : Option (List String) := readFrom .gap line.toList

/-- The commands read from the characters `cs` on, from place `p`, each as its words.  Outside
quotes `&&` ends a command (the word before it, if any, with it); everything else is read as
`readFrom` reads it. -/
def readListFrom : Place → List Char → Option (List (List String))
  | p, [] => p.finish.map fun ws => [ws]
  | p, c :: cs =>
    match p.next c with
    | some (q, none) => readListFrom q cs
    | some (q, some w) => (readListFrom q cs).map fun cmds => (w :: cmds.headD []) :: cmds.tail
    | none =>
      -- an ampersand outside quotes is no character of a word: only `&&` may stand there
      match p.finish, c, cs with
      | some ws, '&', '&' :: rest => (readListFrom .gap rest).map (ws :: ·)
      | _, _, _ => none

/-- The commands of a line that is an and-list of plain commands, `a && b && …`, as a POSIX
shell reads them: each is read as `split` reads a line, and none may be empty. -/
def splitList (line : String) : Option (List (List String)) :=
  (readListFrom .gap line.toList).filter fun cmds => cmds.all fun ws => !ws.isEmpty

end ShellWord

end ClusterDeploy
