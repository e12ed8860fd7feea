import ClusterDeploy.Spec.Command
import ClusterDeploy.Spec.Ssh
import ClusterDeploy.Failure
import ClusterDeploy.Text.ShellWord
import ClusterDeploy.Text.Space
import ClusterDeploy.Number.Shortest

/-!
# Remote sessions

A session is an open connection to one machine.  It runs commands, writes files and closes;
this module says what the client side of each call records and answers, given what the far side
does:

* `Session.run` logs the command (its secrets hidden) at debug level, starts the process, reads
  each output line by line until an empty read, logs each line (standard output at info level
  unless asked not to, error output at warning level), and answers the standard output; a
  nonzero exit status, a channel that cannot be opened and a process that outlives the command
  time limit are failures that name the machine and the command; a time limit of zero or less
  is up before the process starts, so nothing happens on the far side;
* `Session.read` runs `sudo cat` on a quoted path without logging the output;
* `Session.upload` creates the file's directory, opens the file and writes it; a failure of the
  file channel or of the write names the path and the machine;
* `Session.close` closes the connection.

Each call gives a `Trace`: the events the far side saw and the log lines, in order.
-/

namespace ClusterDeploy

/-- How serious a log line is. -/
inductive Level where
  | debug
  | info
  | warning
deriving DecidableEq, Repr, Inhabited

/-- One line of a session's log. -/
structure LogLine where
  level : Level
  text : String
deriving DecidableEq, Repr, Inhabited

/-- What the far side of a session saw. -/
inductive SessionEvent where
  | process (commandLine : String)
  | makedirs (dir : String)
  | openFile (path : String)
  | write (path text : String)
  | close
deriving DecidableEq, Repr, Inhabited

/-- What a command on the far side does. -/
inductive Job where
  /-- it prints lines and exits with a status -/
  | exits (stdout stderr : List String) (status : Int)
  /-- it cannot be started -/
  | refused (message : String)
  /-- it prints lines and never exits -/
  | hangs (stdout stderr : List String)
deriving DecidableEq, Repr, Inhabited

/-- What the far side does with a file transfer. -/
inductive Transfer where
  | succeeds
  /-- the file channel cannot be opened -/
  | noChannel (message : String)
  /-- the write fails -/
  | writeFails (message : String)
deriving DecidableEq, Repr, Inhabited

/-- A number of seconds, as given: whole or with a fraction. -/
inductive Seconds where
  | whole (n : Int)
  | real (x : Binary64)
deriving DecidableEq, Repr, Inhabited

def Seconds.text : Seconds → String
  | .whole n => toString n
  | .real x => x.toText

/-- whether a time limit is up before anything starts: it is zero or negative -/
def Seconds.spent : Seconds → Bool
  | .whole n => n ≤ 0
  | .real x => !x.isNaN && (x.isZero || x.negative)

/-- The answer of a call, with the events and log lines it caused. -/
structure Trace (α : Type) where
  result : Except Failure α
  events : List SessionEvent
  log : List LogLine

/-- The client side of a connection to one machine. -/
structure Session where
  target : SshTarget
  timeout : Option Seconds := none
deriving Repr, Inhabited

/-- The directory part of a path: up to the last slash, without trailing slashes unless it is
only slashes. -/
def dirName (path : String) : String :=
  let cs := path.toList
  let head := cs.reverse.dropWhile (· != '/') |>.reverse
  if !head.isEmpty && !head.all (· == '/') then
    String.ofList (head.reverse.dropWhile (· == '/')).reverse
  else String.ofList head

namespace Session

/-- The lines read from a stream that gives `lines` one read at a time: an empty read means the
stream has ended, so reading stops at the first empty line. -/
def received (lines : List String) : List String := lines.takeWhile (!·.isEmpty)

/-- The log lines of a process's output: each line without its line feeds. -/
def outputLog (logOutput : Bool) (stdout stderr : List String) : List LogLine :=
  (if logOutput then stdout.map fun l => ⟨.info, Text.dropTrailing '\n' l⟩ else []) ++
    stderr.map fun l => ⟨.warning, Text.dropTrailing '\n' l⟩

def run (s : Session) (c : Command) (logOutput : Bool) (j : Job) : Trace String :=
  let shown := c.line true
  let host := s.target.host
  let start : List LogLine := [⟨.debug, "Running: " ++ shown⟩]
  let events := [SessionEvent.process (c.line false)]
  let limit := match s.timeout with
    | some t => t.text
    | none => "None"
  let timedOut := Failure.command ("Command timed out after " ++ limit ++ "s on " ++ host ++ ": " ++
    shown) none ""
  if (s.timeout.map Seconds.spent).getD false then ⟨.error timedOut, [], start⟩
  else
  match j with
  | .refused m =>
    ⟨.error (.command ("Failed to run command on " ++ host ++ ": " ++ shown ++ ": " ++ m) none ""),
      events, start⟩
  | .hangs out err =>
    let out := received out
    let err := received err
    ⟨.error timedOut, events, start ++ outputLog logOutput out err⟩
  | .exits out err status =>
    let out := received out
    let err := received err
    let log := start ++ outputLog logOutput out err
    if status != 0 then
      ⟨.error (.command ("Command failed with exit status " ++ toString status ++ " on " ++ host ++
        ": " ++ shown) (some status) (Text.strip (String.join err))), events, log⟩
    else ⟨.ok (String.join out), events, log⟩

def readCommand (path : String) : Command := ⟨"sudo cat " ++ ShellWord.quote path, [], false⟩

def read (s : Session) (path : String) (j : Job) : Trace String :=
  s.run (readCommand path) false j

def upload (s : Session) (path text : String) (t : Transfer) : Trace Unit :=
  let log := [⟨.debug, "Uploading " ++ toString text.utf8ByteSize ++ " bytes to " ++ path⟩]
  let failure := fun (m : String) =>
    Failure.upload ("Failed to upload " ++ path ++ " to " ++ s.target.host ++ ": " ++ m)
  let written := [SessionEvent.makedirs (dirName path), .openFile path, .write path text]
  match t with
  | .succeeds => ⟨.ok (), written, log⟩
  | .noChannel m => ⟨.error (failure m), [], log⟩
  | .writeFails m => ⟨.error (failure m), written, log⟩

/-- Closes the connection; `problem` is why it did not shut down cleanly, if it did not. -/
def close (s : Session) (problem : Option String) : Trace Unit :=
  match problem with
  | none => ⟨.ok (), [.close], []⟩
  | some m =>
    ⟨.error (.connect ("Failed to close connection to " ++ s.target.address ++ ": " ++ m)),
      [.close], []⟩

end Session

end ClusterDeploy
