import ClusterDeploy.Schema.Issue
import ClusterDeploy.Yaml.Scalar
import ClusterDeploy.Pattern.Basic

/-!
# Failures

Everything that can go wrong in a run, by cause.  A failure that concerns several machines
(`install`, `disconnect`) carries one failure per machine, keyed by address, in the order the
machines were visited.  `Failure.message` holds the wording of all of them.
-/

namespace ClusterDeploy

/-- Why an operation failed. -/
inductive Failure where
  /-- the cluster description could not be read or is not acceptable -/
  | configInvalid (errors : List String)
  /-- a kubeconfig could not be read, parsed or merged -/
  | credentials (message : String)
  /-- a machine could not be reached, logged in to, or left -/
  | connect (message : String)
  /-- a remote command failed; the exit status and the error output when there are -/
  | command (message : String) (status : Option Int) (stderr : String)
  /-- a file could not be written to a machine -/
  | upload (message : String)
  /-- the installation script could not be fetched -/
  | fetch (message : String)
  /-- some workers failed to install -/
  | install (failures : List (String × Failure))
  /-- some machines failed to clean up or to close -/
  | disconnect (failures : List (String × Failure))
  /-- an operation was called in the wrong lifecycle state -/
  | state (message : String)
  /-- a value does not fit its model -/
  | invalid (issues : List Issue)
  /-- a value is outside what a function accepts -/
  | value (message : String)
  /-- two values of different kinds were combined -/
  | kind (message : String)
  /-- a tagged YAML scalar does not hold a value of its tag -/
  | load (fault : Yaml.ScalarFault)
  /-- a key is not in a form that can be read -/
  | keyFormat (message : String)
  /-- an encrypted key cannot be decrypted -/
  | keyEncryption (message : String)
  /-- a pattern built from the input is not well formed -/
  | pattern (fault : Pattern.Fault)
  /-- a value that was to be written as JSON has no JSON form -/
  | unwritable (u : Data.Unwritable)
  /-- bytes that must be text are not text in their encoding; the message is the decoder's -/
  | undecodable (message : String)
  /-- a number does not fit the machine word it is passed as -/
  | overflow (message : String)
  /-- a machine was asked for by a position the description does not have -/
  | noMachine
  /-- a machine was asked for by a position too large for any list -/
  | hugePosition
  /-- a machine was asked for before there was a description -/
  | noDescription
deriving Repr, Inhabited

namespace Failure

mutual

def message : Failure → String
  | .configInvalid es => "invalid configuration: " ++ String.intercalate "; " es
  | .credentials m => m
  | .connect m => m
  | .command m _ _ => m
  | .upload m => m
  | .fetch m => m
  | .install fs => "Failed to install worker nodes: " ++ String.intercalate ", " (perMachine fs)
  | .disconnect fs => "Failed to disconnect cleanly: " ++ String.intercalate ", " (perMachine fs)
  | .state m => m
  | .invalid is => String.intercalate "; " (is.map Issue.text)
  | .value m => m
  | .kind m => m
  | .load f => f.message
  | .keyFormat m => m
  | .keyEncryption m => m
  | .pattern f => f.message
  | .unwritable u => u.message
  | .undecodable m => m
  | .overflow m => m
  | .noMachine => "list index out of range"
  | .hugePosition => "cannot fit 'int' into an index-sized integer"
  | .noDescription => "'NoneType' object has no attribute 'nodes'"

def perMachine : List (String × Failure) → List String
  | [] => []
  | (a, f) :: rest => (a ++ ": " ++ message f) :: perMachine rest

end

/-- Whether a failure is one of the deployment's own errors, rather than an error of the values
or libraries it works with (a value out of range, a model mismatch, a key that cannot be read,
text that cannot be decoded).  Callers that report the deployment's errors alongside what was
done let the other errors pass. -/
def isOwn : Failure → Bool
  | .configInvalid _ | .credentials _ | .connect _ | .command _ _ _ | .upload _ | .fetch _
  | .install _ | .disconnect _ | .state _ => true
  | _ => false

/-- Whether a failure is the caller's mistake rather than the deployment's: such a failure ends
a run of steps instead of being reported by the step. -/
def endsRun : Failure → Bool
  | .noMachine => true
  | .hugePosition => true
  | .noDescription => true
  | .load f => f.errorClass != "ValueError"
  | _ => false

/-- Records the failure of the machine at `address`: a machine already recorded keeps its
place and takes the new failure. -/
def record (fs : List (String × Failure)) (address : String) (f : Failure) :
    List (String × Failure) :=
  if fs.any (·.1 == address) then fs.map fun e => if e.1 == address then (address, f) else e
  else fs ++ [(address, f)]

/-- Records the failure of the machine at `address` unless it already has one. -/
def recordFirst (fs : List (String × Failure)) (address : String) (f : Failure) :
    List (String × Failure) :=
  if fs.any (·.1 == address) then fs else fs ++ [(address, f)]

end Failure

end ClusterDeploy
