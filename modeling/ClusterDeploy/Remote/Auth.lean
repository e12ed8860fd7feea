import ClusterDeploy.Key.Private
import ClusterDeploy.Remote.Session
import ClusterDeploy.Workspace

/-!
# Logging in to machines

* `SshTarget.credentials` picks the one way to log in to a machine: its private key, given
  inline or else as a file, and failing that its password, with a warning that passwords are
  insecure.  A key that cannot be loaded, or a machine with neither, is a connection failure.
* `PublicKey.matchesPin` accepts a machine's host key only if its fingerprint is exactly the one
  pinned in the description.
-/

namespace ClusterDeploy

/-- How to log in to a machine. -/
inductive Credentials where
  /-- with the private key that belongs to this public key -/
  | key (k : PublicKey)
  | password (p : String)
deriving DecidableEq, Repr, Inhabited

def PublicKey.matchesPin (k : PublicKey) (pin : String) : Bool := k.fingerprint == pin

/-- The failure a key fault is when a key is read on its own: a key that cannot be read is a key
format failure, one that cannot be decrypted an encryption failure, numbers out of range a
value error, a malformed footer pattern a fault of that pattern, and bytes that must be text
and a number too large for a machine word failures of their own. -/
def KeyFault.failure : KeyFault → Failure
  | .unreadable m => .keyFormat m
  | .encryption m => .keyEncryption m
  | .invalidValue m => .value m
  | .footerPattern f => .pattern f
  | .undecodable m => .undecodable m
  | .overflow m => .overflow m

/-- Reads the key a machine presents and compares it with the pinned fingerprint: whether it
matches, and the presented key's fingerprint. -/
def PublicKey.checkPin (presented pin : String) : Except Failure (Bool × String) :=
  match PublicKey.loadText presented with
  | .ok k => .ok (k.matchesPin pin, k.fingerprint)
  | .error f => .error f.failure

namespace SshTarget

/-- The private key of a machine, if it has one: inline text wins over a file, which is read
from `files` after a leading `~` is expanded.  A key that cannot be read, or a file the system
cannot give, is a connection failure; any other fault of the key fails the same way as when the
key is read on its own (`KeyFault.failure`). -/
def privateKey (t : SshTarget) (files : Workspace) : Except Failure (Option PublicKey) :=
  let passphrase := if t.passphrase.isEmpty then none else some t.passphrase
  let failed := fun m => Failure.connect ("Failed to load private key for " ++ t.address ++ ": " ++ m)
  let loaded := fun (r : Except KeyFault PublicKey) =>
    match r with
    | .ok k => .ok (some k)
    | .error (.unreadable m) => .error (failed m)
    | .error f => .error f.failure
  if !t.key.isEmpty then loaded (PrivateKey.loadText t.key passphrase)
  else if !t.keyFile.isEmpty then
    let path := files.expandHome t.keyFile
    match files.read path with
    | .ok content => loaded (PrivateKey.load content.toUTF8.toList passphrase)
    | .error e => .error (if e.fromSystem then failed (e.message path) else .value (e.message path))
  else .ok none

/-- How to log in to a machine, and the warnings that choice gives. -/
def credentials (t : SshTarget) (files : Workspace) :
    Except Failure (Credentials × List LogLine) := do
  match ← t.privateKey files with
  | some k => pure (.key k, [])
  | none =>
    if !t.password.isEmpty then
      pure (.password t.password, [⟨.warning, "Using password authentication is insecure!"⟩,
        ⟨.warning, "Please consider using public key authentication!"⟩])
    else throw (.connect ("No authentication method specified for " ++ t.address))

end SshTarget

end ClusterDeploy
