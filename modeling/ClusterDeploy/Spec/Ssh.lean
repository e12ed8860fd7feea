import ClusterDeploy.Schema.Model

/-!
# SSH targets

An `SshTarget` says how to reach one machine: host, port, login user and the credentials (an
inline private key, a key file, a password, the key's passphrase) and the host key fingerprint
to pin.  Its `address` is `host:port`, the name a machine goes by in every message.

`SshTarget.check` reads a target from a mapping.  A port or user given as a false value (null,
zero, empty text, false) means the default (`22`, `root`); a port must lie in `1 … 65535`.
`SshTarget.toData` writes a target back under the document keys, all fields or only those that
differ from their defaults.
-/

namespace ClusterDeploy

/-- How to reach and log in to one machine. -/
structure SshTarget where
  host : String := ""
  port : Int := 22
  user : String := "root"
  password : String := ""
  key : String := ""
  keyFile : String := ""
  passphrase : String := ""
  fingerprint : String := ""
deriving DecidableEq, Repr, Inhabited

namespace SshTarget

def address (t : SshTarget) : String := t.host ++ ":" ++ toString t.port

def fields : List FieldName :=
  [⟨"host", none⟩, ⟨"port", none⟩, ⟨"user", none⟩, ⟨"password", none⟩, ⟨"key", none⟩,
   ⟨"key_file", some "key-file"⟩, ⟨"passphrase", none⟩, ⟨"fingerprint", none⟩]

def modelName : String := "SSHConfig"

def checkPort (d : Data) : Checked Int :=
  let d := if d.truthy then d else .int 22
  match d.asInteger with
  | .ok p =>
    if p > 65535 then Checked.fail (.notAtMost "65535")
    else if p < 1 then Checked.fail (.notAtLeast "1")
    else .ok p
  | .error e => .error e

def checkUser (d : Data) : Checked String :=
  (if d.truthy then d else .str "root").asText

def check (d : Data) : Checked SshTarget :=
  match d.asModel modelName with
  | .error e => .error e
  | .ok es =>
    let text := fun (f : FieldName) => Checked.field es f Data.asText (some "")
    let host := text ⟨"host", none⟩
    let port := Checked.field es ⟨"port", none⟩ checkPort (some 22)
    let user := Checked.field es ⟨"user", none⟩ checkUser (some "root")
    let password := text ⟨"password", none⟩
    let key := text ⟨"key", none⟩
    let keyFile := text ⟨"key_file", some "key-file"⟩
    let passphrase := text ⟨"passphrase", none⟩
    let fingerprint := text ⟨"fingerprint", none⟩
    match host, port, user, password, key, keyFile, passphrase, fingerprint with
    | .ok h, .ok p, .ok u, .ok pw, .ok k, .ok kf, .ok pp, .ok fp =>
      .ok ⟨h, p, u, pw, k, kf, pp, fp⟩
    | _, _, _, _, _, _, _, _ =>
      .error (host.issues ++ port.issues ++ user.issues ++ password.issues ++ key.issues ++
        keyFile.issues ++ passphrase.issues ++ fingerprint.issues)

/-- The entries of a target under its document keys, each with whether it is at its default. -/
def entries (t : SshTarget) : List (String × Data × Bool) :=
  [("host", .str t.host, t.host == ""), ("port", .int t.port, t.port == 22),
   ("user", .str t.user, t.user == "root"), ("password", .str t.password, t.password == ""),
   ("key", .str t.key, t.key == ""), ("key-file", .str t.keyFile, t.keyFile == ""),
   ("passphrase", .str t.passphrase, t.passphrase == ""),
   ("fingerprint", .str t.fingerprint, t.fingerprint == "")]

/-- A target as a mapping: every field, or with `changedOnly` the fields off their defaults. -/
def toData (t : SshTarget) (changedOnly : Bool := false) : Data :=
  .map ((t.entries.filter (fun e => !(changedOnly && e.2.2))).map (fun e => (.str e.1, e.2.1)))

end SshTarget

end ClusterDeploy
