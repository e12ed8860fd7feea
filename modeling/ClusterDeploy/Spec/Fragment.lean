import ClusterDeploy.Schema.Model
import ClusterDeploy.Yaml.Emit

/-!
# Machine settings

A `Fragment` holds the settings of one machine's k3s installation, for one `Role`: a server
(control plane) or an agent (worker).  Each role has its own table of settings (`Role.table`),
each a text, a count, a flag or a list of words, all defaulting to empty, zero or false.  A
setting is written under its dashed key (`tls-san`); a document may also use the underscored
name (`tls_san`).

* `Fragment.check` reads a fragment from a mapping, ignoring keys it does not know;
* `Fragment.toData` writes every setting, `Fragment.changes` only those off their defaults;
* `Fragment.toYaml` is the k3s configuration file: the changed settings as YAML, which a count
  of more than `Data.decimalLimit` digits cannot be written into;
* `Fragment.merge` lays a machine's own settings over the cluster-wide ones: lists are joined,
  the cluster's first, and any other setting is the machine's unless that is empty, zero or
  false.
-/

namespace ClusterDeploy

/-- A machine's part in the cluster. -/
inductive Role where
  | server
  | agent
deriving DecidableEq, Repr, Inhabited

/-- What kind of value a setting holds. -/
inductive SettingKind where
  | text
  | count
  | flag
  | words
deriving DecidableEq, Repr, Inhabited

/-- The value of one setting. -/
inductive Setting where
  | text (s : String)
  | count (n : Int)
  | flag (b : Bool)
  | words (ws : List String)
deriving DecidableEq, Repr, Inhabited

namespace Setting

def default : SettingKind → Setting
  | .text => .text ""
  | .count => .count 0
  | .flag => .flag false
  | .words => .words []

/-- whether a setting has a value other than empty, zero or false -/
def isSet : Setting → Bool
  | .text s => !s.isEmpty
  | .count n => n != 0
  | .flag b => b
  | .words ws => !ws.isEmpty

def toData : Setting → Data
  | .text s => .str s
  | .count n => .int n
  | .flag b => .bool b
  | .words ws => .seq (ws.map Data.str)

def check : SettingKind → Data → Checked Setting
  | .text, d => d.asText.map Setting.text
  | .count, d => d.asInteger.map Setting.count
  | .flag, d => d.asFlag.map Setting.flag
  | .words, d => (Checked.textList d).map Setting.words

/-- A machine's setting laid over the cluster's: lists joined, else the machine's if set. -/
def overlay : Setting → Setting → Setting
  | .words a, .words b => .words (a ++ b)
  | base, top => if top.isSet then top else base

end Setting

/-- A setting's key and kind. -/
structure SettingSpec where
  key : String
  kind : SettingKind
deriving DecidableEq, Repr, Inhabited

/-- the name of a setting in the settings model: its key with each dash an underscore -/
def SettingSpec.name (s : SettingSpec) : String :=
  String.ofList (s.key.toList.map fun c => if c = '-' then '_' else c)

/-- the field name of a setting: its underscored name, with the dashed key as alias -/
def SettingSpec.field (s : SettingSpec) : FieldName :=
  if s.key.toList.contains '-' then ⟨s.name, some s.key⟩ else ⟨s.key, none⟩

namespace Role

def name : Role → String
  | .server => "server"
  | .agent => "agent"

def modelName : Role → String
  | .server => "ServerConfig"
  | .agent => "AgentConfig"

def serverTable : List SettingSpec :=
  [⟨"v", .count⟩, ⟨"vmodule", .text⟩, ⟨"log", .text⟩, ⟨"also-log-to-stderr", .flag⟩,
   ⟨"bind-address", .text⟩, ⟨"https-listen-port", .count⟩, ⟨"advertise-address", .text⟩,
   ⟨"advertise-port", .count⟩, ⟨"tls-san", .words⟩, ⟨"data-dir", .text⟩,
   ⟨"cluster-cidr", .text⟩, ⟨"service-cidr", .words⟩, ⟨"service-node-port-range", .text⟩,
   ⟨"cluster-dns", .words⟩, ⟨"cluster-domain", .text⟩, ⟨"flannel-backend", .text⟩,
   ⟨"write-kubeconfig", .text⟩, ⟨"write-kubeconfig-mode", .text⟩, ⟨"etcd-arg", .words⟩,
   ⟨"kube-apiserver-arg", .words⟩, ⟨"kube-scheduler-arg", .words⟩,
   ⟨"kube-controller-manager-arg", .words⟩, ⟨"kube-cloud-controller-manager-arg", .words⟩,
   ⟨"datastore-endpoint", .text⟩, ⟨"datastore-cafile", .text⟩, ⟨"datastore-certfile", .text⟩,
   ⟨"datastore-keyfile", .text⟩, ⟨"etcd-expose-metrics", .flag⟩,
   ⟨"etcd-disable-snapshots", .flag⟩, ⟨"etcd-snapshot-name", .text⟩,
   ⟨"etcd-snapshot-schedule-cron", .text⟩, ⟨"etcd-snapshot-retention", .count⟩,
   ⟨"etcd-snapshot-dir", .text⟩, ⟨"etcd-s3", .flag⟩, ⟨"etcd-s3-endpoint", .text⟩,
   ⟨"etcd-s3-endpoint-ca", .text⟩, ⟨"etcd-s3-skip-ssl-verify", .flag⟩,
   ⟨"etcd-s3-access-key", .text⟩, ⟨"etcd-s3-secret-key", .text⟩, ⟨"etcd-s3-bucket", .text⟩,
   ⟨"etcd-s3-region", .text⟩, ⟨"etcd-s3-folder", .text⟩, ⟨"default-local-storage-path", .text⟩,
   ⟨"disable", .words⟩, ⟨"disable-scheduler", .flag⟩, ⟨"disable-cloud-controller", .flag⟩,
   ⟨"disable-kube-proxy", .flag⟩, ⟨"disable-network-policy", .flag⟩, ⟨"node-name", .text⟩,
   ⟨"with-node-id", .flag⟩, ⟨"node-label", .words⟩, ⟨"node-taint", .words⟩,
   ⟨"image-credential-provider-bin-dir", .text⟩, ⟨"image-credential-provider-config", .text⟩,
   ⟨"docker", .flag⟩, ⟨"container-runtime-endpoint", .text⟩, ⟨"pause-image", .text⟩,
   ⟨"snapshotter", .text⟩, ⟨"private-registry", .text⟩, ⟨"node-ip", .words⟩,
   ⟨"node-external-ip", .words⟩, ⟨"resolv-conf", .text⟩, ⟨"kubelet-arg", .words⟩,
   ⟨"kube-proxy-arg", .words⟩, ⟨"protect-kernel-defaults", .flag⟩, ⟨"rootless", .flag⟩,
   ⟨"cluster-reset-restore-path", .text⟩, ⟨"secrets-encryption", .flag⟩,
   ⟨"system-default-registry", .text⟩, ⟨"selinux", .flag⟩, ⟨"lb-server-port", .count⟩]

def agentTable : List SettingSpec :=
  [⟨"debug", .flag⟩, ⟨"v", .count⟩, ⟨"vmodule", .text⟩, ⟨"log", .text⟩,
   ⟨"also-log-to-stderr", .flag⟩, ⟨"data-dir", .text⟩, ⟨"node-name", .text⟩,
   ⟨"with-node-id", .flag⟩, ⟨"node-label", .words⟩, ⟨"node-taint", .words⟩,
   ⟨"image-credential-provider-bin-dir", .text⟩, ⟨"image-credential-provider-config", .text⟩,
   ⟨"docker", .flag⟩, ⟨"container-runtime-endpoint", .text⟩, ⟨"pause-image", .text⟩,
   ⟨"snapshotter", .text⟩, ⟨"private-registry", .text⟩, ⟨"node-ip", .words⟩,
   ⟨"node-external-ip", .words⟩, ⟨"resolv-conf", .text⟩, ⟨"flannel-iface", .text⟩,
   ⟨"flannel-conf", .text⟩, ⟨"kubelet-arg", .words⟩, ⟨"kube-proxy-arg", .words⟩,
   ⟨"protect-kernel-defaults", .flag⟩, ⟨"rootless", .flag⟩, ⟨"lb-server-port", .count⟩]

def table : Role → List SettingSpec
  | .server => serverTable
  | .agent => agentTable

end Role

/-- The k3s settings of one machine for one role, in the order of the role's table. -/
structure Fragment where
  role : Role
  values : List Setting
deriving DecidableEq, Repr, Inhabited

namespace Fragment

def empty (r : Role) : Fragment := ⟨r, r.table.map fun s => Setting.default s.kind⟩

def entries (f : Fragment) : List (SettingSpec × Setting) := f.role.table.zip f.values

def get? (f : Fragment) (key : String) : Option Setting :=
  (f.entries.find? fun e => e.1.key == key).map (·.2)

/-- Reads a fragment of a role from a document value; unknown keys are ignored. -/
def check (r : Role) (d : Data) : Checked Fragment :=
  match d.asModel r.modelName with
  | .error e => .error e
  | .ok es =>
    let rec go : List SettingSpec → Checked (List Setting)
      | [] => .ok []
      | s :: rest =>
        let this := Checked.field es s.field (Setting.check s.kind) (some (Setting.default s.kind))
        match Checked.both this (go rest) with
        | .ok (v, vs) => .ok (v :: vs)
        | .error e => .error e
    (go r.table).map (Fragment.mk r)

def toData (f : Fragment) : Data :=
  .map (f.entries.map fun e => (.str e.1.key, e.2.toData))

/-- The settings that differ from their defaults, under their keys. -/
def changes (f : Fragment) : Data :=
  .map ((f.entries.filter fun e => e.2 != Setting.default e.1.kind).map
    fun e => (.str e.1.key, e.2.toData))

/-- The k3s configuration file of a fragment, unless a count in it is too long to be
written. -/
def toYaml (f : Fragment) : Except Data.Unwritable String := Yaml.dumpChecked f.changes

/-- Lays `top` over `base` setting by setting, keeping the role of `base`. -/
def layer (base top : Fragment) : Fragment :=
  ⟨base.role, List.zipWith Setting.overlay base.values top.values⟩

/-- Lays `top` over `base`; fragments of different roles do not merge. -/
def merge (base top : Fragment) : Except String Fragment :=
  if base.role != top.role then
    .error ("cannot merge " ++ top.role.modelName ++ " into " ++ base.role.modelName)
  else .ok (base.layer top)

def set (f : Fragment) (key : String) (v : Setting) : Fragment :=
  ⟨f.role, f.entries.map fun e => if e.1.key == key then v else e.2⟩

def textOf (f : Fragment) (key : String) : String :=
  match f.get? key with
  | some (.text s) => s
  | _ => ""

def countOf (f : Fragment) (key : String) : Int :=
  match f.get? key with
  | some (.count n) => n
  | _ => 0

def wordsOf (f : Fragment) (key : String) : List String :=
  match f.get? key with
  | some (.words ws) => ws
  | _ => []

def isEmpty (f : Fragment) : Bool := f == empty f.role

end Fragment

end ClusterDeploy
