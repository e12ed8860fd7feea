import ClusterDeploy.Spec.Config
import ClusterDeploy.Spec.Command
import ClusterDeploy.Settings

/-!
# Deployment plan

What is done to each machine follows from the description and the settings alone:

* `joinPath`                  a directory and a name, joined by one slash; a name that starts
                              with a slash stands alone;
* `ClusterSpec.serverUrl`     the advertised API server: the first cluster-wide TLS name, else
                              the first server's host, bracketed when it holds a colon, at the
                              advertised port, else the HTTPS port, else the settings' API port;
* `ClusterSpec.settingsFor`   a machine's k3s settings: the cluster's for its role with its own
                              laid over them; a server advertises its own host unless it is
                              told another address;
* `Settings.installerPath`,
  `Settings.stagedConfig`,
  `Settings.systemConfig`,
  `Settings.adminKubeconfig`  where the installer and the configuration go, and where k3s
                              leaves the admin kubeconfig;
* `installEnvironment`        the installer's variables: restart forced, what to run, the
                              release channel, and for a joining machine the server and token.
-/

namespace ClusterDeploy

/-- Joins a directory and a name with one slash; a name that starts with a slash stands
alone, and an empty directory adds nothing. -/
def joinPath (dir name : String) : String :=
  if name.startsWith "/" then name
  else if dir.isEmpty || dir.endsWith "/" then dir ++ name
  else dir ++ "/" ++ name

/-- Where k3s writes the token that machines join the cluster with. -/
def tokenPath : String := "/var/lib/rancher/k3s/server/token"

/-- A host as it stands in a URL: bracketed when it holds a colon and is not yet bracketed. -/
def urlHost (host : String) : String :=
  if host.toList.contains ':' && !host.startsWith "[" then "[" ++ host ++ "]" else host

def firstSet : List Int → Int → Int
  | [], last => last
  | n :: rest, last => if n != 0 then n else firstSet rest last

namespace ClusterSpec

/-- The URL of the API server that machines and clients are told to use; a port of more than
`Data.decimalLimit` digits cannot be written into it. -/
def serverUrl (c : ClusterSpec) (apiPort : Int) : Except Data.Unwritable String :=
  let server := c.defaults.server
  let port := firstSet [server.countOf "advertise-port", server.countOf "https-listen-port"] apiPort
  let host := match server.wordsOf "tls-san", c.servers with
    | name :: _, _ => name
    | [], m :: _ => m.ssh.host
    | [], [] => ""
  if Data.isLongInteger port then .error .longInteger
  else .ok ("https://" ++ urlHost host ++ ":" ++ toString port)

def settingsFor (c : ClusterSpec) (m : Machine) : Fragment :=
  match m.role with
  | .server =>
    let f := c.defaults.server.layer m.server
    if (f.textOf "advertise-address").isEmpty then f.set "advertise-address" (.text m.ssh.host)
    else f
  | .agent => c.defaults.agent.layer m.agent

end ClusterSpec

namespace Settings

def installerPath (s : Settings) : String := joinPath s.remoteDir "install.sh"

def stagedConfig (s : Settings) : String := joinPath s.remoteDir "config.yaml"

def systemConfig (s : Settings) : String := joinPath s.configDir "config.yaml"

def adminKubeconfig (s : Settings) : String := joinPath s.configDir "k3s.yaml"

def chmodCommand (s : Settings) : Command := ⟨"chmod +x " ++ s.installerPath, [], false⟩

def mkdirCommand (s : Settings) : Command := ⟨"sudo mkdir -m 755 -p " ++ s.configDir, [], false⟩

/-- Hands the uploaded configuration to the administrator and moves it into place. -/
def moveCommand (s : Settings) : Command :=
  let staged := s.stagedConfig
  ⟨"sudo chown root:root " ++ staged ++ " && sudo chmod 644 " ++ staged ++ " && sudo mv " ++
    staged ++ " " ++ s.systemConfig, [], false⟩

def cleanupCommand (s : Settings) : Command := ⟨"rm -rf " ++ s.remoteDir, [], false⟩

end Settings

/-- What the installer runs on the first server: with more than one server it starts the
embedded database. -/
def bootstrapExec (servers : Nat) : String :=
  if servers > 1 then "server --cluster-init" else "server"

/-- The installer's variables: what to run, from which channel, and for a machine that joins
an existing cluster, its server URL and token. -/
def installEnvironment (version exec : String) (join : Option (String × String)) :
    List (String × String) :=
  [("INSTALL_K3S_FORCE_RESTART", "true"), ("INSTALL_K3S_EXEC", exec),
    ("INSTALL_K3S_CHANNEL", version)] ++
  match join with
  | some (url, token) => [("K3S_URL", url), ("K3S_TOKEN", token)]
  | none => []

/-- The script that removes k3s from a machine of a role, run through a shell. -/
def uninstallCommand : Role → Command
  | .server => ⟨"k3s-uninstall.sh", [], true⟩
  | .agent => ⟨"k3s-agent-uninstall.sh", [], true⟩

end ClusterDeploy
