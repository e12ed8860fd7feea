import ClusterDeploy.Net.Url

/-!
# Cluster names

A kubeconfig written for people names its cluster after the API server: the server URL's host,
followed by `:port` only when the URL gives a port other than the default API port.
-/

namespace ClusterDeploy

def clusterNameFor (serverUrl : String) (defaultPort : Int) : Except UrlError String := do
  let parts ← Url.split serverUrl
  let host := parts.hostname
  match ← parts.port with
  | some p => if (p : Int) != defaultPort then pure (host ++ ":" ++ toString p) else pure host
  | none => pure host

end ClusterDeploy
