import ClusterDeploy.Deploy.Engine

/-!
# Steps of a deployment

A `Step` is one call on the engine, or a change to what the lab's machines fail.  Running a list
of steps (`Step.runAll`) gives one `StepRecord` per step:

* what the step gave, or how it failed: a failure of the deployment is recorded and the next
  step runs, while a mistake of the caller (`Failure.endsRun`) ends the run;
* the stage, server URL, cluster token and failed agents afterwards;
* the connections requested during the step and, for each session in the order it was opened,
  what it saw during the step.
-/

namespace ClusterDeploy

/-- One call on the engine, or a change to the lab. -/
inductive Step where
  | setSpec (src : ClusterSpec.Source)
  | connect
  | install
  | uninstall
  | disconnect
  /-- merges the admin kubeconfig into the local file at `path`, after putting `existing` there
  when it is given -/
  | kubeconfig (path : String) (existing : Option LocalFile) (forMachines : Bool)
  | effectiveConfig (position : Data)
  | selectMachines (selector : Data)
  | installerPath
  /-- makes the hosts fail the fault named `kind`, and no others -/
  | setFault (kind : String) (hosts : List String)
deriving Repr, Inhabited

/-- What a step gives. -/
inductive Outcome where
  | done
  | kubeconfig (k : Kubeconfig)
  /-- a machine's settings and its k3s configuration file -/
  | settings (f : Fragment) (file : String)
  | addresses (as : List String)
  | path (p : String)
deriving Repr, Inhabited

/-- What a step did, and the deployment after it. -/
structure StepRecord where
  outcome : Except Failure Outcome
  stage : Stage
  serverUrl : String
  clusterToken : String
  failedNodes : List String
  connects : List ConnectCall
  activity : List (SshTarget × List LabEvent)
deriving Repr, Inhabited

namespace Step

def perform : Step → Deploy Outcome
  | .setSpec src => do
    Deploy.setSpec src
    pure .done
  | .connect => do
    Deploy.connect
    pure .done
  | .install => do
    Deploy.install
    pure .done
  | .uninstall => do
    Deploy.uninstall
    pure .done
  | .disconnect => do
    Deploy.disconnect
    pure .done
  | .kubeconfig path existing forMachines => do
    if let some f := existing then modify fun d => d.putLocalFile path f
    pure (.kubeconfig (← Deploy.kubeconfig path forMachines))
  | .effectiveConfig position => do
    let f ← Deploy.effectiveConfig position
    pure (.settings f (← Deploy.orFail (f.toYaml.mapError Failure.unwritable)))
  | .selectMachines selector => do
    let s ← Deploy.orFail (Selector.ofData selector)
    pure (.addresses ((← Deploy.select s).map Handle.address))
  | .installerPath => do pure (.path (← Deploy.engine).settings.installerPath)
  | .setFault kind hosts => do
    match Fault.ofName? kind with
    | some f => modify fun d => { d with lab := d.lab.setFault f hosts }
    | none => pure ()
    pure .done

/-- The record of a step that gave `r` and took the deployment from `before` to `after`. -/
def recordOf (r : Except Failure Outcome) (before after : Deployment) : StepRecord :=
  let e := after.engine
  ⟨r, e.stage, e.serverUrl, e.clusterToken, e.failedNodes.map (·.1),
    after.lab.connectsSince before.lab, after.lab.activitySince before.lab⟩

/-- Runs a step and records it; a mistake of the caller ends the run instead. -/
def run (st : Step) (d : Deployment) : Except Failure (StepRecord × Deployment) :=
  let (r, d') := Deploy.outcome st.perform d
  match r with
  | .error f => if f.endsRun then .error f else .ok (recordOf r d d', d')
  | .ok _ => .ok (recordOf r d d', d')

def runAll : List Step → Deployment → Except Failure (List StepRecord × Deployment)
  | [], d => .ok ([], d)
  | st :: rest, d => do
    let (r, d) ← st.run d
    let (rs, d) ← runAll rest d
    pure (r :: rs, d)

end Step

end ClusterDeploy
