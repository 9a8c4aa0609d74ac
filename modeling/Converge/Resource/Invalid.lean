import Converge.Resource.Kind

/-!
# Invalid resources

What can be wrong with a resource that is well-formed data: its names, a part that it
needs and does not have, or a place in the cluster it cannot be given.
-/

namespace Converge

inductive Invalid where
  /-- The name of something is not a name. -/
  | badName (what name : String)
  | unknownKind (word : String)
  | noContainers (name : String)
  | negativeReplicas (name : String)
  | incompleteContainer
  | noStorage (name : String)
  | noTargetPort (name : String)
  | noPorts (name : String)
  | noSelector (name : String)
  /-- A secret entry without an equals sign. -/
  | literal (text : String)
  | secretKey (name key : String)
  | noNamespace (kind : Kind) (name : String)
  | noResources
  /-- An action that does not fit what is wanted of the resource. -/
  | inapplicable (action : String) (kind : Kind) (name : String)
  /-- A context of the kubeconfig file that cannot be used. -/
  | badContext (context reason : String)
  /-- No configuration of a cluster was found. -/
  | noCluster (reason : String)
  /-- A reason given by a cluster. -/
  | refused (reason : String)
deriving DecidableEq

def Invalid.message : Invalid → String
  | .badName what name =>
    what ++ " name '" ++ name ++ "' must consist of lowercase alphanumerics, '-' or '.'"
  | .unknownKind word => "Unknown resource kind '" ++ word ++ "'"
  | .noContainers name => "DeploymentConfig " ++ name ++ " requires at least one container"
  | .negativeReplicas name => "DeploymentConfig " ++ name ++ " has negative replicas"
  | .incompleteContainer => "Every container needs a name and an image"
  | .noStorage name => "PersistentVolumeClaim " ++ name ++ " requires a storage quantity"
  | .noTargetPort name => "Route " ++ name ++ " requires a target port"
  | .noPorts name => "Service " ++ name ++ " requires at least one port"
  | .noSelector name => "Service " ++ name ++ " requires a selector"
  | .literal text => "Secret literal '" ++ text ++ "' is not of the form KEY=VALUE"
  | .secretKey name key => "Secret " ++ name ++ " has an invalid key '" ++ key ++ "'"
  | .noNamespace kind name =>
    kind.name ++ " " ++ name ++ " has no namespace; set one in the file or pass --namespace"
  | .noResources => "No resources found in input"
  | .inapplicable action kind name =>
    "Cannot apply " ++ action ++ " to " ++ kind.name ++ " " ++ name
  | .badContext context reason => "Failed to load kubeconfig context " ++ context ++ ": " ++ reason
  | .noCluster reason => "Failed to infer cluster config: " ++ reason
  | .refused reason => reason

end Converge
