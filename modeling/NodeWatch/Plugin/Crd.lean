import NodeWatch.Json.Shape

/-!
# Custom resources

The custom resources that a plugin needs in the cluster, by their identifying parts.
-/

namespace NodeWatch.Plugin

open Json

/-- Whether a custom resource lives in a namespace or in the whole cluster. -/
inductive Scope where
  | namespaced
  | cluster
  deriving DecidableEq, Repr

def Scope.name : Scope → String
  | namespaced => "Namespaced"
  | cluster => "Cluster"

def Scope.ofName? : String → Option Scope
  | "Namespaced" => some namespaced
  | "Cluster" => some cluster
  | _ => none

theorem Scope.ofName?_name (s : Scope) : ofName? s.name = some s := by
  cases s <;> rfl

structure CrdVersion where
  name : String
  served : Bool
  storage : Bool
  deriving DecidableEq, Repr

structure Crd where
  /-- The plural and the group, with a dot between them. -/
  name : String
  group : String
  kind : String
  plural : String
  scope : Scope
  versions : List CrdVersion
  deriving DecidableEq, Repr

/-- A resource that is served and stored in one version. -/
def Crd.single (group kind plural : String) (scope : Scope) (version : String) : Crd :=
  { name := s!"{plural}.{group}", group, kind, plural, scope, versions := [⟨version, true, true⟩] }

def CrdVersion.toValue (v : CrdVersion) : Value :=
  .object [("name", .text v.name), ("served", .flag v.served), ("storage", .flag v.storage)]

def Crd.toValue (d : Crd) : Value :=
  .object [("name", .text d.name), ("group", .text d.group), ("kind", .text d.kind),
    ("plural", .text d.plural), ("scope", .text d.scope.name),
    ("versions", .list (d.versions.map CrdVersion.toValue))]

def Crd.toJson (d : Crd) : String :=
  d.toValue.toText

def CrdVersion.shape : Shape :=
  Shape.record [("name", Shape.text), ("served", Shape.flag), ("storage", Shape.flag)]

def Crd.shape : Shape :=
  Shape.record [("name", Shape.text), ("group", Shape.text), ("kind", Shape.text),
    ("plural", Shape.text), ("scope", Shape.choice [Scope.namespaced.name, Scope.cluster.name]),
    ("versions", Shape.list CrdVersion.shape)]

def CrdVersion.ofValue? : Value → Option CrdVersion
  | .object [(_, .text name), (_, .flag served), (_, .flag storage)] => some ⟨name, served, storage⟩
  | _ => none

def Crd.ofValue? : Value → Option Crd
  | .object [(_, .text name), (_, .text group), (_, .text kind), (_, .text plural),
      (_, .text scope), (_, .list versions)] => do
    let scope ← Scope.ofName? scope
    let versions ← versions.mapM CrdVersion.ofValue?
    pure { name, group, kind, plural, scope, versions }
  | _ => none

def Crd.ofJson (text : String) : Except Fault Crd := do
  let value ← Crd.shape.parse text
  match Crd.ofValue? value with
  | some d => pure d
  | none => throw .mismatched

end NodeWatch.Plugin
