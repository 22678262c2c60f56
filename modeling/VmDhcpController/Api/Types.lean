import Mathlib.Data.List.Basic

/-!
# The objects the core reads and writes

Only the fields some modelled function reads or writes are kept:

* a KubeVirt `VirtualMachine`: its name, namespace, resourceVersion, deletion timestamp,
  annotations, and the interfaces and networks of its template;
* a `VirtualMachineNetworkConfig` (vmnetcfg): its name, namespace, kind and resourceVersion,
  `Spec.NetworkConfigs`, and `Status.Conditions`;
* a `NetworkAttachmentDefinition` (NAD): its labels, `none` for a nil map;
* an `IPPool`: the strings of its IPv4 configuration.

Conditions are wrangler's: a list of generic conditions, each found by its type. `getStatus`
reads the first one of a type (`""` when there is none); `setField` changes the first one of
a type, first appending one with status `"Unknown"` when there is none, which is what
wrangler's `findOrCreateCond` does.
-/

namespace VmDhcpController

/-- A cluster object's namespace and name. -/
abbrev Key := String × String

/-- `networkv1.NetworkConfig`: a DHCP-managed interface, by its network and MAC address. -/
structure NetworkConfig where
  networkName : String
  macAddress : String
  deriving DecidableEq, Repr

/-- A generic condition, without its timestamps. -/
structure Condition where
  type : String
  status : String
  reason : String
  message : String
  deriving DecidableEq, Repr

/-- A `networkv1.VirtualMachineNetworkConfig`. -/
structure VirtualMachineNetworkConfig where
  kind : String
  «namespace» : String
  name : String
  resourceVersion : Nat
  /-- `Spec.NetworkConfigs`. -/
  networkConfigs : List NetworkConfig
  /-- `Status.Conditions`. -/
  conditions : List Condition
  deriving DecidableEq, Repr

/-- An interface of `Spec.Template.Spec.Domain.Devices.Interfaces`. -/
structure Interface where
  name : String
  macAddress : String
  deriving DecidableEq, Repr

/-- `Multus`: the NAD a network attaches to. -/
structure MultusNetwork where
  networkName : String
  deriving DecidableEq, Repr

/-- A network of `Spec.Template.Spec.Networks`; `multus` is `none` for other network types. -/
structure Network where
  name : String
  multus : Option MultusNetwork
  deriving DecidableEq, Repr

/-- A KubeVirt `VirtualMachine`. -/
structure VirtualMachine where
  «namespace» : String
  name : String
  resourceVersion : Nat
  deletionTimestamp : Option Nat
  annotations : List (String × String)
  interfaces : List Interface
  networks : List Network
  deriving DecidableEq, Repr

/-- A `NetworkAttachmentDefinition`: its labels, `none` for a nil map. -/
structure NetworkAttachmentDefinition where
  labels : Option (List (String × String))
  deriving DecidableEq, Repr

/-- An `IPPool`: the strings of `Spec.IPv4Config`. -/
structure IPPool where
  cidr : String
  poolStart : String
  poolEnd : String
  serverIP : String
  router : String
  deriving DecidableEq, Repr

def VirtualMachine.key (vm : VirtualMachine) : Key := (vm.namespace, vm.name)

def VirtualMachineNetworkConfig.key (cfg : VirtualMachineNetworkConfig) : Key :=
  (cfg.namespace, cfg.name)

/-! ## Conditions -/

namespace Cond

/-- wrangler's `getStatus`: the status of the first condition of type `c`, or `""`. -/
def getStatus (c : String) (conds : List Condition) : String :=
  ((conds.find? fun d => d.type = c).map Condition.status).getD ""

/-- wrangler's `GetReason`: the reason of the first condition of type `c`, or `""`. -/
def getReason (c : String) (conds : List Condition) : String :=
  ((conds.find? fun d => d.type = c).map Condition.reason).getD ""

/-- `Cond.IsFalse`. -/
def IsFalse (c : String) (conds : List Condition) : Prop := getStatus c conds = "False"

/-- `Cond.IsTrue`. -/
def IsTrue (c : String) (conds : List Condition) : Prop := getStatus c conds = "True"

instance (c : String) (conds : List Condition) : Decidable (IsFalse c conds) :=
  inferInstanceAs (Decidable (_ = _))

instance (c : String) (conds : List Condition) : Decidable (IsTrue c conds) :=
  inferInstanceAs (Decidable (_ = _))

/-- `findOrCreateCond` followed by a change `f` of the condition found. -/
def setField (c : String) (f : Condition → Condition) : List Condition → List Condition
  | [] => [f ⟨c, "Unknown", "", ""⟩]
  | d :: ds => if d.type = c then f d :: ds else d :: setField c f ds

/-- `Cond.SetStatus`. -/
def setStatus (c status : String) : List Condition → List Condition :=
  setField c fun d => { d with status := status }

/-- `Cond.Reason`. -/
def reason (c reason : String) : List Condition → List Condition :=
  setField c fun d => { d with reason := reason }

/-- `Cond.Message`. -/
def message (c message : String) : List Condition → List Condition :=
  setField c fun d => { d with message := message }

theorem setField_setField (c : String) (f g : Condition → Condition)
    (hg : ∀ d, (g d).type = d.type) (conds : List Condition) :
    setField c f (setField c g conds) = setField c (f ∘ g) conds := by
  induction conds with
  | nil => simp [setField, hg]
  | cons d ds ih => by_cases hd : d.type = c <;> simp [setField, hd, hg, ih]

/-- `setField` changes the first condition of its type, or adds one. -/
theorem find?_setField (c : String) (f : Condition → Condition) (hf : ∀ d, (f d).type = d.type)
    (conds : List Condition) :
    (setField c f conds).find? (fun d => d.type = c) =
      some (f ((conds.find? fun d => d.type = c).getD ⟨c, "Unknown", "", ""⟩)) := by
  induction conds with
  | nil => simp [setField, hf]
  | cons d ds ih => by_cases hd : d.type = c <;> simp [setField, hd, hf, ih]

/-- After `setField`, the first condition of its type has the status the change gives it. -/
theorem getStatus_setField (c : String) (f : Condition → Condition) {s : String}
    (hf : ∀ d, (f d).type = d.type) (hs : ∀ d, (f d).status = s) (conds : List Condition) :
    getStatus c (setField c f conds) = s := by
  simp [getStatus, find?_setField c f hf, hs]

end Cond

end VmDhcpController
