import VmDhcpController.Api.Types
import VmDhcpController.Go.Strings

/-!
# Resolving a network name to its IPPool

`GetIPPoolFromNetworkName` is the single place where a Multus network name is turned into
the IPPool that serves it: split the name at its last `/` into a NAD namespace and name
(falling back to a namespace the caller passes), look the NAD up, read the pool's
namespace and name off two of its labels, and look the pool up.

The VM handler calls it to decide which networks are DHCP-managed, and the vmnetcfg
webhook calls it to decide whether to admit a vmnetcfg; `getIPPoolFromNetworkName_ok_iff`
says exactly when it succeeds.

The two label keys are constants of the util package that are not part of the source
given here, so they are a parameter: every result holds for every choice of them.
-/

namespace VmDhcpController

/-- `IPPoolNamespaceLabelKey` and `IPPoolNameLabelKey`. -/
structure LabelKeys where
  ipPoolNamespaceLabelKey : String
  ipPoolNameLabelKey : String

/-- A NAD cache: `Get(namespace, name)` returns the object or fails with NotFound. -/
abbrev NadCache := String → String → Option NetworkAttachmentDefinition

/-- An IPPool cache. -/
abbrev IPPoolCache := String → String → Option IPPool

/-- The failures of `GetIPPoolFromNetworkName`, each with the arguments of its message. -/
inductive ResolveError
  /-- `network attachment definition %s/%s not found: %w` -/
  | nadNotFound (ns name : String)
  /-- `network attachment definition %s/%s has no labels` -/
  | noLabels (ns name : String)
  /-- `network attachment definition %s/%s has no label %s` -/
  | noLabel (ns name key : String)
  /-- `ippool %s/%s not found: %w` -/
  | ipPoolNotFound (ns name : String)
  deriving DecidableEq, Repr

/-- Lines 200–224: the NAD at `nadNamespace/nadName`, its two labels, and the pool they name. -/
def ipPoolOfNad (keys : LabelKeys) (nadCache : NadCache) (ippoolCache : IPPoolCache)
    (nadNamespace nadName : String) : Except ResolveError IPPool :=
  match nadCache nadNamespace nadName with
  | none => .error (.nadNotFound nadNamespace nadName)
  | some nad =>
    match nad.labels with
    | none => .error (.noLabels nadNamespace nadName)
    | some labels =>
      match labels.lookup keys.ipPoolNamespaceLabelKey with
      | none => .error (.noLabel nadNamespace nadName keys.ipPoolNamespaceLabelKey)
      | some ipPoolNamespace =>
        match labels.lookup keys.ipPoolNameLabelKey with
        | none => .error (.noLabel nadNamespace nadName keys.ipPoolNameLabelKey)
        | some ipPoolName =>
          match ippoolCache ipPoolNamespace ipPoolName with
          | none => .error (.ipPoolNotFound ipPoolNamespace ipPoolName)
          | some ipPool => .ok ipPool

/-- `GetIPPoolFromNetworkName(nadCache, ippoolCache, networkName, fallbackNamespace)`. -/
def getIPPoolFromNetworkName (keys : LabelKeys) (nadCache : NadCache) (ippoolCache : IPPoolCache)
    (networkName fallbackNamespace : String) : Except ResolveError IPPool :=
  let (nadNamespace, nadName) := rsplit networkName '/'
  let nadNamespace := if nadNamespace = "" then fallbackNamespace else nadNamespace
  ipPoolOfNad keys nadCache ippoolCache nadNamespace nadName

/-- The NAD name a network name denotes: the trimmed part after its last `/`. -/
def nadNameOf (s : String) : String := trimSpace (afterLast s '/')

/-- The NAD namespace a network name denotes: the trimmed part before its last `/`, or the
fallback `f` when there is no `/` or that part trims to nothing. -/
def nadNamespaceOf (s f : String) : String :=
  match beforeLast s '/' with
  | none => f
  | some b => if trimSpace b = "" then f else trimSpace b

theorem getIPPoolFromNetworkName_eq (keys : LabelKeys) (nadCache : NadCache)
    (ippoolCache : IPPoolCache) (s f : String) :
    getIPPoolFromNetworkName keys nadCache ippoolCache s f =
      ipPoolOfNad keys nadCache ippoolCache (nadNamespaceOf s f) (nadNameOf s) := by
  simp only [getIPPoolFromNetworkName, rsplit_eq, nadNamespaceOf, nadNameOf]
  cases beforeLast s '/' <;> simp

theorem ipPoolOfNad_eq_ok {keys : LabelKeys} {nadCache : NadCache} {ippoolCache : IPPoolCache}
    {ns nm : String} {p : IPPool} :
    ipPoolOfNad keys nadCache ippoolCache ns nm = .ok p ↔
      ∃ nad labels pns pn, nadCache ns nm = some nad ∧ nad.labels = some labels ∧
        labels.lookup keys.ipPoolNamespaceLabelKey = some pns ∧
        labels.lookup keys.ipPoolNameLabelKey = some pn ∧ ippoolCache pns pn = some p := by
  unfold ipPoolOfNad
  rcases nadCache ns nm with _ | nad; · simp
  rcases hl : nad.labels with _ | labels; · simp [hl]
  rcases h₁ : labels.lookup keys.ipPoolNamespaceLabelKey with _ | pns; · simp [hl, h₁]
  rcases h₂ : labels.lookup keys.ipPoolNameLabelKey with _ | pn; · simp [hl, h₁, h₂]
  simp only [hl, h₁, h₂, exists_and_left, exists_eq_left', Option.some.injEq, exists_eq_left]
  rcases ippoolCache pns pn with _ | q <;> simp

/-- **The resolver succeeds exactly when the NAD, both labels and the pool are there.** The
NAD is looked up at `nadNamespaceOf s f / nadNameOf s`, and the name has no `/` in it. -/
theorem getIPPoolFromNetworkName_ok_iff (keys : LabelKeys) (nadCache : NadCache)
    (ippoolCache : IPPoolCache) (s f : String) (p : IPPool) :
    (getIPPoolFromNetworkName keys nadCache ippoolCache s f = .ok p ↔
      ∃ nad labels pns pn, nadCache (nadNamespaceOf s f) (nadNameOf s) = some nad ∧
        nad.labels = some labels ∧ labels.lookup keys.ipPoolNamespaceLabelKey = some pns ∧
        labels.lookup keys.ipPoolNameLabelKey = some pn ∧ ippoolCache pns pn = some p) ∧
    '/' ∉ (nadNameOf s).toList :=
  ⟨by rw [getIPPoolFromNetworkName_eq, ipPoolOfNad_eq_ok],
    fun h => sep_not_mem_afterLast s '/' ((trimSpace_sublist _).subset h)⟩

example : nadNamespaceOf "/net" "default" = "default" ∧ nadNameOf "/net" = "net" := by decide

example : nadNamespaceOf " a/b / c " "f" = "a/b" ∧ nadNameOf " a/b / c " = "c" := by decide

end VmDhcpController
