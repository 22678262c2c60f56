import VmDhcpController.Controller.Cluster
import VmDhcpController.Go.Map
import VmDhcpController.Util.Resolve

/-!
# The VM handler

`Handler.onChange` is the VM controller's `OnChange` with the IPPool filter. A pass

1. ignores a nil or deleted VM;
2. backfills missing MAC addresses from the VM's `harvesterhci.io/mac-address` annotation,
   and when that changes the VM, updates it and goes on with the VM the update returns;
3. stops on a VM with no interfaces;
4. builds `ncm`, one config per interface with a MAC address, names each after the Multus
   network of the same name, and drops those left without a network name;
5. drops the configs whose network does not resolve to an IPPool, and stops if none is left;
6. reads the vmnetcfg from the cache: creates it when it is missing, and when its spec
   differs, updates the spec if it is already out of sync, and otherwise marks it out of
   sync and enqueues the VM so that the next pass updates the spec.

`Handler.onChangeUnfiltered` is the earlier version of the same handler, without steps 3
and 5. Both are `onChangeWith` applied to their own derivation.

`prepareVmNetCfg` is not part of the source given here. It is modelled from the spec: the
vmnetcfg has the VM's namespace and name, and its spec lists the configs of `ncm` in the
order a `range` over `ncm` visits them.
-/

namespace VmDhcpController

/-- The annotation key macAddressAnnotation. -/
def macAddressAnnotation : String := "harvesterhci.io/mac-address"

/-- `networkv1.InSynced`: the condition the allocation engine sets once it has reconciled
the addresses of the current spec. -/
def inSynced : String := "InSynced"

/-- What a pass depends on besides the cluster: the NAD and IPPool caches, the label keys of
the util package, and `json.Unmarshal` of the MAC annotation into a `map[string]string`
(`none` when it fails). The label keys and the decoder are not part of the source given
here; every result holds for every choice of them. -/
structure Handler where
  keys : LabelKeys
  nadCache : NadCache
  ippoolCache : IPPoolCache
  unmarshal : String → Option (GoMap String String)

/-- The orders the handler's three `range` statements over `ncm` visit it in. -/
structure Orders where
  removeIncomplete : MapOrder String NetworkConfig
  filterIPPool : MapOrder String NetworkConfig
  prepare : MapOrder String NetworkConfig

/-- What a pass returns to the controller runtime: the VM, or the error to retry on. -/
abbrev Result := Except StoreError (Option VirtualMachine)

/-! ## The MAC annotation -/

/-- The loop body of applyMACAddressAnnotation: the interface with its MAC from the
annotation, and whether it took one. -/
def applyMAC (macAddresses : GoMap String String) (nic : Interface) : Interface × Bool :=
  if nic.macAddress ≠ "" then (nic, false)
  else
    match macAddresses.get? nic.name with
    | some macAddr => if macAddr ≠ "" then ({ nic with macAddress := macAddr }, true) else (nic, false)
    | none => (nic, false)

/-- The function applyMACAddressAnnotation: a copy of the VM with the missing MAC addresses the
annotation supplies, and whether there were any. -/
def Handler.applyMACAddressAnnotation (h : Handler) (vm : VirtualMachine) :
    Except StoreError (VirtualMachine × Bool) :=
  match vm.annotations.lookup macAddressAnnotation with
  | none => .ok (vm, false)
  | some macAnnotation =>
    if macAnnotation = "" then .ok (vm, false)
    else
      match h.unmarshal macAnnotation with
      | none => .ok (vm, false)
      | some macAddresses =>
        if macAddresses.len = 0 then .ok (vm, false)
        else
          .ok ({ vm with interfaces := vm.interfaces.map fun nic => (applyMAC macAddresses nic).1 },
            vm.interfaces.any fun nic => (applyMAC macAddresses nic).2)

/-! ## The network configs of a VM -/

/-- The body of "Construct initial network config map": a config for an interface with a
MAC address, keyed by its name. -/
def seedNetworkConfig (ncm : GoMap String NetworkConfig) (nic : Interface) :
    GoMap String NetworkConfig :=
  if nic.macAddress = "" then ncm else ncm.set nic.name ⟨"", nic.macAddress⟩

/-- "Construct initial network config map". -/
def initialNetworkConfigs (vm : VirtualMachine) : GoMap String NetworkConfig :=
  vm.interfaces.foldl seedNetworkConfig .empty

/-- The body of "Update network name for each network config if it's of type Multus". -/
def attachMultusName (ncm : GoMap String NetworkConfig) (network : Network) :
    GoMap String NetworkConfig :=
  match network.multus with
  | none => ncm
  | some multus =>
    match ncm.get? network.name with
    | none => ncm
    | some nc => ncm.set network.name { nc with networkName := multus.networkName }

/-- "Update network name for each network config if it's of type Multus". -/
def attachMultusNames (vm : VirtualMachine) (ncm : GoMap String NetworkConfig) :
    GoMap String NetworkConfig :=
  vm.networks.foldl attachMultusName ncm

/-- "Remove incomplete network configs". -/
def removeIncomplete (o : MapOrder String NetworkConfig) (ncm : GoMap String NetworkConfig) :
    GoMap String NetworkConfig :=
  ncm.deleteWhere o fun nc => nc.networkName = ""

/-- `hasIPPool`: whether the network resolves, with the VM's namespace as fallback. -/
def Handler.hasIPPool (h : Handler) (vm : VirtualMachine) (networkName : String) : Bool :=
  match getIPPoolFromNetworkName h.keys h.nadCache h.ippoolCache networkName vm.namespace with
  | .ok _ => true
  | .error _ => false

/-- "Filter out networks that don't have IPPools". -/
def Handler.filterIPPools (h : Handler) (o : MapOrder String NetworkConfig) (vm : VirtualMachine)
    (ncm : GoMap String NetworkConfig) : GoMap String NetworkConfig :=
  ncm.deleteWhere o fun nc => !h.hasIPPool vm nc.networkName

/-- Modelled from the spec: `prepareVmNetCfg(vm, ncm)` is not part of the source given here.
The vmnetcfg has the VM's namespace and name, and its spec lists the configs of `ncm` in the
order a `range` over `ncm` visits them. -/
def prepareVmNetCfg (vm : VirtualMachine) (ncm : GoMap String NetworkConfig)
    (o : MapOrder String NetworkConfig) : VirtualMachineNetworkConfig :=
  { kind := "", «namespace» := vm.namespace, name := vm.name, resourceVersion := 0,
    networkConfigs := (o.visit ncm.entries).map Prod.snd, conditions := [] }

/-! ## The pass -/

/-- Marks a vmnetcfg out of sync: InSynced False, with its reason and message. -/
def markOutOfSync (cfg : VirtualMachineNetworkConfig) : VirtualMachineNetworkConfig :=
  let conds := Cond.setStatus inSynced "False" cfg.conditions
  let conds := Cond.reason inSynced "NetworkConfigChanged" conds
  let conds := Cond.message inSynced
    "Network configuration of the upstrem virtual machine has been changed" conds
  { cfg with conditions := conds }

/-- From the cache read of the vmnetcfg on: create it, or bring the stored one to the new
spec in two steps. -/
def syncVmNetCfg (vm : VirtualMachine) (vmNetCfg : VirtualMachineNetworkConfig) : Prog Result :=
  .getVmNetCfg vm.namespace vm.name fun
    | none =>
      .write (.create vmNetCfg) fun
        | some err => .ret (.error err)
        | none => .ret (.ok (some vm))
    | some oldVmNetCfg =>
      let vmNetCfgCpy := { oldVmNetCfg with networkConfigs := vmNetCfg.networkConfigs }
      if vmNetCfgCpy.networkConfigs = oldVmNetCfg.networkConfigs then .ret (.ok (some vm))
      else if Cond.IsFalse inSynced oldVmNetCfg.conditions then
        .write (.update vmNetCfgCpy) fun
          | some err => .ret (.error err)
          | none => .ret (.ok (some vm))
      else
        .write (.updateStatus (markOutOfSync vmNetCfgCpy)) fun
          | some err => .ret (.error err)
          | none => .enqueue vm.namespace vm.name (.ret (.ok (some vm)))

/-- The configs a pass derives for `vm` before the IPPool filter. -/
def networkConfigs (o : Orders) (vm : VirtualMachine) : GoMap String NetworkConfig :=
  removeIncomplete o.removeIncomplete (attachMultusNames vm (initialNetworkConfigs vm))

/-- The pass after the MAC backfill: derive the configs, filter them, and sync. -/
def Handler.reconcile (h : Handler) (o : Orders) (vm : VirtualMachine) : Prog Result :=
  if vm.interfaces.length = 0 then .ret (.ok (some vm))
  else
    let ncm := h.filterIPPools o.filterIPPool vm (networkConfigs o vm)
    if ncm.len = 0 then .ret (.ok (some vm))
    else syncVmNetCfg vm (prepareVmNetCfg vm ncm o.prepare)

/-- The earlier version of `reconcile`, with no IPPool filter and no stop on a VM without
interfaces. -/
def reconcileUnfiltered (o : Orders) (vm : VirtualMachine) : Prog Result :=
  let ncm := networkConfigs o vm
  if ncm.len = 0 then .ret (.ok (some vm))
  else syncVmNetCfg vm (prepareVmNetCfg vm ncm o.prepare)

/-- `OnChange` up to the derivation, which both versions share: skip a nil or deleted VM,
backfill MAC addresses, update the VM if that changed it, then `reconcile` the VM. -/
def Handler.onChangeWith (h : Handler) (reconcile : VirtualMachine → Prog Result) :
    Option VirtualMachine → Prog Result
  | none => .ret (.ok none)
  | some vm =>
    if vm.deletionTimestamp.isSome then .ret (.ok none)
    else
      match h.applyMACAddressAnnotation vm with
      | .error err => .ret (.error err)
      | .ok (vmCopy, updated) =>
        if updated then
          .updateVM vmCopy fun
            | .error err => .ret (.error err)
            | .ok vm => reconcile vm
        else reconcile vm

/-- `Handler.OnChange`, with the IPPool filter. -/
def Handler.onChange (h : Handler) (o : Orders) : Option VirtualMachine → Prog Result :=
  h.onChangeWith (h.reconcile o)

/-- The earlier `Handler.OnChange`, without it. -/
def Handler.onChangeUnfiltered (h : Handler) (o : Orders) : Option VirtualMachine → Prog Result :=
  h.onChangeWith (reconcileUnfiltered o)

end VmDhcpController
