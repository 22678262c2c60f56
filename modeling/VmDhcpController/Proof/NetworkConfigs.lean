import VmDhcpController.Controller.Handler

/-!
# The network configs a pass derives

Three loops build `ncm` and two more prune it: seed a config per interface with a MAC
address, name each after the Multus network of the same name, drop those left without a
network name, and drop those whose network does not resolve. The last two range over the
map and delete as they go, so what they keep could depend on the order they visit it in.

It does not. When the VM's interfaces have distinct names and so do its networks (KubeVirt's
admission guarantees both), the configs left are exactly `dhcpPairs`: one per interface with
a MAC address whose network of the same name is a Multus network with a name that resolves,
listed in interface order, whatever the iteration orders (`filterIPPools_values`). The list
the pass writes is the same configs in the order of one more `range`, so it is a permutation
of `dhcpPairs`.
-/

namespace VmDhcpController

/-- The pairs a pass should keep for `vm`: for each interface with a MAC address, and each
network of the same name whose Multus network name is set and resolves, that network name
and the MAC address. -/
def dhcpPairs (h : Handler) (vm : VirtualMachine) : List NetworkConfig :=
  vm.interfaces.flatMap fun i =>
    if i.macAddress = "" then []
    else vm.networks.filterMap fun n =>
      if n.name = i.name then
        match n.multus with
        | some multus =>
          if multus.networkName ≠ "" ∧ h.hasIPPool vm multus.networkName then
            some ⟨multus.networkName, i.macAddress⟩
          else none
        | none => none
      else none

/-- The config the Multus loop leaves for the interface named `k`. -/
def multusNamed (networks : List Network) (k : String) (nc : NetworkConfig) : NetworkConfig :=
  match (networks.find? fun n => n.name = k).bind Network.multus with
  | some multus => { nc with networkName := multus.networkName }
  | none => nc

/-! ## Seeding -/

private theorem foldl_seed (l : List Interface) (acc : GoMap String NetworkConfig)
    (hl : (l.map Interface.name).Nodup) (hacc : ∀ nic ∈ l, nic.name ∉ acc.entries.map Prod.fst) :
    (l.foldl seedNetworkConfig acc).entries =
      acc.entries ++ (l.filter fun nic => nic.macAddress ≠ "").map
        fun nic => (nic.name, ⟨"", nic.macAddress⟩) := by
  induction l generalizing acc with
  | nil => simp
  | cons nic l ih =>
    simp only [List.map_cons, List.nodup_cons] at hl
    have hnic := hacc nic (List.mem_cons_self _ _)
    have hrest := fun n (hn : n ∈ l) => hacc n (List.mem_cons_of_mem _ hn)
    rw [List.foldl_cons, seedNetworkConfig]
    by_cases hm : nic.macAddress = ""
    · rw [if_pos hm, ih acc hl.2 hrest]
      simp [hm]
    · rw [if_neg hm, ih _ hl.2, GoMap.set_entries_of_not_mem _ hnic]
      · simp [hm]
      · intro n hn
        rw [GoMap.set_entries_of_not_mem _ hnic, List.map_append, List.mem_append]
        simp only [List.map_cons, List.map_nil, List.mem_singleton, not_or]
        exact ⟨hrest n hn, fun he => hl.1 (he ▸ List.mem_map_of_mem _ hn)⟩

/-- With distinct interface names, the seed has one config per interface with a MAC. -/
theorem initialNetworkConfigs_entries {vm : VirtualMachine}
    (hi : (vm.interfaces.map Interface.name).Nodup) :
    (initialNetworkConfigs vm).entries =
      (vm.interfaces.filter fun nic => nic.macAddress ≠ "").map
        fun nic => (nic.name, ⟨"", nic.macAddress⟩) := by
  simpa using foldl_seed vm.interfaces .empty hi (by simp)

/-! ## Multus names -/

private theorem multusNamed_of_not_mem {networks : List Network} {k : String}
    (hk : k ∉ networks.map Network.name) (nc : NetworkConfig) : multusNamed networks k nc = nc := by
  have : (networks.find? fun n => n.name = k) = none :=
    List.find?_eq_none.mpr fun n hn hnk => hk (List.mem_map.mpr ⟨n, hn, of_decide_eq_true hnk⟩)
  simp [multusNamed, this]

private theorem multusNamed_cons (net : Network) (rest : List Network) (k : String)
    (nc : NetworkConfig) :
    multusNamed (net :: rest) k nc =
      if net.name = k then multusNamed [net] k nc else multusNamed rest k nc := by
  by_cases h : net.name = k <;> simp [multusNamed, List.find?_cons, h]

/-- One round of the Multus loop renames the config of the network's interface, if any. -/
private theorem attachMultusName_entries (m : GoMap String NetworkConfig) (net : Network) :
    (attachMultusName m net).entries =
      m.entries.map fun e => (e.1, multusNamed [net] e.1 e.2) := by
  unfold attachMultusName
  rcases hmu : net.multus with _ | multus
  · conv_lhs => rw [← List.map_id m.entries]
    refine List.map_congr_left fun e _ => ?_
    by_cases h : net.name = e.1 <;> simp [multusNamed, h, hmu]
  rcases hg : m.get? net.name with _ | nc
  · have hk := GoMap.get?_eq_none.mp hg
    conv_lhs => rw [← List.map_id m.entries]
    refine List.map_congr_left fun e he => ?_
    have : net.name ≠ e.1 := fun h => hk (h ▸ List.mem_map_of_mem _ he)
    simp [multusNamed, this]
  · have hmem := GoMap.get?_eq_some.mp hg
    simp only
    rw [GoMap.set_entries_of_mem _ (List.mem_map_of_mem Prod.fst hmem)]
    refine List.map_congr_left fun e he => ?_
    by_cases hk : e.1 = net.name
    · obtain ⟨k, v⟩ := e
      simp only at hk
      subst hk
      have : v = nc := GoMap.mem_unique he hmem
      simp [multusNamed, hmu, this]
    · simp [hk, multusNamed, Ne.symm hk]

private theorem foldl_attach (nets : List Network) (m : GoMap String NetworkConfig)
    (hn : (nets.map Network.name).Nodup) :
    (nets.foldl attachMultusName m).entries =
      m.entries.map fun e => (e.1, multusNamed nets e.1 e.2) := by
  induction nets generalizing m with
  | nil => exact (List.map_id'' (fun e => rfl) m.entries).symm
  | cons net rest ih =>
    simp only [List.map_cons, List.nodup_cons] at hn
    rw [List.foldl_cons, ih _ hn.2, attachMultusName_entries, List.map_map]
    refine List.map_congr_left fun e _ => ?_
    simp only [Function.comp]
    rw [multusNamed_cons net rest]
    by_cases hk : net.name = e.1
    · rw [if_pos hk, multusNamed_of_not_mem (hk ▸ hn.1)]
    · rw [if_neg hk, @multusNamed_of_not_mem [net] e.1 (by simpa using Ne.symm hk) e.2]

/-- With distinct network names, each config takes the Multus name of its network. -/
theorem attachMultusNames_entries (vm : VirtualMachine) (m : GoMap String NetworkConfig)
    (hn : (vm.networks.map Network.name).Nodup) :
    (attachMultusNames vm m).entries =
      m.entries.map fun e => (e.1, multusNamed vm.networks e.1 e.2) :=
  foldl_attach vm.networks m hn

/-! ## What is left -/

private theorem filterMap_named {nets : List Network} (hn : (nets.map Network.name).Nodup)
    (k : String) (f : Network → Option NetworkConfig) :
    nets.filterMap (fun n => if n.name = k then f n else none) =
      ((nets.find? fun n => n.name = k).bind f).toList := by
  induction nets with
  | nil => rfl
  | cons n rest ih =>
    simp only [List.map_cons, List.nodup_cons] at hn
    by_cases hk : n.name = k
    · have hrest : rest.filterMap (fun n => if n.name = k then f n else none) = [] :=
        List.filterMap_eq_nil_iff.mpr fun a ha => by
          have : a.name ≠ k := fun h => hn.1 (hk ▸ h ▸ List.mem_map_of_mem _ ha)
          simp [this]
      cases hf : f n <;> simp [List.filterMap_cons, hk, hf, hrest]
    · simp [List.filterMap_cons, hk, ih hn.2]

/-- **The configs a pass keeps are the DHCP pairs of the VM, in interface order**, for
every order the two pruning loops visit `ncm` in. -/
theorem filterIPPools_values (h : Handler) (o : Orders) (vm : VirtualMachine)
    (hi : (vm.interfaces.map Interface.name).Nodup) (hn : (vm.networks.map Network.name).Nodup) :
    (h.filterIPPools o.filterIPPool vm (networkConfigs o vm)).entries.map Prod.snd =
      dhcpPairs h vm := by
  rw [Handler.filterIPPools, GoMap.deleteWhere_entries, networkConfigs, removeIncomplete,
    GoMap.deleteWhere_entries, attachMultusNames_entries _ _ hn, initialNetworkConfigs_entries hi]
  unfold dhcpPairs
  simp only [filterMap_named hn]
  clear hi
  induction vm.interfaces with
  | nil => rfl
  | cons i l ih =>
    by_cases hm : i.macAddress = ""
    · simpa [hm] using ih
    · rw [List.flatMap_cons, if_neg hm, ← ih]
      simp only [List.filter_cons, hm, List.map_cons, List.map_map, decide_not]
      rcases hf : List.find? (fun n => n.name = i.name) vm.networks with _ | n
      · simp [multusNamed, hf]
      · rcases hmu : n.multus with _ | multus
        · simp [multusNamed, hf, hmu]
        · by_cases hc : multus.networkName = "" <;> by_cases hp : h.hasIPPool vm multus.networkName
            <;> simp [multusNamed, hf, hmu, hc, hp]

/-! ## Every config left is complete -/

private theorem foldl_seed_mac (l : List Interface) (m : GoMap String NetworkConfig)
    (hm : ∀ e ∈ m.entries, e.2.macAddress ≠ "") :
    ∀ e ∈ (l.foldl seedNetworkConfig m).entries, e.2.macAddress ≠ "" := by
  induction l generalizing m with
  | nil => exact hm
  | cons nic l ih =>
    refine ih _ fun e he => ?_
    unfold seedNetworkConfig at he
    split at he
    · exact hm e he
    · rename_i hmac
      rcases GoMap.mem_set he with he | he
      · rw [(Prod.mk.inj he).2]
        exact hmac
      · exact hm _ he

private theorem multusNamed_macAddress (networks : List Network) (k : String) (nc : NetworkConfig) :
    (multusNamed networks k nc).macAddress = nc.macAddress := by
  unfold multusNamed; split <;> rfl

/-- The Multus loop renames configs and keeps their MAC addresses. -/
private theorem foldl_attach_macs (nets : List Network) (m : GoMap String NetworkConfig) :
    (nets.foldl attachMultusName m).entries.map (·.2.macAddress) =
      m.entries.map (·.2.macAddress) := by
  induction nets generalizing m with
  | nil => rfl
  | cons net rest ih =>
    rw [List.foldl_cons, ih, attachMultusName_entries, List.map_map]
    exact List.map_congr_left fun e _ => multusNamed_macAddress [net] e.1 e.2

/-- Every config the derivation leaves names its network and a MAC address, whatever the VM. -/
theorem networkConfigs_complete (o : Orders) (vm : VirtualMachine) {e : String × NetworkConfig}
    (he : e ∈ (networkConfigs o vm).entries) : e.2.networkName ≠ "" ∧ e.2.macAddress ≠ "" := by
  rw [networkConfigs, removeIncomplete, GoMap.deleteWhere_entries, List.mem_filter] at he
  refine ⟨by simpa using he.2, ?_⟩
  have hmac := List.mem_map_of_mem (·.2.macAddress) he.1
  rw [attachMultusNames, foldl_attach_macs] at hmac
  obtain ⟨e', he', hee⟩ := List.mem_map.mp hmac
  exact (show e'.2.macAddress = e.2.macAddress from hee) ▸
    foldl_seed_mac vm.interfaces .empty (by simp) e' he'

end VmDhcpController
