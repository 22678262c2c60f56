import VmDhcpController.Proof.NetworkConfigs
import VmDhcpController.Proof.Pass
import VmDhcpController.Webhook.Validator

/-!
# What a pass writes

Every request of a pass comes from one of three places: the VM update of the backfill, the
vmnetcfg write of `syncVmNetCfg`, and the `Enqueue` after marking a vmnetcfg out of sync.
`mem_exec_onChange` follows a request back to the derivation it came from, whichever
answers the cluster gave. Two results follow.

* The spec a pass creates or updates a vmnetcfg with lists exactly the DHCP pairs of the
  backfilled VM, each once, in some order (`onChange_writes_dhcpPairs`); when there are
  none, the pass touches no vmnetcfg and enqueues nothing.
* The webhook admits every vmnetcfg the handler creates (`onChange_create_admitted`): the
  handler only keeps networks that resolve from the VM's namespace, and the vmnetcfg lives
  in that namespace.
-/

namespace VmDhcpController

section Requests

variable (cache s : Cluster) (vm : VirtualMachine) (cfg : VirtualMachineNetworkConfig)

/-- Every request a `syncVmNetCfg vm cfg` pass makes. -/
theorem mem_exec_syncVmNetCfg {e : Event} (he : e ∈ ((syncVmNetCfg vm cfg).exec cache s).2.1) :
    e = .write (.create cfg) ∨
    ∃ old, cache.vmNetCfgs vm.key = some old ∧ old.networkConfigs ≠ cfg.networkConfigs ∧
      ((Cond.IsFalse inSynced old.conditions ∧
          e = .write (.update { old with networkConfigs := cfg.networkConfigs })) ∨
        (¬Cond.IsFalse inSynced old.conditions ∧
          (e = .write (.updateStatus (markOutOfSync { old with networkConfigs := cfg.networkConfigs }))
            ∨ e = .enqueue vm.namespace vm.name))) := by
  rcases hc : cache.vmNetCfgs vm.key with _ | old
  · rw [(exec_syncVmNetCfg_of_none cache s vm cfg hc).2, List.mem_singleton] at he
    exact .inl he
  by_cases hs : cfg.networkConfigs = old.networkConfigs
  · rw [(exec_syncVmNetCfg_of_same cache s vm cfg hc hs).2] at he
    cases he
  refine .inr ⟨old, rfl, Ne.symm hs, ?_⟩
  by_cases hf : Cond.IsFalse inSynced old.conditions
  · rw [(exec_syncVmNetCfg_of_false cache s vm cfg hc hs hf).2, List.mem_singleton] at he
    exact .inl ⟨hf, he⟩
  · rw [(exec_syncVmNetCfg_of_not_false cache s vm cfg hc hs hf).2] at he
    refine .inr ⟨hf, ?_⟩
    split at he <;> simp_all

/-- A vmnetcfg a `syncVmNetCfg vm cfg` pass creates or updates carries the spec of `cfg`. -/
theorem syncVmNetCfg_written_spec {e : Event} {c : VirtualMachineNetworkConfig}
    (he : e ∈ ((syncVmNetCfg vm cfg).exec cache s).2.1)
    (hw : e = .write (.create c) ∨ e = .write (.update c)) : c.networkConfigs = cfg.networkConfigs := by
  rcases mem_exec_syncVmNetCfg cache s vm cfg he with he | ⟨old, -, -, ⟨-, he⟩ | ⟨-, he | he⟩⟩ <;>
    rcases hw with rfl | rfl <;> cases he <;> rfl

end Requests

/-- Every vmnetcfg request of a derivation comes from syncing the configs it keeps. -/
theorem mem_exec_reconcile {h : Handler} {o : Orders} {vm : VirtualMachine} {cache s : Cluster}
    {e : Event} (he : e ∈ ((h.reconcile o vm).exec cache s).2.1) :
    (h.keptConfigs o vm).len ≠ 0 ∧
      e ∈ ((syncVmNetCfg vm (prepareVmNetCfg vm (h.keptConfigs o vm) o.prepare)).exec cache s).2.1 := by
  unfold Handler.reconcile at he
  split at he
  · cases he
  · dsimp only at he
    split at he
    · cases he
    · exact ⟨‹_›, he⟩

/-- **Every request of a pass is its VM update, or comes from the derivation on the
backfilled VM**, as the pass read it or as the update returned it. -/
theorem mem_exec_onChange {h : Handler} {o : Orders} {vm0 vm : VirtualMachine} {upd : Bool}
    (ha : h.applyMACAddressAnnotation vm0 = .ok (vm, upd)) {cache s : Cluster} {e : Event}
    (he : e ∈ ((h.onChange o (some vm0)).exec cache s).2.1) :
    e = .updateVM vm ∨ ∃ vm' s', (vm' = vm ∨ ∃ n, vm' = { vm with resourceVersion := n }) ∧
      e ∈ ((h.reconcile o vm').exec cache s').2.1 := by
  by_cases hdel : vm0.deletionTimestamp = none
  swap
  · simp [Handler.onChange, Handler.onChangeWith, Option.isSome_iff_ne_none.mpr hdel] at he
  cases upd
  · obtain ⟨v, u, ha', -, -, hv⟩ := applyMACAddressAnnotation_ok h vm0
    rw [ha] at ha'
    cases ha'
    rw [Handler.onChange, onChangeWith_of_unchanged _ hdel ha, ← hv rfl] at he
    exact .inr ⟨vm, s, .inl rfl, he⟩
  · rw [Handler.onChange, exec_onChangeWith_of_backfilled _ hdel ha] at he
    split at he
    · exact .inl (List.mem_singleton.mp he)
    · rcases List.mem_cons.mp he with he | he
      · exact .inl he
      · exact .inr ⟨_, _, .inr ⟨_, Cluster.updateVM_ok ‹_›⟩, he⟩

/-- The spec of the vmnetcfg a derivation prepares is a permutation of the DHCP pairs. -/
theorem prepareVmNetCfg_perm (h : Handler) (o : Orders) (vm : VirtualMachine)
    (hi : (vm.interfaces.map Interface.name).Nodup) (hn : (vm.networks.map Network.name).Nodup) :
    (prepareVmNetCfg vm (h.keptConfigs o vm) o.prepare).networkConfigs.Perm (dhcpPairs h vm) := by
  rw [← filterIPPools_values h o vm hi hn]
  exact (o.prepare.perm _).map _

/-- **A pass creates or updates a vmnetcfg with exactly the DHCP pairs of the backfilled
VM**, each once, for every cache, cluster and iteration order; when there are none, it makes
no vmnetcfg request at all. -/
theorem onChange_writes_dhcpPairs (h : Handler) (o : Orders) {vm0 vm : VirtualMachine}
    {upd : Bool} (ha : h.applyMACAddressAnnotation vm0 = .ok (vm, upd))
    (hi : (vm.interfaces.map Interface.name).Nodup) (hn : (vm.networks.map Network.name).Nodup)
    (cache s : Cluster) :
    (∀ cfg, Event.write (.create cfg) ∈ ((h.onChange o (some vm0)).exec cache s).2.1 ∨
        Event.write (.update cfg) ∈ ((h.onChange o (some vm0)).exec cache s).2.1 →
      cfg.networkConfigs.Perm (dhcpPairs h vm)) ∧
    (dhcpPairs h vm = [] →
      ∀ e ∈ ((h.onChange o (some vm0)).exec cache s).2.1, e = .updateVM vm) := by
  have key : ∀ e ∈ ((h.onChange o (some vm0)).exec cache s).2.1, e = .updateVM vm ∨
      ∃ vm', (vm' = vm ∨ ∃ n, vm' = { vm with resourceVersion := n }) ∧
        (h.keptConfigs o vm').len ≠ 0 ∧ ∃ s', e ∈ ((syncVmNetCfg vm'
          (prepareVmNetCfg vm' (h.keptConfigs o vm') o.prepare)).exec cache s').2.1 := by
    intro e he
    rcases mem_exec_onChange ha he with he | ⟨vm', s', hvm', he⟩
    · exact .inl he
    · exact .inr ⟨vm', hvm', (mem_exec_reconcile he).1, s', (mem_exec_reconcile he).2⟩
  -- the backfilled VM and the one the update returns derive the same configs
  have same : ∀ vm', (vm' = vm ∨ ∃ n, vm' = { vm with resourceVersion := n }) →
      h.keptConfigs o vm' = h.keptConfigs o vm ∧ vm'.key = vm.key ∧ dhcpPairs h vm' = dhcpPairs h vm := by
    rintro vm' (rfl | ⟨n, rfl⟩) <;> exact ⟨rfl, rfl, rfl⟩
  constructor
  · intro cfg hcfg
    obtain ⟨e, he, hw⟩ : ∃ e ∈ ((h.onChange o (some vm0)).exec cache s).2.1,
        e = .write (.create cfg) ∨ e = .write (.update cfg) :=
      hcfg.elim (fun h => ⟨_, h, .inl rfl⟩) (fun h => ⟨_, h, .inr rfl⟩)
    rcases key e he with rfl | ⟨vm', hvm', -, s', he⟩
    · rcases hw with hw | hw <;> cases hw
    rw [syncVmNetCfg_written_spec _ _ _ _ he hw, (same vm' hvm').1]
    exact prepareVmNetCfg_perm h o vm hi hn
  · intro hnil e he
    rcases key e he with he | ⟨vm', hvm', hlen, -⟩
    · exact he
    · obtain ⟨hk, -, -⟩ := same vm' hvm'
      have := filterIPPools_values h o vm hi hn
      rw [hnil, List.map_eq_nil_iff] at this
      exact absurd (by simpa [GoMap.len, hk] using this) hlen

/-- Every config a derivation keeps resolves, with the VM's namespace as fallback. -/
theorem keptConfigs_resolve (h : Handler) (o : Orders) (vm : VirtualMachine) {k : String}
    {nc : NetworkConfig} (hmem : (k, nc) ∈ (h.keptConfigs o vm).entries) :
    ∃ p, getIPPoolFromNetworkName h.keys h.nadCache h.ippoolCache nc.networkName vm.namespace
      = .ok p := by
  rw [Handler.keptConfigs, Handler.filterIPPools, GoMap.deleteWhere_entries, List.mem_filter] at hmem
  have := hmem.2
  simp only [Bool.not_not, Handler.hasIPPool] at this
  split at this
  · exact ⟨_, ‹_›⟩
  · cases this

/-- The only vmnetcfg a pass creates is the one it prepares from the configs it keeps. -/
theorem mem_exec_onChange_create {h : Handler} {o : Orders} {vm? : Option VirtualMachine}
    {cache s : Cluster} {cfg : VirtualMachineNetworkConfig}
    (hcfg : Event.write (.create cfg) ∈ ((h.onChange o vm?).exec cache s).2.1) :
    ∃ vm, cfg = prepareVmNetCfg vm (h.keptConfigs o vm) o.prepare := by
  cases vm? with
  | none => simp [Handler.onChange, Handler.onChangeWith] at hcfg
  | some vm0 =>
    obtain ⟨vm, upd, ha, -⟩ := applyMACAddressAnnotation_ok h vm0
    rcases mem_exec_onChange ha hcfg with he | ⟨vm', s', -, he⟩
    · cases he
    obtain ⟨-, he⟩ := mem_exec_reconcile he
    rcases mem_exec_syncVmNetCfg cache s' vm' _ he with he | ⟨old, -, -, ⟨-, he⟩ | ⟨-, he | he⟩⟩
    · cases he
      exact ⟨vm', rfl⟩
    all_goals cases he

/-- The vmnetcfg a pass prepares passes a webhook whose caches are the handler's: it lives in
the VM's namespace, and each of its networks was kept because it resolves there. -/
theorem Validator.create_prepareVmNetCfg (h : Handler) (o : Orders) (vm : VirtualMachine) :
    (Validator.mk h.keys h.nadCache h.ippoolCache).create
      (prepareVmNetCfg vm (h.keptConfigs o vm) o.prepare) = .ok () := by
  rw [Validator.create_eq_ok]
  intro nc hnc
  obtain ⟨⟨k, nc'⟩, hmem, rfl⟩ := List.mem_map.mp hnc
  exact keptConfigs_resolve h o vm ((o.prepare.perm _).subset hmem)

/-- **The webhook admits every vmnetcfg a pass creates.** -/
theorem onChange_create_admitted (h : Handler) (o : Orders) (vm? : Option VirtualMachine)
    (cache s : Cluster) (cfg : VirtualMachineNetworkConfig)
    (hcfg : Event.write (.create cfg) ∈ ((h.onChange o vm?).exec cache s).2.1) :
    (Validator.mk h.keys h.nadCache h.ippoolCache).create cfg = .ok () := by
  obtain ⟨vm, rfl⟩ := mem_exec_onChange_create hcfg
  exact Validator.create_prepareVmNetCfg h o vm

/-! ## A VM with two DHCP-managed interfaces -/

/-- Two NADs `default/net1` and `default/net2`, both pointing at the pool `default/pool`. -/
def twoNetHandler : Handler where
  keys := ⟨"pool-namespace", "pool-name"⟩
  nadCache := fun ns n =>
    if ns = "default" ∧ (n = "net1" ∨ n = "net2") then
      some ⟨some [("pool-namespace", "default"), ("pool-name", "pool")]⟩
    else none
  ippoolCache := fun ns n =>
    if ns = "default" ∧ n = "pool" then some ⟨"10.0.0.0/24", "", "", "", ""⟩ else none
  unmarshal := fun _ => none

/-- A VM whose interfaces `nic1` and `nic2` attach to `net1` and `net2`. -/
def twoNetVM : VirtualMachine where
  «namespace» := "default"
  name := "vm"
  resourceVersion := 1
  deletionTimestamp := none
  annotations := []
  interfaces := [⟨"nic1", "aa:aa"⟩, ⟨"nic2", "bb:bb"⟩]
  networks := [⟨"nic1", some ⟨"net1"⟩⟩, ⟨"nic2", some ⟨"net2"⟩⟩]

/-- The cluster before the VM's first pass. -/
def twoNetCluster : Cluster where
  vms := fun k => if k = twoNetVM.key then some twoNetVM else none
  vmNetCfgs := fun _ => none
  revision := 1
  keyed _ _ h := nomatch h

/-- The orders that visit `ncm` as it is listed. -/
def listedOrders : Orders := ⟨.listed _ _, .listed _ _, .listed _ _⟩

/-- The vmnetcfg the first pass over `twoNetVM` creates. -/
def twoNetCfg : VirtualMachineNetworkConfig :=
  ⟨"", "default", "vm", 0, [⟨"net1", "aa:aa"⟩, ⟨"net2", "bb:bb"⟩], []⟩

theorem onChange_writes_dhcpPairs_twoNet :
    twoNetHandler.applyMACAddressAnnotation twoNetVM = .ok (twoNetVM, false) ∧
    (twoNetVM.interfaces.map Interface.name).Nodup ∧ (twoNetVM.networks.map Network.name).Nodup ∧
    ((∀ cfg, Event.write (.create cfg) ∈
          ((twoNetHandler.onChange listedOrders (some twoNetVM)).exec twoNetCluster twoNetCluster).2.1 ∨
        Event.write (.update cfg) ∈
          ((twoNetHandler.onChange listedOrders (some twoNetVM)).exec twoNetCluster twoNetCluster).2.1 →
      cfg.networkConfigs.Perm (dhcpPairs twoNetHandler twoNetVM)) ∧
    (dhcpPairs twoNetHandler twoNetVM = [] →
      ∀ e ∈ ((twoNetHandler.onChange listedOrders (some twoNetVM)).exec twoNetCluster twoNetCluster).2.1,
        e = .updateVM twoNetVM)) :=
  have ha : twoNetHandler.applyMACAddressAnnotation twoNetVM = .ok (twoNetVM, false) := rfl
  have hi : (twoNetVM.interfaces.map Interface.name).Nodup := by decide
  have hn : (twoNetVM.networks.map Network.name).Nodup := by decide
  ⟨ha, hi, hn, onChange_writes_dhcpPairs twoNetHandler listedOrders ha hi hn _ _⟩

theorem onChange_create_admitted_twoNet :
    Event.write (.create twoNetCfg) ∈
        ((twoNetHandler.onChange listedOrders (some twoNetVM)).exec twoNetCluster twoNetCluster).2.1 ∧
      (Validator.mk twoNetHandler.keys twoNetHandler.nadCache twoNetHandler.ippoolCache).create
        twoNetCfg = .ok () :=
  have hc : Event.write (.create twoNetCfg) ∈
      ((twoNetHandler.onChange listedOrders (some twoNetVM)).exec twoNetCluster twoNetCluster).2.1 := by
    decide
  ⟨hc, onChange_create_admitted _ _ _ _ _ _ hc⟩

end VmDhcpController
