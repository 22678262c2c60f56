import VmDhcpController.Proof.Written

/-!
# The two versions of the handler, and the pass after a VM update

The IPPool filter and the stop on a VM without interfaces were added to an earlier handler.
For a VM whose Multus networks all resolve they change nothing: the two handlers make the
same requests, leave the same cluster and return the same result, on every cluster and
cache (`onChange_eq_onChangeUnfiltered`).

A pass that backfills MAC addresses does not stop at the VM update. It goes on with the VM
the update returns, and from there does exactly what a pass started on that VM does
(`onChange_after_vm_update`); in particular it may create or update the vmnetcfg in the
same pass (`onChange_writes_after_vm_update`).
-/

namespace VmDhcpController

/-- Every Multus network name of `vm` resolves, with the VM's namespace as fallback. -/
def Handler.AllMultusResolve (h : Handler) (vm : VirtualMachine) : Prop :=
  ∀ n ∈ vm.networks, ∀ multus, n.multus = some multus →
    ∃ p, getIPPoolFromNetworkName h.keys h.nadCache h.ippoolCache multus.networkName vm.namespace
      = .ok p

/-- A config named after a network, or still unnamed. -/
private def NamedAfter (vm : VirtualMachine) (nc : NetworkConfig) : Prop :=
  nc.networkName = "" ∨ ∃ n ∈ vm.networks, ∃ multus, n.multus = some multus ∧
    nc.networkName = multus.networkName

private theorem foldl_seed_unnamed (l : List Interface) (m : GoMap String NetworkConfig)
    (hm : ∀ e ∈ m.entries, e.2.networkName = "") :
    ∀ e ∈ (l.foldl seedNetworkConfig m).entries, e.2.networkName = "" := by
  induction l generalizing m with
  | nil => exact hm
  | cons nic l ih =>
    refine ih _ fun e he => ?_
    unfold seedNetworkConfig at he
    split at he
    · exact hm e he
    · rcases GoMap.mem_set he with he | he
      · rw [(Prod.mk.inj he).2]
      · exact hm _ he

private theorem foldl_attach_named (vm : VirtualMachine) (nets : List Network)
    (hnets : ∀ n ∈ nets, n ∈ vm.networks) (m : GoMap String NetworkConfig)
    (hm : ∀ e ∈ m.entries, NamedAfter vm e.2) :
    ∀ e ∈ (nets.foldl attachMultusName m).entries, NamedAfter vm e.2 := by
  induction nets generalizing m with
  | nil => exact hm
  | cons net rest ih =>
    refine ih (fun n hn => hnets n (List.mem_cons_of_mem _ hn)) _ fun e he => ?_
    unfold attachMultusName at he
    split at he
    · exact hm e he
    · rename_i multus hmu
      split at he
      · exact hm e he
      · rcases GoMap.mem_set he with he | he
        · rw [(Prod.mk.inj he).2]
          exact .inr ⟨net, hnets net (List.mem_cons_self _ _), multus, hmu, rfl⟩
        · exact hm _ he

/-- Every config the derivation leaves is named after a Multus network of the VM. -/
theorem networkConfigs_named (o : Orders) (vm : VirtualMachine) {e : String × NetworkConfig}
    (he : e ∈ (networkConfigs o vm).entries) :
    ∃ n ∈ vm.networks, ∃ multus, n.multus = some multus ∧ e.2.networkName = multus.networkName := by
  rw [networkConfigs, removeIncomplete, GoMap.deleteWhere_entries, List.mem_filter] at he
  have hnamed := foldl_attach_named vm vm.networks (fun _ h => h) _ (fun e he =>
    .inl (foldl_seed_unnamed vm.interfaces .empty (by simp) e he)) e he.1
  exact hnamed.resolve_left (by simpa using he.2)

/-- When every Multus network resolves, the derivations of the two versions are the same
program. -/
theorem reconcile_eq_unfiltered {h : Handler} (o : Orders) {vm : VirtualMachine}
    (hres : h.AllMultusResolve vm) : h.reconcile o vm = reconcileUnfiltered o vm := by
  have hkeep : h.filterIPPools o.filterIPPool vm (networkConfigs o vm) = networkConfigs o vm := by
    ext1
    rw [Handler.filterIPPools, GoMap.deleteWhere_entries]
    refine List.filter_eq_self.mpr fun e he => ?_
    obtain ⟨n, hn, multus, hmu, hname⟩ := networkConfigs_named o vm he
    obtain ⟨p, hp⟩ := hres n hn multus hmu
    simp [Handler.hasIPPool, hname, hp]
  unfold Handler.reconcile reconcileUnfiltered
  rw [hkeep]
  split
  · rename_i hi
    simp [networkConfigs_of_no_interfaces o (List.length_eq_zero.mp hi), GoMap.len]
  · rfl

/-- **With every Multus network resolving, the handler with the IPPool filter does what the
earlier one did**: the same requests, the same cluster after, the same result. -/
theorem onChange_eq_onChangeUnfiltered (h : Handler) (o : Orders) (vm : VirtualMachine)
    (hres : h.AllMultusResolve vm) (cache s : Cluster) :
    (h.onChange o (some vm)).exec cache s = (h.onChangeUnfiltered o (some vm)).exec cache s := by
  by_cases hdel : vm.deletionTimestamp = none
  swap
  · simp [Handler.onChange, Handler.onChangeUnfiltered, Handler.onChangeWith,
      Option.isSome_iff_ne_none.mpr hdel]
  obtain ⟨v, upd, ha, hv, -, -⟩ := applyMACAddressAnnotation_ok h vm
  unfold Handler.onChange Handler.onChangeUnfiltered
  cases upd
  · rw [onChangeWith_of_unchanged _ hdel ha, onChangeWith_of_unchanged _ hdel ha,
      reconcile_eq_unfiltered o hres]
  · rw [exec_onChangeWith_of_backfilled _ hdel ha, exec_onChangeWith_of_backfilled _ hdel ha]
    split
    · rfl
    · -- the VM the update returns has the networks and the namespace the pass read
      rename_i vm' hvm'
      have hres' : h.AllMultusResolve vm' := by
        rw [Cluster.updateVM_ok hvm', hv]
        exact hres
      rw [reconcile_eq_unfiltered o hres']

theorem onChange_eq_onChangeUnfiltered_twoNet :
    twoNetHandler.AllMultusResolve twoNetVM ∧
      (twoNetHandler.onChange listedOrders (some twoNetVM)).exec twoNetCluster twoNetCluster =
        (twoNetHandler.onChangeUnfiltered listedOrders (some twoNetVM)).exec twoNetCluster
          twoNetCluster :=
  have hres : twoNetHandler.AllMultusResolve twoNetVM := by
    intro n hn multus hmu
    simp only [twoNetVM, List.mem_cons, List.mem_singleton, List.not_mem_nil, or_false] at hn
    rcases hn with rfl | rfl <;> cases hmu <;> exact ⟨_, rfl⟩
  ⟨hres, onChange_eq_onChangeUnfiltered _ _ _ hres _ _⟩

/-- **After a VM update, a pass goes on as a pass on the VM the update returned.** -/
theorem onChange_after_vm_update (h : Handler) (o : Orders) {vm v vm' : VirtualMachine}
    (hdel : vm.deletionTimestamp = none) (ha : h.applyMACAddressAnnotation vm = .ok (v, true))
    (cache s : Cluster) (hu : (s.updateVM v).2 = .ok vm') :
    (h.onChange o (some vm)).exec cache s =
      (((h.onChange o (some vm')).exec cache (s.updateVM v).1).1,
        .updateVM v :: ((h.onChange o (some vm')).exec cache (s.updateVM v).1).2.1,
        ((h.onChange o (some vm')).exec cache (s.updateVM v).1).2.2) := by
  obtain ⟨v', u, ha', hv, -, -⟩ := applyMACAddressAnnotation_ok h vm
  rw [ha] at ha'
  cases ha'
  have hvm' := Cluster.updateVM_ok hu
  have hdel' : vm'.deletionTimestamp = none := by rw [hvm', hv]; exact hdel
  have ha' : h.applyMACAddressAnnotation vm' = .ok (vm', false) := by
    rw [hvm']; exact applyMACAddressAnnotation_backfilled ha _
  rw [Handler.onChange, exec_onChangeWith_of_backfilled _ hdel ha, hu,
    onChangeWith_of_unchanged _ hdel' ha']

/-- The MAC annotation of `backfillVM`: `nic1` gets `aa:aa`. -/
def backfillAnnotation : String := "\x7b\"nic1\":\"aa:aa\"\x7d"

/-- `twoNetHandler`, with a decoder that reads `backfillAnnotation`. -/
def backfillHandler : Handler :=
  { twoNetHandler with
    unmarshal := fun a => if a = backfillAnnotation then some ⟨[("nic1", "aa:aa")], by decide⟩ else none }

/-- `twoNetVM` before its backfill: `nic1` has no MAC address, and the annotation has one. -/
def backfillVM : VirtualMachine :=
  { twoNetVM with
    annotations := [( macAddressAnnotation, backfillAnnotation)]
    interfaces := [⟨"nic1", ""⟩, ⟨"nic2", "bb:bb"⟩] }

/-- The cluster as it stores `backfillVM`, before its first pass: no vmnetcfg yet. -/
def backfillCluster : Cluster where
  vms := fun k => if k = backfillVM.key then some backfillVM else none
  vmNetCfgs := fun _ => none
  revision := 1
  keyed _ _ h := nomatch h

/-- The pass over `backfillVM`, as the cluster stores it, updates the VM, and the same pass
creates its vmnetcfg. -/
theorem onChange_writes_after_vm_update :
    (backfillCluster.updateVM { backfillVM with interfaces := twoNetVM.interfaces }).2 =
        .ok { backfillVM with interfaces := twoNetVM.interfaces, resourceVersion := 2 } ∧
      ((backfillHandler.onChange listedOrders (some backfillVM)).exec backfillCluster backfillCluster).2.1
        = [.updateVM { backfillVM with interfaces := twoNetVM.interfaces }, .write (.create twoNetCfg)] :=
  ⟨rfl, by decide⟩

theorem onChange_after_vm_update_backfill :
    backfillVM.deletionTimestamp = none ∧
      backfillHandler.applyMACAddressAnnotation backfillVM =
        .ok ({ backfillVM with interfaces := twoNetVM.interfaces }, true) ∧
      (backfillCluster.updateVM { backfillVM with interfaces := twoNetVM.interfaces }).2 =
        .ok { backfillVM with interfaces := twoNetVM.interfaces, resourceVersion := 2 } ∧
      (backfillHandler.onChange listedOrders (some backfillVM)).exec backfillCluster backfillCluster =
        (((backfillHandler.onChange listedOrders
              (some { backfillVM with interfaces := twoNetVM.interfaces, resourceVersion := 2 })).exec
            backfillCluster
            (backfillCluster.updateVM { backfillVM with interfaces := twoNetVM.interfaces }).1).1,
          .updateVM { backfillVM with interfaces := twoNetVM.interfaces } ::
            ((backfillHandler.onChange listedOrders
              (some { backfillVM with interfaces := twoNetVM.interfaces, resourceVersion := 2 })).exec
              backfillCluster
              (backfillCluster.updateVM { backfillVM with interfaces := twoNetVM.interfaces }).1).2.1,
          ((backfillHandler.onChange listedOrders
              (some { backfillVM with interfaces := twoNetVM.interfaces, resourceVersion := 2 })).exec
            backfillCluster
            (backfillCluster.updateVM { backfillVM with interfaces := twoNetVM.interfaces }).1).2.2) :=
  have hdel : backfillVM.deletionTimestamp = none := rfl
  have ha : backfillHandler.applyMACAddressAnnotation backfillVM =
      .ok ({ backfillVM with interfaces := twoNetVM.interfaces }, true) := rfl
  have hu : (backfillCluster.updateVM { backfillVM with interfaces := twoNetVM.interfaces }).2 =
      .ok { backfillVM with interfaces := twoNetVM.interfaces, resourceVersion := 2 } := rfl
  ⟨hdel, ha, hu, onChange_after_vm_update _ _ hdel ha _ _ hu⟩

end VmDhcpController
