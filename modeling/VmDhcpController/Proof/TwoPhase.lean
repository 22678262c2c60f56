import VmDhcpController.Proof.Written

/-!
# The two-phase spec change

When the spec a pass derives differs from the stored one, the handler changes the stored
vmnetcfg in two steps. If InSynced is already False, it updates the spec. Otherwise it only
marks the vmnetcfg out of sync and enqueues the VM, and the pass that follows, finding the
condition False, updates the spec. The allocation engine so sees the out-of-sync signal
before the new spec.

`onChange_two_phase` follows both branches for every VM, stored vmnetcfg and order of the
`ncm` loops, and composes the second branch with the pass that follows it.

The change test compares the two lists with `reflect.DeepEqual`, so it sees the order the
configs are listed in, and `prepareVmNetCfg` lists them in the order of a `range` over
`ncm`. `onChange_reordered_spec_rewritten` runs a second pass, over an unchanged VM and a
current cache, that visits `ncm` the other way round.
-/

namespace VmDhcpController

/-- `D`: the spec of the vmnetcfg a pass over `vm` prepares. -/
abbrev Handler.derivedSpec (h : Handler) (o : Orders) (vm : VirtualMachine) : List NetworkConfig :=
  (prepareVmNetCfg vm (h.keptConfigs o vm) o.prepare).networkConfigs

/-- Two passes derive the same configs, listed in their own orders. -/
theorem derivedSpec_perm (h : Handler) (o o' : Orders) (vm : VirtualMachine) :
    (h.derivedSpec o' vm).Perm (h.derivedSpec o vm) := by
  unfold Handler.derivedSpec prepareVmNetCfg
  rw [keptConfigs_orders h o' o]
  exact ((o'.prepare.perm _).trans (o.prepare.perm _).symm).map _

theorem keptConfigs_len_ne_zero {h : Handler} {o : Orders} {vm : VirtualMachine}
    (hD : h.derivedSpec o vm ≠ []) : (h.keptConfigs o vm).len ≠ 0 := by
  intro hk
  apply hD
  rw [Handler.derivedSpec, prepareVmNetCfg, List.map_eq_nil_iff, ← List.length_eq_zero,
    (o.prepare.perm _).length_eq]
  exact hk

/-- A pass over a VM that needs no backfill and derives a non-empty spec syncs it. -/
theorem exec_onChange_of_derived {h : Handler} {o : Orders} {vm : VirtualMachine}
    (hdel : vm.deletionTimestamp = none) (ha : h.applyMACAddressAnnotation vm = .ok (vm, false))
    (hD : h.derivedSpec o vm ≠ []) :
    h.onChange o (some vm) = syncVmNetCfg vm (prepareVmNetCfg vm (h.keptConfigs o vm) o.prepare) := by
  rw [Handler.onChange, onChangeWith_of_unchanged _ hdel ha, reconcile_of_kept (keptConfigs_len_ne_zero hD)]

section Change

variable {h : Handler} {vm : VirtualMachine} {old : VirtualMachineNetworkConfig} {s : Cluster}
  (o : Orders) (hdel : vm.deletionTimestamp = none)
  (ha : h.applyMACAddressAnnotation vm = .ok (vm, false)) (hD : h.derivedSpec o vm ≠ [])
  (hold : s.vmNetCfgs vm.key = some old)

include hdel ha hD hold

/-- The first branch: with InSynced False, a pass against a current cache updates the spec
in place, and makes no other request. -/
theorem exec_onChange_of_false (hs : h.derivedSpec o vm ≠ old.networkConfigs)
    (hf : Cond.IsFalse inSynced old.conditions) :
    let x := (h.onChange o (some vm)).exec s s
    x.2.1 = [.write (.update { old with networkConfigs := h.derivedSpec o vm })] ∧
      x.1.vmNetCfgs vm.key =
        some { old with networkConfigs := h.derivedSpec o vm, resourceVersion := s.revision + 1 } ∧
      x.1.revision = s.revision + 1 := by
  have hk : old.key = vm.key := s.keyed _ _ hold
  have hold' : s.vmNetCfgs old.key = some old := by rwa [hk]
  obtain ⟨h₁, h₂⟩ := exec_syncVmNetCfg_of_false s s vm _ hold hs hf
  rw [@Cluster.write_update_of_current s { old with networkConfigs := h.derivedSpec o vm } old hold'
    rfl] at h₁
  simp only [exec_onChange_of_derived hdel ha hD, h₁, h₂]
  exact ⟨trivial, Cluster.putVmNetCfg_at s _ hk, rfl⟩

/-- The second branch: otherwise the pass only marks the stored vmnetcfg out of sync, keeping
its spec, and enqueues the VM. -/
theorem exec_onChange_of_not_false (hs : h.derivedSpec o vm ≠ old.networkConfigs)
    (hf : ¬Cond.IsFalse inSynced old.conditions) :
    let x := (h.onChange o (some vm)).exec s s
    x.2.1 = [.write (.updateStatus (markOutOfSync { old with networkConfigs := h.derivedSpec o vm })),
        .enqueue vm.namespace vm.name] ∧
      x.1.vmNetCfgs vm.key = some { old with
        conditions := (markOutOfSync old).conditions, resourceVersion := s.revision + 1 } ∧
      x.1.revision = s.revision + 1 := by
  have hk : old.key = vm.key := s.keyed _ _ hold
  have hold' : s.vmNetCfgs old.key = some old := by rwa [hk]
  obtain ⟨h₁, h₂⟩ := exec_syncVmNetCfg_of_not_false s s vm _ hold hs hf
  rw [@Cluster.write_updateStatus_of_current s
    (markOutOfSync { old with networkConfigs := h.derivedSpec o vm }) old hold' rfl] at h₁ h₂
  simp only [exec_onChange_of_derived hdel ha hD, h₁, h₂, if_true]
  exact ⟨trivial, Cluster.putVmNetCfg_at s _ hk, rfl⟩

end Change

/-- **The two-phase spec change.** Take a VM whose MAC annotation is applied and whose
derived spec `D` is non-empty, a stored vmnetcfg whose spec differs from `D` as a set, and
a current cache. If InSynced is False, one pass updates the spec to `D` and keeps the
condition. Otherwise one pass marks the vmnetcfg out of sync with reason
`NetworkConfigChanged`, keeps its spec and enqueues the VM; the pass that follows, in any
order of its loops, then updates the spec to `D` up to order, with the condition still
False. -/
theorem onChange_two_phase (h : Handler) (o o' : Orders) {vm : VirtualMachine}
    {old : VirtualMachineNetworkConfig} (s : Cluster) (hdel : vm.deletionTimestamp = none)
    (ha : h.applyMACAddressAnnotation vm = .ok (vm, false)) (hD : h.derivedSpec o vm ≠ [])
    (hold : s.vmNetCfgs vm.key = some old)
    (hS : ¬∀ nc, nc ∈ old.networkConfigs ↔ nc ∈ h.derivedSpec o vm) :
    let x := (h.onChange o (some vm)).exec s s
    (Cond.IsFalse inSynced old.conditions →
      x.2.1 = [.write (.update { old with networkConfigs := h.derivedSpec o vm })] ∧
      x.1.vmNetCfgs vm.key =
        some { old with networkConfigs := h.derivedSpec o vm, resourceVersion := s.revision + 1 }) ∧
    (¬Cond.IsFalse inSynced old.conditions →
      x.2.1 = [.write (.updateStatus (markOutOfSync { old with networkConfigs := h.derivedSpec o vm })),
        .enqueue vm.namespace vm.name] ∧
      x.1.vmNetCfgs vm.key = some { old with
        conditions := (markOutOfSync old).conditions, resourceVersion := s.revision + 1 } ∧
      Cond.IsFalse inSynced (markOutOfSync old).conditions ∧
      Cond.getReason inSynced (markOutOfSync old).conditions = "NetworkConfigChanged" ∧
      let y := (h.onChange o' (some vm)).exec x.1 x.1
      y.2.1 = [.write (.update { old with
        conditions := (markOutOfSync old).conditions, resourceVersion := s.revision + 1,
        networkConfigs := h.derivedSpec o' vm })] ∧
      y.1.vmNetCfgs vm.key = some { old with
        conditions := (markOutOfSync old).conditions, networkConfigs := h.derivedSpec o' vm,
        resourceVersion := s.revision + 2 } ∧
      (h.derivedSpec o' vm).Perm (h.derivedSpec o vm)) := by
  have hperm := derivedSpec_perm h o o' vm
  -- a spec that differs from `D` as a set differs from `D` in every order
  have hs : ∀ o'' : Orders, h.derivedSpec o'' vm ≠ old.networkConfigs := fun o'' he =>
    hS fun nc => by rw [← he]; exact (derivedSpec_perm h o o'' vm).mem_iff
  refine ⟨fun hf => (exec_onChange_of_false o hdel ha hD hold (hs o) hf).imp_right And.left,
    fun hf => ?_⟩
  obtain ⟨h₁, h₂, h₃⟩ := exec_onChange_of_not_false o hdel ha hD hold (hs o) hf
  have hD' : h.derivedSpec o' vm ≠ [] := fun he => hD (List.Perm.eq_nil (he ▸ hperm.symm))
  obtain ⟨h₄, h₅, h₆⟩ := exec_onChange_of_false o' hdel ha hD' h₂ (hs o')
    (markOutOfSync_inSynced old).1
  rw [h₃] at h₅
  exact ⟨h₁, h₂, (markOutOfSync_inSynced old).1, (markOutOfSync_inSynced old).2, h₄, h₅, hperm⟩

/-- A vmnetcfg for `twoNetVM` that lists only the first of its two configs. -/
def staleCfg : VirtualMachineNetworkConfig :=
  ⟨"", "default", "vm", 0, [⟨"net1", "aa:aa"⟩], []⟩

theorem onChange_two_phase_stale :
    let s := twoNetCluster.putVmNetCfg staleCfg
    let old := { staleCfg with resourceVersion := 2 }
    let x := (twoNetHandler.onChange listedOrders (some twoNetVM)).exec s s
    s.vmNetCfgs twoNetVM.key = some old ∧ ¬Cond.IsFalse inSynced old.conditions ∧
      x.2.1 = [.write (.updateStatus (markOutOfSync
          { old with networkConfigs := twoNetHandler.derivedSpec listedOrders twoNetVM })),
        .enqueue "default" "vm"] ∧
      ((twoNetHandler.onChange listedOrders (some twoNetVM)).exec x.1 x.1).2.1 =
        [.write (.update { old with
          conditions := (markOutOfSync old).conditions, resourceVersion := 3,
          networkConfigs := twoNetHandler.derivedSpec listedOrders twoNetVM })] :=
  have hold : (twoNetCluster.putVmNetCfg staleCfg).vmNetCfgs twoNetVM.key =
      some { staleCfg with resourceVersion := 2 } := Cluster.putVmNetCfg_at _ _ rfl
  have hf : ¬Cond.IsFalse inSynced staleCfg.conditions := by decide
  have hS : ¬∀ nc, nc ∈ staleCfg.networkConfigs ↔
      nc ∈ twoNetHandler.derivedSpec listedOrders twoNetVM :=
    fun h => absurd ((h ⟨"net2", "bb:bb"⟩).2 (by decide)) (by decide)
  have t := (@onChange_two_phase twoNetHandler listedOrders listedOrders twoNetVM _ _ rfl rfl
    (by decide) hold hS).2 hf
  ⟨hold, hf, t.1, t.2.2.2.2.1⟩

/-! ## The order of the configs -/

/-- The orders of a pass whose `prepareVmNetCfg` loop visits `ncm` backwards. -/
def backwardsOrders : Orders := ⟨.listed _ _, .listed _ _, .backwards _ _⟩

/-- The first pass over `twoNetVM` creates `twoNetCfg`. A second pass over the same VM, with
nothing changed in between and a current cache, whose `range` over `ncm` visits it the other
way round, derives the same two configs in the other order: the change test fails, and the
pass marks the vmnetcfg out of sync and enqueues the VM. -/
theorem onChange_reordered_spec_rewritten :
    ((twoNetHandler.onChange listedOrders (some twoNetVM)).exec twoNetCluster twoNetCluster).2.1 =
        [.write (.create twoNetCfg)] ∧
      ((twoNetHandler.onChange backwardsOrders (some twoNetVM)).exec
          ((twoNetHandler.onChange listedOrders (some twoNetVM)).exec twoNetCluster twoNetCluster).1
          ((twoNetHandler.onChange listedOrders (some twoNetVM)).exec twoNetCluster twoNetCluster).1).2.1 =
        [.write (.updateStatus (markOutOfSync { twoNetCfg with
          resourceVersion := 2, networkConfigs := [⟨"net2", "bb:bb"⟩, ⟨"net1", "aa:aa"⟩] })),
          .enqueue "default" "vm"] := by
  decide

end VmDhcpController
