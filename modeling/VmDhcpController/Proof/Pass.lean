import VmDhcpController.Controller.Handler

/-!
# One pass, branch by branch

Spec lemmas for the pieces a pass is made of, so that the results about whole passes
never unfold the handler:

* the MAC backfill never fails, fills in exactly the missing MAC addresses the annotation
  supplies, reports a change exactly when it made one, and has nothing left to do on a VM it
  has already backfilled (`applyMACAddressAnnotation_spec`);
* `onChangeWith` on a live VM is either the derivation itself, or a VM update followed by
  the derivation on the VM the update returns;
* `syncVmNetCfg` makes no write, one `Create`, one `Update`, or one `UpdateStatus` followed,
  when it succeeds, by an `Enqueue`, depending on what the cache shows.
-/

namespace VmDhcpController

/-! ## The MAC backfill -/

theorem applyMAC_name (m : GoMap String String) (nic : Interface) :
    (applyMAC m nic).1.name = nic.name := by
  unfold applyMAC; split
  · rfl
  · split
    · split <;> rfl
    · rfl

theorem applyMAC_of_not_taken {m : GoMap String String} {nic : Interface}
    (h : (applyMAC m nic).2 = false) : (applyMAC m nic).1 = nic := by
  unfold applyMAC at *; split
  · rfl
  · split
    · split
      · simp_all
      · rfl
    · rfl

/-- A second backfill takes nothing. -/
theorem applyMAC_applyMAC (m : GoMap String String) (nic : Interface) :
    (applyMAC m (applyMAC m nic).1).2 = false := by
  unfold applyMAC
  by_cases h : nic.macAddress ≠ ""
  · simp [h]
  · rcases hg : m.get? nic.name with _ | mac
    · simp [h, hg]
    · by_cases hm : mac ≠ "" <;> simp [h, hg, hm]

/-- The MAC addresses the annotation supplies: the JSON object it decodes to, and none when
it is missing, is empty (which is not JSON), or does not decode to an object. -/
def Handler.suppliedMACs (h : Handler) (vm : VirtualMachine) : GoMap String String :=
  match vm.annotations.lookup macAddressAnnotation with
  | some macAnnotation => if macAnnotation = "" then .empty else (h.unmarshal macAnnotation).getD .empty
  | none => .empty

/-- An interface that has no MAC address takes the one `macs` names for it, if that is not
empty. -/
def backfilledInterface (macs : GoMap String String) (nic : Interface) : Interface :=
  match macs.get? nic.name with
  | some mac => if nic.macAddress = "" ∧ mac ≠ "" then { nic with macAddress := mac } else nic
  | none => nic

/-- The loop body is the backfill of one interface. -/
theorem applyMAC_fst (m : GoMap String String) (nic : Interface) :
    (applyMAC m nic).1 = backfilledInterface m nic := by
  unfold applyMAC backfilledInterface
  rcases m.get? nic.name with _ | mac <;> by_cases h : nic.macAddress = "" <;> simp [h]
  split <;> rfl

/-- The loop body reports a change exactly when it made one. -/
theorem applyMAC_snd_iff (m : GoMap String String) (nic : Interface) :
    (applyMAC m nic).2 = true ↔ (applyMAC m nic).1 ≠ nic := by
  obtain ⟨name, mac⟩ := nic
  unfold applyMAC
  rcases m.get? name with _ | mac' <;> by_cases h : mac = "" <;> simp [h]
  by_cases hm : mac' = "" <;> simp [hm]

private theorem map_eq_self_iff {α : Type} {f : α → α} {l : List α} :
    l.map f = l ↔ ∀ x ∈ l, f x = x := by
  induction l with
  | nil => simp
  | cons x l ih => simp [ih]

/-- A map with no entries backfills nothing. -/
theorem applyMAC_of_entries_nil {m : GoMap String String} (hm : m.entries = []) (nic : Interface) :
    applyMAC m nic = (nic, false) := by
  have : m.get? nic.name = none := GoMap.get?_eq_none.mpr (by simp [hm])
  unfold applyMAC
  simp [this]

/-- The backfill, against what the annotation supplies: every interface is backfilled from
it, and the change is reported when some interface took a MAC address. -/
theorem applyMACAddressAnnotation_eq (h : Handler) (v : VirtualMachine) :
    h.applyMACAddressAnnotation v =
      .ok ({ v with interfaces := v.interfaces.map (backfilledInterface (h.suppliedMACs v)) },
        v.interfaces.any fun nic => (applyMAC (h.suppliedMACs v) nic).2) := by
  -- an early return is the backfill with no MAC addresses
  have hnil : (h.suppliedMACs v).entries = [] → (Except.ok (v, false) : Except StoreError _) =
      .ok ({ v with interfaces := v.interfaces.map (backfilledInterface (h.suppliedMACs v)) },
        v.interfaces.any fun nic => (applyMAC (h.suppliedMACs v) nic).2) := by
    intro hm
    have hb : ∀ nic, backfilledInterface (h.suppliedMACs v) nic = nic := fun nic => by
      rw [← applyMAC_fst, applyMAC_of_entries_nil hm]
    rw [List.map_id'' hb]
    simp [applyMAC_of_entries_nil hm]
  unfold Handler.applyMACAddressAnnotation
  split
  · rename_i hl
    exact hnil (by simp [Handler.suppliedMACs, hl])
  rename_i ann hl
  split
  · rename_i he
    exact hnil (by simp [Handler.suppliedMACs, hl, he])
  rename_i he
  split
  · rename_i hu
    exact hnil (by simp [Handler.suppliedMACs, hl, he, hu])
  rename_i m hu
  split
  · rename_i h0
    exact hnil (by simpa [Handler.suppliedMACs, hl, he, hu] using List.length_eq_zero.mp h0)
  · simp [Handler.suppliedMACs, hl, he, hu, applyMAC_fst]

/-- A second backfill of an interface takes nothing. -/
theorem applyMAC_backfilledInterface (m : GoMap String String) (nic : Interface) :
    applyMAC m (backfilledInterface m nic) = (backfilledInterface m nic, false) := by
  rw [← applyMAC_fst]
  exact Prod.ext (applyMAC_of_not_taken (applyMAC_applyMAC m nic)) (applyMAC_applyMAC m nic)

/-- The backfill never fails, keeps everything but the MAC addresses, and reports no change
only when it made none. -/
theorem applyMACAddressAnnotation_ok (h : Handler) (vm : VirtualMachine) :
    ∃ v upd, h.applyMACAddressAnnotation vm = .ok (v, upd) ∧
      v = { vm with interfaces := v.interfaces } ∧
      v.interfaces.map Interface.name = vm.interfaces.map Interface.name ∧
      (upd = false → v = vm) := by
  refine ⟨_, _, applyMACAddressAnnotation_eq h vm, rfl,
    by simp [Function.comp_def, ← applyMAC_fst, applyMAC_name], fun hu => ?_⟩
  simp only [List.any_eq_false, Bool.not_eq_true] at hu
  rw [map_eq_self_iff.mpr fun nic hn => (applyMAC_fst _ _).symm.trans (applyMAC_of_not_taken (hu nic hn))]

/-- **A backfilled VM has nothing left to backfill**, whatever resourceVersion the update
stamped on it. -/
theorem applyMACAddressAnnotation_backfilled {h : Handler} {vm v : VirtualMachine} {upd : Bool}
    (ha : h.applyMACAddressAnnotation vm = .ok (v, upd)) (n : Nat) :
    h.applyMACAddressAnnotation { v with resourceVersion := n } =
      .ok ({ v with resourceVersion := n }, false) := by
  rw [applyMACAddressAnnotation_eq] at ha
  cases ha
  -- the backfilled VM keeps the annotation, which supplies the same MAC addresses again
  rw [applyMACAddressAnnotation_eq]
  have hb : ∀ m nic, backfilledInterface m (backfilledInterface m nic) = backfilledInterface m nic :=
    fun m nic => by rw [← applyMAC_fst, applyMAC_backfilledInterface]
  simp [Handler.suppliedMACs, Function.comp_def, hb, applyMAC_backfilledInterface]

/-- **The MAC backfill never fails, fills in exactly the missing MAC addresses the annotation
supplies, reports a change exactly when it made one, and has nothing left to do on its
result.** -/
theorem applyMACAddressAnnotation_spec (h : Handler) (v : VirtualMachine) :
    ∃ v' updated, h.applyMACAddressAnnotation v = .ok (v', updated) ∧
      v' = { v with interfaces := v.interfaces.map (backfilledInterface (h.suppliedMACs v)) } ∧
      (updated = true ↔ v' ≠ v) ∧
      h.applyMACAddressAnnotation v' = .ok (v', false) := by
  refine ⟨_, _, applyMACAddressAnnotation_eq h v, rfl, ?_,
    applyMACAddressAnnotation_backfilled (applyMACAddressAnnotation_eq h v) _⟩
  -- a change to the VM is a change to one of its interfaces
  have hv : ∀ L, ({ v with interfaces := L } = v ↔ L = v.interfaces) := fun L => by
    cases v; simp
  rw [ne_eq, hv, map_eq_self_iff, List.any_eq_true]
  simp only [applyMAC_snd_iff, applyMAC_fst, not_forall, exists_prop]

/-! ## A pass on a live VM -/

theorem Cluster.updateVM_ok {s : Cluster} {vm vm' : VirtualMachine}
    (h : (s.updateVM vm).2 = .ok vm') : vm' = { vm with resourceVersion := s.revision + 1 } := by
  unfold Cluster.updateVM at h
  split at h
  · cases h
  · split at h
    · cases h; rfl
    · cases h

theorem onChangeWith_of_unchanged {h : Handler} (r : VirtualMachine → Prog Result)
    {vm v : VirtualMachine} (hdel : vm.deletionTimestamp = none)
    (ha : h.applyMACAddressAnnotation vm = .ok (v, false)) : h.onChangeWith r (some vm) = r vm := by
  simp [Handler.onChangeWith, hdel, ha]

/-- A pass that backfills MAC addresses updates the VM, and then goes on with the VM the
update returns. -/
theorem exec_onChangeWith_of_backfilled {h : Handler} (r : VirtualMachine → Prog Result)
    {vm v : VirtualMachine} (hdel : vm.deletionTimestamp = none)
    (ha : h.applyMACAddressAnnotation vm = .ok (v, true)) (cache s : Cluster) :
    (h.onChangeWith r (some vm)).exec cache s =
      match (s.updateVM v).2 with
      | .error err => ((s.updateVM v).1, [.updateVM v], .error err)
      | .ok vm' =>
        (((r vm').exec cache (s.updateVM v).1).1,
          .updateVM v :: ((r vm').exec cache (s.updateVM v).1).2.1,
          ((r vm').exec cache (s.updateVM v).1).2.2) := by
  simp only [Handler.onChangeWith, hdel, Option.isSome_none, Bool.false_eq_true, if_false, ha,
    if_true, Prog.exec_updateVM]
  cases (s.updateVM v).2 <;> rfl

/-! ## The derivation -/

/-- The configs a pass keeps for `vm`. -/
def Handler.keptConfigs (h : Handler) (o : Orders) (vm : VirtualMachine) :
    GoMap String NetworkConfig :=
  h.filterIPPools o.filterIPPool vm (networkConfigs o vm)

/-- What the derivation keeps does not depend on the orders its loops visit `ncm` in. -/
theorem keptConfigs_orders (h : Handler) (o o' : Orders) (vm : VirtualMachine) :
    h.keptConfigs o vm = h.keptConfigs o' vm := by
  ext1
  simp [Handler.keptConfigs, Handler.filterIPPools, GoMap.deleteWhere_entries, networkConfigs,
    removeIncomplete]

private theorem foldl_attach_empty (nets : List Network) :
    nets.foldl attachMultusName GoMap.empty = GoMap.empty := by
  induction nets with
  | nil => rfl
  | cons net rest ih =>
    have : attachMultusName GoMap.empty net = GoMap.empty := by
      unfold attachMultusName; split
      · rfl
      · rfl
    rw [List.foldl_cons, this, ih]

/-- A VM without interfaces derives no configs. -/
theorem networkConfigs_of_no_interfaces (o : Orders) {vm : VirtualMachine}
    (hi : vm.interfaces = []) : networkConfigs o vm = GoMap.empty := by
  ext1
  simp [networkConfigs, removeIncomplete, GoMap.deleteWhere_entries, attachMultusNames,
    initialNetworkConfigs, hi, foldl_attach_empty]

theorem reconcile_of_kept {h : Handler} {o : Orders} {vm : VirtualMachine}
    (hk : (h.keptConfigs o vm).len ≠ 0) :
    h.reconcile o vm = syncVmNetCfg vm (prepareVmNetCfg vm (h.keptConfigs o vm) o.prepare) := by
  have hi : vm.interfaces.length ≠ 0 := fun hi => hk (by
    simp [Handler.keptConfigs, Handler.filterIPPools, GoMap.deleteWhere_entries, GoMap.len,
      networkConfigs_of_no_interfaces o (List.length_eq_zero.mp hi)])
  simp only [Handler.reconcile, hi, if_false]
  exact if_neg hk

theorem reconcile_of_not_kept {h : Handler} {o : Orders} {vm : VirtualMachine}
    (hk : (h.keptConfigs o vm).len = 0) : h.reconcile o vm = .ret (.ok (some vm)) := by
  unfold Handler.reconcile
  split
  · rfl
  · exact if_pos hk

/-! ## Syncing the vmnetcfg -/

/-- `markOutOfSync` leaves InSynced False, with reason `NetworkConfigChanged`. -/
theorem markOutOfSync_inSynced (cfg : VirtualMachineNetworkConfig) :
    Cond.IsFalse inSynced (markOutOfSync cfg).conditions ∧
      Cond.getReason inSynced (markOutOfSync cfg).conditions = "NetworkConfigChanged" := by
  simp [markOutOfSync, Cond.IsFalse, Cond.getStatus, Cond.getReason, Cond.setStatus, Cond.reason,
    Cond.message, Cond.find?_setField]

section Sync

variable (cache s : Cluster) (vm : VirtualMachine) (cfg : VirtualMachineNetworkConfig)

theorem exec_syncVmNetCfg_of_none (hc : cache.vmNetCfgs vm.key = none) :
    ((syncVmNetCfg vm cfg).exec cache s).1 = (s.write (.create cfg)).1 ∧
      ((syncVmNetCfg vm cfg).exec cache s).2.1 = [.write (.create cfg)] := by
  simp only [VirtualMachine.key] at hc
  simp only [syncVmNetCfg, Prog.exec_getVmNetCfg, hc, Prog.exec_write]
  cases (s.write (.create cfg)).2 <;> simp

theorem exec_syncVmNetCfg_of_same {old : VirtualMachineNetworkConfig}
    (hc : cache.vmNetCfgs vm.key = some old) (hs : cfg.networkConfigs = old.networkConfigs) :
    ((syncVmNetCfg vm cfg).exec cache s).1 = s ∧ ((syncVmNetCfg vm cfg).exec cache s).2.1 = [] := by
  simp only [VirtualMachine.key] at hc
  simp [syncVmNetCfg, hc, hs]

theorem exec_syncVmNetCfg_of_false {old : VirtualMachineNetworkConfig}
    (hc : cache.vmNetCfgs vm.key = some old) (hs : cfg.networkConfigs ≠ old.networkConfigs)
    (hf : Cond.IsFalse inSynced old.conditions) :
    let w := Write.update { old with networkConfigs := cfg.networkConfigs }
    ((syncVmNetCfg vm cfg).exec cache s).1 = (s.write w).1 ∧
      ((syncVmNetCfg vm cfg).exec cache s).2.1 = [.write w] := by
  simp only [VirtualMachine.key] at hc
  simp only [syncVmNetCfg, Prog.exec_getVmNetCfg, hc, hs, if_false, hf, if_true, Prog.exec_write]
  cases (s.write _).2 <;> simp

theorem exec_syncVmNetCfg_of_not_false {old : VirtualMachineNetworkConfig}
    (hc : cache.vmNetCfgs vm.key = some old) (hs : cfg.networkConfigs ≠ old.networkConfigs)
    (hf : ¬Cond.IsFalse inSynced old.conditions) :
    let w := Write.updateStatus (markOutOfSync { old with networkConfigs := cfg.networkConfigs })
    ((syncVmNetCfg vm cfg).exec cache s).1 = (s.write w).1 ∧
      ((syncVmNetCfg vm cfg).exec cache s).2.1 =
        .write w :: if (s.write w).2 = none then [.enqueue vm.namespace vm.name] else [] := by
  simp only [VirtualMachine.key] at hc
  simp only [syncVmNetCfg, Prog.exec_getVmNetCfg, hc, hs, if_false, hf, Prog.exec_write]
  cases (s.write _).2 <;> simp

end Sync

end VmDhcpController
