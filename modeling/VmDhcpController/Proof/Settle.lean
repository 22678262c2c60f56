import VmDhcpController.Proof.TwoPhase
import VmDhcpController.Proof.Runs

/-!
# Passes settle

The controller runs `OnChange` again whenever a VM changes or is enqueued, and the handler
enqueues the VM after marking its vmnetcfg out of sync. When nothing else happens, how many
passes does it take until a pass has nothing left to do?

`settle h o key n s` runs `n` passes, one after the other, over the VM the cluster stores
under `key`, each against a cache that has caught up with the cluster, with the same loop
orders `o`. This is a run of the controller (`settle_as_run`) in which no user edits the VM,
the engine writes nothing, no other pass interleaves, and the informer caches are current.
Those are the hypotheses of quiescence; the loop orders must be the same in every pass,
since two orders that list the configs differently make each pass rewrite the spec of the
last (`onChange_reordered_spec_rewritten`).

Under them, two passes always suffice (`settle_converges`). The first backfills the MAC
addresses, updates the VM if that changed it, and then either brings the vmnetcfg to the
derived spec or marks it out of sync; the second brings a vmnetcfg marked out of sync to the
derived spec. From then on a pass makes no request at all, the stored VM needs no backfill,
and the stored vmnetcfg holds the spec a pass derives for it. In the running controller,
whatever passes are in flight, passes with the same loop orders can always bring a VM there
(`passes_settle_vm`).
-/

namespace VmDhcpController

/-- The vmnetcfg of `vm` holds the spec a pass derives for it, or a pass derives none. -/
def Handler.Synced (h : Handler) (o : Orders) (s : Cluster) (vm : VirtualMachine) : Prop :=
  h.derivedSpec o vm = [] ∨
    ∃ cfg, s.vmNetCfgs vm.key = some cfg ∧ cfg.networkConfigs = h.derivedSpec o vm

/-- The vmnetcfg of `vm` is marked out of sync. -/
def OutOfSync (s : Cluster) (vm : VirtualMachine) : Prop :=
  ∃ cfg, s.vmNetCfgs vm.key = some cfg ∧ Cond.IsFalse inSynced cfg.conditions

/-- The VM stored under `key` is stored under its own name and, while it is live, needs no
backfill and stands in relation `Q` to the cluster. -/
def Handler.StoredVM (h : Handler) (key : Key) (Q : Cluster → VirtualMachine → Prop)
    (s : Cluster) : Prop :=
  ∀ vm, s.vms key = some vm → vm.key = key ∧
    (vm.deletionTimestamp = none → h.applyMACAddressAnnotation vm = .ok (vm, false) ∧ Q s vm)

/-- `n` passes over the VM stored under `key`, one after the other, each against a cache that
has caught up with the cluster. -/
def settle (h : Handler) (o : Orders) (key : Key) : Nat → Cluster → Cluster
  | 0, s => s
  | n + 1, s => settle h o key n ((h.onChange o (s.vms key)).exec s s).1

/-! ## The cluster around a derivation -/

theorem derivedSpec_eq_nil_iff {h : Handler} {o : Orders} {vm : VirtualMachine} :
    h.derivedSpec o vm = [] ↔ (h.keptConfigs o vm).len = 0 := by
  rw [Handler.derivedSpec, prepareVmNetCfg, List.map_eq_nil_iff, ← List.length_eq_zero,
    (o.prepare.perm _).length_eq, GoMap.len]

theorem Cluster.write_vms (s : Cluster) (w : Write) : (s.write w).1.vms = s.vms := by
  cases w <;> simp only [Cluster.write] <;> split <;> (try split) <;> rfl

theorem Cluster.write_create_of_none {s : Cluster} {cfg : VirtualMachineNetworkConfig}
    (hc : s.vmNetCfgs cfg.key = none) : s.write (.create cfg) = (s.putVmNetCfg cfg, none) := by
  simp [Cluster.write, hc]

/-- Requests with no VM update leave the VMs alone. -/
theorem Cluster.replay_vms (s : Cluster) {es : List Event}
    (hes : ∀ e ∈ es, ∀ v, e ≠ .updateVM v) : (s.replay es).vms = s.vms := by
  induction es generalizing s with
  | nil => rfl
  | cons e es ih =>
    have hrest := fun e' he' => hes e' (List.mem_cons_of_mem _ he')
    cases e with
    | updateVM v => exact absurd rfl (hes _ (List.mem_cons_self _ _) v)
    | write w => exact (ih _ hrest).trans (Cluster.write_vms s w)
    | enqueue ns n => exact ih s hrest

/-- A derivation never updates a VM. -/
theorem exec_reconcile_vms (h : Handler) (o : Orders) (vm : VirtualMachine) (c s : Cluster) :
    ((h.reconcile o vm).exec c s).1.vms = s.vms := by
  rw [Prog.exec_replay]
  refine Cluster.replay_vms s fun e he v hv => ?_
  subst hv
  rcases mem_exec_syncVmNetCfg c s vm _ (mem_exec_reconcile he).2 with
    he | ⟨old, -, -, ⟨-, he⟩ | ⟨-, he | he⟩⟩ <;> cases he

/-! ## One derivation against a cache that has caught up -/

section Reconcile

variable {h : Handler} {o : Orders} {vm : VirtualMachine} {c s : Cluster}

theorem synced_of_create (hold : s.vmNetCfgs vm.key = none) :
    h.Synced o (s.write (.create (prepareVmNetCfg vm (h.keptConfigs o vm) o.prepare))).1 vm := by
  rw [Cluster.write_create_of_none hold]
  exact .inr ⟨_, Cluster.putVmNetCfg_at s _ rfl, rfl⟩

theorem synced_of_update {old : VirtualMachineNetworkConfig} (hold : s.vmNetCfgs vm.key = some old) :
    h.Synced o (s.write (.update { old with networkConfigs := h.derivedSpec o vm })).1 vm := by
  have hk : old.key = vm.key := s.keyed _ _ hold
  rw [@Cluster.write_update_of_current s { old with networkConfigs := h.derivedSpec o vm } old
    (hk ▸ hold) rfl]
  exact .inr ⟨_, Cluster.putVmNetCfg_at s _ hk, rfl⟩

theorem outOfSync_of_updateStatus {old : VirtualMachineNetworkConfig}
    (hold : s.vmNetCfgs vm.key = some old) :
    OutOfSync (s.write (.updateStatus
      (markOutOfSync { old with networkConfigs := h.derivedSpec o vm }))).1 vm := by
  have hk : old.key = vm.key := s.keyed _ _ hold
  rw [@Cluster.write_updateStatus_of_current s
    (markOutOfSync { old with networkConfigs := h.derivedSpec o vm }) old (hk ▸ hold) rfl]
  exact ⟨_, Cluster.putVmNetCfg_at s _ hk, (markOutOfSync_inSynced _).1⟩

variable (hc : c.vmNetCfgs = s.vmNetCfgs)
include hc

/-- A derivation whose vmnetcfg is synced makes no request. -/
theorem exec_reconcile_of_synced (hs : h.Synced o s vm) :
    ((h.reconcile o vm).exec c s).1 = s ∧ ((h.reconcile o vm).exec c s).2.1 = [] := by
  by_cases hD : h.derivedSpec o vm = []
  · rw [reconcile_of_not_kept (derivedSpec_eq_nil_iff.mp hD)]
    exact ⟨rfl, rfl⟩
  obtain ⟨old, hold, hspec⟩ := hs.resolve_left hD
  rw [reconcile_of_kept (keptConfigs_len_ne_zero hD)]
  exact exec_syncVmNetCfg_of_same c s vm _ (hc ▸ hold) hspec.symm

/-- A derivation leaves its vmnetcfg synced, or marked out of sync. -/
theorem exec_reconcile_progress :
    h.Synced o ((h.reconcile o vm).exec c s).1 vm ∨ OutOfSync ((h.reconcile o vm).exec c s).1 vm := by
  by_cases hD : h.derivedSpec o vm = []
  · exact .inl (.inl hD)
  rw [reconcile_of_kept (keptConfigs_len_ne_zero hD)]
  rcases hold : s.vmNetCfgs vm.key with _ | old
  · rw [(exec_syncVmNetCfg_of_none c s vm _ (hc ▸ hold)).1]
    exact .inl (synced_of_create hold)
  by_cases hsame : h.derivedSpec o vm = old.networkConfigs
  · rw [(exec_syncVmNetCfg_of_same c s vm _ (hc ▸ hold) hsame).1]
    exact .inl (.inr ⟨old, hold, hsame.symm⟩)
  by_cases hf : Cond.IsFalse inSynced old.conditions
  · rw [(exec_syncVmNetCfg_of_false c s vm _ (hc ▸ hold) hsame hf).1]
    exact .inl (synced_of_update hold)
  · rw [(exec_syncVmNetCfg_of_not_false c s vm _ (hc ▸ hold) hsame hf).1]
    exact .inr (outOfSync_of_updateStatus hold)

/-- A derivation whose vmnetcfg is marked out of sync leaves it synced. -/
theorem exec_reconcile_of_outOfSync (ho : OutOfSync s vm) :
    h.Synced o ((h.reconcile o vm).exec c s).1 vm := by
  by_cases hD : h.derivedSpec o vm = []
  · exact .inl hD
  obtain ⟨old, hold, hf⟩ := ho
  rw [reconcile_of_kept (keptConfigs_len_ne_zero hD)]
  by_cases hsame : h.derivedSpec o vm = old.networkConfigs
  · rw [(exec_syncVmNetCfg_of_same c s vm _ (hc ▸ hold) hsame).1]
    exact .inr ⟨old, hold, hsame.symm⟩
  · rw [(exec_syncVmNetCfg_of_false c s vm _ (hc ▸ hold) hsame hf).1]
    exact synced_of_update hold

end Reconcile

/-! ## One pass over the stored VM -/

/-- An update that carries the stored resourceVersion stores the VM as an edit would. -/
theorem Cluster.updateVM_of_current {s : Cluster} {vm cur : VirtualMachine}
    (hcur : s.vms vm.key = some cur) (hrv : cur.resourceVersion = vm.resourceVersion) :
    s.updateVM vm = (s.editVM vm, .ok { vm with resourceVersion := s.revision + 1 }) := by
  simp [Cluster.updateVM, Cluster.editVM, hcur, hrv]

section Pass

variable {h : Handler} {o : Orders} {key : Key} {s : Cluster}

/-- A pass over a deleted VM returns at once. -/
theorem onChange_of_deleted {vm : VirtualMachine} (hdel : vm.deletionTimestamp ≠ none) :
    h.onChange o (some vm) = .ret (.ok none) := by
  simp [Handler.onChange, Handler.onChangeWith, Option.isSome_iff_ne_none.mpr hdel]

/-- A pass over a deleted or missing VM makes no request. -/
theorem exec_onChange_of_not_live (hv : ∀ vm, s.vms key = some vm → vm.deletionTimestamp ≠ none) :
    (h.onChange o (s.vms key)).exec s s = (s, [], .ok none) := by
  rcases hvk : s.vms key with _ | vm
  · rfl
  · rw [onChange_of_deleted (hv vm hvk)]
    rfl

theorem storedVM_of_not_live {Q : Cluster → VirtualMachine → Prop}
    (hk : ∀ vm, s.vms key = some vm → vm.key = key)
    (hv : ∀ vm, s.vms key = some vm → vm.deletionTimestamp ≠ none) :
    h.StoredVM key Q ((h.onChange o (s.vms key)).exec s s).1 := by
  rw [exec_onChange_of_not_live hv]
  exact fun vm hvm => ⟨hk vm hvm, fun hdel => absurd hdel (hv vm hvm)⟩

/-- A pass over a live VM that needs no backfill is the derivation on that VM, and keeps it. -/
theorem storedVM_of_unchanged {Q : Cluster → VirtualMachine → Prop} {vm : VirtualMachine}
    (hv : s.vms key = some vm) (hk : vm.key = key) (hdel : vm.deletionTimestamp = none)
    (ha : h.applyMACAddressAnnotation vm = .ok (vm, false))
    (hQ : Q ((h.reconcile o vm).exec s s).1 vm) :
    h.StoredVM key Q ((h.onChange o (s.vms key)).exec s s).1 := by
  rw [hv, Handler.onChange, onChangeWith_of_unchanged _ hdel ha]
  intro vm' hv'
  rw [exec_reconcile_vms, hv, Option.some.injEq] at hv'
  subst hv'
  exact ⟨hk, fun _ => ⟨ha, hQ⟩⟩

/-- **The first pass.** Whatever the cluster, a pass over the VM stored under its own name
leaves a VM that needs no backfill, and its vmnetcfg synced or marked out of sync. When the
VM needs a backfill, the pass updates it and derives from the VM the update returns. -/
theorem storedVM_first (hkey : ∀ vm, s.vms key = some vm → vm.key = key) :
    h.StoredVM key (fun s vm => h.Synced o s vm ∨ OutOfSync s vm)
      ((h.onChange o (s.vms key)).exec s s).1 := by
  by_cases hlive : ∃ vm, s.vms key = some vm ∧ vm.deletionTimestamp = none
  swap
  · exact storedVM_of_not_live hkey fun vm hv hdel => hlive ⟨vm, hv, hdel⟩
  obtain ⟨vm, hv, hdel⟩ := hlive
  have hk := hkey vm hv
  obtain ⟨v, upd, ha, hshape, -, hunch⟩ := applyMACAddressAnnotation_ok h vm
  cases upd
  · rw [hunch rfl] at ha
    exact storedVM_of_unchanged hv hk hdel ha (exec_reconcile_progress rfl)
  -- a backfill: the pass updates the VM, then derives from the VM the update returns
  generalize v.interfaces = L at hshape
  subst hshape hk
  rw [hv, Handler.onChange, exec_onChangeWith_of_backfilled _ hdel ha,
    @Cluster.updateVM_of_current s { vm with interfaces := L } vm hv rfl]
  intro vm' hv'
  rw [exec_reconcile_vms] at hv'
  simp only [Cluster.editVM, VirtualMachine.key, Function.update_same, Option.some.injEq] at hv'
  subst hv'
  exact ⟨rfl, fun _ => ⟨applyMACAddressAnnotation_backfilled ha _, exec_reconcile_progress rfl⟩⟩

/-- **The second pass** brings a vmnetcfg marked out of sync to the derived spec, and keeps a
synced one. -/
theorem storedVM_second (hs : h.StoredVM key (fun s vm => h.Synced o s vm ∨ OutOfSync s vm) s) :
    h.StoredVM key (h.Synced o) ((h.onChange o (s.vms key)).exec s s).1 := by
  by_cases hlive : ∃ vm, s.vms key = some vm ∧ vm.deletionTimestamp = none
  swap
  · exact storedVM_of_not_live (fun vm hv => (hs vm hv).1) fun vm hv hdel => hlive ⟨vm, hv, hdel⟩
  obtain ⟨vm, hv, hdel⟩ := hlive
  obtain ⟨hk, hrest⟩ := hs vm hv
  obtain ⟨ha, hsync | hout⟩ := hrest hdel
  · refine storedVM_of_unchanged hv hk hdel ha ?_
    rw [(exec_reconcile_of_synced rfl hsync).1]
    exact hsync
  · exact storedVM_of_unchanged hv hk hdel ha (exec_reconcile_of_outOfSync rfl hout)

/-- Once the stored VM needs no backfill and its vmnetcfg is synced, a pass makes no
request. -/
theorem exec_onChange_of_synced (hs : h.StoredVM key (h.Synced o) s) :
    ((h.onChange o (s.vms key)).exec s s).2.1 = [] := by
  by_cases hlive : ∃ vm, s.vms key = some vm ∧ vm.deletionTimestamp = none
  · obtain ⟨vm, hv, hdel⟩ := hlive
    obtain ⟨-, hrest⟩ := hs vm hv
    rw [hv, Handler.onChange, onChangeWith_of_unchanged _ hdel (hrest hdel).1]
    exact (exec_reconcile_of_synced rfl (hrest hdel).2).2
  · rw [exec_onChange_of_not_live fun vm hv hdel => hlive ⟨vm, hv, hdel⟩]

end Pass

/-! ## Settling -/

/-- A cluster whose stored VM is settled is a fixed point of the passes. -/
theorem settle_of_synced {h : Handler} {o : Orders} {key : Key} {s : Cluster}
    (hs : h.StoredVM key (h.Synced o) s) : ∀ n, settle h o key n s = s
  | 0 => rfl
  | n + 1 => by
    rw [settle, Prog.exec_replay, exec_onChange_of_synced hs]
    exact settle_of_synced hs n

/-- **Two passes settle a VM.** Run passes one after the other over the VM the cluster
stores under `key`, each against a cache that has caught up, with the same loop orders, and
nothing else in between. After two passes, and from then on, the stored VM needs no backfill,
its vmnetcfg holds the spec a pass derives for it, and a pass makes no request at all, so
the cluster no longer changes. -/
theorem settle_converges (h : Handler) (o : Orders) (key : Key) (s : Cluster)
    (hkey : ∀ vm, s.vms key = some vm → vm.key = key) (n : Nat) :
    h.StoredVM key (h.Synced o) (settle h o key (n + 2) s) ∧
      settle h o key (n + 3) s = settle h o key (n + 2) s ∧
      ((h.onChange o ((settle h o key (n + 2) s).vms key)).exec (settle h o key (n + 2) s)
        (settle h o key (n + 2) s)).2.1 = [] := by
  have hs : h.StoredVM key (h.Synced o) (settle h o key 2 s) :=
    storedVM_second (storedVM_first hkey)
  have h2 : settle h o key (n + 2) s = settle h o key 2 s := settle_of_synced hs n
  have h3 : settle h o key (n + 3) s = settle h o key 2 s := settle_of_synced hs (n + 1)
  rw [h3, h2]
  exact ⟨hs, rfl, exec_onChange_of_synced hs⟩

theorem settle_converges_twoNet :
    (∀ vm, twoNetCluster.vms twoNetVM.key = some vm → vm.key = twoNetVM.key) ∧
    twoNetHandler.StoredVM twoNetVM.key (twoNetHandler.Synced listedOrders)
        (settle twoNetHandler listedOrders twoNetVM.key 2 twoNetCluster) ∧
      settle twoNetHandler listedOrders twoNetVM.key 3 twoNetCluster =
        settle twoNetHandler listedOrders twoNetVM.key 2 twoNetCluster ∧
      ((twoNetHandler.onChange listedOrders
          ((settle twoNetHandler listedOrders twoNetVM.key 2 twoNetCluster).vms twoNetVM.key)).exec
        (settle twoNetHandler listedOrders twoNetVM.key 2 twoNetCluster)
        (settle twoNetHandler listedOrders twoNetVM.key 2 twoNetCluster)).2.1 = [] :=
  have hkey : ∀ vm, twoNetCluster.vms twoNetVM.key = some vm → vm.key = twoNetVM.key :=
    fun vm hv => by
      simp only [twoNetCluster, if_true, Option.some.injEq] at hv
      rw [← hv]
  ⟨hkey, settle_converges twoNetHandler listedOrders twoNetVM.key twoNetCluster hkey 0⟩

/-- **Settling is a run of the controller.** From any world, the passes of `settle`, each
started, run alone against the current state and finished in turn, are steps of the
controller's passes. They end in the cluster `settle` computes, with the other passes in
flight untouched. -/
theorem settle_as_run (h : Handler) (o : Orders) (key : Key) :
    ∀ (n : Nat) (w : World), ∃ w', Relation.ReflTransGen PassStep w w' ∧
      w'.cluster = settle h o key n w.cluster ∧ w'.workers = w.workers
  | 0, w => ⟨w, .refl, rfl, rfl⟩
  | n + 1, w => by
    obtain ⟨w₂, reads, hr, hcl, hws⟩ := exec_as_run w.cluster (h.onChange o (w.cluster.vms key))
      { w with workers := ⟨h.onChange o (w.cluster.vms key), []⟩ :: w.workers } [] w.workers []
      rfl (List.mem_cons_self _ _)
    obtain ⟨w', hr', hcl', hws'⟩ := settle_as_run h o key n { w₂ with workers := w.workers }
    refine ⟨w', ?_, hcl'.trans (congrArg _ hcl), hws'⟩
    exact (Relation.ReflTransGen.single (.start w h o _)).trans
      (hr.trans ((Relation.ReflTransGen.single (.finish w₂ hws)).trans hr'))

/-- **Passes with fixed loop orders can always settle a VM.** From any world, whatever passes
are in flight, passes of the controller that all visit the Go maps in the same orders `o` lead
to a world where the VM stored under `key` needs no backfill, its vmnetcfg holds the spec a
pass with orders `o` derives, and one more pass with orders `o` makes no request. The passes in
flight are left as they were. With other orders a further pass can rewrite the spec in another
order (`onChange_reordered_spec_rewritten`). -/
theorem passes_settle_vm (h : Handler) (o : Orders) (key : Key) (w : World)
    (hkey : ∀ vm, w.cluster.vms key = some vm → vm.key = key) :
    ∃ w', Relation.ReflTransGen PassStep w w' ∧ w'.workers = w.workers ∧
      h.StoredVM key (h.Synced o) w'.cluster ∧
      ((h.onChange o (w'.cluster.vms key)).exec w'.cluster w'.cluster).2.1 = [] := by
  obtain ⟨w', hr, hcl, hws⟩ := settle_as_run h o key 2 w
  have hs : h.StoredVM key (h.Synced o) (settle h o key 2 w.cluster) :=
    storedVM_second (storedVM_first hkey)
  rw [← hcl] at hs
  exact ⟨w', hr, hws, hs, exec_onChange_of_synced hs⟩

theorem passes_settle_vm_twoNet :
    (∀ vm, (World.init twoNetCluster.vms 1).cluster.vms twoNetVM.key = some vm →
      vm.key = twoNetVM.key) ∧
    ∃ w', Relation.ReflTransGen PassStep (World.init twoNetCluster.vms 1) w' ∧ w'.workers = [] ∧
      twoNetHandler.StoredVM twoNetVM.key (twoNetHandler.Synced listedOrders) w'.cluster ∧
      ((twoNetHandler.onChange listedOrders (w'.cluster.vms twoNetVM.key)).exec w'.cluster
        w'.cluster).2.1 = [] :=
  have hkey : ∀ vm, (World.init twoNetCluster.vms 1).cluster.vms twoNetVM.key = some vm →
      vm.key = twoNetVM.key := fun vm hv => by
    simp only [World.init, twoNetCluster, if_true, Option.some.injEq] at hv
    rw [← hv]
  ⟨hkey, passes_settle_vm twoNetHandler listedOrders twoNetVM.key _ hkey⟩

end VmDhcpController
