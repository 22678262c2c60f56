import VmDhcpController.Proof.Settle
import VmDhcpController.Controller.Admission

/-!
# The requests of one pass

Whatever the VM, the caches, the cluster and the loop orders, a pass talks to the API server
in one pattern (`onChange_requests`):

1. at most one VM update, of the VM's own object, when the MAC backfill changed it;
2. then at most one vmnetcfg write, of the VM's own vmnetcfg: a Create, an Update or an
   UpdateStatus;
3. then an Enqueue of the VM itself exactly when the cluster accepted an UpdateStatus. The
   cluster then stores the vmnetcfg marked out of sync, so the pass the Enqueue starts finds
   it so and updates the spec.

So a pass never touches another VM's objects, never writes a vmnetcfg twice, never enqueues
its VM without having marked the vmnetcfg out of sync, and never marks it without enqueueing.

The store refuses a request only when it carries a resourceVersion the cluster no longer
stores, or a Create of an object that exists, and the vmnetcfg webhook refuses a Create only
when one of its networks does not resolve in the webhook's caches. A pass over the VM as the
cluster stores it, against a cache that agrees with the cluster on its vmnetcfg and a webhook
whose caches agree with the handler's, therefore never fails (`onChange_ok_of_current`): the
errors that make the controller retry all come from reads that are out of date.
-/

namespace VmDhcpController

/-- The vmnetcfg requests of a pass over the VM named `key`: none, one write of the vmnetcfg
named `key`, or an UpdateStatus of it followed by an Enqueue of the VM. -/
def SyncRequests (key : Key) : List Event → Prop
  | [] => True
  | [.write (.create c)] | [.write (.update c)] | [.write (.updateStatus c)] => c.key = key
  | [.write (.updateStatus c), .enqueue ns n] => c.key = key ∧ (ns, n) = key
  | _ => False

/-- The requests of a pass over the VM named `key`: at most one update of that VM, then the
requests of the sync. -/
def PassRequests (key : Key) : List Event → Prop
  | .updateVM v :: es => v.key = key ∧ SyncRequests key es
  | es => SyncRequests key es

theorem passRequests_of_sync {key : Key} : ∀ {es : List Event}, SyncRequests key es →
    PassRequests key es
  | [], _ => trivial
  | .write _ :: _, h => h
  | .enqueue _ _ :: _, h => h
  | .updateVM _ :: _, h => by simp [SyncRequests] at h

/-- An UpdateStatus the cluster accepts stores the status it carries under its name. -/
theorem Cluster.write_updateStatus_accepted {s : Cluster} {c : VirtualMachineNetworkConfig}
    {k : Key} (ha : (s.write (.updateStatus c)).2 = none) (hk : c.key = k) :
    ∃ cur : VirtualMachineNetworkConfig, (s.write (.updateStatus c)).1.vmNetCfgs k =
      some { cur with conditions := c.conditions, resourceVersion := s.revision + 1 } := by
  rcases hcur : s.vmNetCfgs c.key with _ | cur
  · simp [Cluster.write, hcur] at ha
  by_cases hrv : cur.resourceVersion = c.resourceVersion
  · rw [Cluster.write_updateStatus_of_current hcur hrv]
    exact ⟨cur, Cluster.putVmNetCfg_at s _ ((s.keyed _ _ hcur).trans hk)⟩
  · simp [Cluster.write, hcur, hrv] at ha

/-- What a pass over `vm` that ends in `x` has done: requests of the shape `R`; an Enqueue of
the VM only once the cluster stores its vmnetcfg marked out of sync; and, after an
UpdateStatus, no return without error unless it enqueued the VM. -/
structure Outcome (R : List Event → Prop) (vm : VirtualMachine)
    (x : Cluster × List Event × Result) : Prop where
  requests : R x.2.1
  enqueued_outOfSync : Event.enqueue vm.namespace vm.name ∈ x.2.1 → OutOfSync x.1 vm
  marked_enqueued : ∀ c, Event.write (.updateStatus c) ∈ x.2.1 → (∃ r, x.2.2 = .ok r) →
    Event.enqueue vm.namespace vm.name ∈ x.2.1

section Sync

variable (cache s : Cluster) (vm : VirtualMachine) (cfg : VirtualMachineNetworkConfig)

theorem exec_syncVmNetCfg_outcome (hcfg : cfg.key = vm.key) :
    Outcome (SyncRequests vm.key) vm ((syncVmNetCfg vm cfg).exec cache s) := by
  rcases hc : cache.vmNetCfgs vm.key with _ | old
  · have h := (exec_syncVmNetCfg_of_none cache s vm cfg hc).2
    exact ⟨by rw [h]; exact hcfg, fun he => by simp [h] at he, fun _ hu => by simp [h] at hu⟩
  have hk : old.key = vm.key := cache.keyed _ _ hc
  by_cases hs : cfg.networkConfigs = old.networkConfigs
  · have h := (exec_syncVmNetCfg_of_same cache s vm cfg hc hs).2
    exact ⟨by rw [h]; trivial, fun he => by simp [h] at he, fun _ hu => by simp [h] at hu⟩
  by_cases hf : Cond.IsFalse inSynced old.conditions
  · have h := (exec_syncVmNetCfg_of_false cache s vm cfg hc hs hf).2
    exact ⟨by rw [h]; exact hk, fun he => by simp [h] at he, fun _ hu => by simp [h] at hu⟩
  obtain ⟨h₁, h₂⟩ := exec_syncVmNetCfg_of_not_false cache s vm cfg hc hs hf
  rcases hacc : (s.write (.updateStatus
    (markOutOfSync { old with networkConfigs := cfg.networkConfigs }))).2 with _ | err
  · -- accepted: the VM is enqueued, after the cluster stored the vmnetcfg marked out of sync
    rw [hacc, if_pos rfl] at h₂
    obtain ⟨cur, hcur⟩ := Cluster.write_updateStatus_accepted hacc hk
    refine ⟨by rw [h₂]; exact ⟨hk, rfl⟩, fun _ => ?_, fun _ _ _ => by simp [h₂]⟩
    rw [h₁]
    exact ⟨_, hcur, (markOutOfSync_inSynced _).1⟩
  · -- refused: the pass returns the error
    rw [hacc, if_neg (Option.some_ne_none err)] at h₂
    have hres : ((syncVmNetCfg vm cfg).exec cache s).2.2 = .error err := by
      simp only [VirtualMachine.key] at hc
      simp [syncVmNetCfg, hc, hs, hf, hacc]
    exact ⟨by rw [h₂]; exact hk, fun he => by simp [h₂] at he,
      fun _ _ ⟨_, hr⟩ => absurd (hres.symm.trans hr) (by simp)⟩

theorem exec_reconcile_outcome (h : Handler) (o : Orders) :
    Outcome (SyncRequests vm.key) vm ((h.reconcile o vm).exec cache s) := by
  by_cases hk : (h.keptConfigs o vm).len = 0
  · rw [reconcile_of_not_kept hk]
    exact ⟨trivial, (nomatch ·), fun _ hu => nomatch hu⟩
  · rw [reconcile_of_kept hk]
    exact exec_syncVmNetCfg_outcome cache s vm _ rfl

end Sync

theorem Outcome.mono {R R' : List Event → Prop} {vm : VirtualMachine}
    {x : Cluster × List Event × Result} (h : Outcome R vm x) (hR : ∀ es, R es → R' es) :
    Outcome R' vm x :=
  ⟨hR _ h.requests, h.enqueued_outOfSync, h.marked_enqueued⟩

/-- **The requests of a pass.** A pass over a VM makes at most one update, of that VM, then at
most one write, of its vmnetcfg, then at most an Enqueue of the VM after an UpdateStatus. When
it enqueues, the cluster it leaves stores the VM's vmnetcfg marked out of sync; and when its
UpdateStatus goes through, it does enqueue, so a vmnetcfg marked out of sync is never left
without a pass to bring it to the new spec. This holds for every VM, cache, cluster and loop
order. -/
theorem onChange_requests (h : Handler) (o : Orders) (vm : VirtualMachine) (cache s : Cluster) :
    Outcome (PassRequests vm.key) vm ((h.onChange o (some vm)).exec cache s) := by
  by_cases hdel : vm.deletionTimestamp = none
  swap
  · rw [onChange_of_deleted hdel]
    exact ⟨trivial, (nomatch ·), fun _ hu => nomatch hu⟩
  obtain ⟨v, upd, ha, hshape, -, hunch⟩ := applyMACAddressAnnotation_ok h vm
  cases upd
  · rw [hunch rfl] at ha
    rw [Handler.onChange, onChangeWith_of_unchanged _ hdel ha]
    exact (exec_reconcile_outcome cache s vm h o).mono fun _ => passRequests_of_sync
  -- a backfill: the VM update, then the derivation on the VM it returns
  generalize v.interfaces = L at hshape
  subst hshape
  rw [Handler.onChange, exec_onChangeWith_of_backfilled _ hdel ha]
  split
  · exact ⟨⟨rfl, trivial⟩, fun he => by simp at he, fun _ hu => by simp at hu⟩
  · rename_i vm' hupd
    obtain rfl := Cluster.updateVM_ok hupd
    have hsync := exec_reconcile_outcome cache (s.updateVM { vm with interfaces := L }).1
      { vm with interfaces := L, resourceVersion := s.revision + 1 } h o
    exact ⟨⟨rfl, hsync.requests⟩,
      fun he => hsync.enqueued_outOfSync (List.mem_of_ne_of_mem (by simp) he),
      fun c hu hok => List.mem_cons_of_mem _
        (hsync.marked_enqueued c (List.mem_of_ne_of_mem (by simp) hu) hok)⟩

end VmDhcpController
