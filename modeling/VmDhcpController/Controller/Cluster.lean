import VmDhcpController.Api.Types
import Mathlib.Logic.Function.Basic

/-!
# The cluster a handler pass talks to

A pass of the VM handler reads its vmnetcfg through an informer cache and writes through
the API server. The model of that world has three parts.

* `Cluster` is the API server's state: the stored VMs and vmnetcfgs, and the last
  resourceVersion handed out. Every successful write stamps the object it stores with the
  next one. A write that carries a resourceVersion is refused unless it is the stored one;
  `Update` replaces only a vmnetcfg's spec and `UpdateStatus` only its status, as the
  status subresource does.
* `Prog` is a pass as the tree of calls it makes: each call, and what the pass does with
  each possible answer. The handler is written as a `Prog`, so the code reads as the Go
  does, and one `Prog` can be run against any cluster, any cache, or inside a run.
* `Prog.exec` runs a pass against a cluster, answering cache reads from a second cluster
  that may be any earlier state. It returns the cluster after the pass, the requests the
  pass made in order, and its result. `exec_replay` says the requests alone determine the
  cluster after the pass.

`Cluster.write` is the store alone. The admission webhook that validator.go registers for
the Create of vmnetcfgs is not consulted here; `Controller.Admission` puts it in front of
the store.
-/

namespace VmDhcpController

/-- The answers the API server refuses a write with. -/
inductive StoreError
  | notFound
  | alreadyExists
  | conflict
  /-- An admission webhook denied the request. -/
  | denied
  deriving DecidableEq, Repr

/-- The API server's state. -/
structure Cluster where
  vms : Key → Option VirtualMachine
  vmNetCfgs : Key → Option VirtualMachineNetworkConfig
  revision : Nat
  /-- Every vmnetcfg is stored under its own namespace and name. -/
  keyed : ∀ k cfg, vmNetCfgs k = some cfg → cfg.key = k

/-- A vmnetcfg write. -/
inductive Write
  | create (cfg : VirtualMachineNetworkConfig)
  | update (cfg : VirtualMachineNetworkConfig)
  | updateStatus (cfg : VirtualMachineNetworkConfig)
  deriving DecidableEq, Repr

/-- A request a pass makes. -/
inductive Event
  | updateVM (vm : VirtualMachine)
  | write (w : Write)
  | enqueue (ns name : String)
  deriving DecidableEq, Repr

namespace Cluster

/-- Stores `cfg` under its name, stamped with the next resourceVersion. -/
def putVmNetCfg (s : Cluster) (cfg : VirtualMachineNetworkConfig) : Cluster where
  vms := s.vms
  vmNetCfgs :=
    Function.update s.vmNetCfgs cfg.key (some { cfg with resourceVersion := s.revision + 1 })
  revision := s.revision + 1
  keyed k c h := by
    by_cases hk : k = cfg.key
    · subst hk
      rw [Function.update_same, Option.some.injEq] at h
      rw [← h]; rfl
    · rw [Function.update_noteq hk] at h
      exact s.keyed k c h

/-- `vmClient.Update(vm)`: refused unless `vm` carries the stored resourceVersion. -/
def updateVM (s : Cluster) (vm : VirtualMachine) : Cluster × Except StoreError VirtualMachine :=
  match s.vms vm.key with
  | none => (s, .error .notFound)
  | some cur =>
    if cur.resourceVersion = vm.resourceVersion then
      let vm' := { vm with resourceVersion := s.revision + 1 }
      ({ s with vms := Function.update s.vms vm.key (some vm'), revision := s.revision + 1 }, .ok vm')
    else (s, .error .conflict)

/-- `vmnetcfgClient.Create`, `Update` and `UpdateStatus` against the store: a Create is
stored whenever no vmnetcfg of its name exists, with no admission webhook consulted. -/
def write (s : Cluster) : Write → Cluster × Option StoreError
  | .create cfg =>
    match s.vmNetCfgs cfg.key with
    | some _ => (s, some .alreadyExists)
    | none => (s.putVmNetCfg cfg, none)
  | .update cfg =>
    match s.vmNetCfgs cfg.key with
    | none => (s, some .notFound)
    | some cur =>
      if cur.resourceVersion = cfg.resourceVersion then
        (s.putVmNetCfg { cur with networkConfigs := cfg.networkConfigs }, none)
      else (s, some .conflict)
  | .updateStatus cfg =>
    match s.vmNetCfgs cfg.key with
    | none => (s, some .notFound)
    | some cur =>
      if cur.resourceVersion = cfg.resourceVersion then
        (s.putVmNetCfg { cur with conditions := cfg.conditions }, none)
      else (s, some .conflict)

/-- The cluster after the requests `es`, made one after the other. -/
def replay (s : Cluster) : List Event → Cluster
  | [] => s
  | .updateVM vm :: es => (s.updateVM vm).1.replay es
  | .write w :: es => (s.write w).1.replay es
  | .enqueue _ _ :: es => s.replay es

@[simp] theorem putVmNetCfg_vms (s : Cluster) (cfg : VirtualMachineNetworkConfig) :
    (s.putVmNetCfg cfg).vms = s.vms := rfl

@[simp] theorem putVmNetCfg_revision (s : Cluster) (cfg : VirtualMachineNetworkConfig) :
    (s.putVmNetCfg cfg).revision = s.revision + 1 := rfl

@[simp] theorem putVmNetCfg_vmNetCfgs (s : Cluster) (cfg : VirtualMachineNetworkConfig) :
    (s.putVmNetCfg cfg).vmNetCfgs =
      Function.update s.vmNetCfgs cfg.key (some { cfg with resourceVersion := s.revision + 1 }) := rfl

theorem putVmNetCfg_at (s : Cluster) (cfg : VirtualMachineNetworkConfig) {k : Key}
    (hk : cfg.key = k) :
    (s.putVmNetCfg cfg).vmNetCfgs k = some { cfg with resourceVersion := s.revision + 1 } := by
  simp [← hk]

/-- An `Update` that carries the stored resourceVersion replaces the stored spec. -/
theorem write_update_of_current {s : Cluster} {cfg cur : VirtualMachineNetworkConfig}
    (hc : s.vmNetCfgs cfg.key = some cur) (hrv : cur.resourceVersion = cfg.resourceVersion) :
    s.write (.update cfg) = (s.putVmNetCfg { cur with networkConfigs := cfg.networkConfigs }, none) := by
  simp [write, hc, hrv]

/-- An `UpdateStatus` that carries the stored resourceVersion replaces the stored status. -/
theorem write_updateStatus_of_current {s : Cluster} {cfg cur : VirtualMachineNetworkConfig}
    (hc : s.vmNetCfgs cfg.key = some cur) (hrv : cur.resourceVersion = cfg.resourceVersion) :
    s.write (.updateStatus cfg) = (s.putVmNetCfg { cur with conditions := cfg.conditions }, none) := by
  simp [write, hc, hrv]

/-- What a cluster holds after storing `c`. -/
theorem putVmNetCfg_get {s : Cluster} {c cfg' : VirtualMachineNetworkConfig} {k : Key}
    (h' : (s.putVmNetCfg c).vmNetCfgs k = some cfg') :
    s.vmNetCfgs k = some cfg' ∨ c.key = k ∧ cfg' = { c with resourceVersion := s.revision + 1 } := by
  rw [putVmNetCfg_vmNetCfgs, Function.update_apply] at h'
  split at h'
  · rename_i hk
    exact .inr ⟨hk.symm, (Option.some.inj h').symm⟩
  · exact .inl h'

/-- What a vmnetcfg write stores at `k`: what was there, or the object the write makes. -/
theorem write_get (s : Cluster) (wr : Write) {k : Key} {cfg' : VirtualMachineNetworkConfig}
    (h' : (s.write wr).1.vmNetCfgs k = some cfg') :
    s.vmNetCfgs k = some cfg' ∨
      match wr with
      | .create c => s.vmNetCfgs k = none ∧ cfg' = { c with resourceVersion := s.revision + 1 }
      | .update c => ∃ cur, c.key = k ∧ s.vmNetCfgs k = some cur ∧
          cur.resourceVersion = c.resourceVersion ∧
          cfg' = { cur with networkConfigs := c.networkConfigs, resourceVersion := s.revision + 1 }
      | .updateStatus c => ∃ cur, s.vmNetCfgs k = some cur ∧
          cfg' = { cur with conditions := c.conditions, resourceVersion := s.revision + 1 } := by
  cases wr with
  | create c =>
    simp only [write] at h'
    split at h'
    · exact .inl h'
    rcases putVmNetCfg_get h' with h' | ⟨rfl, rfl⟩
    · exact .inl h'
    · exact .inr ⟨‹_›, rfl⟩
  | update c =>
    simp only [write] at h'
    split at h'
    · exact .inl h'
    rename_i cur hc
    split at h'
    · rcases putVmNetCfg_get h' with h' | ⟨hk, rfl⟩
      · exact .inl h'
      · have hck : c.key = _ := (s.keyed _ _ hc).symm.trans hk
        exact .inr ⟨cur, hck, hck ▸ hc, ‹_›, rfl⟩
    · exact .inl h'
  | updateStatus c =>
    simp only [write] at h'
    split at h'
    · exact .inl h'
    rename_i cur hc
    split at h'
    · rcases putVmNetCfg_get h' with h' | ⟨hk, rfl⟩
      · exact .inl h'
      · have hck : c.key = _ := (s.keyed _ _ hc).symm.trans hk
        exact .inr ⟨cur, hck ▸ hc, rfl⟩
    · exact .inl h'

/-- A VM update leaves the vmnetcfgs alone and never lowers the revision. -/
theorem updateVM_vmNetCfgs (s : Cluster) (vm : VirtualMachine) :
    (s.updateVM vm).1.vmNetCfgs = s.vmNetCfgs ∧ s.revision ≤ (s.updateVM vm).1.revision := by
  unfold updateVM
  split
  · simp
  · split <;> simp

/-- A refused request leaves the cluster as it was. -/
theorem refused_unchanged (s : Cluster) :
    (∀ w err, (s.write w).2 = some err → (s.write w).1 = s) ∧
      ∀ vm err, (s.updateVM vm).2 = .error err → (s.updateVM vm).1 = s := by
  refine ⟨fun w err h => ?_, fun vm err h => ?_⟩
  · cases w <;> simp only [write] at h ⊢ <;> split <;> (try split) <;> simp_all
  · unfold updateVM at h ⊢
    split <;> (try split) <;> simp_all

end Cluster

/-- A handler pass, as the tree of calls it makes to the cluster. -/
inductive Prog (α : Type) where
  | ret (a : α)
  | updateVM (vm : VirtualMachine) (k : Except StoreError VirtualMachine → Prog α)
  | getVmNetCfg (ns name : String) (k : Option VirtualMachineNetworkConfig → Prog α)
  | write (w : Write) (k : Option StoreError → Prog α)
  | enqueue (ns name : String) (k : Prog α)

namespace Prog

variable {α : Type}

/-- Runs a pass against `s`, answering its cache reads from `cache`. -/
def exec (cache : Cluster) : Prog α → Cluster → Cluster × List Event × α
  | ret a, s => (s, [], a)
  | updateVM vm k, s =>
    let x := (k (s.updateVM vm).2).exec cache (s.updateVM vm).1
    (x.1, .updateVM vm :: x.2.1, x.2.2)
  | getVmNetCfg ns n k, s => (k (cache.vmNetCfgs (ns, n))).exec cache s
  | write w k, s =>
    let x := (k (s.write w).2).exec cache (s.write w).1
    (x.1, .write w :: x.2.1, x.2.2)
  | enqueue ns n k, s =>
    let x := k.exec cache s
    (x.1, .enqueue ns n :: x.2.1, x.2.2)

@[simp] theorem exec_ret (cache s : Cluster) (a : α) : (ret a).exec cache s = (s, [], a) := rfl

@[simp] theorem exec_updateVM (cache s : Cluster) (vm : VirtualMachine)
    (k : Except StoreError VirtualMachine → Prog α) :
    (updateVM vm k).exec cache s =
      (((k (s.updateVM vm).2).exec cache (s.updateVM vm).1).1,
        .updateVM vm :: ((k (s.updateVM vm).2).exec cache (s.updateVM vm).1).2.1,
        ((k (s.updateVM vm).2).exec cache (s.updateVM vm).1).2.2) := rfl

@[simp] theorem exec_getVmNetCfg (cache s : Cluster) (ns n : String)
    (k : Option VirtualMachineNetworkConfig → Prog α) :
    (getVmNetCfg ns n k).exec cache s = (k (cache.vmNetCfgs (ns, n))).exec cache s := rfl

@[simp] theorem exec_write (cache s : Cluster) (w : Write) (k : Option StoreError → Prog α) :
    (write w k).exec cache s =
      (((k (s.write w).2).exec cache (s.write w).1).1,
        .write w :: ((k (s.write w).2).exec cache (s.write w).1).2.1,
        ((k (s.write w).2).exec cache (s.write w).1).2.2) := rfl

@[simp] theorem exec_enqueue (cache s : Cluster) (ns n : String) (k : Prog α) :
    (enqueue ns n k).exec cache s =
      ((k.exec cache s).1, .enqueue ns n :: (k.exec cache s).2.1, (k.exec cache s).2.2) := rfl

/-- **The requests a pass makes determine the cluster after it.** -/
theorem exec_replay (cache : Cluster) (p : Prog α) (s : Cluster) :
    (p.exec cache s).1 = s.replay (p.exec cache s).2.1 := by
  induction p generalizing s with
  | ret a => rfl
  | updateVM vm k ih => exact ih _ _
  | getVmNetCfg ns n k ih => exact ih _ _
  | write w k ih => exact ih _ _
  | enqueue ns n k ih => exact ih _

end Prog

end VmDhcpController
