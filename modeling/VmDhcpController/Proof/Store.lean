import VmDhcpController.Proof.Runs

/-!
# What every run keeps in the store

`Runs` shows that a spec changes only while its vmnetcfg is out of sync. Two more facts hold
in every run, whatever the interleaving of passes, stale caches, VM edits and engine steps.

* **A pass changes a vmnetcfg only from the value it read** (`reachable_pass_change_read`).
  A Create follows a cache read that found nothing, and an Update or an UpdateStatus carries
  the resourceVersion of the copy the pass read (the `DeepCopy` of the cached object). When
  the cluster accepts the write, what it replaces is therefore exactly what the pass read. A
  status the engine wrote, or a spec another pass wrote, after that read makes the write
  fail: no pass writes over a version it has not seen, so none of these writes is lost.
* **Every stored spec is one the engine can act on** (`reachable_storeSpecOK`): at least one
  config, each naming its network and a MAC address. A pass writes only a spec it derived,
  the derivation keeps only complete configs and stops when none is left, and the engine
  writes the status only.

Both rest on one statement per pass about every write it can still make, `Prog.EveryWrite`,
which a run keeps for every pass in flight (`reachable_everyWrite`). As in `Runs`, the writes
that reach the store are the passes' and the engine's, and a Create is stored without the
admission webhook.
-/

namespace VmDhcpController

/-! ## A rule for every write of a pass -/

/-- Every write a pass can still make satisfies `P` of the reads it will have made by then,
whatever the answers. -/
def Prog.EveryWrite {α : Type}
    (P : List (Key × Option VirtualMachineNetworkConfig) → Write → Prop) :
    List (Key × Option VirtualMachineNetworkConfig) → Prog α → Prop
  | _, .ret _ => True
  | reads, .updateVM _ k => ∀ r, EveryWrite P reads (k r)
  | reads, .getVmNetCfg ns n k => ∀ a, EveryWrite P (((ns, n), a) :: reads) (k a)
  | reads, .write w k => P reads w ∧ ∀ r, EveryWrite P reads (k r)
  | reads, .enqueue _ _ k => EveryWrite P reads k

section Rule

variable {P : List (Key × Option VirtualMachineNetworkConfig) → Write → Prop}

/-- The three writes of `syncVmNetCfg`, each after the read it follows: a rule they keep holds
for all of it. -/
theorem syncVmNetCfg_everyWrite (vm : VirtualMachine) (cfg : VirtualMachineNetworkConfig)
    (hc : P [(vm.key, none)] (.create cfg))
    (hu : ∀ old, P [(vm.key, some old)] (.update { old with networkConfigs := cfg.networkConfigs }))
    (hs : ∀ old, P [(vm.key, some old)]
      (.updateStatus (markOutOfSync { old with networkConfigs := cfg.networkConfigs }))) :
    (syncVmNetCfg vm cfg).EveryWrite P [] := by
  intro a
  cases a with
  | none => exact ⟨hc, fun r => by cases r <;> trivial⟩
  | some old =>
    dsimp only
    split
    · trivial
    split
    · exact ⟨hu old, fun r => by cases r <;> trivial⟩
    · exact ⟨hs old, fun r => by cases r <;> trivial⟩

/-- The writes of a pass are those of `syncVmNetCfg` on the configs it keeps, so a rule these
keep holds for the whole pass, on every VM. -/
theorem onChange_everyWrite (h : Handler) (o : Orders)
    (hsync : ∀ vm, (h.keptConfigs o vm).len ≠ 0 →
      (syncVmNetCfg vm (prepareVmNetCfg vm (h.keptConfigs o vm) o.prepare)).EveryWrite P [])
    (vm? : Option VirtualMachine) : (h.onChange o vm?).EveryWrite P [] := by
  have hrec : ∀ vm, (h.reconcile o vm).EveryWrite P [] := fun vm => by
    by_cases hk : (h.keptConfigs o vm).len = 0
    · rw [reconcile_of_not_kept hk]; trivial
    · rw [reconcile_of_kept hk]; exact hsync vm hk
  cases vm? with
  | none => trivial
  | some vm =>
    simp only [Handler.onChange, Handler.onChangeWith]
    split
    · trivial
    split
    · trivial
    split
    · intro r
      cases r
      · trivial
      · exact hrec _
    · exact hrec vm

/-- Replacing one pass in flight by one that keeps the rule keeps it for all of them. -/
private theorem forall_replace {β : Type} {Q : β → Prop} {pre post : List β} {x y : β}
    (h : ∀ z ∈ pre ++ x :: post, Q z) (hy : Q y) : ∀ z ∈ pre ++ y :: post, Q z := by
  simp only [List.mem_append, List.mem_cons, or_imp, forall_and, forall_eq] at h ⊢
  exact ⟨h.1, hy, h.2.2⟩

/-- **A run keeps a rule for every pass in flight**, once every pass starts with it. -/
theorem reachable_everyWrite
    (hP : ∀ (h : Handler) (o : Orders) vm?, (h.onChange o vm?).EveryWrite P [])
    {w : World} (hr : Reachable w) : ∀ wk ∈ w.workers, wk.prog.EveryWrite P wk.reads := by
  induction hr with
  | init => exact fun _ h => nomatch h
  | tail _ hs ih =>
    cases hs with
    | pass hs =>
      cases hs with
      | start h o vm? =>
        intro wk hwk
        rcases List.mem_cons.mp hwk with rfl | hwk
        · exact hP h o vm?
        · exact ih wk hwk
      | updateVM hw | getVmNetCfg hw =>
        rw [hw] at ih
        exact forall_replace ih (ih _ (List.mem_append_right _ (List.mem_cons_self _ _)) _)
      | write hw =>
        rw [hw] at ih
        exact forall_replace ih ((ih _ (List.mem_append_right _ (List.mem_cons_self _ _))).2 _)
      | enqueue hw =>
        rw [hw] at ih
        have hk := ih _ (List.mem_append_right _ (List.mem_cons_self _ _))
        exact forall_replace ih hk
      | finish hw =>
        rw [hw] at ih
        exact fun x hx => ih x (((List.sublist_cons_self _ _).append_left _).subset hx)
    | engine | editVM => exact ih

end Rule

/-! ## A pass writes over the value it read -/

/-- What a write is based on: a Create on a read that found nothing under its name; an Update
or an UpdateStatus on a copy it read, whose name and resourceVersion it carries. -/
def ReadBefore (reads : List (Key × Option VirtualMachineNetworkConfig)) : Write → Prop
  | .create cfg => (cfg.key, none) ∈ reads
  | .update cfg | .updateStatus cfg => ∃ k old, (k, some old) ∈ reads ∧ old.key = cfg.key ∧
      old.resourceVersion = cfg.resourceVersion

/-- Every write of a pass is based on a read. -/
theorem onChange_readBefore (h : Handler) (o : Orders) (vm? : Option VirtualMachine) :
    (h.onChange o vm?).EveryWrite ReadBefore [] :=
  onChange_everyWrite h o (fun vm _ => syncVmNetCfg_everyWrite vm _ (.head _)
    (fun old => ⟨_, old, .head _, rfl, rfl⟩) (fun old => ⟨_, old, .head _, rfl, rfl⟩)) vm?

theorem Cluster.putVmNetCfg_changed {s : Cluster} {c : VirtualMachineNetworkConfig} {k : Key}
    (hk : (s.putVmNetCfg c).vmNetCfgs k ≠ s.vmNetCfgs k) : c.key = k := by
  by_contra hne
  exact hk (by rw [Cluster.putVmNetCfg_vmNetCfgs, Function.update_noteq (Ne.symm hne)])

/-- A write changes what is stored only under its object's name, and only when the cluster
accepts it: a Create when nothing is stored there, an Update or UpdateStatus when it carries
the stored resourceVersion. -/
theorem Cluster.write_changed {s : Cluster} {wr : Write} {k : Key}
    (hk : (s.write wr).1.vmNetCfgs k ≠ s.vmNetCfgs k) :
    match wr with
    | .create c => c.key = k ∧ s.vmNetCfgs k = none
    | .update c | .updateStatus c =>
      c.key = k ∧ ∃ cur, s.vmNetCfgs k = some cur ∧ cur.resourceVersion = c.resourceVersion := by
  cases wr with
  | create c =>
    simp only [Cluster.write] at hk ⊢
    split at hk
    · exact absurd rfl hk
    · rename_i hnone
      have hck := Cluster.putVmNetCfg_changed hk
      exact ⟨hck, hck ▸ hnone⟩
  | update c | updateStatus c =>
    simp only [Cluster.write] at hk ⊢
    split at hk
    · exact absurd rfl hk
    rename_i cur hcur
    split at hk
    · rename_i hrv
      have hput := Cluster.putVmNetCfg_changed hk
      have hck : c.key = k := (s.keyed _ _ hcur).symm.trans hput
      exact ⟨hck, cur, hck ▸ hcur, hrv⟩
    · exact absurd rfl hk

/-- A copy read from any state that carries the stored resourceVersion is the stored
vmnetcfg: a write accepted on such a copy replaces what the pass read. -/
theorem Inv.read_current {w : World} (hI : Inv w)
    {reads : List (Key × Option VirtualMachineNetworkConfig)}
    (hrd : ∀ r ∈ reads, ∃ d ∈ w.states, d.vmNetCfgs r.1 = r.2) {c : VirtualMachineNetworkConfig}
    {k : Key}
    (hb : ∃ k₀ old, (k₀, some old) ∈ reads ∧ old.key = c.key ∧
      old.resourceVersion = c.resourceVersion)
    (hc : c.key = k ∧ ∃ cur, w.cluster.vmNetCfgs k = some cur ∧
      cur.resourceVersion = c.resourceVersion) :
    (k, w.cluster.vmNetCfgs k) ∈ reads := by
  obtain ⟨k₀, old, hmem, hkey, hrv⟩ := hb
  obtain ⟨rfl, cur, hcur, hrv'⟩ := hc
  obtain ⟨d, hd, hdk⟩ := hrd _ hmem
  have hk₀ : k₀ = c.key := (d.keyed _ _ hdk).symm.trans hkey
  subst hk₀
  rwa [hcur, hI.det d hd _ old cur hdk hcur (hrv'.trans hrv.symm)]

/-- **A pass changes a vmnetcfg only from the value it read.** In a reachable world, a step
of a pass that changes what is stored under `k` is a write of a pass in flight, accepted by
the cluster, and that pass has read from its cache exactly what was stored under `k` just
before the step. -/
theorem reachable_pass_change_read {w w' : World} (hr : Reachable w) (hs : PassStep w w')
    {k : Key} (hk : w'.cluster.vmNetCfgs k ≠ w.cluster.vmNetCfgs k) :
    ∃ pre post wr kont reads, w.workers = pre ++ ⟨.write wr kont, reads⟩ :: post ∧
      w'.cluster = (w.cluster.write wr).1 ∧ (k, w.cluster.vmNetCfgs k) ∈ reads := by
  have hI := inv_reachable hr
  cases hs with
  | @write pre post wr kont reads hw =>
    refine ⟨pre, post, wr, kont, reads, hw, rfl, ?_⟩
    have hrd := (hI.worker hw).2.1
    have hb := (reachable_everyWrite onChange_readBefore hr ⟨.write wr kont, reads⟩
      (hw ▸ List.mem_append_right _ (List.mem_cons_self _ _))).1
    have hc := Cluster.write_changed hk
    cases wr with
    | create c =>
      obtain ⟨rfl, hnone⟩ := hc
      rwa [hnone]
    | update c | updateStatus c => exact hI.read_current hrd hb hc
  | updateVM hw => exact absurd (congrFun (Cluster.updateVM_vmNetCfgs _ _).1 k) hk
  | start | getVmNetCfg | enqueue | finish => exact absurd rfl hk

/-- The first pass over `twoNetVM` reads that no vmnetcfg exists, then creates it. -/
theorem reachable_pass_change_read_create :
    ∃ w w' : World, Reachable w ∧ PassStep w w' ∧
      w'.cluster.vmNetCfgs twoNetVM.key ≠ w.cluster.vmNetCfgs twoNetVM.key ∧
      ∃ pre post wr kont reads, w.workers = pre ++ ⟨.write wr kont, reads⟩ :: post ∧
        w'.cluster = (w.cluster.write wr).1 ∧
        (twoNetVM.key, w.cluster.vmNetCfgs twoNetVM.key) ∈ reads :=
  have hr : Reachable _ := .tail (.tail (.init twoNetCluster.vms 1)
    (.pass (.start _ twoNetHandler listedOrders (some twoNetVM))))
    (.pass (@PassStep.getVmNetCfg _ [] [] _ _ _ [] (World.init twoNetCluster.vms 1).cluster rfl
      (List.mem_cons_self _ _)))
  ⟨_, _, hr, @PassStep.write _ [] [] _ _ _ (by rfl), by decide,
    reachable_pass_change_read hr (@PassStep.write _ [] [] _ _ _ (by rfl)) (by decide)⟩

/-! ## Every stored spec is complete -/

/-- A spec the allocation engine can act on: at least one config, each naming its network and
a MAC address. -/
def SpecOK (l : List NetworkConfig) : Prop :=
  l ≠ [] ∧ ∀ nc ∈ l, nc.networkName ≠ "" ∧ nc.macAddress ≠ ""

/-- A Create or an Update sets a spec the engine can act on; an UpdateStatus sets none. -/
def SetsSpecOK (_ : List (Key × Option VirtualMachineNetworkConfig)) : Write → Prop
  | .create cfg | .update cfg => SpecOK cfg.networkConfigs
  | .updateStatus _ => True

/-- Every vmnetcfg the cluster stores has a spec the engine can act on. -/
def StoreSpecOK (s : Cluster) : Prop :=
  ∀ k cfg, s.vmNetCfgs k = some cfg → SpecOK cfg.networkConfigs

/-- The spec a pass prepares from the configs it keeps is complete. -/
theorem prepareVmNetCfg_specOK (h : Handler) (o : Orders) (vm : VirtualMachine)
    (hk : (h.keptConfigs o vm).len ≠ 0) :
    SpecOK (prepareVmNetCfg vm (h.keptConfigs o vm) o.prepare).networkConfigs := by
  refine ⟨fun hnil => hk ?_, fun nc hnc => ?_⟩
  · rwa [prepareVmNetCfg, List.map_eq_nil_iff, ← List.length_eq_zero,
      (o.prepare.perm _).length_eq] at hnil
  · obtain ⟨e, he, rfl⟩ := List.mem_map.mp hnc
    rw [(o.prepare.perm _).mem_iff, Handler.keptConfigs, Handler.filterIPPools,
      GoMap.deleteWhere_entries, List.mem_filter] at he
    exact networkConfigs_complete o vm he.1

/-- Every spec a pass writes is complete. -/
theorem onChange_setsSpecOK (h : Handler) (o : Orders) (vm? : Option VirtualMachine) :
    (h.onChange o vm?).EveryWrite SetsSpecOK [] :=
  onChange_everyWrite h o (fun vm hk => syncVmNetCfg_everyWrite vm _
    (prepareVmNetCfg_specOK h o vm hk) (fun _ => prepareVmNetCfg_specOK h o vm hk)
    (fun _ => trivial)) vm?

/-- One step keeps every stored spec complete. -/
theorem storeSpecOK_step {w w' : World} (hr : Reachable w) (hs : Step w w')
    (hok : StoreSpecOK w.cluster) : StoreSpecOK w'.cluster := by
  intro k cfg' h'
  cases hs with
  | pass hs =>
    cases hs with
    | @write pre post wr kont reads hw =>
      have hset := (reachable_everyWrite onChange_setsSpecOK hr ⟨.write wr kont, reads⟩
        (hw ▸ List.mem_append_right _ (List.mem_cons_self _ _))).1
      rcases w.cluster.write_get wr h' with h' | h'
      · exact hok k cfg' h'
      cases wr with
      | create c =>
        obtain ⟨-, rfl⟩ := h'
        exact hset
      | update c =>
        obtain ⟨cur, -, -, -, rfl⟩ := h'
        exact hset
      | updateStatus c =>
        obtain ⟨cur, hcur, rfl⟩ := h'
        exact hok k cur hcur
    | updateVM hw => exact hok k cfg' ((congrFun (Cluster.updateVM_vmNetCfgs _ _).1 k) ▸ h')
    | start | getVmNetCfg | enqueue | finish => exact hok k cfg' h'
  | engine conditions hk =>
    -- the engine keeps the spec it finds
    rcases Cluster.putVmNetCfg_get h' with h' | ⟨-, rfl⟩
    · exact hok k cfg' h'
    · exact (hok _ _ hk :)
  | editVM vm => exact hok k cfg' h'

/-- **Every stored spec is one the engine can act on**, in every reachable world: at least
one config, each naming its network and a MAC address. -/
theorem reachable_storeSpecOK {w : World} (hr : Reachable w) : StoreSpecOK w.cluster := by
  induction hr with
  | init => exact fun _ _ h => by cases h
  | tail hr hs ih => exact storeSpecOK_step hr hs ih

/-- After the first pass over `twoNetVM` has created its vmnetcfg. -/
theorem reachable_storeSpecOK_create :
    ∃ w : World, Reachable w ∧ w.cluster.vmNetCfgs twoNetVM.key ≠ none ∧ StoreSpecOK w.cluster :=
  have hr : Reachable _ := .tail (.tail (.tail (.init twoNetCluster.vms 1)
    (.pass (.start _ twoNetHandler listedOrders (some twoNetVM))))
    (.pass (@PassStep.getVmNetCfg _ [] [] _ _ _ [] (World.init twoNetCluster.vms 1).cluster rfl
      (List.mem_cons_self _ _))))
    (.pass (@PassStep.write _ [] [] _ _ _ (by rfl)))
  ⟨_, hr, by decide, reachable_storeSpecOK hr⟩

end VmDhcpController
