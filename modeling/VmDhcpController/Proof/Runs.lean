import VmDhcpController.Controller.World
import VmDhcpController.Proof.Written
import Mathlib.Logic.Relation

/-!
# The spec changes only while out of sync

The handler's two-step change exists so that the allocation engine never sees a new spec
before it has seen the vmnetcfg out of sync. This module proves that it does so in every run,
whatever the interleaving of passes, stale caches, VM edits and engine steps.

**(P1)** A step that changes the stored spec of an existing vmnetcfg is taken while InSynced
is False, and leaves it False.

**(P2)** No step of a pass sets InSynced to True.

A pass only updates a spec it read out of sync, and carries the resourceVersion of the copy
it read. The cache may be stale, and the engine may have set InSynced True since that copy
was made. The resourceVersion check still catches this, because a resourceVersion names one
version of a vmnetcfg across the whole run (`Inv.det`). That needs the bound `Inv.bound`:
no state holds a resourceVersion the cluster has not handed out yet.

The runs are those of `World`: the vmnetcfgs are written by the passes and the engine only,
and a Create is stored without the admission webhook. The webhook can only refuse a Create,
which would leave the store as it was.
-/

namespace VmDhcpController

/-! ## What a pass may write -/

/-- What a pass may write, given the reads it has made: a new vmnetcfg with no status, the
spec of a copy it read out of sync, with that copy's resourceVersion and status, or a status
that is out of sync. -/
def Allowed (reads : List (Key × Option VirtualMachineNetworkConfig)) : Write → Prop
  | .create cfg => cfg.conditions = []
  | .update cfg => ∃ k old, (k, some old) ∈ reads ∧ Cond.IsFalse inSynced old.conditions ∧
      cfg = { old with networkConfigs := cfg.networkConfigs }
  | .updateStatus cfg => Cond.IsFalse inSynced cfg.conditions

/-- Every write a pass can still make is allowed by the reads it will have made by then,
whatever the answers. -/
def Prog.WritesAllowed {α : Type} :
    List (Key × Option VirtualMachineNetworkConfig) → Prog α → Prop
  | _, .ret _ => True
  | reads, .updateVM _ k => ∀ r, WritesAllowed reads (k r)
  | reads, .getVmNetCfg ns n k => ∀ a, WritesAllowed (((ns, n), a) :: reads) (k a)
  | reads, .write w k => Allowed reads w ∧ ∀ r, WritesAllowed reads (k r)
  | reads, .enqueue _ _ k => WritesAllowed reads k

theorem syncVmNetCfg_writesAllowed (vm : VirtualMachine) {cfg : VirtualMachineNetworkConfig}
    (hcfg : cfg.conditions = []) (reads : List (Key × Option VirtualMachineNetworkConfig)) :
    (syncVmNetCfg vm cfg).WritesAllowed reads := by
  intro a
  cases a with
  | none => exact ⟨hcfg, fun r => by cases r <;> trivial⟩
  | some old =>
    dsimp only
    split
    · trivial
    split
    · exact ⟨⟨_, old, .head _, ‹_›, rfl⟩, fun r => by cases r <;> trivial⟩
    · exact ⟨(markOutOfSync_inSynced _).1, fun r => by cases r <;> trivial⟩

theorem reconcile_writesAllowed (h : Handler) (o : Orders) (vm : VirtualMachine)
    (reads : List (Key × Option VirtualMachineNetworkConfig)) :
    (h.reconcile o vm).WritesAllowed reads := by
  unfold Handler.reconcile
  split
  · trivial
  · dsimp only
    split
    · trivial
    · exact syncVmNetCfg_writesAllowed vm rfl reads

/-- Every write of a pass is allowed by its reads. -/
theorem onChange_writesAllowed (h : Handler) (o : Orders) (vm? : Option VirtualMachine) :
    (h.onChange o vm?).WritesAllowed [] := by
  cases vm? with
  | none => trivial
  | some vm =>
    simp only [Handler.onChange, Handler.onChangeWith]
    split
    · trivial
    split
    · trivial
    split
    · intro r
      cases r
      · trivial
      · exact reconcile_writesAllowed h o _ []
    · exact reconcile_writesAllowed h o vm []

/-! ## The invariant -/

/-- `s'` keeps each vmnetcfg of `s`, or stores one with a resourceVersion handed out after
`s`. -/
def Grows (s s' : Cluster) : Prop :=
  s.revision ≤ s'.revision ∧ ∀ k cfg, s'.vmNetCfgs k = some cfg →
    s.vmNetCfgs k = some cfg ∨ s.revision < cfg.resourceVersion ∧ cfg.resourceVersion ≤ s'.revision

theorem grows_of_vmNetCfgs {s s' : Cluster} (h : s'.vmNetCfgs = s.vmNetCfgs)
    (hr : s.revision ≤ s'.revision) : Grows s s' :=
  ⟨hr, fun _ _ hk => .inl (h ▸ hk)⟩

theorem grows_putVmNetCfg (s : Cluster) (cfg : VirtualMachineNetworkConfig) :
    Grows s (s.putVmNetCfg cfg) := by
  refine ⟨Nat.le_succ _, fun k c hk => ?_⟩
  rw [Cluster.putVmNetCfg_vmNetCfgs, Function.update_apply] at hk
  split at hk
  · cases hk
    exact .inr ⟨Nat.lt_succ_self _, le_rfl⟩
  · exact .inl hk

theorem grows_editVM (s : Cluster) (vm : VirtualMachine) : Grows s (s.editVM vm) :=
  ⟨Nat.le_succ _, fun _ _ hk => .inl hk⟩

/-- A vmnetcfg write stores one vmnetcfg, or nothing when it is refused. -/
theorem write_eq_or_put (s : Cluster) (w : Write) :
    (s.write w).1 = s ∨ ∃ c, (s.write w).1 = s.putVmNetCfg c := by
  cases w <;> simp only [Cluster.write] <;> split <;> (try split) <;>
    first | exact .inl rfl | exact .inr ⟨_, rfl⟩

theorem grows_write (s : Cluster) (w : Write) : Grows s (s.write w).1 := by
  rcases write_eq_or_put s w with h | ⟨c, h⟩ <;> rw [h]
  · exact grows_of_vmNetCfgs rfl le_rfl
  · exact grows_putVmNetCfg s c

/-- A pass in flight is sound: a state of the cluster answered each read it made, and its
reads allow every write it can still make. -/
def WorkerOK (states : List Cluster) (wk : Worker) : Prop :=
  (∀ r ∈ wk.reads, ∃ d ∈ states, d.vmNetCfgs r.1 = r.2) ∧ wk.prog.WritesAllowed wk.reads

theorem WorkerOK.mono {S S' : List Cluster} {wk : Worker} (h : WorkerOK S wk) (hS : S ⊆ S') :
    WorkerOK S' wk :=
  ⟨fun r hr => (h.1 r hr).imp fun _ hd => ⟨hS hd.1, hd.2⟩, h.2⟩

/-- The invariant of every run. -/
structure Inv (w : World) : Prop where
  /-- No state holds a resourceVersion the cluster has not handed out. -/
  bound : ∀ d ∈ w.states, ∀ k cfg, d.vmNetCfgs k = some cfg →
    cfg.resourceVersion ≤ w.cluster.revision
  /-- A resourceVersion names one version of a vmnetcfg: a copy in any state that carries
  the stored resourceVersion is the stored vmnetcfg. -/
  det : ∀ d ∈ w.states, ∀ k cfg cur, d.vmNetCfgs k = some cfg → w.cluster.vmNetCfgs k = some cur →
    cur.resourceVersion = cfg.resourceVersion → cur = cfg
  /-- Every pass in flight is sound. -/
  workers : ∀ wk ∈ w.workers, WorkerOK w.states wk

theorem inv_init (vms : Key → Option VirtualMachine) (revision : Nat) :
    Inv (World.init vms revision) where
  bound d hd k cfg h := by
    simp only [World.states, World.init, List.mem_singleton] at hd
    subst hd; cases h
  det d hd k cfg cur h := by
    simp only [World.states, World.init, List.mem_singleton] at hd
    subst hd; cases h
  workers wk hwk := nomatch hwk

/-- A new state that `Grows` from the current one keeps the bound and determinacy. -/
theorem Inv.grow {w : World} (hI : Inv w) {s' : Cluster} (hg : Grows w.cluster s')
    {ws : List Worker} (hws : ∀ wk ∈ ws, WorkerOK (s' :: w.states) wk) :
    Inv ⟨s', w.states, ws⟩ where
  bound d hd k cfg h := by
    rcases List.mem_cons.mp hd with rfl | hd
    · rcases hg.2 k cfg h with h | h
      · exact (hI.bound _ (.head _) k cfg h).trans hg.1
      · exact h.2
    · exact (hI.bound d hd k cfg h).trans hg.1
  det d hd k cfg cur h hcur hrv := by
    rcases List.mem_cons.mp hd with rfl | hd
    · exact Option.some.inj (hcur.symm.trans h)
    rcases hg.2 k cur hcur with hcur | hcur
    · exact hI.det d hd k cfg cur h hcur hrv
    · have := hI.bound d hd k cfg h
      omega
  workers := hws

theorem Inv.setWorkers {w : World} (hI : Inv w) {ws : List Worker}
    (hws : ∀ wk ∈ ws, WorkerOK w.states wk) : Inv { w with workers := ws } :=
  ⟨hI.bound, hI.det, hws⟩

/-- Replacing one pass in flight by a sound one keeps all of them sound. -/
theorem workers_replace {S S' : List Cluster} {pre post : List Worker} {wk wk' : Worker}
    (h : ∀ x ∈ pre ++ wk :: post, WorkerOK S x) (hS : S ⊆ S') (h' : WorkerOK S' wk') :
    ∀ x ∈ pre ++ wk' :: post, WorkerOK S' x := by
  intro x hx
  rcases List.mem_append.mp hx with hx | hx
  · exact (h x (List.mem_append_left _ hx)).mono hS
  rcases List.mem_cons.mp hx with rfl | hx
  · exact h'
  · exact (h x (List.mem_append_right _ (List.mem_cons_of_mem _ hx))).mono hS

section Step

variable {w : World} (hI : Inv w)
include hI

/-- The pass a step acts on is sound, and so are the others. -/
theorem Inv.worker {pre post : List Worker} {wk : Worker} (hw : w.workers = pre ++ wk :: post) :
    (∀ x ∈ pre ++ wk :: post, WorkerOK w.states x) ∧ WorkerOK w.states wk :=
  ⟨hw ▸ hI.workers, hI.workers _ (hw ▸ List.mem_append_right _ (.head _))⟩

theorem inv_passStep {w' : World} (hs : PassStep w w') : Inv w' := by
  have hS : ∀ s', w.states ⊆ s' :: w.states := fun _ => List.subset_cons_self _ _
  cases hs with
  | start h o vm? =>
    refine hI.setWorkers fun wk hwk => ?_
    rcases List.mem_cons.mp hwk with rfl | hwk
    · exact ⟨fun _ hr => (nomatch hr), onChange_writesAllowed h o vm?⟩
    · exact hI.workers wk hwk
  | updateVM hw =>
    obtain ⟨hwk, hok⟩ := hI.worker hw
    exact hI.grow (grows_of_vmNetCfgs (Cluster.updateVM_vmNetCfgs _ _).1
      (Cluster.updateVM_vmNetCfgs _ _).2) (workers_replace hwk (hS _) ⟨(hok.mono (hS _)).1, hok.2 _⟩)
  | getVmNetCfg hw hc =>
    obtain ⟨hwk, hok⟩ := hI.worker hw
    refine hI.setWorkers (workers_replace hwk (List.Subset.refl _) ⟨fun r hr => ?_, hok.2 _⟩)
    rcases List.mem_cons.mp hr with rfl | hr
    · exact ⟨_, hc, rfl⟩
    · exact hok.1 r hr
  | write hw =>
    obtain ⟨hwk, hok⟩ := hI.worker hw
    exact hI.grow (grows_write _ _) (workers_replace hwk (hS _) ⟨(hok.mono (hS _)).1, hok.2.2 _⟩)
  | enqueue hw =>
    obtain ⟨hwk, hok⟩ := hI.worker hw
    exact hI.setWorkers (workers_replace hwk (List.Subset.refl _) hok)
  | finish hw =>
    exact hI.setWorkers fun x hx =>
      (hI.worker hw).1 x (((List.sublist_cons_self _ _).append_left _).subset hx)

/-- **The invariant is preserved by every step.** -/
theorem inv_step {w' : World} (hs : Step w w') : Inv w' := by
  cases hs with
  | pass hs => exact inv_passStep hI hs
  | engine conditions hk =>
    exact hI.grow (grows_putVmNetCfg _ _) fun wk hwk =>
      (hI.workers wk hwk).mono (List.subset_cons_self _ _)
  | editVM vm =>
    exact hI.grow (grows_editVM _ _) fun wk hwk =>
      (hI.workers wk hwk).mono (List.subset_cons_self _ _)

end Step

theorem inv_reachable {w : World} (hr : Reachable w) : Inv w := by
  induction hr with
  | init vms revision => exact inv_init vms revision
  | tail _ hs ih => exact inv_step ih hs

/-! ## A pass run alone -/

/-- **A pass that runs alone computes what `Prog.exec` computes.** When its reads are
answered from one state `cache`, the steps of one pass take the cluster to the state
`Prog.exec` gives and leave the pass with its result, the other passes untouched. Every
result about `Prog.exec` so describes a pass of a run that no other step interleaves. -/
theorem exec_as_run (cache : Cluster) (p : Prog Result) :
    ∀ (w : World) (pre post : List Worker) (reads : List (Key × Option VirtualMachineNetworkConfig)),
      w.workers = pre ++ ⟨p, reads⟩ :: post → cache ∈ w.states →
      ∃ w' reads', Relation.ReflTransGen PassStep w w' ∧ w'.cluster = (p.exec cache w.cluster).1 ∧
        w'.workers = pre ++ ⟨.ret (p.exec cache w.cluster).2.2, reads'⟩ :: post := by
  induction p with
  | ret a => exact fun w pre post reads hw _ => ⟨w, reads, .refl, rfl, hw⟩
  | updateVM vm k ih =>
    intro w pre post reads hw hc
    obtain ⟨w', reads', hr, hcl, hws⟩ := ih _ ⟨(w.cluster.updateVM vm).1, w.states,
      pre ++ ⟨k (w.cluster.updateVM vm).2, reads⟩ :: post⟩ pre post reads rfl (.tail _ hc)
    exact ⟨w', reads', .head (.updateVM w hw) hr, hcl, hws⟩
  | getVmNetCfg ns n k ih =>
    intro w pre post reads hw hc
    obtain ⟨w', reads', hr, hcl, hws⟩ := ih _ { w with
      workers := pre ++ ⟨k (cache.vmNetCfgs (ns, n)), ((ns, n), cache.vmNetCfgs (ns, n)) :: reads⟩ ::
        post } pre post _ rfl hc
    exact ⟨w', reads', .head (.getVmNetCfg w hw hc) hr, hcl, hws⟩
  | write wr k ih =>
    intro w pre post reads hw hc
    obtain ⟨w', reads', hr, hcl, hws⟩ := ih _ ⟨(w.cluster.write wr).1, w.states,
      pre ++ ⟨k (w.cluster.write wr).2, reads⟩ :: post⟩ pre post reads rfl (.tail _ hc)
    exact ⟨w', reads', .head (.write w hw) hr, hcl, hws⟩
  | enqueue ns n k ih =>
    intro w pre post reads hw hc
    obtain ⟨w', reads', hr, hcl, hws⟩ := ih { w with workers := pre ++ ⟨k, reads⟩ :: post }
      pre post reads rfl hc
    exact ⟨w', reads', .head (.enqueue w hw) hr, hcl, hws⟩

/-! ## What a step does to the stored vmnetcfgs -/

/-- A step of a pass leaves the vmnetcfgs alone, or makes one write its reads allow. -/
theorem passStep_vmNetCfgs {w w' : World} (hI : Inv w) (hs : PassStep w w') :
    w'.cluster.vmNetCfgs = w.cluster.vmNetCfgs ∨
      ∃ reads wr, (∀ r ∈ reads, ∃ d ∈ w.states, d.vmNetCfgs r.1 = r.2) ∧ Allowed reads wr ∧
        w'.cluster = (w.cluster.write wr).1 := by
  cases hs with
  | updateVM _ => exact .inl (Cluster.updateVM_vmNetCfgs _ _).1
  | write hw =>
    have hok := (hI.worker hw).2
    exact .inr ⟨_, _, hok.1, hok.2.1, rfl⟩
  | _ => exact .inl rfl

/-- A write of a pass never sets InSynced True: a vmnetcfg that is True after it was stored
before it, with the same status. -/
theorem write_not_true {s : Cluster} {reads : List (Key × Option VirtualMachineNetworkConfig)}
    {wr : Write} (ha : Allowed reads wr) {k : Key} {cfg' : VirtualMachineNetworkConfig}
    (h' : (s.write wr).1.vmNetCfgs k = some cfg') (ht : Cond.IsTrue inSynced cfg'.conditions) :
    ∃ cfg, s.vmNetCfgs k = some cfg ∧ cfg.conditions = cfg'.conditions := by
  rcases s.write_get wr h' with h' | h'
  · exact ⟨cfg', h', rfl⟩
  cases wr with
  | create c =>
    obtain ⟨-, rfl⟩ := h'
    exact absurd ht (by simp [Cond.IsTrue, Cond.getStatus, show c.conditions = [] from ha])
  | update c =>
    obtain ⟨cur, -, hcur, -, rfl⟩ := h'
    exact ⟨cur, hcur, rfl⟩
  | updateStatus c =>
    obtain ⟨cur, -, rfl⟩ := h'
    exact absurd ((show Cond.IsFalse inSynced c.conditions from ha).symm.trans ht) (by decide)

/-- **A write of a pass changes a stored spec only while InSynced is False, and keeps it
False.** The update carries the resourceVersion of a copy the pass read out of sync, and
`Inv.det` makes the stored vmnetcfg that copy when the cluster accepts it. -/
theorem write_spec_change {w : World} (hI : Inv w)
    {reads : List (Key × Option VirtualMachineNetworkConfig)}
    (hr : ∀ r ∈ reads, ∃ d ∈ w.states, d.vmNetCfgs r.1 = r.2) {wr : Write} (ha : Allowed reads wr)
    {k : Key} {cfg cfg' : VirtualMachineNetworkConfig} (h : w.cluster.vmNetCfgs k = some cfg)
    (h' : (w.cluster.write wr).1.vmNetCfgs k = some cfg')
    (hne : cfg'.networkConfigs ≠ cfg.networkConfigs) :
    Cond.IsFalse inSynced cfg.conditions ∧ Cond.IsFalse inSynced cfg'.conditions := by
  rcases w.cluster.write_get wr h' with h' | h'
  · rw [h] at h'; cases h'; exact absurd rfl hne
  cases wr with
  | create c => rw [h'.1] at h; cases h
  | update c =>
    obtain ⟨cur, hck, hcur, hrv, rfl⟩ := h'
    rw [h] at hcur; cases hcur
    obtain ⟨k₀, old, hmem, hf, hc⟩ := ha
    obtain ⟨d, hd, hdk⟩ := hr _ hmem
    -- the update names the key the pass read the copy from
    have hk : k₀ = k := (d.keyed _ _ hdk).symm.trans ((congrArg _ hc).symm.trans hck)
    subst hk
    have hold : cfg = old :=
      hI.det d hd _ old cfg hdk h (hrv.trans (by rw [hc]))
    subst hold
    exact ⟨hf, hf⟩
  | updateStatus c =>
    obtain ⟨cur, hcur, rfl⟩ := h'
    rw [h] at hcur; cases hcur; exact absurd rfl hne

/-- **The two-step change is safe in every run.** In a reachable world, a step that changes
the stored spec of an existing vmnetcfg is taken while InSynced is False, and leaves it
False (P1). A step of a pass never sets InSynced True: a vmnetcfg that is True after it was
stored before it, with the same status (P2). -/
theorem reachable_spec_change_out_of_sync {w w' : World} (hr : Reachable w) (hs : Step w w') :
    (∀ k cfg cfg', w.cluster.vmNetCfgs k = some cfg → w'.cluster.vmNetCfgs k = some cfg' →
      cfg'.networkConfigs ≠ cfg.networkConfigs →
      Cond.IsFalse inSynced cfg.conditions ∧ Cond.IsFalse inSynced cfg'.conditions) ∧
    (PassStep w w' → ∀ k cfg', w'.cluster.vmNetCfgs k = some cfg' →
      Cond.IsTrue inSynced cfg'.conditions →
      ∃ cfg, w.cluster.vmNetCfgs k = some cfg ∧ cfg.conditions = cfg'.conditions) := by
  have hI := inv_reachable hr
  refine ⟨fun k cfg cfg' h h' hne => ?_, fun hp k cfg' h' ht => ?_⟩
  · cases hs with
    | pass hp =>
      rcases passStep_vmNetCfgs hI hp with he | ⟨reads, wr, hr, ha, he⟩
      · rw [he, h] at h'; cases h'; exact absurd rfl hne
      · rw [he] at h'; exact write_spec_change hI hr ha h h' hne
    | engine conditions hk =>
      -- the engine writes the status only
      rcases Cluster.putVmNetCfg_get h' with h' | ⟨hk', rfl⟩
      · rw [h] at h'; cases h'; exact absurd rfl hne
      · rw [← (w.cluster.keyed _ _ hk).symm.trans hk', hk] at h
        cases h; exact absurd rfl hne
    | editVM vm =>
      rw [show (w.cluster.editVM vm).vmNetCfgs = w.cluster.vmNetCfgs from rfl, h] at h'
      cases h'; exact absurd rfl hne
  · rcases passStep_vmNetCfgs hI hp with he | ⟨reads, wr, -, ha, he⟩
    · exact ⟨cfg', he ▸ h', rfl⟩
    · rw [he] at h'; exact write_not_true ha h' ht

/-- `twoNetVM` after a user gave `nic2` another MAC address. -/
def editedVM : VirtualMachine :=
  { twoNetVM with interfaces := [⟨"nic1", "aa:aa"⟩, ⟨"nic2", "cc:cc"⟩] }

/-- The first pass creates the vmnetcfg of `twoNetVM`, the engine marks it InSynced False, a
user edits a MAC address, and the next pass reads the vmnetcfg and updates its spec. -/
theorem reachable_spec_change_out_of_sync_edit :
    ∃ w w' : World, Reachable w ∧ Step w w' ∧
      (∃ cfg cfg', w.cluster.vmNetCfgs twoNetVM.key = some cfg ∧
        w'.cluster.vmNetCfgs twoNetVM.key = some cfg' ∧ cfg'.networkConfigs ≠ cfg.networkConfigs) ∧
      (∀ k cfg cfg', w.cluster.vmNetCfgs k = some cfg → w'.cluster.vmNetCfgs k = some cfg' →
        cfg'.networkConfigs ≠ cfg.networkConfigs →
        Cond.IsFalse inSynced cfg.conditions ∧ Cond.IsFalse inSynced cfg'.conditions) ∧
      (PassStep w w' → ∀ k cfg', w'.cluster.vmNetCfgs k = some cfg' →
        Cond.IsTrue inSynced cfg'.conditions →
        ∃ cfg, w.cluster.vmNetCfgs k = some cfg ∧ cfg.conditions = cfg'.conditions) :=
  -- the first pass: start, read nothing, Create, finish
  have h₁ : Reachable _ := .tail (.tail (.tail (.tail (.init twoNetCluster.vms 1)
    (.pass (.start _ twoNetHandler listedOrders (some twoNetVM))))
    (.pass (@PassStep.getVmNetCfg _ [] [] _ _ _ [] (World.init twoNetCluster.vms 1).cluster rfl
      (List.mem_cons_self _ _))))
    (.pass (@PassStep.write _ [] [] _ _ _ (by rfl))))
    (.pass (@PassStep.finish _ [] [] _ _ (by rfl)))
  -- the engine marks it out of sync, a user edits the VM, and the next pass reads
  have h₂ : Reachable _ := .tail (.tail (.tail (.tail h₁
    (@Step.engine _ twoNetVM.key _ [⟨inSynced, "False", "", ""⟩] (by rfl)))
    (.editVM _ editedVM))
    (.pass (.start _ twoNetHandler listedOrders (some { editedVM with resourceVersion := 4 }))))
    (.pass (@PassStep.getVmNetCfg _ [] [] _ _ _ [] _ (by rfl) (List.mem_cons_self _ _)))
  ⟨_, _, h₂, .pass (@PassStep.write _ [] [] _ _ _ (by rfl)), ⟨_, _, by rfl, by rfl, by decide⟩,
    reachable_spec_change_out_of_sync h₂ (.pass (@PassStep.write _ [] [] _ _ _ (by rfl)))⟩

end VmDhcpController
