import VmDhcpController.Controller.Handler

/-!
# Runs of the controller

`Prog.exec` runs one pass alone against one cache. In a live cluster, many passes are in
flight at once, on the controller's workers. Their requests interleave with each other,
with the allocation engine's status writes and with users editing VMs. Each informer cache
lags behind the API server by an unknown amount.

A `World` is the API server's cluster, every state it has been in, and the passes in
flight. A step is one request of one pass, the start or end of a pass, one status write of
the allocation engine, or one VM edit.

* A pass starts on any VM object, with any NAD and IPPool caches and any loop orders.
* Its vmnetcfg read is answered by any state the cluster has been in, up to the read.
  The worker keeps the answer as a ghost record (`Worker.reads`) that later steps can
  refer to.
* The allocation engine writes the status of any existing vmnetcfg to anything, and never
  the spec.

The scope of the runs: nothing but the passes' writes and the engine's status writes
creates, edits or deletes a vmnetcfg (no user or other controller writes one directly), and
a pass's writes go to the store, `Cluster.write`, without the admission webhook that
validator.go registers for Create. The webhook only refuses Creates; `Controller.Admission`
models it in front of the store for a single pass.
-/

namespace VmDhcpController

/-- A user edit of a VM: the cluster stores it with the next resourceVersion. -/
def Cluster.editVM (s : Cluster) (vm : VirtualMachine) : Cluster :=
  { s with
    vms := Function.update s.vms vm.key (some { vm with resourceVersion := s.revision + 1 })
    revision := s.revision + 1 }

/-- The allocation engine's `UpdateStatus` of the vmnetcfg `cur`. -/
def Cluster.engineUpdateStatus (s : Cluster) (cur : VirtualMachineNetworkConfig)
    (conditions : List Condition) : Cluster :=
  s.putVmNetCfg { cur with conditions := conditions }

/-- A pass in flight: what is left of it, and the vmnetcfg reads it has made. -/
structure Worker where
  prog : Prog Result
  reads : List (Key × Option VirtualMachineNetworkConfig)

/-- The API server, its history, and the passes in flight. -/
structure World where
  cluster : Cluster
  /-- The earlier states of the cluster, latest first. -/
  history : List Cluster
  workers : List Worker

/-- Every state the cluster has been in, the current one first. -/
def World.states (w : World) : List Cluster := w.cluster :: w.history

/-- A world in which no vmnetcfg exists yet and nothing is in flight. -/
def World.init (vms : Key → Option VirtualMachine) (revision : Nat) : World :=
  ⟨⟨vms, fun _ => none, revision, fun _ _ h => nomatch h⟩, [], []⟩

/-- The steps of the controller's passes. -/
inductive PassStep : World → World → Prop
  | start (w : World) (h : Handler) (o : Orders) (vm? : Option VirtualMachine) :
      PassStep w { w with workers := ⟨h.onChange o vm?, []⟩ :: w.workers }
  | updateVM (w : World) {pre post : List Worker} {vm k reads}
      (hw : w.workers = pre ++ ⟨.updateVM vm k, reads⟩ :: post) :
      PassStep w ⟨(w.cluster.updateVM vm).1, w.states,
        pre ++ ⟨k (w.cluster.updateVM vm).2, reads⟩ :: post⟩
  | getVmNetCfg (w : World) {pre post : List Worker} {ns n k reads} {cache : Cluster}
      (hw : w.workers = pre ++ ⟨.getVmNetCfg ns n k, reads⟩ :: post) (hc : cache ∈ w.states) :
      PassStep w { w with
        workers := pre ++ ⟨k (cache.vmNetCfgs (ns, n)), ((ns, n), cache.vmNetCfgs (ns, n)) :: reads⟩ ::
          post }
  | write (w : World) {pre post : List Worker} {wr k reads}
      (hw : w.workers = pre ++ ⟨.write wr k, reads⟩ :: post) :
      PassStep w ⟨(w.cluster.write wr).1, w.states, pre ++ ⟨k (w.cluster.write wr).2, reads⟩ :: post⟩
  | enqueue (w : World) {pre post : List Worker} {ns n k reads}
      (hw : w.workers = pre ++ ⟨.enqueue ns n k, reads⟩ :: post) :
      PassStep w { w with workers := pre ++ ⟨k, reads⟩ :: post }
  | finish (w : World) {pre post : List Worker} {a reads}
      (hw : w.workers = pre ++ ⟨.ret a, reads⟩ :: post) :
      PassStep w { w with workers := pre ++ post }

/-- A step of the system. -/
inductive Step : World → World → Prop
  | pass {w w' : World} : PassStep w w' → Step w w'
  | engine (w : World) {k : Key} {cur : VirtualMachineNetworkConfig} (conditions : List Condition)
      (hk : w.cluster.vmNetCfgs k = some cur) :
      Step w ⟨w.cluster.engineUpdateStatus cur conditions, w.states, w.workers⟩
  | editVM (w : World) (vm : VirtualMachine) : Step w ⟨w.cluster.editVM vm, w.states, w.workers⟩

/-- The worlds a run from an initial world reaches. -/
inductive Reachable : World → Prop
  | init (vms : Key → Option VirtualMachine) (revision : Nat) : Reachable (World.init vms revision)
  | tail {w w' : World} : Reachable w → Step w w' → Reachable w'

end VmDhcpController
