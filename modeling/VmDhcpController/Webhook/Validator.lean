import VmDhcpController.Util.Resolve

/-!
# The vmnetcfg admission webhook

`Validator.Create` admits a new vmnetcfg only if every network it lists resolves to an
IPPool, with the vmnetcfg's own namespace as fallback, and rejects it with the first
failure otherwise. It is strict where the VM handler is permissive: the handler drops the
networks that do not resolve, the webhook refuses the whole object.
-/

namespace VmDhcpController

/-- The webhook's caches, and the label keys the resolver reads. -/
structure Validator where
  keys : LabelKeys
  nadCache : NadCache
  ippoolCache : IPPoolCache

/-- `fmt.Errorf(webhook.CreateErr, kind, namespace, name, err)`: the rejection names the
object and the resolver's failure. -/
structure CreateError where
  kind : String
  ns : String
  name : String
  cause : ResolveError
  deriving DecidableEq, Repr

/-- `Validator.Create`: resolve each network of the spec in turn. -/
def Validator.create (v : Validator) (vmNetCfg : VirtualMachineNetworkConfig) :
    Except CreateError Unit :=
  go vmNetCfg.networkConfigs
where
  /-- The loop over `Spec.NetworkConfigs`. -/
  go : List NetworkConfig → Except CreateError Unit
    | [] => .ok ()
    | nc :: ncs =>
      match getIPPoolFromNetworkName v.keys v.nadCache v.ippoolCache nc.networkName
          vmNetCfg.namespace with
      | .error err => .error ⟨vmNetCfg.kind, vmNetCfg.namespace, vmNetCfg.name, err⟩
      | .ok _ => go ncs

/-- The webhook admits a vmnetcfg exactly when every network of its spec resolves. -/
theorem Validator.create_eq_ok (v : Validator) (vmNetCfg : VirtualMachineNetworkConfig) :
    v.create vmNetCfg = .ok () ↔ ∀ nc ∈ vmNetCfg.networkConfigs, ∃ p,
      getIPPoolFromNetworkName v.keys v.nadCache v.ippoolCache nc.networkName vmNetCfg.namespace
        = .ok p := by
  unfold create
  induction vmNetCfg.networkConfigs with
  | nil => simp [create.go]
  | cons nc ncs ih =>
    simp only [create.go, List.mem_cons, forall_eq_or_imp]
    split <;> simp_all

/-- The webhook rejects a vmnetcfg with the first network of its spec that does not resolve:
the rejection names the vmnetcfg, and carries the resolver's failure for that network. -/
theorem Validator.create_eq_error (v : Validator) (vmNetCfg : VirtualMachineNetworkConfig)
    (e : CreateError) :
    v.create vmNetCfg = .error e ↔ ∃ pre nc post err,
      vmNetCfg.networkConfigs = pre ++ nc :: post ∧
      (∀ nc' ∈ pre, ∃ p, getIPPoolFromNetworkName v.keys v.nadCache v.ippoolCache nc'.networkName
        vmNetCfg.namespace = .ok p) ∧
      getIPPoolFromNetworkName v.keys v.nadCache v.ippoolCache nc.networkName vmNetCfg.namespace =
        .error err ∧
      e = ⟨vmNetCfg.kind, vmNetCfg.namespace, vmNetCfg.name, err⟩ := by
  unfold create
  induction vmNetCfg.networkConfigs with
  | nil => simp [create.go]
  | cons nc ncs ih =>
    simp only [create.go]
    split
    · rename_i err hr
      constructor
      · rintro ⟨⟩
        exact ⟨[], nc, ncs, err, rfl, by simp, hr, rfl⟩
      · rintro ⟨pre, nc', post, err', hl, hpre, hr', rfl⟩
        cases pre with
        | nil => cases hl; rw [hr] at hr'; cases hr'; rfl
        | cons x pre =>
          cases hl
          obtain ⟨p, hp⟩ := hpre _ (.head _)
          rw [hr] at hp; cases hp
    · rename_i p hr
      rw [ih]
      constructor
      · rintro ⟨pre, nc', post, err, hl, hpre, hr', rfl⟩
        refine ⟨nc :: pre, nc', post, err, by rw [hl]; rfl, ?_, hr', rfl⟩
        rintro x (_ | ⟨_, hx⟩)
        · exact ⟨p, hr⟩
        · exact hpre x hx
      · rintro ⟨pre, nc', post, err, hl, hpre, hr', rfl⟩
        cases pre with
        | nil => cases hl; rw [hr] at hr'; cases hr'
        | cons x pre =>
          cases hl
          exact ⟨pre, nc', post, err, rfl, fun y hy => hpre y (.tail _ hy), hr', rfl⟩

end VmDhcpController
