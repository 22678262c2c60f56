import Mathlib.Data.List.Basic

/-!
# The service CIDR of a node

`GetServiceCIDRFromNode` reads the cluster's service CIDR off a node. The node-args
annotation holds the node's command line as a JSON array of strings, and the service CIDR is
the argument after the `--service-cidr` flag. The loop over the arguments records the
position after the first flag, with `0` for none, and a second test checks that this
position is inside the list before the only indexing.

`getServiceCIDRFromNode_spec` says that the two tests together are exact. The function
returns the argument after the **first** occurrence of the flag when that occurrence is not
the last argument, and otherwise fails with the error of the first check that does not
pass. It never indexes out of range.

The annotation key and the flag are constants of the util package that are not part of the
source given here, and `json.Unmarshal` is not modelled: all three are parameters, and every
result holds for every choice of them.
-/

namespace VmDhcpController

/-- A `corev1.Node`: its name and its annotations, `none` for a nil map. -/
structure Node where
  name : String
  annotations : Option (List (String × String))
  deriving DecidableEq, Repr

/-- `NodeArgsAnnotationKey` and `ServiceCIDRFlag`. -/
structure NodeArgKeys where
  nodeArgsAnnotationKey : String
  serviceCIDRFlag : String

/-- The failures of `GetServiceCIDRFromNode`, each with the arguments of its message. -/
inductive ServiceCIDRError
  /-- `service CIDR not found for node %s` -/
  | noAnnotations (node : String)
  /-- `annotation %s not found for node %s` -/
  | annotationNotFound (key node : String)
  /-- the error of `json.Unmarshal`, returned as it is -/
  | unmarshal (err : String)
  /-- `serviceCIDR not found for node %s` -/
  | serviceCIDRNotFound (node : String)
  deriving DecidableEq, Repr

/-- The loop over `argList`: `i + 1` for the first `i` with `argList[i] = flag`, and `0` when
there is none. `i` counts the arguments already visited. -/
def serviceCIDRIndexLoop (flag : String) : List String → Nat → Nat
  | [], _ => 0
  | val :: rest, i => if val = flag then i + 1 else serviceCIDRIndexLoop flag rest (i + 1)

/-- Lines 42–58: the argument after the first `ServiceCIDRFlag` of `argList`. A Go panic is
`none`. -/
def serviceCIDRFromArgs (flag nodeName : String) (argList : List String) :
    Option (Except ServiceCIDRError String) :=
  let serviceCIDRIndex := serviceCIDRIndexLoop flag argList 0
  if serviceCIDRIndex = 0 ∨ serviceCIDRIndex ≥ argList.length then
    some (.error (.serviceCIDRNotFound nodeName))
  else argList[serviceCIDRIndex]?.map .ok

/-- `GetServiceCIDRFromNode(node)`, with `json.Unmarshal` into a `[]string` given as
`unmarshal`. A Go panic is `none`. -/
def getServiceCIDRFromNode (keys : NodeArgKeys) (unmarshal : String → Except String (List String))
    (node : Node) : Option (Except ServiceCIDRError String) :=
  match node.annotations with
  | none => some (.error (.noAnnotations node.name))
  | some annotations =>
    match annotations.lookup keys.nodeArgsAnnotationKey with
    | none => some (.error (.annotationNotFound keys.nodeArgsAnnotationKey node.name))
    | some nodeArgs =>
      match unmarshal nodeArgs with
      | .error err => some (.error (.unmarshal err))
      | .ok argList => serviceCIDRFromArgs keys.serviceCIDRFlag node.name argList

/-! ## The first occurrence of the flag -/

/-- `i` is the first position of `flag` in `L`. -/
def IsFirstIndex (L : List String) (flag : String) (i : Nat) : Prop :=
  L[i]? = some flag ∧ ∀ j < i, L[j]? ≠ some flag

theorem IsFirstIndex.unique {L : List String} {flag : String} {i i' : Nat}
    (h : IsFirstIndex L flag i) (h' : IsFirstIndex L flag i') : i = i' := by
  rcases Nat.lt_trichotomy i i' with hl | rfl | hl
  · exact absurd h.1 (h'.2 i hl)
  · rfl
  · exact absurd h'.1 (h.2 i' hl)

theorem IsFirstIndex.lt_length {L : List String} {flag : String} {i : Nat}
    (h : IsFirstIndex L flag i) : i < L.length :=
  (List.getElem?_eq_some_iff.mp h.1).1

/-- The loop returns `k + i + 1` for the first position `i` of the flag, and `0` when the
flag is not in the list. -/
theorem serviceCIDRIndexLoop_spec (flag : String) : ∀ (L : List String) (k : Nat),
    (flag ∉ L ∧ serviceCIDRIndexLoop flag L k = 0) ∨
      ∃ i, IsFirstIndex L flag i ∧ serviceCIDRIndexLoop flag L k = k + i + 1
  | [], _ => .inl ⟨List.not_mem_nil _, rfl⟩
  | val :: rest, k => by
    by_cases hv : val = flag
    · subst hv
      exact .inr ⟨0, ⟨by simp, fun j hj => absurd hj (Nat.not_lt_zero j)⟩,
        by simp [serviceCIDRIndexLoop]⟩
    rcases serviceCIDRIndexLoop_spec flag rest (k + 1) with ⟨hn, he⟩ | ⟨i, ⟨hi, hj⟩, he⟩
    · exact .inl ⟨by simp [hn, Ne.symm hv], by simp [serviceCIDRIndexLoop, hv, he]⟩
    · refine .inr ⟨i + 1, ⟨by simpa using hi, fun j hj' => ?_⟩, ?_⟩
      · cases j with
        | zero => simpa using hv
        | succ j => simpa using hj j (by omega)
      · simp only [serviceCIDRIndexLoop, hv, if_false, he]
        omega

/-- The test of line 54 fails exactly when the flag occurs and its first occurrence
is not the last argument; then the index line 58 reads is inside the list. -/
theorem serviceCIDRFromArgs_spec (flag nodeName : String) (L : List String) :
    (∃ i, IsFirstIndex L flag i ∧ i + 1 < L.length ∧
        serviceCIDRFromArgs flag nodeName L = L[i + 1]?.map .ok) ∨
      ((flag ∉ L ∨ ∃ i, IsFirstIndex L flag i ∧ i + 1 = L.length) ∧
        serviceCIDRFromArgs flag nodeName L = some (.error (.serviceCIDRNotFound nodeName))) := by
  rcases serviceCIDRIndexLoop_spec flag L 0 with ⟨hn, he⟩ | ⟨i, hi, he⟩
  · exact .inr ⟨.inl hn, by simp [serviceCIDRFromArgs, he]⟩
  rw [Nat.zero_add] at he
  by_cases hlt : i + 1 < L.length
  · exact .inl ⟨i, hi, hlt, by simp [serviceCIDRFromArgs, he, Nat.not_le.mpr hlt]⟩
  · have := hi.lt_length
    exact .inr ⟨.inr ⟨i, hi, by omega⟩, by simp [serviceCIDRFromArgs, he, Nat.not_lt.mp hlt]⟩

/-- The tail succeeds exactly at the argument after the first flag. -/
theorem serviceCIDRFromArgs_ok_iff {flag nodeName : String} {L : List String} {cidr : String} :
    serviceCIDRFromArgs flag nodeName L = some (.ok cidr) ↔
      ∃ i, IsFirstIndex L flag i ∧ i + 1 < L.length ∧ L[i + 1]? = some cidr := by
  rcases serviceCIDRFromArgs_spec flag nodeName L with ⟨i, hi, hlt, he⟩ | ⟨hno, he⟩
  · rw [he]
    constructor
    · intro h
      exact ⟨i, hi, hlt, by simpa using h⟩
    · rintro ⟨i', hi', -, hc⟩
      rw [← hi.unique hi'] at hc
      simp [hc]
  · rw [he]
    refine ⟨fun h => (by cases h), ?_⟩
    rintro ⟨i, hi, hlt, -⟩
    rcases hno with hn | ⟨i', hi', hl⟩
    · exact absurd (List.getElem?_mem hi.1) hn
    · rw [hi.unique hi'] at hlt
      omega

/-- The tail fails exactly when the flag is missing or occurs first as the last argument. -/
theorem serviceCIDRFromArgs_error_iff {flag nodeName : String} {L : List String}
    {e : ServiceCIDRError} :
    serviceCIDRFromArgs flag nodeName L = some (.error e) ↔
      (flag ∉ L ∨ ∃ i, IsFirstIndex L flag i ∧ i + 1 = L.length) ∧
        e = .serviceCIDRNotFound nodeName := by
  rcases serviceCIDRFromArgs_spec flag nodeName L with ⟨i, hi, hlt, he⟩ | ⟨hno, he⟩
  · rw [he, List.getElem?_eq_getElem hlt]
    refine ⟨fun h => (by cases h), ?_⟩
    rintro ⟨hn | ⟨i', hi', hl⟩, -⟩
    · exact absurd (List.getElem?_mem hi.1) hn
    · rw [← hi.unique hi'] at hl
      omega
  · rw [he]
    simp only [Option.some.injEq, Except.error.injEq, hno, true_and]
    exact eq_comm

/-- **`GetServiceCIDRFromNode` returns the argument after the first occurrence of the flag,
and never indexes out of range.** It succeeds exactly when the annotation is there and
decodes to a list `L` whose first occurrence `i` of the flag is not its last element, and
then returns `L[i + 1]`. In every other case it fails with the error of the first check that
does not pass: no annotations, no node-args annotation, an annotation that does not decode,
or a list in which the flag is missing or occurs first as the last element. -/
theorem getServiceCIDRFromNode_spec (keys : NodeArgKeys)
    (unmarshal : String → Except String (List String)) (node : Node) :
    (∃ r, getServiceCIDRFromNode keys unmarshal node = some r) ∧
    (∀ cidr, getServiceCIDRFromNode keys unmarshal node = some (.ok cidr) ↔
      ∃ annotations nodeArgs L i, node.annotations = some annotations ∧
        annotations.lookup keys.nodeArgsAnnotationKey = some nodeArgs ∧
        unmarshal nodeArgs = .ok L ∧ IsFirstIndex L keys.serviceCIDRFlag i ∧
        i + 1 < L.length ∧ L[i + 1]? = some cidr) ∧
    (∀ e, getServiceCIDRFromNode keys unmarshal node = some (.error e) ↔
      (node.annotations = none ∧ e = .noAnnotations node.name) ∨
      (∃ annotations, node.annotations = some annotations ∧
        annotations.lookup keys.nodeArgsAnnotationKey = none ∧
        e = .annotationNotFound keys.nodeArgsAnnotationKey node.name) ∨
      (∃ annotations nodeArgs err, node.annotations = some annotations ∧
        annotations.lookup keys.nodeArgsAnnotationKey = some nodeArgs ∧
        unmarshal nodeArgs = .error err ∧ e = .unmarshal err) ∨
      (∃ annotations nodeArgs L, node.annotations = some annotations ∧
        annotations.lookup keys.nodeArgsAnnotationKey = some nodeArgs ∧
        unmarshal nodeArgs = .ok L ∧
        (keys.serviceCIDRFlag ∉ L ∨ ∃ i, IsFirstIndex L keys.serviceCIDRFlag i ∧ i + 1 = L.length) ∧
        e = .serviceCIDRNotFound node.name)) := by
  rcases ha : node.annotations with _ | annotations
  · simp only [getServiceCIDRFromNode, ha, Option.some.injEq, exists_eq', reduceCtorEq, false_and,
      exists_const, implies_true, Except.error.injEq, true_and, List.lookup_eq_none_iff, bne_iff_ne,
      ne_eq, Prod.forall, or_self, or_false]
    exact fun _ => eq_comm
  rcases hl : annotations.lookup keys.nodeArgsAnnotationKey with _ | nodeArgs
  · simp only [getServiceCIDRFromNode, ha, hl, Option.some.injEq, exists_eq', reduceCtorEq,
      exists_and_left, exists_eq_left', false_and, exists_const, implies_true, Except.error.injEq,
      true_and, or_self, or_false, false_or]
    exact fun _ => eq_comm
  rcases hu : unmarshal nodeArgs with err | L
  · simp only [getServiceCIDRFromNode, ha, hl, hu, Option.some.injEq, exists_eq', reduceCtorEq,
      exists_and_left, exists_eq_left', false_and, exists_const, implies_true, Except.error.injEq,
      or_false, false_or, true_and]
    exact fun _ => eq_comm
  simp only [getServiceCIDRFromNode, ha, hl, hu]
  refine ⟨?_, fun cidr => ?_, fun e => ?_⟩
  · rcases serviceCIDRFromArgs_spec keys.serviceCIDRFlag node.name L with ⟨i, -, hlt, he⟩ | ⟨-, he⟩
    · exact ⟨_, by rw [he, List.getElem?_eq_getElem hlt]; rfl⟩
    · exact ⟨_, he⟩
  · simp only [serviceCIDRFromArgs_ok_iff, Option.some.injEq, exists_and_left, exists_eq_left', hl,
      hu, Except.ok.injEq]
  · simp only [serviceCIDRFromArgs_error_iff, reduceCtorEq, false_and, Option.some.injEq,
      exists_eq_left', hl, exists_and_left, hu, exists_const, Except.ok.injEq, false_or]

/-- The arguments of the source's comment. -/
example : getServiceCIDRFromNode ⟨"rke2.io/node-args", "--service-cidr"⟩
    (fun _ => .ok ["--cluster-cidr", "10.52.0.0/16", "--service-cidr", "10.53.0.0/16"])
    ⟨"node", some [("rke2.io/node-args", "")]⟩ = some (.ok "10.53.0.0/16") := rfl

/-- A flag that occurs first as the last argument is not found, whatever comes before it. -/
example : getServiceCIDRFromNode ⟨"rke2.io/node-args", "--service-cidr"⟩
    (fun _ => .ok ["--service-cidr"]) ⟨"node", some [("rke2.io/node-args", "")]⟩ =
      some (.error (.serviceCIDRNotFound "node")) := rfl

end VmDhcpController
