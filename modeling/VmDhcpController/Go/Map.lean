import Mathlib.Data.List.Nodup
import Mathlib.Data.List.Perm.Basic

/-!
# Go maps, and the order a `range` visits them in

The VM handler collects its network configs in a `map[string]NetworkConfig` and ranges over
it three times; `LoadAllocated` ranges over a pool's allocation map. Two facts about Go maps
decide what that code computes: a key is bound at most once, and every `range` statement
visits the bindings in an order the runtime picks afresh, each time it runs.

A `GoMap` is its list of bindings with distinct keys; the order of the list means nothing. A
`MapOrder` is the choice one `range` statement makes: any permutation of the bindings. Each
loop of the model takes its own `MapOrder`, so a result proved for every `MapOrder` holds for
every iteration order the runtime may pick.

The loops of the handler only ever delete the binding they are visiting. Such a loop keeps
exactly the bindings it does not delete, whatever the order (`deleteWhere_entries`).
-/

namespace VmDhcpController

/-- A Go map: its bindings, each key bound at most once. -/
structure GoMap (κ ν : Type) where
  entries : List (κ × ν)
  nodup : (entries.map Prod.fst).Nodup

/-- The order one `range` statement visits a map's bindings in: any permutation of them. -/
structure MapOrder (κ ν : Type) where
  visit : List (κ × ν) → List (κ × ν)
  perm : ∀ l, (visit l).Perm l

/-- The order that visits the bindings as they are listed. -/
def MapOrder.listed (κ ν : Type) : MapOrder κ ν := ⟨id, List.Perm.refl⟩

/-- The order that visits the bindings backwards. -/
def MapOrder.backwards (κ ν : Type) : MapOrder κ ν := ⟨List.reverse, List.reverse_perm⟩

namespace GoMap

variable {κ ν : Type}

/-- `make(map[κ]ν)`. -/
def empty : GoMap κ ν := ⟨[], List.nodup_nil⟩

/-- `len(m)`. -/
def len (m : GoMap κ ν) : Nat := m.entries.length

@[simp] theorem empty_entries : (empty : GoMap κ ν).entries = [] := rfl

/-- A map is its bindings. -/
@[ext] theorem ext {m m' : GoMap κ ν} (h : m.entries = m'.entries) : m = m' := by
  cases m; cases m'; cases h; rfl

/-- A key is bound to one value. -/
theorem mem_unique {m : GoMap κ ν} {k : κ} {v v' : ν}
    (h : (k, v) ∈ m.entries) (h' : (k, v') ∈ m.entries) : v = v' := by
  have := List.inj_on_of_nodup_map m.nodup h h' rfl
  simpa using this

variable [DecidableEq κ]

private theorem keys_rebind (l : List (κ × ν)) (k : κ) (v : ν) :
    (l.map fun e => if e.1 = k then (k, v) else e).map Prod.fst = l.map Prod.fst := by
  rw [List.map_map]
  exact List.map_congr_left fun e _ => by by_cases h : e.1 = k <;> simp [h]

/-- `v, ok := m[k]`. -/
def get? (m : GoMap κ ν) (k : κ) : Option ν :=
  (m.entries.find? fun e => e.1 = k).map Prod.snd

/-- `m[k] = v`: rebinds `k` where it stands, or adds the binding. -/
def set (m : GoMap κ ν) (k : κ) (v : ν) : GoMap κ ν :=
  if h : k ∈ m.entries.map Prod.fst then
    ⟨m.entries.map fun e => if e.1 = k then (k, v) else e, by rw [keys_rebind]; exact m.nodup⟩
  else
    ⟨m.entries ++ [(k, v)], by simpa using m.nodup.concat h⟩

/-- `delete(m, k)`. -/
def delete (m : GoMap κ ν) (k : κ) : GoMap κ ν :=
  ⟨m.entries.filter fun e => e.1 ≠ k, m.nodup.sublist ((List.filter_sublist _).map _)⟩

/-- `for k, v := range m { if p(v) { delete(m, k) } }`, visiting in the order `o` picks. -/
def deleteWhere (m : GoMap κ ν) (o : MapOrder κ ν) (p : ν → Bool) : GoMap κ ν :=
  (o.visit m.entries).foldl (fun acc e => if p e.2 then acc.delete e.1 else acc) m

@[simp] theorem delete_entries (m : GoMap κ ν) (k : κ) :
    (m.delete k).entries = m.entries.filter fun e => e.1 ≠ k := rfl

theorem set_entries_of_mem {m : GoMap κ ν} {k : κ} (v : ν) (h : k ∈ m.entries.map Prod.fst) :
    (m.set k v).entries = m.entries.map fun e => if e.1 = k then (k, v) else e := by
  simp [set, h]

/-- After `m[k] = v`, a binding is the new one or an old one. -/
theorem mem_set {m : GoMap κ ν} {k k' : κ} {v v' : ν} (h : (k', v') ∈ (m.set k v).entries) :
    (k', v') = (k, v) ∨ (k', v') ∈ m.entries := by
  unfold set at h
  split at h
  · obtain ⟨e, he, hee⟩ := List.mem_map.mp h
    split at hee
    · exact .inl hee.symm
    · exact .inr (hee ▸ he)
  · rcases List.mem_append.mp h with h | h
    · exact .inr h
    · exact .inl (List.mem_singleton.mp h)

theorem set_entries_of_not_mem {m : GoMap κ ν} {k : κ} (v : ν) (h : k ∉ m.entries.map Prod.fst) :
    (m.set k v).entries = m.entries ++ [(k, v)] := by
  simp [set, h]

private theorem find?_key {l : List (κ × ν)} (hl : (l.map Prod.fst).Nodup) {k : κ} {v : ν} :
    (l.find? fun e => e.1 = k).map Prod.snd = some v ↔ (k, v) ∈ l := by
  induction l with
  | nil => simp
  | cons e l ih =>
    obtain ⟨k', v'⟩ := e
    simp only [List.map_cons, List.nodup_cons] at hl
    by_cases hk : k' = k
    · subst hk
      have : (k', v) ∉ l := fun h => hl.1 (List.mem_map_of_mem Prod.fst h)
      simp [this, eq_comm]
    · simp [hk, ih hl.2, Ne.symm hk]

theorem get?_eq_some {m : GoMap κ ν} {k : κ} {v : ν} : m.get? k = some v ↔ (k, v) ∈ m.entries :=
  find?_key m.nodup

theorem get?_eq_none {m : GoMap κ ν} {k : κ} : m.get? k = none ↔ k ∉ m.entries.map Prod.fst := by
  simp only [get?, Option.map_eq_none', List.find?_eq_none, decide_eq_true_eq, List.mem_map]
  exact ⟨fun h ⟨e, he, hk⟩ => h e he hk, fun h e he hk => h ⟨e, he, hk⟩⟩

/-- Deleting the keys a list of bindings marks, one after the other. -/
private theorem foldl_delete (p : ν → Bool) (l : List (κ × ν)) (acc : GoMap κ ν) :
    (l.foldl (fun acc e => if p e.2 then acc.delete e.1 else acc) acc).entries =
      acc.entries.filter fun e => e.1 ∉ (l.filter fun e => p e.2).map Prod.fst := by
  induction l generalizing acc with
  | nil => simp
  | cons e l ih =>
    rw [List.foldl_cons, ih, List.filter_cons]
    by_cases he : p e.2
    · simp only [he, if_true, delete_entries, List.filter_filter, List.map_cons, List.mem_cons]
      exact List.filter_congr fun a _ => by simp [Bool.and_comm]
    · simp only [if_neg he]

/-- **A loop that deletes only the binding it visits keeps the others, in any order.** -/
theorem deleteWhere_entries (m : GoMap κ ν) (o : MapOrder κ ν) (p : ν → Bool) :
    (m.deleteWhere o p).entries = m.entries.filter fun e => !p e.2 := by
  rw [deleteWhere, foldl_delete]
  refine List.filter_congr fun e he => ?_
  have key : e.1 ∈ ((o.visit m.entries).filter fun e => p e.2).map Prod.fst ↔ p e.2 := by
    simp only [List.mem_map, List.mem_filter, (o.perm _).mem_iff]
    constructor
    · rintro ⟨e', ⟨he', hp⟩, hk⟩
      obtain ⟨k, v⟩ := e
      obtain ⟨k', v'⟩ := e'
      simp only at hk
      subst hk
      rwa [mem_unique he he']
    · exact fun hp => ⟨e, ⟨he, hp⟩, rfl⟩
  simp [key]

end GoMap

end VmDhcpController
