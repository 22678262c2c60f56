import VmDhcpController.Util.Network

/-!
# Loading a pool's allocation map

`LoadAllocated` ranges over the allocation map once and appends each parseable key to one of
three lists, by its mark. What it computes is `allocatedSpec`: for each mark, the addresses
of the keys with that mark, in any order. `loadAllocated_perm` says so for every map, every
pair of distinct marks and every order of the `range`. Each parseable key lands in exactly
one list, so the three lengths add up to the number of parseable keys.
-/

namespace VmDhcpController

variable (parseAddr : AddrParser)

/-- The address of an entry whose mark passes `q`. -/
def selectBy (q : String → Bool) (e : String × String) : Option Addr :=
  if q e.2 then parseAddr.parse e.1 else none

/-- What `LoadAllocated` is for: the addresses of the parseable keys of `m` marked neither
excluded nor reserved, those marked excluded, and those marked reserved. -/
def allocatedSpec (marks : Marks) (m : GoMap String String) : List Addr × List Addr × List Addr :=
  (m.entries.filterMap (selectBy parseAddr fun v => v ≠ marks.excludedMark ∧ v ≠ marks.reservedMark),
    m.entries.filterMap (selectBy parseAddr (· = marks.excludedMark)),
    m.entries.filterMap (selectBy parseAddr (· = marks.reservedMark)))

/-- Two triples of lists that are equal up to the order of each list. -/
def TriplePerm {α : Type} (x y : List α × List α × List α) : Prop :=
  x.1.Perm y.1 ∧ x.2.1.Perm y.2.1 ∧ x.2.2.Perm y.2.2

/-- The loop appends each entry to the list its `switch` picks: `ExcludedMark` is tested
first. -/
theorem foldl_loadAllocatedEntry (marks : Marks) (l : List (String × String))
    (acc : List Addr × List Addr × List Addr) :
    l.foldl (loadAllocatedEntry parseAddr marks) acc =
      (acc.1 ++ l.filterMap (selectBy parseAddr fun v => v ≠ marks.excludedMark ∧ v ≠ marks.reservedMark),
        acc.2.1 ++ l.filterMap (selectBy parseAddr (· = marks.excludedMark)),
        acc.2.2 ++ l.filterMap (selectBy parseAddr fun v => v ≠ marks.excludedMark ∧ v = marks.reservedMark)) := by
  induction l generalizing acc with
  | nil => simp
  | cons e l ih =>
    rw [List.foldl_cons, ih]
    simp only [List.filterMap_cons, selectBy, loadAllocatedEntry]
    rcases parseAddr.parse e.1 with _ | a
    · simp
    · by_cases he : e.2 = marks.excludedMark <;> by_cases hr : e.2 = marks.reservedMark <;>
        simp_all

/-- Each parseable key passes exactly one of three tests that split the marks. -/
theorem length_filterMap_selectBy (q₁ q₂ q₃ : String → Bool)
    (hq : ∀ v, (q₁ v).toNat + (q₂ v).toNat + (q₃ v).toNat = 1) (l : List (String × String)) :
    (l.filterMap (selectBy parseAddr q₁)).length + (l.filterMap (selectBy parseAddr q₂)).length +
        (l.filterMap (selectBy parseAddr q₃)).length =
      (l.filterMap fun e => parseAddr.parse e.1).length := by
  induction l with
  | nil => rfl
  | cons e l ih =>
    have h := hq e.2
    simp only [List.filterMap_cons, selectBy]
    rcases parseAddr.parse e.1 with _ | a
    · simpa using ih
    · cases h₁ : q₁ e.2 <;> cases h₂ : q₂ e.2 <;> cases h₃ : q₃ e.2 <;>
        simp_all <;> omega

/-- **`LoadAllocated` sorts the parseable keys by mark, each exactly once, whatever the
order of its `range`.** -/
theorem loadAllocated_perm (marks : Marks) (hm : marks.excludedMark ≠ marks.reservedMark)
    (o : MapOrder String String) (m : GoMap String String) :
    TriplePerm (loadAllocated parseAddr marks o m) (allocatedSpec parseAddr marks m) ∧
      (loadAllocated parseAddr marks o m).1.length + (loadAllocated parseAddr marks o m).2.1.length +
          (loadAllocated parseAddr marks o m).2.2.length =
        (m.entries.filterMap fun e => parseAddr.parse e.1).length ∧
      ∀ o', TriplePerm (loadAllocated parseAddr marks o' m) (loadAllocated parseAddr marks o m) := by
  -- with distinct marks, a reserved key is never excluded
  have hres : (fun v => decide (v ≠ marks.excludedMark ∧ v = marks.reservedMark)) =
      fun v => decide (v = marks.reservedMark) := by
    funext v; by_cases hv : v = marks.reservedMark <;> simp [hv, Ne.symm hm]
  have hspec : ∀ o : MapOrder String String,
      TriplePerm (loadAllocated parseAddr marks o m) (allocatedSpec parseAddr marks m) := fun o => by
    rw [loadAllocated, foldl_loadAllocatedEntry, hres]
    exact ⟨(o.perm _).filterMap _, (o.perm _).filterMap _, (o.perm _).filterMap _⟩
  refine ⟨hspec o, ?_, fun o' => ?_⟩
  · rw [(hspec o).1.length_eq, (hspec o).2.1.length_eq, (hspec o).2.2.length_eq]
    refine length_filterMap_selectBy parseAddr _ _ _ (fun v => ?_) m.entries
    by_cases he : v = marks.excludedMark <;> by_cases hr : v = marks.reservedMark <;>
      simp_all
  · obtain ⟨h₁, h₂, h₃⟩ := hspec o'
    obtain ⟨h₁', h₂', h₃'⟩ := hspec o
    exact ⟨h₁.trans h₁'.symm, h₂.trans h₂'.symm, h₃.trans h₃'.symm⟩

/-- A parser that knows the addresses `10.0.0.1` and `10.0.0.2`. -/
def sampleParser : AddrParser where
  parse s :=
    if s = "10.0.0.1" then some (.v4 0x0a000001)
    else if s = "10.0.0.2" then some (.v4 0x0a000002) else none
  ne_zero s a h := by
    dsimp only at h
    split at h
    · cases h; nofun
    · split at h
      · cases h; nofun
      · cases h

/-- The marks the allocation engine writes. -/
def sampleMarks : Marks := ⟨"EXCLUDED", "RESERVED"⟩

/-- An excluded address, an allocated one, and a key that is not an address. -/
def sampleAllocated : GoMap String String :=
  ⟨[("10.0.0.1", "EXCLUDED"), ("10.0.0.2", "vm-1"), ("garbage", "RESERVED")], by decide⟩

theorem loadAllocated_perm_sample :
    sampleMarks.excludedMark ≠ sampleMarks.reservedMark ∧
      TriplePerm (loadAllocated sampleParser sampleMarks (.listed _ _) sampleAllocated)
        (allocatedSpec sampleParser sampleMarks sampleAllocated) ∧
      (loadAllocated sampleParser sampleMarks (.listed _ _) sampleAllocated).1.length +
          (loadAllocated sampleParser sampleMarks (.listed _ _) sampleAllocated).2.1.length +
          (loadAllocated sampleParser sampleMarks (.listed _ _) sampleAllocated).2.2.length =
        (sampleAllocated.entries.filterMap fun e => sampleParser.parse e.1).length ∧
      ∀ o', TriplePerm (loadAllocated sampleParser sampleMarks o' sampleAllocated)
        (loadAllocated sampleParser sampleMarks (.listed _ _) sampleAllocated) :=
  have hm : sampleMarks.excludedMark ≠ sampleMarks.reservedMark := by decide
  ⟨hm, loadAllocated_perm sampleParser sampleMarks hm (.listed _ _) sampleAllocated⟩

end VmDhcpController
