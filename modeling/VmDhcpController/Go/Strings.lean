import Mathlib.Data.List.Basic

/-!
# The string functions the resolver calls

`GetIPPoolFromNetworkName` reads a network name `"<namespace>/<name>"` with wrangler's
`kv.RSplit(networkName, "/")`, which splits with `strings.Split`, joins all pieces but the
last back with `strings.Join`, and trims both parts with `strings.TrimSpace`. They are
modelled on the characters of the string, for a one-character separator.

`rsplit_eq` says what the split-and-rejoin amounts to: the trimmed parts before and after
the **last** separator, and `("", s)` trimmed when there is none.
-/

namespace VmDhcpController

/-- `unicode.IsSpace`: the Latin-1 spaces, and above Latin-1 the `White_Space` property. -/
def isSpace (c : Char) : Bool :=
  if c.toNat ≤ 0xFF then
    c.toNat = 0x09 || c.toNat = 0x0A || c.toNat = 0x0B || c.toNat = 0x0C || c.toNat = 0x0D ||
      c.toNat = 0x20 || c.toNat = 0x85 || c.toNat = 0xA0
  else
    c.toNat = 0x1680 || (0x2000 ≤ c.toNat && c.toNat ≤ 0x200A) || c.toNat = 0x2028 ||
      c.toNat = 0x2029 || c.toNat = 0x202F || c.toNat = 0x205F || c.toNat = 0x3000

/-- `strings.TrimSpace(s)`: drops the leading and the trailing spaces. -/
def trimSpace (s : String) : String :=
  ⟨((s.toList.dropWhile isSpace).reverse.dropWhile isSpace).reverse⟩

/-- `strings.Split(s, sep)`: the pieces between the separators; one piece when there is none. -/
def split (s : String) (sep : Char) : List String :=
  (s.toList.splitOn sep).map String.mk

/-- `strings.Join(elems, sep)`. -/
def join (elems : List String) (sep : Char) : String :=
  ⟨[sep].intercalate (elems.map String.toList)⟩

/-- wrangler's `kv.RSplit(s, sep)`. -/
def rsplit (s : String) (sep : Char) : String × String :=
  let parts := split s sep
  if parts.length = 1 then ("", trimSpace (parts.getD 0 ""))
  else (trimSpace (join (parts.take (parts.length - 1)) sep),
    trimSpace (parts.getD (parts.length - 1) ""))

/-- The part of `s` after its last `sep`; all of `s` when it has none. -/
def afterLast (s : String) (sep : Char) : String :=
  ⟨(s.toList.reverse.takeWhile (· ≠ sep)).reverse⟩

/-- The part of `s` before its last `sep`, when it has one. -/
def beforeLast (s : String) (sep : Char) : Option String :=
  match s.toList.reverse.dropWhile (· ≠ sep) with
  | [] => none
  | _ :: rest => some ⟨rest.reverse⟩

theorem sep_not_mem_afterLast (s : String) (sep : Char) : sep ∉ (afterLast s sep).toList := by
  intro h
  have := List.mem_takeWhile_imp (List.mem_reverse.mp h)
  simp at this

theorem trimSpace_sublist (s : String) : (trimSpace s).toList.Sublist s.toList := by
  refine (List.reverse_sublist.mpr (List.dropWhile_sublist _)).trans ?_
  rw [List.reverse_reverse]
  exact List.dropWhile_sublist _

/-- Splitting at one separator splits the two sides apart. -/
private theorem splitOn_append_sep (xs ys : List Char) (sep : Char) :
    (xs ++ sep :: ys).splitOn sep = xs.splitOn sep ++ ys.splitOn sep := by
  simp only [List.splitOn]
  induction xs with
  | nil => simp
  | cons a xs ih =>
    rw [List.cons_append, List.splitOnP_cons, List.splitOnP_cons, ih]
    split
    · rfl
    · obtain ⟨h, t, e⟩ := List.exists_cons_of_ne_nil (List.splitOnP_ne_nil (· == sep) xs)
      rw [e]; rfl

/-- `rsplit` with no separator in the string. -/
private theorem rsplit_of_not_mem {s : String} {sep : Char} (h : sep ∉ s.toList) :
    rsplit s sep = ("", trimSpace s) := by
  have : s.toList.splitOn sep = [s.toList] :=
    List.splitOnP_eq_single _ _ fun x hx hs => h (by simpa using (beq_iff_eq.mp hs) ▸ hx)
  simp only [rsplit, split, this, List.map_singleton, List.length_singleton, if_true]
  rfl

/-- `rsplit` at the last separator of `pre ++ sep :: post`. -/
private theorem rsplit_of_last {s : String} {sep : Char} {pre post : List Char}
    (hs : s.toList = pre ++ sep :: post) (hpost : sep ∉ post) :
    rsplit s sep = (trimSpace ⟨pre⟩, trimSpace ⟨post⟩) := by
  have hpost' : post.splitOn sep = [post] :=
    List.splitOnP_eq_single _ _ fun x hx hs => hpost (by simpa using (beq_iff_eq.mp hs) ▸ hx)
  have hne := List.splitOnP_ne_nil (· == sep) pre
  have hlen : (pre.splitOn sep).length ≠ 0 := by simpa [List.splitOn] using hne
  simp only [rsplit, split, hs, splitOn_append_sep, hpost', List.map_append, List.length_append,
    List.length_map, List.length_singleton]
  rw [if_neg (by omega), Nat.add_sub_cancel, List.take_left' (by simp),
    List.getD_eq_getElem?_getD, List.getElem?_append_right (by simp)]
  simp only [join, List.map_map, List.length_map, Nat.sub_self]
  congr
  exact (congrArg _ (List.map_id _)).trans (List.intercalate_splitOn pre sep)

/-- **`kv.RSplit` splits at the last separator.** -/
theorem rsplit_eq (s : String) (sep : Char) :
    rsplit s sep = ((beforeLast s sep).elim "" trimSpace, trimSpace (afterLast s sep)) := by
  have hsplit := List.takeWhile_append_dropWhile (· ≠ sep) s.toList.reverse
  unfold beforeLast afterLast
  rcases hd : s.toList.reverse.dropWhile (· ≠ sep) with _ | ⟨c, rest⟩
  · -- no separator: the `takeWhile` keeps every character
    rw [hd, List.append_nil] at hsplit
    have hns : sep ∉ s.toList := fun h => by
      have := @List.mem_takeWhile_imp _ (fun x => decide (x ≠ sep)) _ _
        (hsplit ▸ List.mem_reverse.mpr h)
      simp at this
    rw [rsplit_of_not_mem hns, hsplit, List.reverse_reverse]
    rfl
  · -- the character the `takeWhile` stops at is the last separator
    have hc : c = sep := by
      have := List.head_dropWhile_not (· ≠ sep) s.toList.reverse (by rw [hd]; exact List.cons_ne_nil _ _)
      simp only [hd, List.head_cons, decide_eq_false_iff_not, not_not] at this
      exact this
    subst hc
    rw [hd] at hsplit
    have hs := congrArg List.reverse hsplit
    simp only [List.reverse_append, List.reverse_cons, List.reverse_reverse, List.append_assoc,
      List.singleton_append] at hs
    rw [rsplit_of_last hs.symm (List.mem_reverse.not.mpr fun h => by
      simpa using List.mem_takeWhile_imp h)]
    rfl

end VmDhcpController
