import Tekmar482.Library.OrderedDict
import Mathlib.Data.List.Sort

/-!
# Dictionaries up to the order of their keys

Two dictionaries are equal if they hold the same values under the same keys, in whatever order
the keys were inserted. Sorting the keys, or assigning one of them anew at the end, gives an
equal dictionary.
-/

namespace OrderedDict

variable {κ ν : Type*} [DecidableEq κ] {d e : OrderedDict κ ν}

/-- The same values under the same keys. -/
def Same (d e : OrderedDict κ ν) : Prop := ∀ k, d.get? k = e.get? k

theorem Same.symm (h : d.Same e) : e.Same d := fun k => (h k).symm

/-- Equal dictionaries have the same entries in another order. -/
theorem same_iff_perm : d.Same e ↔ d.entries.Perm e.entries := by
  rw [List.perm_ext_iff_of_nodup (List.Nodup.of_map _ d.nodup) (List.Nodup.of_map _ e.nodup)]
  constructor
  · rintro h ⟨k, v⟩
    rw [← get?_eq_some_iff, ← get?_eq_some_iff, h k]
  · intro h k
    apply Option.ext
    intro v
    rw [get?_eq_some_iff, get?_eq_some_iff]
    exact h (k, v)

instance [DecidableEq ν] : Decidable (d.Same e) := decidable_of_iff _ same_iff_perm.symm

/-- The dictionary with its keys in order. -/
def sortKeys [LinearOrder κ] (d : OrderedDict κ ν) : OrderedDict κ ν where
  entries := d.entries.insertionSort fun a b => a.1 ≤ b.1
  nodup := ((List.perm_insertionSort _ d.entries).map Prod.fst).nodup_iff.mpr d.nodup

theorem same_sortKeys [LinearOrder κ] (d : OrderedDict κ ν) : d.Same d.sortKeys :=
  same_iff_perm.mpr (List.perm_insertionSort _ d.entries).symm

/-- Equal dictionaries are the same with their keys in order. -/
theorem Same.sortKeys_eq [LinearOrder κ] (h : d.Same e) : d.sortKeys = e.sortKeys := by
  have hsorted (f : OrderedDict κ ν) : f.sortKeys.entries.Pairwise fun a b => a.1 ≤ b.1 :=
    List.pairwise_insertionSort _ _
  have hperm : d.sortKeys.entries.Perm e.sortKeys.entries :=
    same_iff_perm.mp fun k => by rw [← d.same_sortKeys k, h k, e.same_sortKeys k]
  apply OrderedDict.ext
  refine List.Perm.eq_of_pairwise (fun a b ha hb hab hba => ?_) (hsorted d) (hsorted e) hperm
  exact List.inj_on_of_nodup_map e.sortKeys.nodup (hperm.mem_iff.mp ha) hb (le_antisymm hab hba)

/-- The dictionary with one of its keys assigned anew, at the end. -/
def moveToEnd (d : OrderedDict κ ν) (k : κ) (v : ν) : OrderedDict κ ν := (d.erase k).set k v

theorem same_moveToEnd {k : κ} {v : ν} (h : d.get? k = some v) : d.Same (d.moveToEnd k v) := by
  intro k'
  rw [moveToEnd, get?_set, get?_erase]
  split
  · rename_i hk
    rw [hk, h]
  · rfl

theorem entries_moveToEnd (d : OrderedDict κ ν) (k : κ) (v : ν) :
    (d.moveToEnd k v).entries = d.entries.filter (fun e => e.1 ≠ k) ++ [(k, v)] :=
  entries_set_of_not_mem _ v (by simp [keys, erase])

end OrderedDict
