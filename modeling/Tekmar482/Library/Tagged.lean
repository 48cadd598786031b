import Mathlib.Data.List.Basic

/-!
# Entries of several channels

Entries of several channels come in one list, each with the tag of its channel. What is done to
the values alone can be done channel by channel.
-/

namespace Tagged

variable {ι α β : Type*} [DecidableEq ι]

/-- The values of a channel, in order. -/
def values (tag : ι) (entries : List (ι × α)) : List α :=
  entries.filterMap fun entry => if entry.1 = tag then some entry.2 else none

/-- Change the values that `f` maps, and drop the others. -/
def filterMap (f : α → Option β) (entries : List (ι × α)) : List (ι × β) :=
  entries.filterMap fun entry => (f entry.2).map (Prod.mk entry.1)

@[simp] theorem values_append (tag : ι) (first second : List (ι × α)) :
    values tag (first ++ second) = values tag first ++ values tag second :=
  List.filterMap_append

@[simp] theorem values_nil (tag : ι) : values tag ([] : List (ι × α)) = [] := rfl

theorem values_singleton (tag other : ι) (value : α) :
    values tag [(other, value)] = if other = tag then [value] else [] := by
  by_cases hsame : other = tag <;> simp [values, hsame]

omit [DecidableEq ι] in
theorem filterMap_concat (f : α → Option β) (entries : List (ι × α)) (tag : ι) (value : α) :
    filterMap f (entries ++ [(tag, value)]) =
      filterMap f entries ++ ((f value).map (Prod.mk tag)).toList := by
  rw [filterMap, List.filterMap_append]
  cases hvalue : f value <;> simp [filterMap, hvalue]

omit [DecidableEq ι] in
theorem mem_filterMap {f : α → Option β} {entries : List (ι × α)} {tag : ι} {value : α}
    {image : β} (h : (tag, value) ∈ entries) (himage : f value = some image) :
    (tag, image) ∈ filterMap f entries :=
  List.mem_filterMap.mpr ⟨_, h, by rw [himage, Option.map_some]⟩

omit [DecidableEq ι] in
theorem map_snd_filterMap (f : α → Option β) (entries : List (ι × α)) :
    (filterMap f entries).map Prod.snd = entries.filterMap fun entry => f entry.2 := by
  rw [filterMap, List.map_filterMap]
  apply List.filterMap_congr
  intro entry _
  cases hvalue : f entry.2 <;> simp

/-- A channel of the changed list is the changed channel. -/
theorem values_filterMap (f : α → Option β) (tag : ι) (entries : List (ι × α)) :
    values tag (filterMap f entries) = (values tag entries).filterMap f := by
  rw [values, values, filterMap, List.filterMap_filterMap, List.filterMap_filterMap]
  apply List.filterMap_congr
  intro entry _
  by_cases hsame : entry.1 = tag
  · cases hvalue : f entry.2 <;> simp [hsame, hvalue]
  · cases hvalue : f entry.2 <;> simp [hsame]

end Tagged
