import Mathlib.Data.List.Nodup
import Mathlib.Data.List.Induction

/-!
# Insertion-ordered dictionaries

A dictionary is its list of entries in insertion order, with distinct keys.
Assigning to a key that is present keeps the entry's position; a new key goes
to the end. Removing the first entry makes the dictionary a queue of keys.
-/

/-- A finite map with distinct keys that remembers insertion order. -/
@[ext] structure OrderedDict (κ ν : Type*) where
  entries : List (κ × ν)
  nodup : (entries.map Prod.fst).Nodup

namespace OrderedDict

variable {κ ν : Type*}

instance [DecidableEq κ] [DecidableEq ν] : DecidableEq (OrderedDict κ ν) := fun d e =>
  decidable_of_iff (d.entries = e.entries) OrderedDict.ext_iff.symm

def empty : OrderedDict κ ν := ⟨[], List.nodup_nil⟩

def keys (d : OrderedDict κ ν) : List κ := d.entries.map Prod.fst

def values (d : OrderedDict κ ν) : List ν := d.entries.map Prod.snd

theorem keys_nodup (d : OrderedDict κ ν) : d.keys.Nodup := d.nodup

@[simp] theorem entries_empty : (empty : OrderedDict κ ν).entries = [] := rfl

@[simp] theorem keys_empty : (empty : OrderedDict κ ν).keys = [] := rfl

theorem entries_eq_nil_iff (d : OrderedDict κ ν) : d.entries = [] ↔ d = empty := by
  constructor
  · intro h
    exact OrderedDict.ext h
  · rintro rfl
    rfl

/-- The first entry and the dictionary without it. -/
def popFirst (d : OrderedDict κ ν) : Option ((κ × ν) × OrderedDict κ ν) :=
  match d with
  | ⟨[], _⟩ => none
  | ⟨e :: rest, h⟩ => some (e, ⟨rest, (List.nodup_cons.mp h).2⟩)

theorem popFirst_eq_some_iff (d rest : OrderedDict κ ν) (e : κ × ν) :
    d.popFirst = some (e, rest) ↔ d.entries = e :: rest.entries := by
  obtain ⟨entries, h⟩ := d
  cases entries with
  | nil => simp [popFirst]
  | cons e' tail => simp [popFirst, OrderedDict.ext_iff]

theorem popFirst_eq_none_iff (d : OrderedDict κ ν) :
    d.popFirst = none ↔ d.entries = [] := by
  obtain ⟨entries, h⟩ := d
  cases entries <;> simp [popFirst]

theorem keys_popFirst {d rest : OrderedDict κ ν} {k : κ} {v : ν}
    (h : d.popFirst = some ((k, v), rest)) : d.keys = k :: rest.keys := by
  rw [popFirst_eq_some_iff] at h
  simp [keys, h]

section Lookup

variable [DecidableEq κ]

/-- Look a key up in a list of entries. -/
def find (k : κ) : List (κ × ν) → Option ν
  | [] => none
  | e :: rest => if e.1 = k then some e.2 else find k rest

/-- Replace the value of a present key in place, or append a new entry. -/
def put (k : κ) (v : ν) : List (κ × ν) → List (κ × ν)
  | [] => [(k, v)]
  | e :: rest => if e.1 = k then (k, v) :: rest else e :: put k v rest

theorem find_put (k k' : κ) (v : ν) (entries : List (κ × ν)) :
    find k' (put k v entries) = if k' = k then some v else find k' entries := by
  induction entries with
  | nil =>
      by_cases h : k' = k
      · simp [put, find, h]
      · simp [put, find, h, Ne.symm h]
  | cons e rest ih =>
      by_cases he : e.1 = k
      · by_cases h : k' = k
        · simp [put, find, he, h]
        · simp [put, find, he, h, Ne.symm h]
      · by_cases h : e.1 = k'
        · have hk : k' ≠ k := fun hk => he (h.trans hk)
          simp [put, find, h, hk]
        · simp [put, find, he, h, ih]

theorem keys_put (k : κ) (v : ν) (entries : List (κ × ν)) :
    (put k v entries).map Prod.fst =
      if k ∈ entries.map Prod.fst then entries.map Prod.fst
      else entries.map Prod.fst ++ [k] := by
  induction entries with
  | nil => simp [put]
  | cons e rest ih =>
      by_cases he : e.1 = k
      · simp [put, he]
      · have hk : k ≠ e.1 := Ne.symm he
        simp only [put, if_neg he, List.map_cons, ih, List.mem_cons, hk, false_or]
        split <;> simp

theorem find_eq_some_iff {k : κ} {v : ν} {entries : List (κ × ν)}
    (h : (entries.map Prod.fst).Nodup) : find k entries = some v ↔ (k, v) ∈ entries := by
  induction entries with
  | nil => simp [find]
  | cons e rest ih =>
      obtain ⟨hnot, hrest⟩ := List.nodup_cons.mp h
      by_cases he : e.1 = k
      · have habsent : (k, v) ∉ rest := fun hmem =>
          hnot (he ▸ List.mem_map.mpr ⟨(k, v), hmem, rfl⟩)
        obtain ⟨k', v'⟩ := e
        simp only at he
        subst he
        simp [find, habsent, eq_comm]
      · have hne : (k, v) ≠ e := fun heq => he (by rw [← heq])
        simp [find, he, ih hrest, hne]

theorem find_eq_none_iff {k : κ} {entries : List (κ × ν)} :
    find k entries = none ↔ k ∉ entries.map Prod.fst := by
  induction entries with
  | nil => simp [find]
  | cons e rest ih =>
      by_cases he : e.1 = k
      · simp [find, he]
      · have hk : k ≠ e.1 := Ne.symm he
        simp only [find, if_neg he, List.map_cons, List.mem_cons, hk, false_or, ih]

def get? (d : OrderedDict κ ν) (k : κ) : Option ν := find k d.entries

/-- Assignment: the position of a present key is kept. -/
def set (d : OrderedDict κ ν) (k : κ) (v : ν) : OrderedDict κ ν where
  entries := put k v d.entries
  nodup := by
    rw [keys_put]
    split
    · exact d.nodup
    · rename_i h
      exact List.nodup_append.mpr ⟨d.nodup, by simp, by
        intro a ha b hb hab
        rw [List.mem_singleton.mp hb] at hab
        exact h (hab ▸ ha)⟩

def erase (d : OrderedDict κ ν) (k : κ) : OrderedDict κ ν where
  entries := d.entries.filter fun e => e.1 ≠ k
  nodup := d.nodup.sublist (List.filter_sublist.map Prod.fst)

/-- The dictionary of a list of assignments, made in order. -/
def ofList (items : List (κ × ν)) : OrderedDict κ ν :=
  items.foldl (fun d item => d.set item.1 item.2) empty

@[simp] theorem get?_empty (k : κ) : (empty : OrderedDict κ ν).get? k = none := rfl

theorem get?_set (d : OrderedDict κ ν) (k k' : κ) (v : ν) :
    (d.set k v).get? k' = if k' = k then some v else d.get? k' :=
  find_put k k' v d.entries

@[simp] theorem get?_set_self (d : OrderedDict κ ν) (k : κ) (v : ν) :
    (d.set k v).get? k = some v := by
  simp [get?_set]

theorem get?_set_of_ne (d : OrderedDict κ ν) {k k' : κ} (v : ν) (h : k' ≠ k) :
    (d.set k v).get? k' = d.get? k' := by
  simp [get?_set, h]

theorem keys_set (d : OrderedDict κ ν) (k : κ) (v : ν) :
    (d.set k v).keys = if k ∈ d.keys then d.keys else d.keys ++ [k] :=
  keys_put k v d.entries

theorem get?_eq_some_iff (d : OrderedDict κ ν) (k : κ) (v : ν) :
    d.get? k = some v ↔ (k, v) ∈ d.entries :=
  find_eq_some_iff d.nodup

theorem get?_eq_none_iff (d : OrderedDict κ ν) (k : κ) : d.get? k = none ↔ k ∉ d.keys :=
  find_eq_none_iff

theorem mem_keys_iff (d : OrderedDict κ ν) (k : κ) : k ∈ d.keys ↔ ∃ v, d.get? k = some v := by
  rw [← Option.ne_none_iff_exists', Ne, get?_eq_none_iff, not_not]

/-- Assigning a new key appends its entry. -/
theorem entries_set_of_not_mem (d : OrderedDict κ ν) {k : κ} (v : ν) (h : k ∉ d.keys) :
    (d.set k v).entries = d.entries ++ [(k, v)] := by
  obtain ⟨entries, hnodup⟩ := d
  simp only [keys] at h
  simp only [set]
  clear hnodup
  induction entries with
  | nil => rfl
  | cons e rest ih =>
      have hne : e.1 ≠ k := fun heq => h (by simp [heq])
      have hrest : k ∉ rest.map Prod.fst := fun hmem => h (by simp [hmem])
      simp [put, hne, ih hrest]

/-- Assignments to distinct new keys append their entries in order. -/
theorem entries_foldl_set (items : List (κ × ν)) (d : OrderedDict κ ν)
    (hnodup : (items.map Prod.fst).Nodup) (hnew : ∀ e ∈ items, e.1 ∉ d.keys) :
    (items.foldl (fun d item => d.set item.1 item.2) d).entries = d.entries ++ items := by
  induction items generalizing d with
  | nil => simp
  | cons e rest ih =>
      obtain ⟨hfirst, hrest⟩ := List.nodup_cons.mp hnodup
      have hset := d.entries_set_of_not_mem e.2 (hnew e List.mem_cons_self)
      have hnext : ∀ e' ∈ rest, e'.1 ∉ (d.set e.1 e.2).keys := by
        intro e' he' hmem
        simp only [keys, hset, List.map_append, List.map_cons, List.map_nil,
          List.mem_append, List.mem_singleton] at hmem
        rcases hmem with hold | hsame
        · exact hnew e' (List.mem_cons_of_mem _ he') hold
        · exact hfirst (hsame ▸ List.mem_map_of_mem he')
      rw [List.foldl_cons, ih _ hrest hnext, hset, List.append_assoc, List.singleton_append]

theorem entries_ofList {items : List (κ × ν)} (h : (items.map Prod.fst).Nodup) :
    (ofList items).entries = items := by
  simpa [ofList] using entries_foldl_set items empty h (by simp)

/-- A list of assignments assigns what the last one for the key does. -/
theorem get?_ofList_concat (items : List (κ × ν)) (item : κ × ν) (k : κ) :
    (ofList (items ++ [item])).get? k = if k = item.1 then some item.2 else (ofList items).get? k := by
  rw [ofList, List.foldl_concat]
  exact get?_set _ _ _ _

/-- A value that is found was assigned. -/
theorem mem_of_get?_ofList {items : List (κ × ν)} {k : κ} {v : ν}
    (h : (ofList items).get? k = some v) : (k, v) ∈ items := by
  induction items using List.reverseRecOn with
  | nil => cases h
  | append_singleton items item ih =>
      rw [get?_ofList_concat] at h
      split at h
      · rename_i hkey
        injection h with h
        rw [hkey, ← h]
        exact List.mem_append_right _ List.mem_cons_self
      · exact List.mem_append_left _ (ih h)

/-- A key that was never assigned is not found, and no other. -/
theorem get?_ofList_eq_none_iff {items : List (κ × ν)} {k : κ} :
    (ofList items).get? k = none ↔ k ∉ items.map Prod.fst := by
  induction items using List.reverseRecOn with
  | nil => simp [ofList]
  | append_singleton items item ih =>
      rw [get?_ofList_concat]
      split
      · rename_i hkey
        simp [hkey]
      · rename_i hkey
        simp [ih, hkey]

theorem get?_erase (d : OrderedDict κ ν) (k k' : κ) :
    (d.erase k).get? k' = if k' = k then none else d.get? k' := by
  by_cases h : k' = k
  · rw [if_pos h, get?_eq_none_iff, h]
    simp [keys, erase]
  · rw [if_neg h]
    apply Option.ext
    intro v
    simp [get?_eq_some_iff, erase, h]

theorem filter_put (k k' : κ) (v : ν) (entries : List (κ × ν)) :
    (put k v entries).filter (fun e => e.1 ≠ k') =
      if k = k' then entries.filter (fun e => e.1 ≠ k')
      else put k v (entries.filter fun e => e.1 ≠ k') := by
  induction entries with
  | nil =>
      by_cases h : k = k' <;> simp [put, h]
  | cons e rest ih =>
      by_cases he : e.1 = k
      · by_cases h : k = k'
        · simp [put, he, h]
        · simp [put, he, h]
      · by_cases h : e.1 = k'
        · have hk : k ≠ k' := fun hk => he (h.trans hk.symm)
          rw [if_neg hk] at ih ⊢
          simpa [put, h, Ne.symm hk] using ih
        · by_cases hk : k = k'
          · rw [if_pos hk] at ih ⊢
            simpa [put, he, h] using ih
          · rw [if_neg hk] at ih ⊢
            simpa [put, he, h] using ih

/-- Removing a key undoes the assignments to it and no other. -/
theorem erase_set (d : OrderedDict κ ν) (k k' : κ) (v : ν) :
    (d.set k v).erase k' = if k = k' then d.erase k' else (d.erase k').set k v := by
  apply OrderedDict.ext
  simp only [erase, set, filter_put]
  split <;> rfl

/-- Popping removes the first key and leaves every other lookup as it was. -/
theorem get?_popFirst {d rest : OrderedDict κ ν} {k : κ} {v : ν}
    (h : d.popFirst = some ((k, v), rest)) (k' : κ) :
    d.get? k' = if k' = k then some v else rest.get? k' := by
  rw [popFirst_eq_some_iff] at h
  simp only [get?, h, find]
  by_cases hk : k' = k
  · simp [hk]
  · simp [hk, Ne.symm hk]

/-- The popped key is gone from the rest. -/
theorem get?_popFirst_rest {d rest : OrderedDict κ ν} {k : κ} {v : ν}
    (h : d.popFirst = some ((k, v), rest)) : rest.get? k = none := by
  have hnodup := d.keys_nodup
  rw [keys_popFirst h] at hnodup
  exact (rest.get?_eq_none_iff k).mpr (List.nodup_cons.mp hnodup).1

/-- The popped key had the popped value. -/
theorem get?_of_popFirst {d rest : OrderedDict κ ν} {k : κ} {v : ν}
    (h : d.popFirst = some ((k, v), rest)) : d.get? k = some v := by
  rw [get?_popFirst h, if_pos rfl]

/-- Popping leaves where every other value is found. -/
theorem get?_popFirst_of_ne {d rest : OrderedDict κ ν} {k : κ} {v v' : ν}
    (h : d.popFirst = some ((k, v), rest)) (hne : v' ≠ v) (k' : κ) :
    rest.get? k' = some v' ↔ d.get? k' = some v' := by
  rw [get?_popFirst h]
  split
  · rename_i hk
    rw [hk, get?_popFirst_rest h]
    exact ⟨nofun, fun heq => absurd (Option.some.inj heq).symm hne⟩
  · exact Iff.rfl

/-- Popping is erasing the first key. -/
theorem erase_of_popFirst {d rest : OrderedDict κ ν} {k : κ} {v : ν}
    (h : d.popFirst = some ((k, v), rest)) : d.erase k = rest := by
  have hnot : k ∉ rest.keys := (rest.get?_eq_none_iff k).mp (get?_popFirst_rest h)
  rw [popFirst_eq_some_iff] at h
  apply OrderedDict.ext
  simp only [erase, h, ne_eq, not_true_eq_false, decide_false, Bool.false_eq_true, not_false_eq_true,
    List.filter_cons_of_neg]
  apply List.filter_eq_self.mpr
  intro e he
  simp only [decide_not, Bool.not_eq_eq_eq_not, Bool.not_true, decide_eq_false_iff_not]
  rintro rfl
  exact hnot (List.mem_map_of_mem he)

end Lookup

section MapValues

variable {μ : Type*}

/-- The dictionary with a function applied to its values. -/
def mapValues (f : ν → μ) (d : OrderedDict κ ν) : OrderedDict κ μ where
  entries := d.entries.map fun e => (e.1, f e.2)
  nodup := by
    rw [List.map_map]
    exact d.nodup

@[simp] theorem mapValues_empty (f : ν → μ) : (empty : OrderedDict κ ν).mapValues f = empty := rfl

variable [DecidableEq κ] (f : ν → μ)

theorem put_map (k : κ) (v : ν) (entries : List (κ × ν)) :
    (put k v entries).map (fun e => (e.1, f e.2)) =
      put k (f v) (entries.map fun e => (e.1, f e.2)) := by
  induction entries with
  | nil => rfl
  | cons e rest ih =>
      by_cases h : e.1 = k
      · simp [put, h]
      · simp [put, h, ih]

theorem mapValues_set (d : OrderedDict κ ν) (k : κ) (v : ν) :
    (d.set k v).mapValues f = (d.mapValues f).set k (f v) :=
  OrderedDict.ext (put_map f k v d.entries)

theorem find_map (k : κ) (entries : List (κ × ν)) :
    find k (entries.map fun e => (e.1, f e.2)) = (find k entries).map f := by
  induction entries with
  | nil => rfl
  | cons e rest ih =>
      by_cases h : e.1 = k
      · simp [find, h]
      · simp [find, h, ih]

theorem get?_mapValues (d : OrderedDict κ ν) (k : κ) :
    (d.mapValues f).get? k = (d.get? k).map f :=
  find_map f k d.entries

theorem mapValues_ofList (items : List (κ × ν)) :
    (ofList items).mapValues f = ofList (items.map fun e => (e.1, f e.2)) := by
  have hfold (d : OrderedDict κ ν) :
      (items.foldl (fun d e => d.set e.1 e.2) d).mapValues f =
        (items.map fun e => (e.1, f e.2)).foldl (fun d e => d.set e.1 e.2) (d.mapValues f) := by
    induction items generalizing d with
    | nil => rfl
    | cons e rest ih => rw [List.foldl_cons, ih, mapValues_set, List.map_cons, List.foldl_cons]
  exact hfold empty

end MapValues

/-- With distinct keys, a dictionary built from a list holds the items of the list. -/
theorem get?_ofList_of_mem [DecidableEq κ] {items : List (κ × ν)} {k : κ} {v : ν}
    (hnodup : (items.map Prod.fst).Nodup) (h : (k, v) ∈ items) : (ofList items).get? k = some v := by
  rw [get?_eq_some_iff, entries_ofList hnodup]
  exact h

/-- A dictionary built from the graph of a function looks the function up at its keys. -/
theorem get?_ofList_of_graph [DecidableEq κ] {items : List (κ × ν)} {f : κ → Option ν}
    (h : ∀ item ∈ items, f item.1 = some item.2) (k : κ) :
    (ofList items).get? k = if k ∈ items.map Prod.fst then f k else none := by
  cases hget : (ofList items).get? k with
  | none => rw [if_neg (get?_ofList_eq_none_iff.mp hget)]
  | some v =>
      have hmem := mem_of_get?_ofList hget
      rw [if_pos (List.mem_map_of_mem hmem)]
      exact (h (k, v) hmem).symm

end OrderedDict
