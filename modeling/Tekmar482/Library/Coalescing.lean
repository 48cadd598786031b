import Tekmar482.Library.OrderedDict
import Mathlib.Data.List.Induction

/-!
# Coalescing queues

A coalescing queue keeps one entry for each key. A submission replaces the
unsent entry of its key and keeps its place; the entry at the front is popped
first. The history of a queue is its list of submissions and pops.
-/

namespace Coalescing

variable {κ α : Type*}

/-- A submission of a value under a key, or the pop of the front entry. -/
inductive Event (κ α : Type*) where
  | submit (key : κ) (a : α)
  | pop (key : κ) (a : α)

/-- The submissions of a history, in order. -/
def submissions (events : List (Event κ α)) : List (κ × α) :=
  events.filterMap fun event => match event with
    | .submit key a => some (key, a)
    | .pop _ _ => none

/-- The pops of a history, in order. -/
def pops (events : List (Event κ α)) : List (κ × α) :=
  events.filterMap fun event => match event with
    | .submit _ _ => none
    | .pop key a => some (key, a)

@[simp] theorem submissions_submit (events : List (Event κ α)) (key : κ) (a : α) :
    submissions (events ++ [.submit key a]) = submissions events ++ [(key, a)] := by
  simp [submissions]

@[simp] theorem submissions_pop (events : List (Event κ α)) (key : κ) (a : α) :
    submissions (events ++ [.pop key a]) = submissions events := by
  simp [submissions]

@[simp] theorem pops_submit (events : List (Event κ α)) (key : κ) (a : α) :
    pops (events ++ [.submit key a]) = pops events := by
  simp [pops]

@[simp] theorem pops_pop (events : List (Event κ α)) (key : κ) (a : α) :
    pops (events ++ [.pop key a]) = pops events ++ [(key, a)] := by
  simp [pops]

/-- A submission was replaced by a later one of its key before it was popped. -/
def Superseded (events : List (Event κ α)) (key : κ) (a : α) : Prop :=
  ∃ before b after, events = before ++ .submit key b :: after ∧
    (key, a) ∈ submissions before ∧ (key, a) ∉ pops before

theorem superseded_submit_iff (events : List (Event κ α)) (key key' : κ) (a b : α) :
    Superseded (events ++ [.submit key' b]) key a ↔
      Superseded events key a ∨
        key' = key ∧ (key, a) ∈ submissions events ∧ (key, a) ∉ pops events := by
  constructor
  · rintro ⟨before, c, after, heq, hsubmitted, hpopped⟩
    rcases List.eq_nil_or_concat after with rfl | ⟨rest, last, rfl⟩
    · obtain ⟨rfl, hlast⟩ := List.append_inj' heq rfl
      cases hlast
      exact .inr ⟨rfl, hsubmitted, hpopped⟩
    · have hsplit : events ++ [.submit key' b] = (before ++ .submit key c :: rest) ++ [last] := by
        simpa using heq
      obtain ⟨rfl, -⟩ := List.append_inj' hsplit rfl
      exact .inl ⟨before, c, rest, rfl, hsubmitted, hpopped⟩
  · rintro (⟨before, c, after, rfl, hsubmitted, hpopped⟩ | ⟨rfl, hsubmitted, hpopped⟩)
    · exact ⟨before, c, after ++ [.submit key' b], by simp, hsubmitted, hpopped⟩
    · exact ⟨events, b, [], rfl, hsubmitted, hpopped⟩

theorem superseded_pop_iff (events : List (Event κ α)) (key key' : κ) (a b : α) :
    Superseded (events ++ [.pop key' b]) key a ↔ Superseded events key a := by
  constructor
  · rintro ⟨before, c, after, heq, hrest⟩
    rcases List.eq_nil_or_concat after with rfl | ⟨rest, last, rfl⟩
    · obtain ⟨-, hlast⟩ := List.append_inj' heq rfl
      exact nomatch hlast
    · have hsplit : events ++ [.pop key' b] = (before ++ .submit key c :: rest) ++ [last] := by
        simpa using heq
      obtain ⟨rfl, -⟩ := List.append_inj' hsplit rfl
      exact ⟨before, c, rest, rfl, hrest⟩
  · rintro ⟨before, c, after, rfl, hrest⟩
    exact ⟨before, c, after ++ [.pop key' b], by simp, hrest⟩

section

variable [DecidableEq κ]

/-- The entries of one key. -/
def ofKey (key : κ) (entries : List (κ × α)) : List (κ × α) :=
  entries.filter fun entry => entry.1 = key

/-- The unsent submissions: a pop sends all those of its key. -/
def unsentStep (unsent : List (κ × α)) : Event κ α → List (κ × α)
  | .submit key a => unsent ++ [(key, a)]
  | .pop key _ => unsent.filter fun entry => entry.1 ≠ key

/-- The submissions since the last pop of their key, in order. -/
def unsent (events : List (Event κ α)) : List (κ × α) := events.foldl unsentStep []

/-- The histories of a queue that starts empty. A value is submitted once. -/
inductive History : List (Event κ α) → OrderedDict κ α → Prop
  | nil : History [] .empty
  | submit {events : List (Event κ α)} {queue : OrderedDict κ α} (h : History events queue)
      (key : κ) (a : α) (fresh : a ∉ (submissions events).map Prod.snd) :
      History (events ++ [.submit key a]) (queue.set key a)
  | pop {events : List (Event κ α)} {queue rest : OrderedDict κ α} {key : κ} {a : α}
      (h : History events queue) (hpop : queue.popFirst = some ((key, a), rest)) :
      History (events ++ [.pop key a]) rest

/-! ## The queue of the unsent submissions -/

theorem ofList_concat (entries : List (κ × α)) (key : κ) (a : α) :
    OrderedDict.ofList (entries ++ [(key, a)]) = (OrderedDict.ofList entries).set key a := by
  rw [OrderedDict.ofList, List.foldl_append]
  rfl

/-- The value of a key is the one assigned last. -/
theorem get?_ofList (entries : List (κ × α)) (key : κ) :
    (OrderedDict.ofList entries).get? key = (ofKey key entries).getLast?.map Prod.snd := by
  induction entries using List.reverseRecOn with
  | nil => rfl
  | append_singleton entries entry ih =>
      rw [ofList_concat, OrderedDict.get?_set, ih, ofKey, ofKey, List.filter_append]
      by_cases h : key = entry.1
      · simp [h]
      · simp [h, Ne.symm h]

/-- The first key is the one assigned first. -/
theorem head?_keys_ofList (entries : List (κ × α)) :
    (OrderedDict.ofList entries).keys.head? = (entries.map Prod.fst).head? := by
  induction entries using List.reverseRecOn with
  | nil => rfl
  | append_singleton entries entry ih =>
      rw [ofList_concat, OrderedDict.keys_set]
      cases entries with
      | nil => rfl
      | cons first rest =>
          obtain ⟨key, keys, hkeys⟩ : ∃ key keys,
              (OrderedDict.ofList (first :: rest)).keys = key :: keys := by
            cases hkeys : (OrderedDict.ofList (first :: rest)).keys with
            | nil => simp [hkeys] at ih
            | cons key keys => exact ⟨key, keys, rfl⟩
          rw [hkeys] at ih ⊢
          split <;> simpa using ih

theorem erase_ofList (entries : List (κ × α)) (key : κ) :
    (OrderedDict.ofList entries).erase key =
      OrderedDict.ofList (entries.filter fun entry => entry.1 ≠ key) := by
  induction entries using List.reverseRecOn with
  | nil => rfl
  | append_singleton entries entry ih =>
      rw [ofList_concat, OrderedDict.erase_set, ih, List.filter_append]
      by_cases h : entry.1 = key
      · simp [h]
      · simpa [h] using (ofList_concat _ entry.1 entry.2).symm

/-- The queue holds the newest unsent submission of each key, in the order of
the oldest ones. -/
theorem History.queue_eq {events : List (Event κ α)} {queue : OrderedDict κ α}
    (h : History events queue) : queue = OrderedDict.ofList (unsent events) := by
  induction h with
  | nil => rfl
  | submit h key a fresh ih => rw [ih, unsent, unsent, List.foldl_append, ← ofList_concat]; rfl
  | pop h hpop ih =>
      rename_i events queue rest key a
      rw [unsent, List.foldl_append, ← OrderedDict.erase_of_popFirst hpop, ih, erase_ofList]
      rfl

/-! ## What becomes of a submission -/

/-- The values submitted are distinct. -/
theorem History.nodup {events : List (Event κ α)} {queue : OrderedDict κ α}
    (h : History events queue) : ((submissions events).map Prod.snd).Nodup := by
  induction h with
  | nil => exact List.nodup_nil
  | submit h key a fresh ih =>
      rw [submissions_submit, List.map_append, List.nodup_append]
      refine ⟨ih, List.nodup_singleton _, ?_⟩
      rintro b hb c hc rfl
      rw [List.mem_singleton.mp hc] at hb
      exact fresh hb
  | pop h hpop ih => rwa [submissions_pop]

/-- For each key, the pops and the queued entry are submissions in their order,
and end with the newest one. -/
theorem History.ofKey_pops {events : List (Event κ α)} {queue : OrderedDict κ α}
    (h : History events queue) (key : κ) :
    let sent := ofKey key (pops events) ++ (queue.get? key).toList.map fun a => (key, a)
    sent.Sublist (ofKey key (submissions events)) ∧
      sent.getLast? = (ofKey key (submissions events)).getLast? := by
  induction h with
  | nil => exact ⟨List.Sublist.refl _, rfl⟩
  | submit h key' a fresh ih =>
      simp only [ofKey] at ih
      simp only [pops_submit, submissions_submit, OrderedDict.get?_set, ofKey, List.filter_append]
      by_cases hkey : key = key'
      · have hsent := (List.sublist_append_left _ _).trans ih.1
        rw [if_pos hkey]
        simp only [hkey, Option.toList_some, List.map_cons, List.map_nil, decide_true,
          List.filter_cons_of_pos, List.filter_nil, List.getLast?_append, List.getLast?_singleton,
          Option.some_or, and_true]
        exact (hkey ▸ hsent).append (List.Sublist.refl _)
      · rw [if_neg hkey]
        simpa [Ne.symm hkey] using ih
  | pop h hpop ih =>
      rename_i events queue rest key' a
      simp only [OrderedDict.get?_popFirst hpop, ofKey] at ih
      simp only [pops_pop, submissions_pop, ofKey, List.filter_append]
      by_cases hkey : key = key'
      · subst hkey
        rw [OrderedDict.get?_popFirst_rest hpop]
        simpa using ih
      · rw [if_neg hkey] at ih
        simpa [Ne.symm hkey] using ih

theorem History.pops_subset {events : List (Event κ α)} {queue : OrderedDict κ α}
    (h : History events queue) {key : κ} {a : α} (hmem : (key, a) ∈ pops events) :
    (key, a) ∈ submissions events := by
  have hof : (key, a) ∈ ofKey key (pops events) := List.mem_filter.mpr ⟨hmem, by simp⟩
  exact List.mem_of_mem_filter ((h.ofKey_pops key).1.subset (List.mem_append_left _ hof))

/-- A submission that was popped is not in the queue. -/
theorem History.notMem_pops {events : List (Event κ α)} {queue : OrderedDict κ α}
    (h : History events queue) {key : κ} {a : α} (hget : queue.get? key = some a) :
    (key, a) ∉ pops events := by
  intro hmem
  have hsub := (h.ofKey_pops key).1
  have hnodup : (ofKey key (submissions events)).Nodup := h.nodup.of_map.filter _
  rw [hget] at hsub
  have hdisjoint := List.disjoint_of_nodup_append (hnodup.sublist hsub)
  exact hdisjoint (List.mem_filter.mpr ⟨hmem, by simp⟩) (by simp)

/-- The queued entry of a key is its newest submission that was not popped. -/
theorem History.get?_eq_some_iff {events : List (Event κ α)} {queue : OrderedDict κ α}
    (h : History events queue) (key : κ) (a : α) :
    queue.get? key = some a ↔
      (ofKey key (submissions events)).getLast? = some (key, a) ∧ (key, a) ∉ pops events := by
  have hlast := (h.ofKey_pops key).2
  constructor
  · intro hget
    rw [hget] at hlast
    refine ⟨?_, h.notMem_pops hget⟩
    rw [← hlast]
    simp
  · rintro ⟨hnewest, hpopped⟩
    rw [hnewest] at hlast
    cases hget : queue.get? key with
    | none =>
        rw [hget] at hlast
        simp only [Option.toList_none, List.map_nil, List.append_nil] at hlast
        exact absurd (List.mem_of_mem_filter (List.mem_of_getLast? hlast)) hpopped
    | some b =>
        rw [hget] at hlast
        simpa using hlast

/-- Nothing is popped twice. -/
theorem History.nodup_pops {events : List (Event κ α)} {queue : OrderedDict κ α}
    (h : History events queue) : (pops events).Nodup := by
  induction h with
  | nil => exact List.nodup_nil
  | submit h key a fresh ih => rwa [pops_submit]
  | pop h hpop ih =>
      rename_i events queue rest key a
      have hget : queue.get? key = some a := by
        rw [OrderedDict.get?_popFirst hpop, if_pos rfl]
      rw [pops_pop, List.nodup_append]
      refine ⟨ih, List.nodup_singleton _, ?_⟩
      rintro entry hentry other hother rfl
      rw [List.mem_singleton.mp hother] at hentry
      exact h.notMem_pops hget hentry

/-- A submission is superseded when it is neither queued nor popped, and only
then. -/
theorem History.superseded_iff {events : List (Event κ α)} {queue : OrderedDict κ α}
    (h : History events queue) {key : κ} {a : α} (hmem : (key, a) ∈ submissions events) :
    Superseded events key a ↔ queue.get? key ≠ some a ∧ (key, a) ∉ pops events := by
  induction h with
  | nil => exact absurd hmem List.not_mem_nil
  | submit h key' b fresh ih =>
      rename_i events queue
      rw [superseded_submit_iff, OrderedDict.get?_set, pops_submit]
      rw [submissions_submit, List.mem_append, List.mem_singleton, Prod.mk.injEq] at hmem
      rcases hmem with hold | ⟨rfl, rfl⟩
      · have hne : b ≠ a := fun heq => fresh (heq ▸ List.mem_map_of_mem hold)
        rw [ih hold]
        by_cases hkey : key = key'
        · subst hkey
          have hnew : ¬ some b = some a := fun heq => hne (Option.some.inj heq)
          simp only [if_pos, ne_eq, hnew, not_false_eq_true, true_and, hold]
          tauto
        · simp only [if_neg hkey, Ne.symm hkey, false_and, or_false]
      · have hnot : (key, a) ∉ submissions events := fun hmem =>
          fresh (List.mem_map_of_mem hmem)
        have hnotSuperseded : ¬ Superseded events key a := by
          rintro ⟨before, c, after, rfl, hsubmitted, -⟩
          apply hnot
          rw [submissions, List.filterMap_append]
          exact List.mem_append_left _ hsubmitted
        simp [hnot, hnotSuperseded]
  | pop h hpop ih =>
      rename_i events queue rest key' b
      rw [submissions_pop] at hmem
      have hget := OrderedDict.get?_popFirst hpop
      rw [superseded_pop_iff, ih hmem, pops_pop, hget]
      by_cases hkey : key = key'
      · subst hkey
        rw [if_pos rfl, OrderedDict.get?_popFirst_rest hpop]
        simp [eq_comm, and_comm]
      · simp [hkey]

/-! ## The order of pops -/

theorem History.init {events : List (Event κ α)} {event : Event κ α} {queue : OrderedDict κ α}
    (h : History (events ++ [event]) queue) :
    ∃ before, History events before ∧
      ∀ key a, event = .pop key a → before.popFirst = some ((key, a), queue) := by
  generalize hall : events ++ [event] = all at h
  cases h with
  | nil => exact absurd hall (by simp)
  | submit h key a fresh =>
      obtain ⟨rfl, hlast⟩ := List.append_inj' hall rfl
      cases hlast
      exact ⟨_, h, fun key a h => nomatch h⟩
  | pop h hpop =>
      obtain ⟨rfl, hlast⟩ := List.append_inj' hall rfl
      cases hlast
      refine ⟨_, h, ?_⟩
      rintro key a ⟨⟩
      exact hpop

theorem History.initial {first second : List (Event κ α)} {queue : OrderedDict κ α}
    (h : History (first ++ second) queue) : ∃ before, History first before := by
  induction second using List.reverseRecOn generalizing queue with
  | nil => exact ⟨queue, by simpa using h⟩
  | append_singleton rest last ih =>
      rw [← List.append_assoc] at h
      obtain ⟨before, hbefore, -⟩ := h.init
      exact ih hbefore

/-- A pop takes the key of the oldest unsent submission, with the newest value
submitted for it. -/
theorem History.pop_oldest {before after : List (Event κ α)} {queue : OrderedDict κ α} {key : κ}
    {a : α} (h : History (before ++ .pop key a :: after) queue) :
    ((unsent before).map Prod.fst).head? = some key ∧
      (ofKey key (unsent before)).getLast?.map Prod.snd = some a := by
  have hsplit : before ++ .pop key a :: after = (before ++ [.pop key a]) ++ after := by simp
  obtain ⟨rest, hrest⟩ := (hsplit ▸ h).initial
  obtain ⟨queue', hqueue', hpop⟩ := hrest.init
  have hfirst := hpop key a rfl
  have hqueue := hqueue'.queue_eq
  constructor
  · rw [← head?_keys_ofList, ← hqueue, OrderedDict.keys_popFirst hfirst]
    rfl
  · rw [← get?_ofList, ← hqueue, OrderedDict.get?_popFirst hfirst, if_pos rfl]

end

end Coalescing
