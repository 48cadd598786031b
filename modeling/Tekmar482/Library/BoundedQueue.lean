import Mathlib.Data.List.Basic

/-!
# Queues that keep their newest entries

A bounded queue appends at the end and drops its oldest entries beyond its
capacity. A selective read takes the first entry that a predicate accepts.
-/

namespace BoundedQueue

variable {α : Type*}

/-- The newest `capacity` entries. -/
def keepNewest (capacity : Nat) (queue : List α) : List α :=
  queue.drop (queue.length - capacity)

/-- Append an entry, dropping the oldest ones beyond the capacity. -/
def push (capacity : Nat) (queue : List α) (a : α) : List α := keepNewest capacity (queue ++ [a])

/-- The first accepted entry, and the queue without it. -/
def read (accepts : α → Bool) (queue : List α) : Option α × List α :=
  (queue.find? accepts, queue.eraseP accepts)

/-- What can happen to a queue of a given capacity. -/
inductive Event (α : Type*) where
  | arrive (a : α)
  | read (accepts : α → Bool)

/-- The queue after one event. -/
def Event.apply (capacity : Nat) (queue : List α) : Event α → List α
  | .arrive a => push capacity queue a
  | .read accepts => (BoundedQueue.read accepts queue).2

/-- The queue after a list of events. -/
def replay (capacity : Nat) (queue : List α) (events : List (Event α)) : List α :=
  events.foldl (Event.apply capacity) queue

/-- The entries that arrive in a list of events. -/
def arrivals (events : List (Event α)) : List α :=
  events.filterMap fun event => match event with
    | .arrive a => some a
    | .read _ => none

@[simp] theorem arrivals_nil : arrivals ([] : List (Event α)) = [] := rfl

@[simp] theorem arrivals_append (first second : List (Event α)) :
    arrivals (first ++ second) = arrivals first ++ arrivals second :=
  List.filterMap_append

theorem replay_append (capacity : Nat) (queue : List α) (first second : List (Event α)) :
    replay capacity queue (first ++ second) =
      replay capacity (replay capacity queue first) second :=
  List.foldl_append

theorem keepNewest_suffix (capacity : Nat) (queue : List α) :
    keepNewest capacity queue <:+ queue :=
  List.drop_suffix _ _

@[simp] theorem keepNewest_zero (queue : List α) : keepNewest 0 queue = [] := by
  rw [keepNewest, Nat.sub_zero, List.drop_length]

theorem map_push {β : Type*} (f : α → β) (capacity : Nat) (queue : List α) (a : α) :
    (push capacity queue a).map f = push capacity (queue.map f) (f a) := by
  simp [push, keepNewest, List.map_drop]

/-- Dropping the oldest entries early does not change what is kept in the end. -/
theorem keepNewest_append (capacity : Nat) (queue other : List α) :
    keepNewest capacity (keepNewest capacity queue ++ other) =
      keepNewest capacity (queue ++ other) := by
  have hdropped : queue.length - capacity ≤ queue.length := Nat.sub_le _ _
  rw [keepNewest, keepNewest, ← List.drop_append_of_le_length hdropped, List.drop_drop, keepNewest]
  congr 1
  simp only [List.length_drop, List.length_append]
  omega

/-- A queue that entries are pushed to keeps the newest of all. -/
theorem foldl_push {capacity : Nat} {queue entries : List α} (h : entries ≠ []) :
    entries.foldl (push capacity) queue = keepNewest capacity (queue ++ entries) := by
  induction entries generalizing queue with
  | nil => exact absurd rfl h
  | cons a rest ih =>
      rw [List.foldl_cons]
      cases rest with
      | nil => rfl
      | cons b more =>
          rw [ih (List.cons_ne_nil b more), push, keepNewest_append, List.append_assoc]
          rfl

theorem mem_push {capacity : Nat} {queue : List α} {a b : α} (h : b ∈ push capacity queue a) :
    b ∈ queue ∨ b = a := by
  have hmem := (keepNewest_suffix capacity (queue ++ [a])).subset h
  rcases List.mem_append.mp hmem with hold | hnew
  · exact .inl hold
  · exact .inr (List.mem_singleton.mp hnew)

/-- Pushing and reading keep the entries in an order that the pushed ones extend. -/
theorem pairwise_push {r : α → α → Prop} {capacity : Nat} {queue : List α} {a : α}
    (h : queue.Pairwise r) (ha : ∀ b ∈ queue, r b a) : (push capacity queue a).Pairwise r := by
  have hall : (queue ++ [a]).Pairwise r := by
    rw [List.pairwise_append]
    refine ⟨h, List.pairwise_singleton r a, ?_⟩
    intro b hb c hc
    rw [List.mem_singleton.mp hc]
    exact ha b hb
  exact hall.sublist (keepNewest_suffix capacity _).sublist

/-- A selective read takes the first of the accepted entries. -/
theorem filter_read (accepts : α → Bool) (queue : List α) :
    (read accepts queue).2.filter accepts = (queue.filter accepts).tail := by
  induction queue with
  | nil => rfl
  | cons a rest ih =>
      by_cases h : accepts a = true
      · simp [read, h]
      · rw [read] at ih
        simpa [read, h] using ih

/-- Removing the entry at the first accepted position is a selective read. -/
theorem eraseIdx_findIdx? (accepts : α → Bool) (queue : List α) :
    (match queue.findIdx? accepts with
      | none => (none, queue)
      | some index => (queue[index]?, queue.eraseIdx index)) = read accepts queue := by
  induction queue with
  | nil => rfl
  | cons a rest ih =>
      by_cases h : accepts a = true
      · simp [read, List.findIdx?_cons, h]
      · rw [read] at ih
        simp only [read, List.findIdx?_cons, h, Bool.false_eq_true, if_false, List.find?_cons,
          List.eraseP_cons]
        cases hindex : rest.findIdx? accepts with
        | none =>
            rw [hindex] at ih
            simp only at ih
            simp [← (Prod.mk.inj ih).1, ← (Prod.mk.inj ih).2]
        | some index =>
            rw [hindex] at ih
            simp only at ih
            simp [← (Prod.mk.inj ih).1, ← (Prod.mk.inj ih).2]

/-- A selective read takes one entry, which it accepts, and leaves the others. -/
theorem perm_read {accepts : α → Bool} {queue : List α} {a : α}
    (h : (read accepts queue).1 = some a) :
    accepts a = true ∧ queue.Perm (a :: (read accepts queue).2) := by
  induction queue with
  | nil => cases h
  | cons b rest ih =>
      by_cases hb : accepts b = true
      · simp only [read, List.find?_cons, hb, Option.some.injEq] at h
        subst h
        simp [read, hb]
      · simp only [read, List.find?_cons, hb] at h ih
        obtain ⟨haccepts, hperm⟩ := ih h
        refine ⟨haccepts, ?_⟩
        simp only [read, List.eraseP_cons, hb, cond_false]
        exact (hperm.cons b).trans (List.Perm.swap a b _)

/-! ## A queue and its consumer -/

/-- The newest entries within a bound. Without a bound, all of them. -/
def keep (bound : Option Nat) (queue : List α) : List α :=
  match bound with
  | none => queue
  | some capacity => keepNewest capacity queue

theorem keep_suffix (bound : Option Nat) (queue : List α) : keep bound queue <:+ queue := by
  cases bound with
  | none => exact List.suffix_refl queue
  | some capacity => exact keepNewest_suffix capacity queue

/-- The entry that was put last is always kept. -/
theorem getLast?_keep_concat {bound : Option Nat} (h : bound ≠ some 0) (queue : List α) (a : α) :
    (keep bound (queue ++ [a])).getLast? = some a := by
  cases bound with
  | none => exact List.getLast?_concat
  | some capacity =>
      have hpos : 0 < capacity := Nat.pos_of_ne_zero fun hzero => h (congrArg some hzero)
      have hdrop : (queue ++ [a]).length - capacity ≤ queue.length := by
        rw [List.length_append, List.length_singleton]
        omega
      rw [keep, keepNewest, List.drop_append_of_le_length hdrop, List.getLast?_concat]

theorem keep_singleton {bound : Option Nat} (h : bound ≠ some 0) (a : α) : keep bound [a] = [a] := by
  cases bound with
  | none => rfl
  | some capacity =>
      have hpos : 1 ≤ capacity := Nat.pos_of_ne_zero fun hzero => h (congrArg some hzero)
      rw [keep, keepNewest, List.length_singleton, Nat.sub_eq_zero_of_le hpos, List.drop_zero]

/-- What a producer and the consumer do to a queue. -/
inductive Transfer (α : Type*) where
  | put (a : α)
  | take

/-- A queue, and what its consumer has taken from it. -/
structure Channel (α : Type*) where
  waiting : List α := []
  taken : List α := []

/-- The entries that are put in a list of transfers. -/
def puts (transfers : List (Transfer α)) : List α :=
  transfers.filterMap fun transfer => match transfer with
    | .put a => some a
    | .take => none

theorem puts_append (first second : List (Transfer α)) :
    puts (first ++ second) = puts first ++ puts second :=
  List.filterMap_append

theorem puts_map_put (entries : List α) : puts (entries.map .put) = entries := by
  rw [puts, List.filterMap_map]
  exact List.filterMap_some

namespace Channel

/-- An entry is appended, and then the oldest entries beyond the bound are dropped. -/
def apply (bound : Option Nat) (self : Channel α) : Transfer α → Channel α
  | .put a => { self with waiting := keep bound (self.waiting ++ [a]) }
  | .take =>
      match self.waiting with
      | [] => self
      | a :: rest => { waiting := rest, taken := self.taken ++ [a] }

def replay (bound : Option Nat) (self : Channel α) (transfers : List (Transfer α)) : Channel α :=
  transfers.foldl (apply bound) self

theorem replay_append (bound : Option Nat) (self : Channel α) (first second : List (Transfer α)) :
    self.replay bound (first ++ second) = (self.replay bound first).replay bound second :=
  List.foldl_append

/-- The waiting entries are the newest ones. -/
theorem waiting_replay_suffix (bound : Option Nat) (self : Channel α)
    (transfers : List (Transfer α)) :
    (self.replay bound transfers).waiting <:+ self.waiting ++ puts transfers := by
  induction transfers generalizing self with
  | nil => rw [puts, List.filterMap_nil, List.append_nil]; exact List.suffix_refl _
  | cons transfer rest ih =>
      refine (ih (self.apply bound transfer)).trans ?_
      cases transfer with
      | put a =>
          obtain ⟨dropped, hdropped⟩ := keep_suffix bound (self.waiting ++ [a])
          refine ⟨dropped, ?_⟩
          rw [apply, ← List.append_assoc, hdropped, List.append_assoc]
          rfl
      | take =>
          rw [apply]
          split
          · exact List.suffix_refl _
          · rename_i a tail hwaiting
            rw [hwaiting]
            exact ⟨[a], rfl⟩

/-- The consumer gets the entries in their order, none twice. -/
theorem replay_sublist (bound : Option Nat) (self : Channel α) (transfers : List (Transfer α)) :
    ((self.replay bound transfers).taken ++ (self.replay bound transfers).waiting).Sublist
      (self.taken ++ (self.waiting ++ puts transfers)) := by
  induction transfers generalizing self with
  | nil =>
      rw [puts, List.filterMap_nil, List.append_nil]
      exact List.Sublist.refl _
  | cons transfer rest ih =>
      refine (ih (self.apply bound transfer)).trans ?_
      cases transfer with
      | put a =>
          have hkept := (keep_suffix bound (self.waiting ++ [a])).sublist
          have hrest := hkept.append (List.Sublist.refl (puts rest))
          rw [List.append_assoc] at hrest
          exact (List.Sublist.refl self.taken).append hrest
      | take =>
          rw [apply]
          split
          · exact List.Sublist.refl _
          · rename_i a tail hwaiting
            rw [hwaiting, List.append_assoc]
            exact List.Sublist.refl _

/-- A transfer that fits loses nothing. -/
theorem apply_fits {capacity : Nat} (self : Channel α) (transfer : Transfer α)
    (hfits : self.waiting.length + (puts [transfer]).length ≤ capacity) :
    (self.apply (some capacity) transfer).taken ++ (self.apply (some capacity) transfer).waiting =
        self.taken ++ (self.waiting ++ puts [transfer]) ∧
      (self.apply (some capacity) transfer).waiting.length ≤
        self.waiting.length + (puts [transfer]).length := by
  cases transfer with
  | put a =>
      have hputs : puts [.put a] = [a] := rfl
      rw [hputs, List.length_singleton] at hfits
      have hkept : keep (some capacity) (self.waiting ++ [a]) = self.waiting ++ [a] := by
        rw [keep, keepNewest, List.length_append, List.length_singleton,
          Nat.sub_eq_zero_of_le hfits, List.drop_zero]
      rw [apply, hkept, hputs]
      simp
  | take =>
      have hputs : puts [(.take : Transfer α)] = [] := rfl
      rw [apply, hputs]
      split
      · rename_i hwaiting
        simp
      · rename_i a rest hwaiting
        rw [hwaiting]
        simp

/-- Nothing is lost while the entries fit. -/
theorem replay_complete {capacity : Nat} (self : Channel α) (transfers : List (Transfer α))
    (hfits : self.waiting.length + (puts transfers).length ≤ capacity) :
    (self.replay (some capacity) transfers).taken ++ (self.replay (some capacity) transfers).waiting =
      self.taken ++ (self.waiting ++ puts transfers) := by
  induction transfers generalizing self with
  | nil =>
      rw [puts, List.filterMap_nil, List.append_nil]
      rfl
  | cons transfer rest ih =>
      rw [← List.singleton_append, puts_append] at hfits ⊢
      rw [List.length_append] at hfits
      have hone : self.waiting.length + (puts [transfer]).length ≤ capacity := by omega
      obtain ⟨hfirst, hlength⟩ := self.apply_fits transfer hone
      have hrest := ih (self.apply (some capacity) transfer) (by omega)
      rw [← List.append_assoc, hfirst, List.append_assoc, List.append_assoc] at hrest
      exact hrest

end Channel

end BoundedQueue
