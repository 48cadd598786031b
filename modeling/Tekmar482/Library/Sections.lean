import Mathlib.Data.List.Basic

/-!
# Exclusive sections in an event log

Some events of a log open a section, some close one, and some are actions of a
section. A log is exclusive when no action of another section happens between
the opening and the closing of a section.
-/

namespace Sections

variable {ε ι : Type*} (opens closes acts : ε → Option ι)

/-- A section that was opened and is not closed since. -/
def IsOpen (log : List ε) (i : ι) : Prop :=
  ∃ first e second, log = first ++ e :: second ∧ opens e = some i ∧
    ∀ e' ∈ second, closes e' ≠ some i

/-- Between the opening and the closing of a section all actions are its own. -/
def Exclusive (log : List ε) : Prop :=
  ∀ first e mid a second i j, log = first ++ e :: (mid ++ a :: second) →
    opens e = some i → acts a = some j → i = j ∨ ∃ e' ∈ mid, closes e' = some i

variable {opens closes acts}

theorem not_isOpen_nil (i : ι) : ¬ IsOpen opens closes [] i := by
  rintro ⟨first, e, second, h, -⟩
  exact List.append_ne_nil_of_right_ne_nil first (List.cons_ne_nil e second) h.symm

theorem exclusive_nil : Exclusive opens closes acts [] := by
  intro first e mid a second i j h
  exact absurd h.symm (List.append_ne_nil_of_right_ne_nil first (List.cons_ne_nil e _))

/-- What is open after one more event was opened by it, or was open and is not
closed by it. -/
theorem isOpen_concat {log : List ε} {e : ε} {i : ι} (h : IsOpen opens closes (log ++ [e]) i) :
    opens e = some i ∨ IsOpen opens closes log i ∧ closes e ≠ some i := by
  obtain ⟨first, e', second, hlog, hopens, hkept⟩ := h
  rcases List.eq_nil_or_concat second with rfl | ⟨rest, last, rfl⟩
  · obtain ⟨-, hlast⟩ := List.append_inj' hlog rfl
    rw [List.singleton_inj.mp hlast]
    exact .inl hopens
  · rw [List.concat_eq_append] at hlog hkept
    have hsplit : log ++ [e] = (first ++ e' :: rest) ++ [last] := by
      simpa using hlog
    obtain ⟨hinit, hlast⟩ := List.append_inj' hsplit rfl
    rw [List.singleton_inj.mp hlast]
    refine .inr ⟨⟨first, e', rest, hinit, hopens, ?_⟩, hkept last (by simp)⟩
    exact fun e'' hmem => hkept e'' (List.mem_append_left _ hmem)

/-- A log stays exclusive when an action happens while only its own section is
open. -/
theorem Exclusive.concat {log : List ε} {e : ε} (h : Exclusive opens closes acts log)
    (hown : ∀ i j, acts e = some j → IsOpen opens closes log i → i = j) :
    Exclusive opens closes acts (log ++ [e]) := by
  intro first e' mid a second i j hlog hopens hacts
  rcases List.eq_nil_or_concat second with rfl | ⟨rest, last, rfl⟩
  · have hsplit : log ++ [e] = (first ++ e' :: mid) ++ [a] := by
      simpa using hlog
    obtain ⟨hinit, hlast⟩ := List.append_inj' hsplit rfl
    rw [List.singleton_inj.mp hlast] at hown
    by_contra hnot
    rw [not_or] at hnot
    refine hnot.1 (hown i j hacts ⟨first, e', mid, hinit, hopens, ?_⟩)
    exact fun e'' hmem hcloses => hnot.2 ⟨e'', hmem, hcloses⟩
  · rw [List.concat_eq_append] at hlog
    have hsplit : log ++ [e] = (first ++ e' :: (mid ++ a :: rest)) ++ [last] := by
      simpa using hlog
    obtain ⟨hinit, -⟩ := List.append_inj' hsplit rfl
    exact h first e' mid a rest i j hinit hopens hacts

end Sections
