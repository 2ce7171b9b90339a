import Mathlib.Algebra.Order.BigOperators.Group.List
import Mathlib.Algebra.Order.Group.Nat
import TokenAcquisition.Proofs.Flow.Coherence

/-!
What a launch bound is released once, by whoever has it in the end.
-/

namespace TokenAcquisition.Flow

namespace Call

theorem length_returned_le (call : Call) : call.returned.length ≤ call.opened.length := by
  unfold returned
  split <;> simp [opened]

theorem IsOver.held_eq_nil {call : Call} (isOver : call.IsOver) : call.held = [] := by
  unfold IsOver at isOver
  split at isOver <;> first | rfl | cases isOver

end Call

namespace Shared.Coherent

variable {s : Shared}

theorem length_bound_le (coherent : s.Coherent) : s.bound.length ≤ 1 := by
  have fewer : (s.calls.flatMap Call.returned).length ≤ (s.calls.flatMap Call.opened).length := by
    simp only [List.length_flatMap]
    exact List.sum_le_sum fun call _ => call.length_returned_le
  rw [coherent.length_bound]
  exact fewer.trans coherent.length_opened_le

theorem released_subperm (coherent : s.Coherent) : s.released.Subperm s.bound := by
  refine List.Subperm.trans ?_ coherent.handles.symm.subperm
  rw [List.append_assoc]
  exact (List.sublist_append_left _ _).subperm

/-- A flow that has come to its end keeps nothing, and neither does a call that has. -/
theorem released_perm (coherent : s.Coherent) (quiet : s.Quiet)
    (settled : s.flow.stage = .completed ∨ s.flow.stage = .disposed) :
    s.released.Perm s.bound := by
  have empty : s.flow.handle = none := by
    refine coherent.consistent.handle_eq_none fun awaiting => ?_
    simp [awaiting] at settled
  have idle : s.calls.flatMap Call.held = [] :=
    List.flatMap_eq_nil_iff.mpr fun call member => (quiet call member).held_eq_nil
  simpa [empty, idle] using coherent.handles.symm

theorem released_subset (coherent : s.Coherent) : s.released ⊆ s.bound :=
  coherent.released_subperm.subset

theorem count_released_le (coherent : s.Coherent) (handle : AgentHandle) :
    s.released.count handle ≤ 1 :=
  (coherent.released_subperm.count_le handle).trans
    (List.count_le_length.trans coherent.length_bound_le)

theorem count_released_eq (coherent : s.Coherent) (quiet : s.Quiet)
    (settled : s.flow.stage = .completed ∨ s.flow.stage = .disposed) {handle : AgentHandle}
    (bound : handle ∈ s.bound) : s.released.count handle = 1 := by
  have held := (coherent.released_perm quiet settled).mem_iff.mpr bound
  have := List.count_pos_iff.mpr held
  have := coherent.count_released_le handle
  omega

end Shared.Coherent

end TokenAcquisition.Flow
