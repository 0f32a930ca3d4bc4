import Mathlib.Data.List.Nodup
import Mathlib.Data.List.Perm.Subperm
import Mathlib.Data.Nat.ModEq

/-!
# Going round in a circle

`n` places in a circle, visited one after the other from a starting place. A round visits each place
once (`cyclicOrder_perm`), so `k` rounds visit each place `k` times (`count_rounds`).
-/

namespace DnsFilter

/-- One round from `start`. -/
def cyclicOrder (start n : Nat) : List Nat := (List.range n).map fun i => (start + i) % n

variable {n : Nat}

theorem cyclicOrder_zero (n : Nat) : cyclicOrder 0 n = List.range n := by
  unfold cyclicOrder
  conv_rhs => rw [← List.map_id' (List.range n)]
  apply List.map_congr_left
  intro i hi
  rw [Nat.zero_add, Nat.mod_eq_of_lt (List.mem_range.1 hi)]

@[simp] theorem length_cyclicOrder (start n : Nat) : (cyclicOrder start n).length = n := by
  rw [cyclicOrder, List.length_map, List.length_range]

theorem cyclicOrder_ne_nil (start : Nat) (hn : n ≠ 0) : cyclicOrder start n ≠ [] := by
  intro hnil
  have hlength := length_cyclicOrder start n
  rw [hnil] at hlength
  exact hn hlength.symm

theorem lt_of_mem_cyclicOrder {start j : Nat} (h : j ∈ cyclicOrder start n) : j < n := by
  obtain ⟨i, hi, rfl⟩ := List.mem_map.1 h
  have hlt := List.mem_range.1 hi
  exact Nat.mod_lt _ (by omega)

theorem nodup_cyclicOrder (start n : Nat) : (cyclicOrder start n).Nodup := by
  apply List.Nodup.map_on _ List.nodup_range
  intro i hi j hj heq
  have hmod : i ≡ j [MOD n] := Nat.ModEq.add_left_cancel' start heq
  exact hmod.eq_of_lt_of_lt (List.mem_range.1 hi) (List.mem_range.1 hj)

/-- A round visits each place once. -/
theorem cyclicOrder_perm (start n : Nat) : (cyclicOrder start n).Perm (List.range n) := by
  apply List.Subperm.perm_of_length_le
  · apply (nodup_cyclicOrder start n).subperm
    intro j hj
    exact List.mem_range.2 (lt_of_mem_cyclicOrder hj)
  · simp

theorem mem_cyclicOrder {start j : Nat} : j ∈ cyclicOrder start n ↔ j < n := by
  rw [(cyclicOrder_perm start n).mem_iff, List.mem_range]

/-- Whole rounds visit each place as often as there are rounds. -/
theorem count_rounds (start k : Nat) {j : Nat} (hj : j < n) :
    ((List.range (k * n)).map fun i => (start + i) % n).count j = k := by
  induction k with
  | zero => simp
  | succ k ih =>
      have hround : (List.range n).map (fun i => (start + (k * n + i)) % n) =
          cyclicOrder start n := by
        apply List.map_congr_left
        intro i _
        rw [Nat.add_left_comm, Nat.mul_add_mod_self_right]
      have hone : (cyclicOrder start n).count j = 1 :=
        List.count_eq_one_of_mem (nodup_cyclicOrder start n) (mem_cyclicOrder.2 hj)
      rw [Nat.succ_mul, List.range_add, List.map_append, List.map_map, List.count_append, ih]
      show k + List.count j ((List.range n).map fun i => (start + (k * n + i)) % n) = k + 1
      rw [hround, hone]

end DnsFilter
