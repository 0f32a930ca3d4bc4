import Mathlib.Data.List.Sort

/-!
# The first match in a sorted list

The first elements of a sorted list come before the others (`rel_of_mem_take`).

A stable sort followed by a search for the first element with a property: what is found comes before
every other element with the property (`rel_of_find?_eq_some`); if these all come before each other,
it is the one that stood first before the sort (`find?_insertionSort_of_forall`).
-/

namespace DnsFilter.Sort

variable {α : Type*} {r : α → α → Prop} {l : List α}

/-- The first elements of a sorted list come before the others. -/
theorem rel_of_mem_take (hsorted : l.Pairwise r) {n : Nat} {a b : α} (ha : a ∈ l.take n)
    (hb : b ∈ l) (hrest : b ∉ l.take n) : r a b := by
  rw [← List.take_append_drop n l] at hsorted hb
  have hdrop : b ∈ l.drop n := (List.mem_append.1 hb).resolve_left hrest
  exact (List.pairwise_append.1 hsorted).2.2 a ha b hdrop

variable {p : α → Bool}

theorem rel_of_find?_eq_some (hsorted : l.Pairwise r) (hrefl : ∀ a, r a a) {a b : α}
    (ha : l.find? p = some a) (hb : b ∈ l) (hpb : p b = true) : r a b := by
  obtain ⟨-, before, after, rfl, hbefore⟩ := List.find?_eq_some_iff_append.1 ha
  rcases List.mem_append.1 hb with hb | hb
  · exact absurd hpb (by simpa using hbefore b hb)
  · rcases List.mem_cons.1 hb with rfl | hb
    · exact hrefl b
    · exact (List.pairwise_cons.1 (List.pairwise_append.1 hsorted).2.1).1 b hb

/-- The sort does not reorder elements that it takes for equal. -/
theorem find?_insertionSort_of_forall [DecidableRel r] [Std.Total r] [IsTrans α r]
    (h : ∀ a ∈ l, ∀ b ∈ l, p a → p b → r a b) : (l.insertionSort r).find? p = l.find? p := by
  have hpairwise : (l.filter p).Pairwise r := by
    rw [List.pairwise_iff_forall_sublist]
    intro a b hab
    have ha := List.mem_filter.1 (hab.subset List.mem_cons_self)
    have hb := List.mem_filter.1 (hab.subset (List.mem_cons_of_mem _ List.mem_cons_self))
    exact h a ha.1 b hb.1 ha.2 hb.2
  have hsub : (l.filter p).Sublist (l.insertionSort r) :=
    List.sublist_insertionSort hpairwise List.filter_sublist
  have hsub' : (l.filter p).Sublist ((l.insertionSort r).filter p) := by
    simpa [List.filter_filter] using hsub.filter p
  have hlength : (l.filter p).length = ((l.insertionSort r).filter p).length :=
    ((List.perm_insertionSort r l).filter p).length_eq.symm
  rw [← List.head?_filter, ← List.head?_filter, hsub'.eq_of_length hlength]

end DnsFilter.Sort
