import Mathlib.Data.List.Sort
import Mathlib.Order.Lattice

/-!
# The elements with the greatest keys

`top key k l` sorts a list by a key, greatest first, and keeps `k` elements. `IsTop` says what that
gives without fixing the order of elements with the same key.

* `isTop_top` — sorting and cutting gives the elements with the greatest keys.
* `isTop_top_flatMap` — the parts of a list may be cut to `k` elements each before the whole is: an
  element that is cut off its part has `k` elements before it in that part alone.
-/

namespace DnsFilter.TopK

variable {α β κ : Type*} [LinearOrder κ] (key : α → κ)

/-- The order of a sort by key, greatest first. -/
abbrev Before (a b : α) : Prop := key b ≤ key a

instance : Std.Total (Before key) := ⟨fun a b => le_total (key b) (key a)⟩

instance : IsTrans α (Before key) := ⟨fun _ _ _ hab hbc => le_trans hbc hab⟩

def top (k : Nat) (l : List α) : List α := (l.insertionSort (Before key)).take k

/-- `result` has `k` elements of `all`, or all of them if there are fewer, greatest keys first. -/
structure IsTop (k : Nat) (all result : List α) : Prop where
  sorted : result.Pairwise (Before key)
  length_eq : result.length = min k all.length
  rest : ∃ rest, (result ++ rest).Perm all ∧ ∀ a ∈ result, ∀ b ∈ rest, key b ≤ key a

variable {key} {k : Nat} {all result : List α}

theorem IsTop.perm {all' : List α} (h : IsTop key k all result) (hperm : all.Perm all') :
    IsTop key k all' result := by
  obtain ⟨rest, hrest, hle⟩ := h.rest
  refine ⟨h.sorted, ?_, rest, hrest.trans hperm, hle⟩
  rw [h.length_eq, hperm.length_eq]

theorem IsTop.map {key' : β → κ} {f : α → β} (hkey : ∀ a, key' (f a) = key a)
    (h : IsTop key k all result) : IsTop key' k (all.map f) (result.map f) := by
  obtain ⟨rest, hperm, hle⟩ := h.rest
  refine ⟨?_, ?_, rest.map f, ?_, ?_⟩
  · rw [List.pairwise_map]
    exact h.sorted.imp fun hab => by rwa [Before, hkey, hkey]
  · rw [List.length_map, List.length_map, h.length_eq]
  · rw [← List.map_append]
    exact hperm.map f
  · intro fa hfa fb hfb
    obtain ⟨a, ha, rfl⟩ := List.mem_map.1 hfa
    obtain ⟨b, hb, rfl⟩ := List.mem_map.1 hfb
    rw [hkey, hkey]
    exact hle a ha b hb

theorem isTop_top (key : α → κ) (k : Nat) (l : List α) : IsTop key k l (top key k l) := by
  have hsorted : (l.insertionSort (Before key)).Pairwise (Before key) :=
    List.pairwise_insertionSort _ l
  have hsplit := List.take_append_drop k (l.insertionSort (Before key))
  refine ⟨hsorted.sublist (List.take_sublist k _), ?_, (l.insertionSort (Before key)).drop k,
    ?_, ?_⟩
  · rw [top, List.length_take, List.length_insertionSort]
  · rw [top, hsplit]
    exact List.perm_insertionSort _ l
  · rw [← hsplit] at hsorted
    exact (List.pairwise_append.1 hsorted).2.2

/-- What is cut off a part has `k` elements of the part before it. -/
theorem IsTop.exists_rest (h : IsTop key k all result) :
    ∃ rest, (result ++ rest).Perm all ∧
      ∀ b ∈ rest, k ≤ result.countP (fun a => decide (key b ≤ key a)) := by
  obtain ⟨rest, hperm, hle⟩ := h.rest
  refine ⟨rest, hperm, ?_⟩
  intro b hb
  have hall : result.countP (fun a => decide (key b ≤ key a)) = result.length := by
    apply List.countP_eq_length.2
    intro a ha
    exact decide_eq_true (hle a ha b hb)
  have hlength := hperm.length_eq
  have hpos : 0 < rest.length := List.length_pos_of_mem hb
  rw [List.length_append] at hlength
  have hresult := h.length_eq
  omega

variable {parts : List β} {whole cut : β → List α}

/-- What is cut off the parts has `k` elements of the cut parts before it. -/
theorem exists_rest_flatMap (h : ∀ part ∈ parts, IsTop key k (whole part) (cut part)) :
    ∃ rest, (parts.flatMap cut ++ rest).Perm (parts.flatMap whole) ∧
      ∀ b ∈ rest, k ≤ (parts.flatMap cut).countP (fun a => decide (key b ≤ key a)) := by
  induction parts with
  | nil => exact ⟨[], List.Perm.refl _, by simp⟩
  | cons part parts ih =>
      obtain ⟨rest, hperm, hcount⟩ := (h part List.mem_cons_self).exists_rest
      obtain ⟨rest', hperm', hcount'⟩ := ih fun p hp => h p (List.mem_cons_of_mem _ hp)
      refine ⟨rest ++ rest', ?_, ?_⟩
      · rw [List.flatMap_cons, List.flatMap_cons]
        have hswap : (cut part ++ parts.flatMap cut ++ (rest ++ rest')).Perm
            (cut part ++ rest ++ (parts.flatMap cut ++ rest')) := by
          rw [List.append_assoc, List.append_assoc]
          apply List.Perm.append_left
          rw [← List.append_assoc, ← List.append_assoc]
          exact (List.perm_append_comm).append_right _
        exact hswap.trans (hperm.append hperm')
      · intro b hb
        rw [List.flatMap_cons, List.countP_append]
        rcases List.mem_append.1 hb with hb | hb
        · exact (hcount b hb).trans (Nat.le_add_right _ _)
        · exact (hcount' b hb).trans (Nat.le_add_left _ _)

/-- An element with `k` elements of `l` before it comes after the first `k`. -/
theorem le_of_mem_top {l : List α} {a b : α} (ha : a ∈ top key k l)
    (hcount : k ≤ l.countP (fun a => decide (key b ≤ key a))) : key b ≤ key a := by
  obtain ⟨rest, hperm, hle⟩ := (isTop_top key k l).rest
  rw [← hperm.countP_eq, List.countP_append] at hcount
  by_contra hlt
  rw [not_le] at hlt
  have hrest : rest.countP (fun a => decide (key b ≤ key a)) = 0 := by
    apply List.countP_eq_zero.2
    intro c hc hbc
    exact absurd ((of_decide_eq_true hbc).trans (hle a ha c hc)) (not_le.2 hlt)
  have hlength : (top key k l).length ≤ k := by
    rw [top, List.length_take]
    exact Nat.min_le_left _ _
  have hall : (top key k l).countP (fun a => decide (key b ≤ key a)) = (top key k l).length := by
    have hle' := @List.countP_le_length _ (fun a => decide (key b ≤ key a)) (top key k l)
    omega
  have hba := of_decide_eq_true (List.countP_eq_length.1 hall a ha)
  exact absurd hba (not_le.2 hlt)

/-- **Cutting the parts first loses nothing.** -/
theorem isTop_top_flatMap (h : ∀ part ∈ parts, IsTop key k (whole part) (cut part)) :
    IsTop key k (parts.flatMap whole) (top key k (parts.flatMap cut)) := by
  obtain ⟨rest, hperm, hcount⟩ := exists_rest_flatMap h
  obtain ⟨rest', hperm', hle⟩ := (isTop_top key k (parts.flatMap cut)).rest
  refine ⟨(isTop_top key k _).sorted, ?_, rest' ++ rest, ?_, ?_⟩
  · have hlength := hperm.length_eq
    rw [(isTop_top key k _).length_eq]
    cases rest with
    | nil => rw [← hlength, List.append_nil]
    | cons b rest =>
        have hk := (hcount b List.mem_cons_self).trans List.countP_le_length
        rw [List.length_append] at hlength
        omega
  · rw [← List.append_assoc]
    exact (hperm'.append_right rest).trans hperm
  · intro a ha b hb
    rcases List.mem_append.1 hb with hb | hb
    · exact hle a ha b hb
    · exact le_of_mem_top ha (hcount b hb)

end DnsFilter.TopK
