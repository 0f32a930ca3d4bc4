import Mathlib.Algebra.GroupWithZero.Nat
import Mathlib.Data.List.Basic

/-!
# Texts and their bytes

Reading bytes as UTF-8 and writing a text as UTF-8 are inverse to each other
(`fromUTF8?_eq_some`); ASCII is written character by character (`toUTF8_of_ascii`). A text is cut at
a byte offset where a character starts (`splitAtByte_eq_some`).
-/

namespace DnsFilter.Utf8

/-! ## Byte arrays as lists -/

theorem toList_loop (bytes : ByteArray) (i : Nat) (r : List UInt8) :
    ByteArray.toList.loop bytes i r = r.reverse ++ bytes.data.toList.drop i := by
  fun_induction ByteArray.toList.loop bytes i r with
  | case1 i r hlt ih =>
      have hlen : i < bytes.data.toList.length := hlt
      have hget : bytes.get! i = bytes.data.toList[i] := by
        simp only [ByteArray.get!, Array.getElem_toList]
        exact getElem!_pos bytes.data i hlt
      rw [ih, List.drop_eq_getElem_cons hlen, hget, List.reverse_cons, List.append_assoc]
      rfl
  | case2 i r hge =>
      have hlen : bytes.data.toList.length ≤ i := Nat.le_of_not_lt hge
      rw [List.drop_eq_nil_of_le hlen, List.append_nil]

theorem toList_eq (bytes : ByteArray) : bytes.toList = bytes.data.toList := by
  rw [ByteArray.toList, toList_loop]
  rfl

theorem length_toList (bytes : ByteArray) : bytes.toList.length = bytes.size := by
  rw [toList_eq]
  rfl

theorem fromUTF8?_eq_some {bytes : List UInt8} {s : String} :
    String.fromUTF8? ⟨bytes.toArray⟩ = some s ↔ s.toUTF8.toList = bytes := by
  rw [toList_eq, String.fromUTF8?]
  constructor
  · intro h
    split at h
    · obtain rfl := Option.some.inj h
      rfl
    · exact absurd h (by simp)
  · intro h
    have harray : (⟨bytes.toArray⟩ : ByteArray) = s.toByteArray := by
      rw [← h]
      rfl
    have hvalid : ByteArray.IsValidUTF8 ⟨bytes.toArray⟩ := by
      rw [harray]
      exact s.isValidUTF8
    rw [dif_pos hvalid, Option.some.injEq, ← String.toByteArray_inj]
    exact harray

/-! ## ASCII -/

/-- The byte of an ASCII character. -/
def asciiByte (c : Char) : UInt8 := UInt8.ofNat c.toNat

theorem utf8EncodeChar_of_ascii {c : Char} (h : c.toNat < 128) :
    String.utf8EncodeChar c = [asciiByte c] := by
  have hle : c.val.toNat ≤ 0x7f := Nat.le_of_lt_succ h
  rw [String.utf8EncodeChar]
  exact if_pos hle

theorem toUTF8_of_ascii {s : String} (h : ∀ c ∈ s.toList, c.toNat < 128) :
    s.toUTF8.toList = s.toList.map asciiByte := by
  have hencode : ∀ l : List Char, (∀ c ∈ l, c.toNat < 128) →
      l.flatMap String.utf8EncodeChar = l.map asciiByte := by
    intro l hl
    induction l with
    | nil => rfl
    | cons c l ih =>
        rw [List.flatMap_cons, utf8EncodeChar_of_ascii (hl c List.mem_cons_self), List.map_cons,
          ih fun d hd => hl d (List.mem_cons_of_mem c hd)]
        rfl
  rw [toList_eq, String.toUTF8_eq_toByteArray, ← String.utf8Encode_toList, List.utf8Encode,
    List.data_toByteArray, List.toList_toArray, hencode _ h]

/-! ## Byte offsets -/

/-- The number of bytes of a list of characters. -/
def byteSize (l : List Char) : Nat := (l.map Char.utf8Size).sum

/-- Cut at a byte offset, if a character starts or the text ends there. -/
def splitAtByte : List Char → Nat → Option (List Char × List Char)
  | l, 0 => some ([], l)
  | [], _ + 1 => none
  | c :: l, n + 1 =>
      if c.utf8Size ≤ n + 1 then
        (splitAtByte l (n + 1 - c.utf8Size)).map fun p => (c :: p.1, p.2)
      else none

/-- The characters from one byte offset to another (`str::get`). -/
def getBytes (s : String) (start stop : Nat) : Option String := do
  let (front, _) ← splitAtByte s.toList stop
  let (_, middle) ← splitAtByte front start
  return .ofList middle

/-- The characters from a byte offset on. -/
def getBytesFrom (s : String) (start : Nat) : Option String :=
  (splitAtByte s.toList start).map fun p => .ofList p.2

@[simp] theorem byteSize_nil : byteSize [] = 0 := rfl

@[simp] theorem byteSize_cons (c : Char) (l : List Char) :
    byteSize (c :: l) = c.utf8Size + byteSize l := by
  rw [byteSize, List.map_cons, List.sum_cons]
  rfl

@[simp] theorem byteSize_append (l l' : List Char) :
    byteSize (l ++ l') = byteSize l + byteSize l' := by
  rw [byteSize, List.map_append, List.sum_append]
  rfl

theorem length_le_byteSize (l : List Char) : l.length ≤ byteSize l := by
  induction l with
  | nil => exact Nat.le_refl 0
  | cons c l ih =>
      have hpos := c.utf8Size_pos
      rw [byteSize_cons, List.length_cons]
      omega

/-- A list of ASCII characters has a byte for each. -/
theorem byteSize_of_ascii {l : List Char} (h : ∀ c ∈ l, c.toNat < 128) : byteSize l = l.length := by
  induction l with
  | nil => rfl
  | cons c l ih =>
      have hsize : c.utf8Size = 1 := by
        rw [← String.length_utf8EncodeChar, utf8EncodeChar_of_ascii (h c List.mem_cons_self)]
        rfl
      have hl := ih fun d hd => h d (List.mem_cons_of_mem c hd)
      rw [byteSize_cons, hsize, hl, List.length_cons, Nat.add_comm]

/-- A text can be cut where one part of it ends. -/
theorem splitAtByte_append (front back : List Char) :
    splitAtByte (front ++ back) (byteSize front) = some (front, back) := by
  induction front with
  | nil => rw [List.nil_append, byteSize_nil, splitAtByte]
  | cons c front ih =>
      have hpos := c.utf8Size_pos
      obtain ⟨n, hn⟩ : ∃ n, c.utf8Size + byteSize front = n + 1 := ⟨_, (Nat.succ_pred (by omega)).symm⟩
      have hrest : n + 1 - c.utf8Size = byteSize front := by omega
      rw [List.cons_append, byteSize_cons, hn, splitAtByte, if_pos (by omega), hrest, ih]
      rfl

/-- Where a text is cut, one part of it ends. -/
theorem eq_append_of_splitAtByte {l front back : List Char} {n : Nat}
    (h : splitAtByte l n = some (front, back)) : l = front ++ back ∧ byteSize front = n := by
  induction l generalizing n front with
  | nil =>
      cases n with
      | zero =>
          obtain ⟨rfl, rfl⟩ := Prod.mk.inj (Option.some.inj h)
          exact ⟨rfl, rfl⟩
      | succ n => exact absurd h (by simp [splitAtByte])
  | cons c l ih =>
      cases n with
      | zero =>
          obtain ⟨rfl, rfl⟩ := Prod.mk.inj (Option.some.inj h)
          exact ⟨rfl, rfl⟩
      | succ n =>
          rw [splitAtByte] at h
          by_cases hc : c.utf8Size ≤ n + 1
          · rw [if_pos hc] at h
            obtain ⟨⟨front', back'⟩, hsplit, heq⟩ := Option.map_eq_some_iff.1 h
            obtain ⟨rfl, rfl⟩ := Prod.mk.inj heq
            obtain ⟨rfl, hsize⟩ := ih hsplit
            refine ⟨rfl, ?_⟩
            rw [byteSize_cons, hsize]
            omega
          · rw [if_neg hc] at h
            exact absurd h (by simp)

theorem splitAtByte_eq_some {l front back : List Char} {n : Nat} :
    splitAtByte l n = some (front, back) ↔ l = front ++ back ∧ byteSize front = n := by
  refine ⟨eq_append_of_splitAtByte, ?_⟩
  intro h
  rw [h.1, ← h.2, splitAtByte_append]

/-- A list of characters is cut at a byte offset in one way only. -/
theorem append_inj_of_byteSize {l₁ l₂ r₁ r₂ : List Char} (h : l₁ ++ r₁ = l₂ ++ r₂)
    (hsize : byteSize l₁ = byteSize l₂) : l₁ = l₂ ∧ r₁ = r₂ := by
  have hleft : splitAtByte (l₁ ++ r₁) (byteSize l₁) = some (l₁, r₁) :=
    splitAtByte_eq_some.2 ⟨rfl, rfl⟩
  have hright : splitAtByte (l₁ ++ r₁) (byteSize l₁) = some (l₂, r₂) :=
    splitAtByte_eq_some.2 ⟨h, hsize.symm⟩
  rw [hleft] at hright
  exact Prod.mk.inj (Option.some.inj hright)

/-- A part of a text between two byte offsets. -/
theorem getBytes_eq_some {s t : String} {start stop : Nat} :
    getBytes s start stop = some t ↔
      ∃ before after, s.toList = before ++ t.toList ++ after ∧ byteSize before = start ∧
        start + byteSize t.toList = stop := by
  unfold getBytes
  constructor
  · intro h
    obtain ⟨⟨front, after⟩, hfront, h⟩ := Option.bind_eq_some_iff.1 h
    obtain ⟨⟨before, middle⟩, hmiddle, h⟩ := Option.bind_eq_some_iff.1 h
    obtain rfl := Option.some.inj h
    obtain ⟨hs, hstop⟩ := splitAtByte_eq_some.1 hfront
    obtain ⟨rfl, hstart⟩ := splitAtByte_eq_some.1 hmiddle
    rw [byteSize_append, hstart] at hstop
    exact ⟨before, after, by rw [String.toList_ofList]; exact hs, hstart,
      by rw [String.toList_ofList]; exact hstop⟩
  · intro h
    obtain ⟨before, after, hs, hstart, hstop⟩ := h
    have hfront : splitAtByte s.toList stop = some (before ++ t.toList, after) :=
      splitAtByte_eq_some.2 ⟨hs, by rw [byteSize_append, hstart, hstop]⟩
    have hmiddle : splitAtByte (before ++ t.toList) start = some (before, t.toList) :=
      splitAtByte_eq_some.2 ⟨rfl, hstart⟩
    simp [hfront, hmiddle]

theorem getBytesFrom_eq_some {s t : String} {start : Nat} :
    getBytesFrom s start = some t ↔
      ∃ before, s.toList = before ++ t.toList ∧ byteSize before = start := by
  unfold getBytesFrom
  rw [Option.map_eq_some_iff]
  constructor
  · intro h
    obtain ⟨⟨before, rest⟩, hsplit, rfl⟩ := h
    obtain ⟨hs, hstart⟩ := splitAtByte_eq_some.1 hsplit
    exact ⟨before, by rw [String.toList_ofList]; exact hs, hstart⟩
  · intro h
    obtain ⟨before, hs, hstart⟩ := h
    exact ⟨(before, t.toList), splitAtByte_eq_some.2 ⟨hs, hstart⟩, String.ofList_toList⟩

end DnsFilter.Utf8
