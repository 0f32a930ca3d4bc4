import DnsFilter.Lib.Result

/-!
# Checked machine arithmetic

A computation that may return early without a value, or stop because an integer operation leaves
the range of its type (`Stop`). An operation is written as its exact result over the integers,
followed by the range check of its type (`u32`, `u64`, `i64`).

A computation is `Safe` if it does not stop at a range check.
-/

namespace DnsFilter.Machine

/-- Why a computation ends without a value. -/
inductive Stop
  /-- The function returns early, without a value. -/
  | absent
  /-- An operation leaves the range of its type. -/
  | overflow
  deriving DecidableEq, Repr

abbrev Checked := Except Stop

variable {α β : Type}

/-- The operator `?` on an optional value. -/
def ofOption : Option α → Checked α
  | some a => .ok a
  | none => .error .absent

/-- The range check of an unsigned type with `bound` values. -/
def unsigned (bound : Nat) (n : Int) : Checked Nat :=
  if 0 ≤ n ∧ n < bound then .ok n.toNat else .error .overflow

def u32 : Int → Checked Nat := unsigned 0x100000000

def u64 : Int → Checked Nat := unsigned 0x10000000000000000

def i64 (n : Int) : Checked Int :=
  if -0x8000000000000000 ≤ n ∧ n < 0x8000000000000000 then .ok n else .error .overflow

/-- The cast of a signed number to 64 unsigned bits. -/
def asU64 (n : Int) : Nat := (n % 0x10000000000000000).toNat

/-- The cast of 64 unsigned bits to a signed number. -/
def asI64 (n : Nat) : Int :=
  if n < 0x8000000000000000 then n else (n : Int) - 0x10000000000000000

theorem ok_bind (a : α) (f : α → Checked β) : ((.ok a : Checked α) >>= f) = f a := rfl

theorem error_bind (e : Stop) (f : α → Checked β) :
    ((.error e : Checked α) >>= f) = .error e := rfl

/-! ## Range checks -/

@[simp] theorem ofOption_eq_ok {x : Option α} {a : α} : ofOption x = .ok a ↔ x = some a := by
  cases x <;> simp [ofOption]

theorem u32_eq {n : Nat} (h : n < 0x100000000) : u32 n = .ok n := by
  rw [u32, unsigned, if_pos (by omega), Int.toNat_natCast]

theorem u64_eq {n : Nat} (h : n < 0x10000000000000000) : u64 n = .ok n := by
  rw [u64, unsigned, if_pos (by omega), Int.toNat_natCast]

/-- An unsigned difference. -/
theorem u64_sub {m n : Nat} (hle : n ≤ m) (hlt : m < 0x10000000000000000) :
    u64 ((m : Int) - n) = .ok (m - n) := by
  rw [← Int.natCast_sub hle]
  exact u64_eq (by omega)

theorem u64_of_neg {n : Int} (h : n < 0) : u64 n = .error .overflow := by
  rw [u64, unsigned, if_neg (by omega)]

theorem i64_eq {n : Int} (hle : -0x8000000000000000 ≤ n) (hlt : n < 0x8000000000000000) :
    i64 n = .ok n := by
  rw [i64, if_pos ⟨hle, hlt⟩]

theorem i64_of_le {n : Int} (h : 0x8000000000000000 ≤ n) : i64 n = .error .overflow := by
  rw [i64, if_neg (by omega)]

theorem asU64_natCast {n : Nat} (h : n < 0x10000000000000000) : asU64 n = n := by
  rw [asU64, Int.emod_eq_of_lt (by omega) (by omega), Int.toNat_natCast]

theorem asI64_eq {n : Nat} (h : n < 0x8000000000000000) : asI64 n = n := by
  rw [asI64, if_pos h]

/-! ## Safe computations -/

def Safe (x : Checked α) : Prop := x ≠ .error .overflow

@[simp] theorem safe_ok (a : α) : Safe (.ok a) := by
  unfold Safe
  simp

@[simp] theorem safe_absent : Safe (.error .absent : Checked α) := by
  unfold Safe
  simp

@[simp] theorem safe_ofOption (x : Option α) : Safe (ofOption x) := by
  cases x <;> simp [ofOption]

/-- A compound computation is safe if its parts are. -/
theorem safe_bind {x : Checked α} {f : α → Checked β} (hx : Safe x)
    (hf : ∀ a, x = .ok a → Safe (f a)) : Safe (x >>= f) := by
  cases x with
  | ok a => exact hf a rfl
  | error e =>
      intro h
      exact hx (congrArg Except.error (Except.error.inj h))

/-- Which part of a compound computation stops at a range check. -/
theorem not_safe_bind {x : Checked α} {f : α → Checked β} (hx : Safe x) :
    ¬ Safe (x >>= f) ↔ ∃ a, x = .ok a ∧ ¬ Safe (f a) := by
  cases x with
  | ok a => simp [bind, Except.bind]
  | error e =>
      refine iff_of_false (not_not.2 ?_) (by simp)
      intro h
      exact hx (congrArg Except.error (Except.error.inj h))

end DnsFilter.Machine
