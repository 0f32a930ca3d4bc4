import DnsFilter.Lib.IndexMap

/-!
# YAML values

Values without tags, as a YAML library reads them. Strings are the keys that programs look up; a key
that is no string (`Key.other`) is only ever compared.

* `Value.atPath` — the value at a path of mapping keys.
* `Value.WellFormed` — no mapping has a key twice.
* `Value.lacksKey_or_blocked` — the two ways in which nothing is found at a path.
* `SameUpToOrder` — two values are the same but for the order of the keys of mappings.
-/

namespace DnsFilter.Yaml

open IndexMap

inductive Key (κ : Type)
  | string (s : String)
  | other (key : κ)
  deriving DecidableEq

/-- Numbers are kept as they were read; floats by their bits. -/
inductive Number
  | posInt (n : UInt64)
  | negInt (n : Int64)
  | float (bits : UInt64)
  deriving DecidableEq

inductive Value (κ : Type)
  | null
  | bool (b : Bool)
  | number (n : Number)
  | string (s : String)
  | sequence (items : List (Value κ))
  | mapping (entries : List (Key κ × Value κ))

variable {κ : Type}

namespace Value

/-! ## Equality -/

section Equality

variable [DecidableEq κ]

mutual

/-- Whether two values are equal. -/
def same : Value κ → Value κ → Bool
  | null, null => true
  | bool b, bool b' => b = b'
  | number n, number n' => n = n'
  | string s, string s' => s = s'
  | sequence items, sequence items' => sameItems items items'
  | mapping entries, mapping entries' => sameEntries entries entries'
  | _, _ => false

def sameItems : List (Value κ) → List (Value κ) → Bool
  | [], [] => true
  | item :: items, item' :: items' => same item item' && sameItems items items'
  | _, _ => false

def sameEntries : List (Key κ × Value κ) → List (Key κ × Value κ) → Bool
  | [], [] => true
  | (key, value) :: entries, (key', value') :: entries' =>
      key = key' && same value value' && sameEntries entries entries'
  | _, _ => false

end

mutual

theorem same_iff : ∀ v w : Value κ, same v w = true ↔ v = w
  | null, w => by cases w <;> simp [same]
  | bool b, w => by cases w <;> simp [same]
  | number n, w => by cases w <;> simp [same]
  | string s, w => by cases w <;> simp [same]
  | sequence items, w => by cases w <;> simp [same, sameItems_iff items]
  | mapping entries, w => by cases w <;> simp [same, sameEntries_iff entries]

theorem sameItems_iff : ∀ v w : List (Value κ), sameItems v w = true ↔ v = w
  | [], w => by cases w <;> simp [sameItems]
  | item :: items, w => by
      cases w <;> simp [sameItems, same_iff item, sameItems_iff items]

theorem sameEntries_iff : ∀ v w : List (Key κ × Value κ), sameEntries v w = true ↔ v = w
  | [], w => by cases w <;> simp [sameEntries]
  | (key, value) :: entries, w => by
      cases w with
      | nil => simp [sameEntries]
      | cons e w =>
          obtain ⟨key', value'⟩ := e
          simp [sameEntries, same_iff value, sameEntries_iff entries, and_assoc]

end

instance : DecidableEq (Value κ) := fun v w => decidable_of_iff (same v w = true) (same_iff v w)

end Equality

/-! ## Paths -/

/-- The value is a mapping. -/
def IsMapping : Value κ → Prop
  | mapping _ => True
  | _ => False

/-- No mapping has a key twice. -/
inductive WellFormed : Value κ → Prop
  | null : WellFormed null
  | bool (b : Bool) : WellFormed (bool b)
  | number (n : Number) : WellFormed (number n)
  | string (s : String) : WellFormed (string s)
  | sequence {items : List (Value κ)} (h : ∀ item ∈ items, WellFormed item) :
      WellFormed (sequence items)
  | mapping {entries : List (Key κ × Value κ)} (hkeys : Distinct entries)
      (hvalues : ∀ entry ∈ entries, WellFormed entry.2) : WellFormed (mapping entries)

theorem wellFormed_sequence_iff {items : List (Value κ)} :
    (sequence items).WellFormed ↔ ∀ item ∈ items, item.WellFormed := by
  constructor
  · intro h
    cases h with
    | sequence hitems => exact hitems
  · exact .sequence

theorem isMapping_iff {v : Value κ} : v.IsMapping ↔ ∃ entries, v = mapping entries := by
  cases v <;> simp [IsMapping]

variable [DecidableEq κ]

/-- The value under a key of a mapping. -/
def get (key : Key κ) : Value κ → Option (Value κ)
  | mapping entries => IndexMap.get key entries
  | _ => none

/-- The value at a path of keys. -/
def atPath : List (Key κ) → Value κ → Option (Value κ)
  | [], v => some v
  | key :: path, v => (v.get key).bind (atPath path)

theorem atPath_append (path path' : List (Key κ)) (v : Value κ) :
    atPath (path ++ path') v = (atPath path v).bind (atPath path') := by
  induction path generalizing v with
  | nil => rfl
  | cons key path ih =>
      rw [List.cons_append, atPath, atPath, Option.bind_assoc]
      congr 1
      funext w
      exact ih w

omit [DecidableEq κ] in
theorem WellFormed.distinct {entries : List (Key κ × Value κ)}
    (h : (Value.mapping entries).WellFormed) : Distinct entries := by
  cases h with
  | mapping hkeys hvalues => exact hkeys

theorem WellFormed.get {v w : Value κ} (h : v.WellFormed) {key : Key κ}
    (hget : v.get key = some w) : w.WellFormed := by
  cases h with
  | mapping hkeys hvalues => exact (forall_values_iff hkeys).1 hvalues key w hget
  | _ => exact absurd hget (by simp [Value.get])

theorem wellFormed_mapping_iff {entries : List (Key κ × Value κ)} :
    (mapping entries).WellFormed ↔ Distinct entries ∧
      ∀ key v, IndexMap.get key entries = some v → v.WellFormed := by
  constructor
  · intro h
    exact ⟨h.distinct, fun key v hget => h.get hget⟩
  · intro ⟨hkeys, hvalues⟩
    exact .mapping hkeys ((forall_values_iff hkeys).2 hvalues)

theorem WellFormed.atPath {path : List (Key κ)} {v w : Value κ} (h : v.WellFormed)
    (hat : atPath path v = some w) : w.WellFormed := by
  induction path generalizing v with
  | nil => exact Option.some.inj hat ▸ h
  | cons key path ih =>
      obtain ⟨v', hget, hat⟩ := Option.bind_eq_some_iff.1 hat
      exact ih (h.get hget) hat

theorem isMapping_of_get {v w : Value κ} {key : Key κ} (h : v.get key = some w) :
    v.IsMapping := by
  cases v with
  | mapping entries => trivial
  | _ => exact absurd h (by simp [Value.get])

theorem get_of_not_isMapping {v : Value κ} (h : ¬ v.IsMapping) (key : Key κ) :
    v.get key = none := by
  by_contra hsome
  obtain ⟨w, hw⟩ := Option.ne_none_iff_exists'.1 hsome
  exact h (isMapping_of_get hw)

theorem atPath_cons_of_not_isMapping {v : Value κ} (h : ¬ v.IsMapping) (key : Key κ)
    (path : List (Key κ)) : atPath (key :: path) v = none := by
  rw [atPath, get_of_not_isMapping h, Option.bind_none]

/-- There are mappings on the way, but one of them lacks its key. -/
def LacksKey (path : List (Key κ)) (v : Value κ) : Prop :=
  ∃ before key after entries, path = before ++ key :: after ∧
    atPath before v = some (mapping entries) ∧ IndexMap.get key entries = none

/-- Something on the way is no mapping. -/
def Blocked (path : List (Key κ)) (v : Value κ) : Prop :=
  ∃ before key after w, path = before ++ key :: after ∧ atPath before v = some w ∧ ¬ w.IsMapping

/-- A path is lost at a mapping without the key or at a value that is no mapping. -/
theorem lacksKey_or_blocked {path : List (Key κ)} {v : Value κ} (h : atPath path v = none) :
    LacksKey path v ∨ Blocked path v := by
  induction path generalizing v with
  | nil => exact absurd h (by simp [atPath])
  | cons key path ih =>
      by_cases hv : v.IsMapping
      · obtain ⟨entries, rfl⟩ := isMapping_iff.1 hv
        cases hget : IndexMap.get key entries with
        | none => exact .inl ⟨[], key, path, entries, rfl, rfl, hget⟩
        | some w =>
            -- The way goes on below `w`.
            have hbelow : ∀ before, atPath (key :: before) (mapping entries) =
                atPath before w := by
              intro before
              simp [atPath, Value.get, hget]
            rcases ih ((hbelow path).symm.trans h) with hlacks | hblocked
            · obtain ⟨before, key', after, entries', rfl, hat, hnone⟩ := hlacks
              exact .inl ⟨key :: before, key', after, entries', rfl,
                (hbelow before).trans hat, hnone⟩
            · obtain ⟨before, key', after, w', rfl, hat, hw⟩ := hblocked
              exact .inr ⟨key :: before, key', after, w', rfl, (hbelow before).trans hat, hw⟩
      · exact .inr ⟨[], key, path, v, rfl, rfl, hv⟩

end Value

/-- At every path both have a mapping, or they have the same value or none. -/
def SameUpToOrder [DecidableEq κ] (v w : Value κ) : Prop :=
  ∀ path, (∃ entries entries', Value.atPath path v = some (.mapping entries) ∧
    Value.atPath path w = some (.mapping entries')) ∨ Value.atPath path v = Value.atPath path w

end DnsFilter.Yaml
