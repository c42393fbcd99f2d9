/-!
# Keyed tables

A `Table` holds at most one value per key. Balances, records and the registry's entries are tables;
what an operation does to one is said by a single lookup law per operation.
-/

namespace Arbitration

/-- A finite map, kept as the list of its entries in the order in which keys first came. -/
structure Table (κ ν : Type) where
  /-- Keys and their values. -/
  entries : List (κ × ν) := []
  deriving DecidableEq, Repr

namespace Table

variable {κ ν : Type}

/-- The table without entries. -/
def empty : Table κ ν := {}

instance : Inhabited (Table κ ν) := ⟨empty⟩

/-- The entries in order. -/
def toList (t : Table κ ν) : List (κ × ν) := t.entries

/-- The keys in order. -/
def keys (t : Table κ ν) : List κ := t.entries.map (·.1)

/-- The number of entries. -/
def size (t : Table κ ν) : Nat := t.entries.length

variable [DecidableEq κ]

/-- The value under a key in a list of entries: the first one counts. -/
def lookup (key : κ) : List (κ × ν) → Option ν
  | [] => none
  | (k, v) :: rest => if k = key then some v else lookup key rest

/-- A list of entries with the value under `key` put to `value`: in the key's own place if it has
one, at the end otherwise. -/
def put (key : κ) (value : ν) : List (κ × ν) → List (κ × ν)
  | [] => [(key, value)]
  | (k, v) :: rest => if k = key then (key, value) :: rest else (k, v) :: put key value rest

/-- The value under a key. -/
def get? (t : Table κ ν) (key : κ) : Option ν := lookup key t.entries

/-- Whether the key has a value. -/
def contains (t : Table κ ν) (key : κ) : Bool := (t.get? key).isSome

/-- Gives the key a value, in place of any it had. -/
def insert (t : Table κ ν) (key : κ) (value : ν) : Table κ ν := ⟨put key value t.entries⟩

/-- Takes the key out. -/
def erase (t : Table κ ν) (key : κ) : Table κ ν := ⟨t.entries.filter (·.1 ≠ key)⟩

/-- The table of a list of entries, later ones replacing earlier ones. -/
def ofList (entries : List (κ × ν)) : Table κ ν :=
  entries.foldl (fun t e => t.insert e.1 e.2) empty

/-! ### Lookup laws -/

@[simp] theorem get?_empty (key : κ) : (empty : Table κ ν).get? key = none := rfl

theorem lookup_put (key other : κ) (value : ν) (entries : List (κ × ν)) :
    lookup other (put key value entries) =
      if key = other then some value else lookup other entries := by
  induction entries with
  | nil => simp [put, lookup]
  | cons e rest ih =>
    obtain ⟨k, v⟩ := e
    by_cases hk : k = key
    · subst hk; by_cases ho : k = other <;> simp [put, lookup, ho]
    · by_cases ho : k = other
      · subst ho; simp [put, lookup, hk, Ne.symm hk]
      · simp [put, lookup, hk, ho, ih]

theorem get?_insert (t : Table κ ν) (key other : κ) (value : ν) :
    (t.insert key value).get? other = if key = other then some value else t.get? other :=
  lookup_put key other value t.entries

@[simp] theorem get?_insert_self (t : Table κ ν) (key : κ) (value : ν) :
    (t.insert key value).get? key = some value := by simp [get?_insert]

theorem get?_erase (t : Table κ ν) (key other : κ) :
    (t.erase key).get? other = if key = other then none else t.get? other := by
  obtain ⟨entries⟩ := t
  simp only [get?, erase]
  induction entries with
  | nil => simp [lookup]
  | cons e rest ih =>
    obtain ⟨k, v⟩ := e
    by_cases hk : k = key
    · subst hk; by_cases ho : k = other <;> simp_all [lookup]
    · by_cases ho : k = other
      · subst ho; simp [lookup, hk, Ne.symm hk]
      · simp_all [lookup]

@[simp] theorem get?_erase_self (t : Table κ ν) (key : κ) : (t.erase key).get? key = none := by
  simp [get?_erase]

end Table

end Arbitration
