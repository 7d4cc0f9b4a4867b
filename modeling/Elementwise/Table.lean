/-!
# Tables

A table assigns values to texts and keeps the order in which its keys were first inserted. Caches,
registries and sets of files are tables.

The key lemmas are `Table.find?_insert`, which says what an insertion does to look-ups, and
`Table.keys_insert`, which says what it does to the order.
-/

namespace Elementwise

/-- Values by key, in the order of first insertion. No key occurs twice. -/
structure Table (α : Type) where
  entries : List (String × α)
  nodup : (entries.map Prod.fst).Nodup

namespace Table

variable {α : Type}

/-! ### Operations -/

def empty : Table α := ⟨[], .nil⟩

instance : Inhabited (Table α) := ⟨empty⟩
instance : EmptyCollection (Table α) := ⟨empty⟩

/-- The keys in the order of first insertion. -/
def keys (t : Table α) : List String := t.entries.map Prod.fst

def size (t : Table α) : Nat := t.entries.length

def find? (t : Table α) (key : String) : Option α := t.entries.lookup key

def contains (t : Table α) (key : String) : Bool := (t.find? key).isSome

/-- The entries with a value for a key: in the place of its old value, or else at the end. -/
def putEntry (key : String) (a : α) : List (String × α) → List (String × α)
  | [] => [(key, a)]
  | e :: rest => if e.1 = key then (key, a) :: rest else e :: putEntry key a rest

/-- The keys after `putEntry`. -/
theorem keys_putEntry (key : String) (a : α) (entries : List (String × α)) :
    (putEntry key a entries).map Prod.fst =
      if key ∈ entries.map Prod.fst then entries.map Prod.fst
      else entries.map Prod.fst ++ [key] := by
  induction entries with
  | nil => simp [putEntry]
  | cons e rest ih =>
    by_cases h : e.1 = key
    · simp [putEntry, h]
    · have h' : ¬ key = e.1 := fun eq => h eq.symm
      simp only [putEntry, h, ↓reduceIte, List.map_cons, ih, List.mem_cons, h', false_or]
      split <;> rfl

/-- The table with a value for a key, in the place of its old value if it had one. -/
def insert (t : Table α) (key : String) (a : α) : Table α where
  entries := putEntry key a t.entries
  nodup := by
    rw [keys_putEntry]
    split
    · exact t.nodup
    · rename_i h
      rw [List.nodup_append]
      refine ⟨t.nodup, by simp, fun k hk k' hk' eq => h ?_⟩
      rw [List.mem_singleton.mp hk'] at eq
      exact eq ▸ hk

/-! ### Look-ups and order -/

@[simp] theorem find?_empty (key : String) : (empty : Table α).find? key = none := rfl

@[simp] theorem keys_empty : (empty : Table α).keys = [] := rfl

/-- A look-up tries the first entry and then the others. -/
theorem lookup_entry (other : String) (e : String × α) (rest : List (String × α)) :
    (e :: rest).lookup other = if other = e.1 then some e.2 else rest.lookup other := by
  rw [List.lookup_cons]
  by_cases h : other = e.1
  · simp [h]
  · simp only [beq_false_of_ne h, h, ↓reduceIte]

/-- An insertion changes the look-up of its own key only. -/
theorem find?_insert (t : Table α) (key other : String) (a : α) :
    (t.insert key a).find? other = if other = key then some a else t.find? other := by
  simp only [find?, insert]
  induction t.entries with
  | nil => simp [putEntry, lookup_entry]
  | cons e rest ih =>
    by_cases he : e.1 = key
    · by_cases h : other = key <;> simp [putEntry, he, h, lookup_entry]
    · by_cases h : other = e.1
      · simp [putEntry, he, h, lookup_entry]
      · simpa [putEntry, he, h, lookup_entry] using ih

@[simp] theorem find?_insert_self (t : Table α) (key : String) (a : α) :
    (t.insert key a).find? key = some a := by simp [find?_insert]

/-- A new key goes to the end, a known one stays where it is. -/
theorem keys_insert (t : Table α) (key : String) (a : α) :
    (t.insert key a).keys = if key ∈ t.keys then t.keys else t.keys ++ [key] :=
  keys_putEntry key a t.entries

theorem size_eq_length_keys (t : Table α) : t.size = t.keys.length := by simp [size, keys]

end Table

end Elementwise
