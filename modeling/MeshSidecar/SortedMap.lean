namespace MeshSidecar

/-!
# Maps with text keys, in key order

Annotations, labels, resource lists and the lists parsed out of annotations are
finite maps whose entries are always visited in ascending key order.  A map is a
list of entries together with the proof that its keys ascend, so two maps with
the same lookups are equal and no order of insertion can be observed.
-/

/-- A finite map from text, stored as entries with strictly ascending keys. -/
structure SortedMap (α : Type) where
  entries : List (String × α)
  ascending : entries.Pairwise fun a b => a.1 < b.1
  deriving DecidableEq

namespace SortedMap

variable {α β : Type}

/-- The map without entries. -/
def empty : SortedMap α where
  entries := []
  ascending := List.Pairwise.nil

instance : Inhabited (SortedMap α) := ⟨empty⟩

/-- The value stored first under `key`. -/
def lookup (key : String) : List (String × α) → Option α
  | [] => none
  | (k, v) :: rest => if k = key then some v else lookup key rest

/-- Stores `value` under `key` in a list of entries that ascends. -/
def insertEntry (key : String) (value : α) : List (String × α) → List (String × α)
  | [] => [(key, value)]
  | (k, v) :: rest =>
    if key < k then (key, value) :: (k, v) :: rest
    else if k < key then (k, v) :: insertEntry key value rest
    else (key, value) :: rest

theorem mem_insertEntry {key : String} {value : α} {entry : String × α}
    {entries : List (String × α)} (h : entry ∈ insertEntry key value entries) :
    entry = (key, value) ∨ entry ∈ entries := by
  induction entries with
  | nil => simpa [insertEntry] using h
  | cons head rest ih =>
    rw [insertEntry] at h
    split at h
    · simpa using h
    · split at h
      · rcases List.mem_cons.mp h with same | member
        · exact Or.inr (List.mem_cons.mpr (Or.inl same))
        · rcases ih member with same | member
          · exact Or.inl same
          · exact Or.inr (List.mem_cons.mpr (Or.inr member))
      · rcases List.mem_cons.mp h with same | member
        · exact Or.inl same
        · exact Or.inr (List.mem_cons.mpr (Or.inr member))

theorem eq_of_not_lt {a b : String} (hab : ¬ a < b) (hba : ¬ b < a) : a = b :=
  String.le_antisymm (String.not_lt.mp hba) (String.not_lt.mp hab)

theorem ascending_insertEntry (key : String) (value : α) {entries : List (String × α)}
    (h : entries.Pairwise fun a b => a.1 < b.1) :
    (insertEntry key value entries).Pairwise fun a b => a.1 < b.1 := by
  induction entries with
  | nil => simp [insertEntry]
  | cons head rest ih =>
    obtain ⟨headBelow, restAscending⟩ := List.pairwise_cons.mp h
    rw [insertEntry]
    split
    · next below =>
      refine List.pairwise_cons.mpr ⟨fun entry member => ?_, h⟩
      rcases List.mem_cons.mp member with same | member
      · exact same ▸ below
      · exact String.lt_trans below (headBelow entry member)
    · next notBelow =>
      split
      · next above =>
        refine List.pairwise_cons.mpr ⟨fun entry member => ?_, ih restAscending⟩
        rcases mem_insertEntry member with same | member
        · exact same ▸ above
        · exact headBelow entry member
      · next notAbove =>
        have same : key = head.1 := eq_of_not_lt notBelow notAbove
        exact List.pairwise_cons.mpr
          ⟨fun entry member => same ▸ headBelow entry member, restAscending⟩

/-- Stores `value` under `key`, replacing what was there. -/
def insert (m : SortedMap α) (key : String) (value : α) : SortedMap α where
  entries := insertEntry key value m.entries
  ascending := ascending_insertEntry key value m.ascending

/-- Removes the entry of `key`. -/
def erase (m : SortedMap α) (key : String) : SortedMap α where
  entries := m.entries.filter fun entry => entry.1 ≠ key
  ascending := m.ascending.filter _

/-- The value stored under `key`. -/
def get? (m : SortedMap α) (key : String) : Option α :=
  lookup key m.entries

/-- The map of a list of entries; of two entries with one key the later stands. -/
def ofList (entries : List (String × α)) : SortedMap α :=
  entries.foldl (fun m entry => m.insert entry.1 entry.2) empty

/-- Whether the map has no entries. -/
def isEmpty (m : SortedMap α) : Bool :=
  m.entries.isEmpty

/-- The keys, ascending. -/
def keys (m : SortedMap α) : List String :=
  m.entries.map Prod.fst

theorem lookup_insertEntry_self (key : String) (value : α) (entries : List (String × α)) :
    lookup key (insertEntry key value entries) = some value := by
  induction entries with
  | nil => simp [insertEntry, lookup]
  | cons head rest ih =>
    rw [insertEntry]
    split
    · simp [lookup]
    · split
      · next above =>
        have different : head.1 ≠ key := fun same => String.lt_irrefl _ (same ▸ above)
        simp [lookup, different, ih]
      · simp [lookup]

theorem lookup_insertEntry_of_ne {key other : String} (different : key ≠ other) (value : α)
    (entries : List (String × α)) :
    lookup other (insertEntry key value entries) = lookup other entries := by
  induction entries with
  | nil => simp [insertEntry, lookup, different]
  | cons head rest ih =>
    rw [insertEntry]
    split
    · simp [lookup, different]
    · next notBelow =>
      split
      · simp [lookup, ih]
      · next notAbove =>
        have same : key = head.1 := eq_of_not_lt notBelow notAbove
        have headDifferent : head.1 ≠ other := same ▸ different
        simp [lookup, different, headDifferent]

theorem get?_insert_self (m : SortedMap α) (key : String) (value : α) :
    (m.insert key value).get? key = some value :=
  lookup_insertEntry_self key value m.entries

theorem get?_insert_of_ne (m : SortedMap α) {key other : String} (different : key ≠ other)
    (value : α) : (m.insert key value).get? other = m.get? other :=
  lookup_insertEntry_of_ne different value m.entries

@[simp]
theorem get?_empty (key : String) : (empty : SortedMap α).get? key = none :=
  rfl

end SortedMap

end MeshSidecar
