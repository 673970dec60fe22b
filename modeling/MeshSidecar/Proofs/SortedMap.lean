import MeshSidecar.SortedMap

namespace MeshSidecar.SortedMap

/-!
# Maps and the lists that they are made of

A map is its entries, and making a map of its own entries changes nothing.
Changing the values of a list before or after it is sorted is the same.
-/

variable {α β : Type}

/-- The order that the entries of a map are in. -/
def Ascending (entries : List (String × α)) : Prop :=
  entries.Pairwise fun a b => a.1 < b.1

@[ext]
theorem ext {m m' : SortedMap α} (same : m.entries = m'.entries) : m = m' := by
  cases m
  cases m'
  cases same
  rfl

/-- A list of entries, sorted, of which the last with one key stands. -/
def sorted (entries : List (String × α)) : List (String × α) :=
  entries.foldl (fun done entry => insertEntry entry.1 entry.2 done) []

theorem entries_foldl (entries : List (String × α)) (m : SortedMap α) :
    (entries.foldl (fun m entry => m.insert entry.1 entry.2) m).entries =
      entries.foldl (fun done entry => insertEntry entry.1 entry.2 done) m.entries := by
  induction entries generalizing m with
  | nil => rfl
  | cons entry entries ih => exact ih (m.insert entry.1 entry.2)

theorem entries_ofList (entries : List (String × α)) : (ofList entries).entries = sorted entries :=
  entries_foldl entries empty

theorem lookup_insertEntry (name key : String) (value : α) (entries : List (String × α)) :
    lookup name (insertEntry key value entries) =
      if key = name then some value else lookup name entries := by
  by_cases same : key = name
  · rw [if_pos same, same]
    exact lookup_insertEntry_self name value entries
  · rw [if_neg same]
    exact lookup_insertEntry_of_ne same value entries

theorem mem_of_lookup {key : String} {value : α} {entries : List (String × α)}
    (found : lookup key entries = some value) : (key, value) ∈ entries := by
  induction entries with
  | nil => cases found
  | cons head rest ih =>
      rw [lookup] at found
      by_cases same : head.1 = key
      · rw [if_pos same, Option.some_inj] at found
        rw [← same, ← found]
        exact List.mem_cons_self
      · rw [if_neg same] at found
        exact List.mem_cons_of_mem head (ih found)

/-- An entry above all others is stored at the end. -/
theorem insertEntry_of_above {key : String} {entries : List (String × α)} (value : α)
    (above : ∀ entry ∈ entries, entry.1 < key) :
    insertEntry key value entries = entries ++ [(key, value)] := by
  induction entries with
  | nil => rfl
  | cons head rest ih =>
      have less := above head List.mem_cons_self
      have notLess : ¬ key < head.1 := fun greater =>
        String.lt_irrefl _ (String.lt_trans less greater)
      have later := ih fun entry member => above entry (List.mem_cons_of_mem _ member)
      simp [insertEntry, less, notLess, later]

theorem foldl_insertEntry {entries done : List (String × α)}
    (ascending : Ascending (done ++ entries)) :
    entries.foldl (fun done entry => insertEntry entry.1 entry.2 done) done = done ++ entries := by
  induction entries generalizing done with
  | nil => simp
  | cons entry entries ih =>
      have above : ∀ other ∈ done, other.1 < entry.1 := by
        intro other member
        have separate := (List.pairwise_append.mp ascending).2.2
        exact separate other member entry List.mem_cons_self
      have shifted : Ascending ((done ++ [entry]) ++ entries) := by
        rw [List.append_assoc]
        exact ascending
      rw [List.foldl_cons, insertEntry_of_above entry.2 above]
      have later := ih shifted
      rw [List.append_assoc] at later
      exact later

theorem sorted_of_ascending {entries : List (String × α)} (ascending : Ascending entries) :
    sorted entries = entries := by
  have whole : Ascending ([] ++ entries) := ascending
  exact foldl_insertEntry whole

/-- A map is what its entries make. -/
theorem ofList_entries (m : SortedMap α) : ofList m.entries = m := by
  apply ext
  rw [entries_ofList]
  exact sorted_of_ascending m.ascending

/-- Storing what is stored already changes nothing. -/
theorem insertEntry_of_lookup {key : String} {value : α} {entries : List (String × α)}
    (ascending : Ascending entries) (found : lookup key entries = some value) :
    insertEntry key value entries = entries := by
  induction entries with
  | nil => cases found
  | cons head rest ih =>
      rcases List.pairwise_cons.mp ascending with ⟨below, restAscending⟩
      rw [lookup] at found
      by_cases same : head.1 = key
      · rw [if_pos same, Option.some_inj] at found
        have irreflexive : ¬ key < key := String.lt_irrefl key
        rw [insertEntry, same, if_neg irreflexive, if_neg irreflexive, ← same, ← found]
      · rw [if_neg same] at found
        -- The key is among the entries behind the first, so it is above it.
        have above : head.1 < key := below _ (mem_of_lookup found)
        have notBelow : ¬ key < head.1 := fun less =>
          String.lt_irrefl _ (String.lt_trans above less)
        rw [insertEntry, if_neg notBelow, if_pos above, ih restAscending found]

theorem insert_of_get? {m : SortedMap α} {key : String} {value : α}
    (stored : m.get? key = some value) : m.insert key value = m :=
  ext (insertEntry_of_lookup m.ascending stored)

theorem insertEntry_map (f : α → β) (key : String) (value : α) (entries : List (String × α)) :
    insertEntry key (f value) (entries.map fun entry => (entry.1, f entry.2)) =
      (insertEntry key value entries).map fun entry => (entry.1, f entry.2) := by
  induction entries with
  | nil => rfl
  | cons head rest ih =>
      simp only [List.map_cons, insertEntry]
      by_cases below : key < head.1
      · simp [below]
      · by_cases above : head.1 < key
        · simp [below, above, ih]
        · simp [below, above]

theorem sorted_map (f : α → β) (entries : List (String × α)) :
    sorted (entries.map fun entry => (entry.1, f entry.2)) =
      (sorted entries).map fun entry => (entry.1, f entry.2) := by
  have general : ∀ done : List (String × α),
      (entries.map fun entry => (entry.1, f entry.2)).foldl
        (fun done entry => insertEntry entry.1 entry.2 done)
        (done.map fun entry => (entry.1, f entry.2)) =
      (entries.foldl (fun done entry => insertEntry entry.1 entry.2 done) done).map
        fun entry => (entry.1, f entry.2) := by
    induction entries with
    | nil => exact fun _ => rfl
    | cons entry entries ih =>
        intro done
        simp only [List.map_cons, List.foldl_cons, insertEntry_map, ih]
  exact general []

theorem nodup_keys (m : SortedMap α) : m.keys.Nodup := by
  rw [keys, List.nodup_iff_pairwise_ne, List.pairwise_map]
  apply m.ascending.imp
  intro early late below same
  rw [same] at below
  exact String.lt_irrefl _ below

theorem lookup_filter (key name : String) (entries : List (String × α)) :
    lookup name (entries.filter fun entry => entry.1 ≠ key) =
      if key = name then none else lookup name entries := by
  induction entries with
  | nil => simp [lookup]
  | cons head rest ih =>
      by_cases removed : head.1 = key
      · rw [List.filter_cons_of_neg (by simpa using removed), ih, lookup, removed]
        split
        · rfl
        · rfl
      · rw [List.filter_cons_of_pos (by simpa using removed), lookup, ih, lookup]
        by_cases same : head.1 = name
        · have other : key ≠ name := fun also => removed (same.trans also.symm)
          rw [if_pos same, if_pos same, if_neg other]
        · rw [if_neg same, if_neg same]

theorem get?_erase (m : SortedMap α) (key name : String) :
    (m.erase key).get? name = if key = name then none else m.get? name :=
  lookup_filter key name m.entries

theorem get?_insert (m : SortedMap α) (key name : String) (value : α) :
    (m.insert key value).get? name = if key = name then some value else m.get? name :=
  lookup_insertEntry name key value m.entries

theorem lookup_eq_none_of_below {key : String} {entries : List (String × α)}
    (below : ∀ entry ∈ entries, key < entry.1) : lookup key entries = none := by
  cases found : lookup key entries with
  | none => rfl
  | some value => exact absurd (below _ (mem_of_lookup found)) (String.lt_irrefl key)

/-- Entries that ascend are told by what is found among them. -/
theorem eq_of_lookup {entries others : List (String × α)} (ascending : Ascending entries)
    (othersAscending : Ascending others)
    (same : ∀ key, lookup key entries = lookup key others) : entries = others := by
  induction entries generalizing others with
  | nil =>
      cases others with
      | nil => rfl
      | cons other others =>
          have found := same other.1
          simp [lookup] at found
  | cons head rest ih =>
      cases others with
      | nil =>
          have found := same head.1
          simp [lookup] at found
      | cons other others =>
          rcases List.pairwise_cons.mp ascending with ⟨below, restAscending⟩
          rcases List.pairwise_cons.mp othersAscending with ⟨otherBelow, othersRestAscending⟩
          have keys : head.1 = other.1 := by
            -- Either key is found in both lists, so it is not below the first of the other.
            have there := (same head.1).symm
            have here := same other.1
            by_cases equal : head.1 = other.1
            · exact equal
            · rw [lookup, lookup, if_neg (Ne.symm equal), if_pos rfl] at there
              rw [lookup, lookup, if_neg equal, if_pos rfl] at here
              have above := otherBelow _ (mem_of_lookup there)
              have less := below _ (mem_of_lookup here)
              exact absurd (String.lt_trans less above) (String.lt_irrefl _)
          have values : head.2 = other.2 := by
            have found := same head.1
            rw [lookup, lookup, if_pos rfl, if_pos keys.symm] at found
            exact Option.some.inj found
          have later : ∀ key, lookup key rest = lookup key others := by
            intro key
            by_cases first : head.1 = key
            · rw [← first, lookup_eq_none_of_below below, keys, lookup_eq_none_of_below otherBelow]
            · have found := same key
              rw [lookup, lookup, if_neg first, if_neg (keys ▸ first)] at found
              exact found
          rw [ih restAscending othersRestAscending later, Prod.ext keys values]

/-- Maps are told by what is found in them. -/
theorem ext_get? {m m' : SortedMap α} (same : ∀ key, m.get? key = m'.get? key) : m = m' :=
  ext (eq_of_lookup m.ascending m'.ascending same)

theorem insert_insert (m : SortedMap α) {key other : String} (different : key ≠ other)
    (value otherValue : α) : (m.insert key value).insert other otherValue =
      (m.insert other otherValue).insert key value := by
  apply ext_get?
  intro name
  simp only [get?_insert]
  by_cases isKey : key = name
  · rw [if_pos isKey, if_pos isKey, if_neg (fun isOther => different (isKey.trans isOther.symm))]
  · rw [if_neg isKey, if_neg isKey]

theorem erase_insert (m : SortedMap α) {key other : String} (different : key ≠ other) (value : α) :
    (m.insert key value).erase other = (m.erase other).insert key value := by
  apply ext_get?
  intro name
  simp only [get?_insert, get?_erase]
  by_cases isKey : key = name
  · rw [if_pos isKey, if_pos isKey, if_neg (fun isOther => different (isKey.trans isOther.symm))]
  · rw [if_neg isKey, if_neg isKey]

/-- Of the entries of a map at most one has a given key. -/
theorem filter_entries (m : SortedMap α) (key : String) :
    (m.entries.filter fun entry => entry.1 == key) =
      (m.get? key).toList.map fun value => (key, value) := by
  rcases m with ⟨entries, ascending⟩
  rw [get?]
  induction entries with
  | nil => rfl
  | cons head rest ih =>
      rcases List.pairwise_cons.mp ascending with ⟨below, restAscending⟩
      rw [lookup]
      by_cases same : head.1 = key
      · have none : (rest.filter fun entry => entry.1 == key) = [] := by
          rw [List.filter_eq_nil_iff]
          intro entry member isKey
          have above := below entry member
          rw [same, beq_iff_eq.mp isKey] at above
          exact String.lt_irrefl _ above
        rw [List.filter_cons_of_pos (by simpa using same), if_pos same, none, ← same]
        rfl
      · rw [List.filter_cons_of_neg (by simpa using same), if_neg same]
        exact ih restAscending

theorem mem_entries_iff (m : SortedMap α) (key : String) (value : α) :
    (key, value) ∈ m.entries ↔ m.get? key = some value := by
  have found : (key, value) ∈ m.entries ↔
      (key, value) ∈ m.entries.filter fun entry => entry.1 == key := by
    simp [List.mem_filter]
  rw [found, filter_entries]
  cases m.get? key with
  | none => simp
  | some other => simp [eq_comm]

theorem isEmpty_iff (m : SortedMap α) : m.isEmpty ↔ ∀ key, m.get? key = none := by
  rw [isEmpty, List.isEmpty_iff]
  constructor
  · intro none key
    rw [get?, none]
    rfl
  · intro none
    cases entries : m.entries with
    | nil => rfl
    | cons head rest =>
        have absent := none head.1
        simp [get?, entries, lookup] at absent

theorem erase_of_get? {m : SortedMap α} {key : String} (absent : m.get? key = none) :
    m.erase key = m := by
  apply ext_get?
  intro name
  rw [get?_erase]
  split
  · next same => rw [← same, absent]
  · rfl

end MeshSidecar.SortedMap
