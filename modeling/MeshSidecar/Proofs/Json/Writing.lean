import MeshSidecar.Proofs.Json.Reading
import MeshSidecar.Proofs.SortedMap

namespace MeshSidecar.Json

/-!
# Reading what was written

The text of a value is read as the value.  This is meant for values as a reader gives
them, with the members of each object in ascending order; numbers that are no integers are
left out, since several decimals are written alike.  How characters are escaped does not
matter as long as every character is read back by itself.
-/

/-- A value without decimals, in which the members of every object ascend. -/
inductive Regular : Json → Prop where
  | null : Regular .null
  | bool (value : Bool) : Regular (.bool value)
  | int (value : Int) : Regular (.int value)
  | str (value : String) : Regular (.str value)
  | arr {items : List Json} (items_regular : ∀ item ∈ items, Regular item) : Regular (.arr items)
  | obj {members : List (String × Json)} (ascending : SortedMap.Ascending members)
      (members_regular : ∀ member ∈ members, Regular member.2) : Regular (.obj members)

/-- A value with these names is regular when they ascend. -/
theorem Regular.named (names : List String) {members : List (String × Json)}
    (named : members.map Prod.fst = names) (ascending : names.Pairwise (· < ·))
    (regular : ∀ member ∈ members, Regular member.2) : Regular (.obj members) := by
  subst named
  exact .obj (List.pairwise_map.mp ascending) regular

theorem regular_ofText? (text : Option String) : (ofText? text).Regular := by
  cases text with
  | none => exact .null
  | some text => exact .str text

theorem writeItems_eq (escape : Char → List Char) (items : List Json) :
    writeItems escape items = [','].intercalate (items.map (write escape)) ++ [']'] := by
  induction items with
  | nil => rfl
  | cons item items ih =>
      cases items with
      | nil => simp [writeItems]
      | cons next items => simp [writeItems, ih]

/-- A key with its value. -/
def writeMember (escape : Char → List Char) (member : String × Json) : List Char :=
  writeText escape member.1 ++ ':' :: write escape member.2

theorem writeMembers_eq (escape : Char → List Char) (members : List (String × Json)) :
    writeMembers escape members =
      [','].intercalate (members.map (writeMember escape)) ++ ['}'] := by
  induction members with
  | nil => rfl
  | cons member members ih =>
      rcases member with ⟨key, value⟩
      cases members with
      | nil => simp [writeMembers, writeMember]
      | cons next members => simp [writeMembers, writeMember, ih]

namespace Reader

namespace Layout

variable {α : Type} {layout : Layout α}

theorem readsLast_intercalate (text : α → List Char) {parts : List α} (filled : parts ≠ [])
    (reads : ∀ part ∈ parts, layout.ReadsPart (text part) part) :
    layout.ReadsLast ([','].intercalate (parts.map text)) parts := by
  induction parts with
  | nil => exact absurd rfl filled
  | cons part parts ih =>
      have first := reads part List.mem_cons_self
      cases parts with
      | nil =>
          rw [List.map_singleton, List.intercalate_singleton]
          exact first
      | cons next parts =>
          have later := ih (List.cons_ne_nil _ _) fun other member =>
            reads other (List.mem_cons_of_mem _ member)
          rw [List.map_cons, List.map_cons, List.intercalate_cons_cons, ← List.map_cons]
          exact first.comma.last later

end Layout

theorem readsClosed_arr {escape : Char → List Char} {items : List Json}
    (reads : ∀ item ∈ items, ReadsValue (write escape item) item) :
    ReadsClosed (write escape (.arr items)) (.arr items) := by
  rw [write, writeItems_eq]
  cases items with
  | nil =>
      refine ⟨opensValue_of_head rfl, fun _ => ?_⟩
      simp [run_cons, step, isSpace, openValue, closeArray]
  | cons item rest =>
      have last := @Layout.readsLast_intercalate Json Reader.items (write escape) (item :: rest)
        (List.cons_ne_nil _ _) fun part member => (reads part member).item
      exact last.readsClosed

section

variable {escape : Char → List Char} (each : ∀ c, ReadsChars (escape c) [c])

include each

theorem ReadsValue.writtenMember {cs : List Char} {value : Json} (key : String)
    (reads : ReadsValue cs value) :
    members.ReadsPart (writeText escape key ++ ':' :: cs) (key, value) := by
  have member := reads.member (readsChars_flatMap each key.toList)
  rw [String.ofList_toList] at member
  simpa [writeText] using member

theorem readsClosed_obj {members : List (String × Json)}
    (ascending : SortedMap.Ascending members)
    (reads : ∀ member ∈ members, ReadsValue (write escape member.2) member.2) :
    ReadsClosed (write escape (.obj members)) (.obj members) := by
  rw [write, writeMembers_eq]
  cases members with
  | nil =>
      refine ⟨opensValue_of_head rfl, fun _ => ?_⟩
      simp [run_cons, step, isSpace, openValue, closeObject, ofMembers]
  | cons member rest =>
      have last := @Layout.readsLast_intercalate _ Reader.members (writeMember escape)
        (member :: rest) (List.cons_ne_nil _ _) fun part isPart =>
          (reads part isPart).writtenMember each part.1
      have whole : ofMembers (member :: rest) = .obj (member :: rest) :=
        congrArg Json.obj (SortedMap.sorted_of_ascending ascending)
      rw [← whole]
      exact last.readsClosed

/-- A written value is read as the value. -/
theorem readsValue_write {value : Json} (regular : Regular value) :
    ReadsValue (write escape value) value := by
  induction regular with
  | null => exact readsValue_null
  | bool value => exact readsValue_bool value escape
  | int value => exact readsValue_int value
  | str value => exact (readsClosed_text each value).readsValue
  | arr _ ih => exact (readsClosed_arr ih).readsValue
  | obj ascending _ ih => exact (readsClosed_obj each ascending ih).readsValue

end

end Reader

/-- The text of an object is read as the object. -/
theorem parse?_compact {members : List (String × Json)} (regular : Regular (.obj members)) :
    parse? (compact (.obj members)) = some (.obj members) := by
  cases regular with
  | obj ascending regular =>
      apply Reader.parse?_of_readsClosed
      refine Reader.readsClosed_obj Reader.readsChars_escapeChar ascending fun member isMember => ?_
      exact Reader.readsValue_write Reader.readsChars_escapeChar (regular member isMember)

end MeshSidecar.Json
