import MeshSidecar.Proofs.Injection.Assembly
import MeshSidecar.Proofs.Injection.DaemonCommand
import MeshSidecar.Proofs.Text.Trim

namespace MeshSidecar

/-!
# Reading and writing lists of pairs

What a list says is told piece by piece: a piece between commas says one pair or none, and
of the pieces that say something of one name the last counts.  Conversely a map can be
written down as a list, in any order and with blanks wherever a part begins or ends, as
long as no part contains what the list is cut at.
-/

namespace SortedMap

theorem mem_keys_iff {α : Type} (m : SortedMap α) (key : String) :
    key ∈ m.keys ↔ ∃ value, m.get? key = some value := by
  simp only [keys, List.mem_map, Prod.exists, exists_and_right, exists_eq_right, mem_entries_iff]

/-- The order in which the entries of a map are given does not matter. -/
theorem ofList_of_perm {α : Type} {entries : List (String × α)} {m : SortedMap α}
    (same : entries.Perm m.entries) : ofList entries = m := by
  have distinct : (entries.map Prod.fst).Nodup := (same.map Prod.fst).nodup_iff.mpr m.nodup_keys
  apply ext_get?
  intro key
  apply Option.ext
  intro value
  rw [Document.get?_ofList, Document.find?_eq_some_iff, ← mem_entries_iff, ← same.mem_iff]
  constructor
  · rintro ⟨early, late, rfl, -⟩
    exact List.mem_append_right early List.mem_cons_self
  · intro member
    rcases List.append_of_mem member with ⟨early, late, rfl⟩
    refine ⟨early, late, rfl, fun other behind repeated => ?_⟩
    rw [List.map_append, List.map_cons, List.nodup_append] at distinct
    have there : other.1 ∈ late.map Prod.fst := List.mem_map_of_mem behind
    exact (List.nodup_cons.mp distinct.2.1).1 (repeated ▸ there)

end SortedMap

namespace PairForm

/-! ## What a list says -/

/-- A piece of a list says a pair: the parts of the pair, within blanks, stand on both
sides of its only separator. -/
def Says (form : PairForm) (piece : List Char) (pair : String × String) : Prop :=
  ∃ left right, piece = left ++ form.separator :: right ∧ form.separator ∉ left ∧
    form.separator ∉ right ∧
    pair = (String.ofList (Text.trim left), String.ofList (Text.trim right))

theorem says_iff (form : PairForm) (piece : List Char) (pair : String × String) :
    form.Says piece pair ↔ form.pair? piece = some pair :=
  (form.pair?_eq_some_iff piece pair).symm

/-- Of these pieces the last that says something of `name` says `value`. -/
def LastSays (form : PairForm) (pieces : List (List Char)) (name value : String) : Prop :=
  ∃ early piece late, pieces = early ++ piece :: late ∧ form.Says piece (name, value) ∧
    ∀ other ∈ late, ∀ pair, form.Says other pair → pair.1 ≠ name

section

variable {form : PairForm} {pieces : List (List Char)} {listed : List (String × String)}

/-- Where every piece says a pair, the last entries of names are found at the last pieces. -/
theorem lastSays_iff (said : pieces.map form.pair? = listed.map some) (name value : String) :
    form.LastSays pieces name value ↔ Document.find? name listed = some value := by
  rw [Document.find?_eq_some_iff]
  constructor
  · rintro ⟨early, piece, late, rfl, here, behind⟩
    rw [List.map_append, List.map_cons, eq_comm, List.map_eq_append_iff] at said
    rcases said with ⟨first, rest, rfl, -, rest'⟩
    rcases List.map_eq_cons_iff.mp rest' with ⟨entry, last, rfl, read, later⟩
    rw [(form.says_iff _ _).mp here, Option.some_inj] at read
    refine ⟨first, last, by rw [read], fun other member => ?_⟩
    have listedThere : some other ∈ late.map form.pair? := later ▸ List.mem_map_of_mem member
    rcases List.mem_map.mp listedThere with ⟨piece, pieceThere, reads⟩
    exact behind piece pieceThere other ((form.says_iff _ _).mpr reads)
  · rintro ⟨first, last, rfl, behind⟩
    rw [List.map_append, List.map_cons, List.map_eq_append_iff] at said
    rcases said with ⟨early, rest, rfl, -, rest'⟩
    rcases List.map_eq_cons_iff.mp rest' with ⟨piece, late, rfl, here, later⟩
    refine ⟨early, piece, late, rfl, (form.says_iff _ _).mpr here, ?_⟩
    intro other member pair there
    have saidThere : some pair ∈ last.map some := by
      rw [← later, ← (form.says_iff _ _).mp there]
      exact List.mem_map_of_mem member
    rcases List.mem_map.mp saidThere with ⟨entry, entryThere, same⟩
    exact Option.some.inj same ▸ behind entry entryThere

/-- A name occurs in a list when some piece says something of it. -/
theorem named_iff (said : pieces.map form.pair? = listed.map some) (name : String) :
    (∃ piece ∈ pieces, ∃ value, form.Says piece (name, value)) ↔
      ∃ value, Document.find? name listed = some value := by
  have found : (∃ value, Document.find? name listed = some value) ↔
      ∃ entry ∈ listed, entry.1 = name := by
    rw [← Option.ne_none_iff_exists', ne_eq, Document.find?_eq_none_iff]
    simp
  rw [found]
  constructor
  · rintro ⟨piece, member, value, there⟩
    have listedThere : some (name, value) ∈ listed.map some := by
      rw [← said, ← (form.says_iff _ _).mp there]
      exact List.mem_map_of_mem member
    exact ⟨(name, value), by simpa using listedThere, rfl⟩
  · rintro ⟨⟨_, value⟩, member, rfl⟩
    have there : some (_, value) ∈ pieces.map form.pair? := said ▸ List.mem_map_of_mem member
    rcases List.mem_map.mp there with ⟨piece, pieceThere, reads⟩
    exact ⟨piece, pieceThere, value, (form.says_iff _ _).mpr reads⟩

end

theorem pairs?_eq_some_iff (form : PairForm) (text : String) (pairs : SortedMap String) :
    form.pairs? text = some pairs ↔ ∃ listed,
      (Text.splitOn ',' text.toList).map form.pair? = listed.map some ∧
      SortedMap.ofList listed = pairs := by
  simp only [pairs?, Option.map_eq_some_iff, mapM_eq_some_iff]

/-! ## Writing a list -/

/-- A pair with blanks around its parts. -/
structure Spelling where
  beforeName : List Char
  name : String
  afterName : List Char
  beforeValue : List Char
  value : String
  afterValue : List Char
  blank : ∀ c ∈ beforeName ++ afterName ++ (beforeValue ++ afterValue), Text.isBlank c

namespace Spelling

def pair (spelling : Spelling) : String × String :=
  (spelling.name, spelling.value)

def left (spelling : Spelling) : List Char :=
  spelling.beforeName ++ spelling.name.toList ++ spelling.afterName

def right (spelling : Spelling) : List Char :=
  spelling.beforeValue ++ spelling.value.toList ++ spelling.afterValue

def piece (spelling : Spelling) (form : PairForm) : List Char :=
  spelling.left ++ form.separator :: spelling.right

end Spelling

/-- The list of these pairs, separated by commas. -/
def write (form : PairForm) (spelled : List Spelling) : String :=
  String.ofList ([','].intercalate (spelled.map fun spelling => spelling.piece form))

/-- A part of a pair that can be written: nothing in it would be taken for a part of the
list, and it has no blanks that would not be taken for a part of it. -/
structure Writable (form : PairForm) (part : String) : Prop where
  comma : ',' ∉ part.toList
  separator : form.separator ∉ part.toList
  unpadded : Text.Unpadded part.toList

section

variable {form : PairForm} {spelling : Spelling}

theorem not_mem_of_blank {c : Char} {cs : List Char} (blank : ∀ c ∈ cs, Text.isBlank c)
    (other : Text.isBlank c = false) : c ∉ cs := by
  intro member
  rw [blank c member] at other
  cases other

/-- Neither side of a spelled pair has a character that no part of it has. -/
theorem Spelling.not_mem_sides {c : Char} (other : Text.isBlank c = false)
    (name : c ∉ spelling.name.toList) (value : c ∉ spelling.value.toList) :
    c ∉ spelling.left ∧ c ∉ spelling.right := by
  have blanks := not_mem_of_blank spelling.blank other
  simp only [List.mem_append, not_or] at blanks
  simp only [Spelling.left, Spelling.right, List.mem_append, not_or]
  exact ⟨⟨⟨blanks.1.1, name⟩, blanks.1.2⟩, ⟨blanks.2.1, value⟩, blanks.2.2⟩

/-- A spelled pair is said by its piece. -/
theorem Spelling.says_pair (apart : Text.isBlank form.separator = false)
    (name : form.Writable spelling.name) (value : form.Writable spelling.value) :
    form.Says (spelling.piece form) spelling.pair := by
  have sides := spelling.not_mem_sides apart name.separator value.separator
  have blanks := spelling.blank
  simp only [List.forall_mem_append] at blanks
  have leftTrimmed : Text.trim spelling.left = spelling.name.toList :=
    (Text.trim_eq_iff _ _).mpr ⟨name.unpadded, _, _, rfl, List.all_eq_true.mpr blanks.1.1,
      List.all_eq_true.mpr blanks.1.2⟩
  have rightTrimmed : Text.trim spelling.right = spelling.value.toList :=
    (Text.trim_eq_iff _ _).mpr ⟨value.unpadded, _, _, rfl, List.all_eq_true.mpr blanks.2.1,
      List.all_eq_true.mpr blanks.2.2⟩
  refine ⟨_, _, rfl, sides.1, sides.2, ?_⟩
  rw [leftTrimmed, rightTrimmed, String.ofList_toList, String.ofList_toList, pair]

/-- No piece is cut at a comma. -/
theorem Spelling.comma_not_mem_piece (other : form.separator ≠ ',')
    (name : form.Writable spelling.name) (value : form.Writable spelling.value) :
    ',' ∉ spelling.piece form := by
  have sides := spelling.not_mem_sides (by decide) name.comma value.comma
  rw [piece, List.mem_append, List.mem_cons, not_or, not_or]
  exact ⟨sides.1, other.symm, sides.2⟩

/-- A written map is read back, in whatever order its pairs were written. -/
theorem pairs?_write {map : SortedMap String} {spelled : List Spelling}
    (apart : Text.isBlank form.separator = false) (other : form.separator ≠ ',')
    (filled : map.entries ≠ [])
    (writable : ∀ entry ∈ map.entries, form.Writable entry.1 ∧ form.Writable entry.2)
    (same : (spelled.map Spelling.pair).Perm map.entries) :
    form.pairs? (form.write spelled) = some map := by
  have parts : ∀ spelling ∈ spelled,
      form.Writable spelling.name ∧ form.Writable spelling.value := by
    intro spelling member
    exact writable _ (same.subset (List.mem_map_of_mem member))
  have nonempty : spelled.map (fun spelling => spelling.piece form) ≠ [] := by
    intro none
    rw [List.map_eq_nil_iff.mp none] at same
    exact filled same.symm.eq_nil
  have cut : Text.splitOn ',' (form.write spelled).toList =
      spelled.map fun spelling => spelling.piece form := by
    rw [write, String.toList_ofList]
    apply Text.splitOn_intercalate nonempty
    rw [List.forall_mem_map]
    intro spelling member
    exact spelling.comma_not_mem_piece other (parts spelling member).1 (parts spelling member).2
  refine (pairs?_eq_some_iff _ _ _).mpr ⟨_, ?_, SortedMap.ofList_of_perm same⟩
  rw [cut, List.map_map, List.map_map]
  apply List.map_congr_left
  intro spelling member
  rcases parts spelling member with ⟨name, value⟩
  exact (form.says_iff _ _).mp (spelling.says_pair apart name value)

end

end PairForm

/-! ## Annotations -/

namespace Pod

section

variable {pod : Pod} {key text : String} {form : PairForm}

theorem pairs_eq_ok_iff (said : pod.annotation? key = some text) (pairs : SortedMap String) :
    pod.pairs key form = .ok pairs ↔ form.pairs? text = some pairs := by
  rw [Pod.pairs, said]
  cases read : form.pairs? text with
  | none => simp [read]
  | some other => simp [read]

theorem pairs_eq_error_of_said (said : pod.annotation? key = some text)
    (unlisted : ¬ form.Lists text) :
    pod.pairs key form = .error (.malformed key form.shown) := by
  rw [Pod.pairs, said]
  cases read : form.pairs? text with
  | none => simp [read]
  | some pairs =>
      rw [← form.isSome_pairs?, read] at unlisted
      exact absurd rfl unlisted

end

/-- What a pod lists is read piece by piece.  Every piece of the annotation has to say one
pair, and then exactly the names that occur are stored, each with what is said of it last.
A map that is written down, with whatever blanks and in whatever order, is read as that
map. -/
theorem pairs_said (pod : Pod) (key : String) (form : PairForm) :
    (pod.annotation? key = none → pod.pairs key form = .ok .empty) ∧
    (∀ text, pod.annotation? key = some text →
      ((∃ pairs, pod.pairs key form = .ok pairs) ↔ form.Lists text) ∧
      (¬ form.Lists text → pod.pairs key form = .error (.malformed key form.shown)) ∧
      ∀ pairs, pod.pairs key form = .ok pairs →
        (∀ name, name ∈ pairs.keys ↔
          ∃ piece ∈ Text.splitOn ',' text.toList, ∃ value, form.Says piece (name, value)) ∧
        ∀ name value, pairs.get? name = some value ↔
          form.LastSays (Text.splitOn ',' text.toList) name value) ∧
    (Text.isBlank form.separator = false → form.separator ≠ ',' →
      ∀ map : SortedMap String, map.entries ≠ [] →
      (∀ entry ∈ map.entries, form.Writable entry.1 ∧ form.Writable entry.2) →
      ∀ spelled : List PairForm.Spelling, (spelled.map PairForm.Spelling.pair).Perm map.entries →
      pod.annotation? key = some (form.write spelled) → pod.pairs key form = .ok map) := by
  refine ⟨?_, ?_, ?_⟩
  · intro unsaid
    rw [Pod.pairs, unsaid]
  · intro text said
    refine ⟨?_, pairs_eq_error_of_said said, fun pairs read => ?_⟩
    · simp only [pairs_eq_ok_iff said, ← form.isSome_pairs?, Option.isSome_iff_exists]
    · rcases (form.pairs?_eq_some_iff text pairs).mp ((pairs_eq_ok_iff said pairs).mp read) with
        ⟨listed, saidAll, rfl⟩
      refine ⟨fun name => ?_, fun name value => ?_⟩
      · simp only [SortedMap.mem_keys_iff, Document.get?_ofList]
        exact (PairForm.named_iff saidAll name).symm
      · rw [Document.get?_ofList]
        exact (PairForm.lastSays_iff saidAll name value).symm
  · intro apart other map filled writable spelled same said
    exact (pairs_eq_ok_iff said map).mpr (PairForm.pairs?_write apart other filled writable same)

/-- A name that is listed twice has its later value, a comma at the end leaves a piece that
says nothing, and blanks of all kinds may stand around the parts. -/
theorem pairs_said_of_mounts :
    let key := Annotations.secretMounts
    let listed := " tls : /old,ca:/ca,tls:\u00a0/new"
    let listing := Pod.empty.annotate key listed
    let trailing := Pod.empty.annotate key "tls:/certs,"
    let map := SortedMap.ofList [("ca", "/ca"), ("tls", "/certs and keys")]
    let tls : PairForm.Spelling :=
      ⟨[' '], "tls", ['\u2003'], [], "/certs and keys", ['\t'], List.all_eq_true.mp rfl⟩
    let ca : PairForm.Spelling := ⟨[], "ca", [], ['\n'], "/ca", [], List.all_eq_true.mp rfl⟩
    let written := PairForm.secretMount.write [tls, ca]
    let writing := Pod.empty.annotate key written
    Pod.empty.annotation? key = none ∧ Pod.empty.pairs key .secretMount = .ok .empty ∧
    listing.annotation? key = some listed ∧ PairForm.secretMount.Lists listed ∧
    (∃ pairs, listing.pairs key .secretMount = .ok pairs ∧ "ca" ∈ pairs.keys ∧
      pairs.get? "tls" = some "/new") ∧
    trailing.annotation? key = some "tls:/certs," ∧ ¬ PairForm.secretMount.Lists "tls:/certs," ∧
    trailing.pairs key .secretMount = .error (.malformed key "secretName:mountPath") ∧
    Text.isBlank ':' = false ∧ ':' ≠ ',' ∧ map.entries ≠ [] ∧
    (∀ entry ∈ map.entries,
      PairForm.secretMount.Writable entry.1 ∧ PairForm.secretMount.Writable entry.2) ∧
    ([tls, ca].map PairForm.Spelling.pair).Perm map.entries ∧
    writing.annotation? key = some written ∧ writing.pairs key .secretMount = .ok map := by
  intro key listed listing trailing map tls ca written writing
  have lists : PairForm.secretMount.Lists listed := by
    decide
  have unlisted : ¬ PairForm.secretMount.Lists "tls:/certs," := by
    decide
  have entries : map.entries = [("ca", "/ca"), ("tls", "/certs and keys")] := by
    decide
  have writable : ∀ entry ∈ map.entries,
      PairForm.secretMount.Writable entry.1 ∧ PairForm.secretMount.Writable entry.2 := by
    rw [entries]
    simp only [List.forall_mem_cons]
    refine ⟨⟨?_, ?_⟩, ⟨?_, ?_⟩, List.forall_mem_nil _⟩
    all_goals exact ⟨by decide, by decide, by decide, by decide⟩
  have same : ([tls, ca].map PairForm.Spelling.pair).Perm map.entries := by
    rw [entries]
    exact List.Perm.swap _ _ _
  have filled : map.entries ≠ [] := by
    rw [entries]
    exact List.cons_ne_nil _ _
  have said : listing.annotation? key = some listed := by
    rfl
  have read := ((pairs_said listing key .secretMount).2.1 listed said)
  rcases read.1.mpr lists with ⟨pairs, succeeds⟩
  refine ⟨by rfl, (pairs_said .empty key .secretMount).1 (by rfl), said, lists,
    ⟨pairs, succeeds, ?_, ?_⟩, by rfl, unlisted,
    ((pairs_said trailing key .secretMount).2.1 _ (by rfl)).2.1 unlisted, by decide, by decide,
    filled, writable, same, by rfl,
    (pairs_said writing key .secretMount).2.2 (by decide) (by decide) map filled writable _ same
      (by rfl)⟩
  · rw [(read.2.2 pairs succeeds).1]
    exact ⟨"ca:/ca".toList, by decide, "/ca", "ca".toList, "/ca".toList, by decide⟩
  · rw [(read.2.2 pairs succeeds).2]
    refine ⟨[" tls : /old".toList, "ca:/ca".toList], "tls:\u00a0/new".toList, [], by decide,
      ⟨"tls".toList, "\u00a0/new".toList, by decide⟩, List.forall_mem_nil _⟩

end Pod

end MeshSidecar
