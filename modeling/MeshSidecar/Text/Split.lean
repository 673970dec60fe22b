namespace MeshSidecar.Text

/-!
# Cutting text at a separator

Every list in an annotation or an identifier is written with one separating
character.  A text always has one piece more than it has separators; the empty
text therefore has one piece, which is empty.
-/

/-- The pieces between occurrences of `sep`, in order. -/
def splitOn (sep : Char) : List Char → List (List Char)
  | [] => [[]]
  | c :: cs =>
    if c = sep then [] :: splitOn sep cs
    else match splitOn sep cs with
      | [] => [[c]]
      | piece :: pieces => (c :: piece) :: pieces

/-- As `splitOn`, but cuts at the first `limit` separators only: the last piece
keeps whatever separators remain. -/
def splitAtMost (sep : Char) : Nat → List Char → List (List Char)
  | _, [] => [[]]
  | 0, cs => [cs]
  | limit + 1, c :: cs =>
    if c = sep then [] :: splitAtMost sep limit cs
    else match splitAtMost sep (limit + 1) cs with
      | [] => [[c]]
      | piece :: pieces => (c :: piece) :: pieces

/-- Puts `sep` between consecutive pieces. -/
def joinWith (sep : Char) : List (List Char) → List Char
  | [] => []
  | [piece] => piece
  | piece :: next :: pieces => piece ++ sep :: joinWith sep (next :: pieces)

/-- A text given line by line. -/
def ofLines (lines : List String) : String :=
  "\n".intercalate lines

theorem ofLines_cons_cons (line next : String) (lines : List String) :
    ofLines (line :: next :: lines) = line ++ "\n" ++ ofLines (next :: lines) := by
  apply String.toList_injective
  simp [ofLines, String.toList_intercalate]

/-- Between lines that follow each other there is one line break. -/
theorem ofLines_append {lines more : List String} (some : lines ≠ []) (others : more ≠ []) :
    ofLines (lines ++ more) = ofLines lines ++ "\n" ++ ofLines more := by
  induction lines with
  | nil => exact absurd rfl some
  | cons line lines ih =>
    cases lines with
    | nil =>
      rcases List.exists_cons_of_ne_nil others with ⟨next, rest, rfl⟩
      exact ofLines_cons_cons line next rest
    | cons next lines =>
      have later := ih (List.cons_ne_nil _ _)
      rw [List.cons_append] at later
      rw [List.cons_append, List.cons_append, ofLines_cons_cons, later, ofLines_cons_cons]
      simp only [String.append_assoc]

theorem not_mem_ofLines {c : Char} {lines : List String} (other : c ≠ '\n')
    (absent : ∀ line ∈ lines, c ∉ line.toList) : c ∉ (ofLines lines).toList := by
  induction lines with
  | nil => exact List.not_mem_nil
  | cons line lines ih =>
    have first := absent line List.mem_cons_self
    have later := ih fun other member => absent other (List.mem_cons_of_mem _ member)
    cases lines with
    | nil => simpa [ofLines] using first
    | cons next lines =>
      rw [ofLines_cons_cons]
      simp [first, later, other]

theorem splitOn_ne_nil (sep : Char) (cs : List Char) : splitOn sep cs ≠ [] := by
  cases cs with
  | nil => simp [splitOn]
  | cons c cs =>
    rw [splitOn]
    split
    · simp
    · split <;> simp

/-- Joining the pieces of a text at the separator they were cut at restores it. -/
theorem joinWith_splitOn (sep : Char) (cs : List Char) : joinWith sep (splitOn sep cs) = cs := by
  induction cs with
  | nil => rfl
  | cons c cs ih =>
    rw [splitOn]
    split
    · next h =>
      subst h
      match hs : splitOn c cs with
      | [] => exact absurd hs (splitOn_ne_nil c cs)
      | piece :: pieces => simp [joinWith, ← hs, ih]
    · match hs : splitOn sep cs with
      | [] => exact absurd hs (splitOn_ne_nil sep cs)
      | [piece] => simpa [joinWith, hs] using ih
      | piece :: next :: pieces => simpa [joinWith, hs] using ih

theorem not_mem_of_mem_splitOn {sep : Char} {cs piece : List Char} (h : piece ∈ splitOn sep cs) :
    sep ∉ piece := by
  induction cs generalizing piece with
  | nil =>
    have blank : piece = [] := by simpa [splitOn] using h
    simp [blank]
  | cons c cs ih =>
    rw [splitOn] at h
    split at h
    · rcases List.mem_cons.mp h with blank | member
      · simp [blank]
      · exact ih member
    · next other =>
      match hs : splitOn sep cs with
      | [] => exact absurd hs (splitOn_ne_nil sep cs)
      | first :: pieces =>
        simp only [hs] at h
        rcases List.mem_cons.mp h with same | member
        · subst same
          have inFirst : sep ∉ first := ih (hs ▸ List.mem_cons_self)
          intro member
          rcases List.mem_cons.mp member with same | member
          · exact other same.symm
          · exact inFirst member
        · exact ih (hs ▸ List.mem_cons_of_mem _ member)

theorem length_splitOn (sep : Char) (cs : List Char) :
    (splitOn sep cs).length = cs.count sep + 1 := by
  induction cs with
  | nil => rfl
  | cons c cs ih =>
    rw [splitOn]
    split
    · next same => simp [same, ih]
    · next other =>
      match hs : splitOn sep cs with
      | [] => exact absurd hs (splitOn_ne_nil sep cs)
      | piece :: pieces =>
        rw [hs] at ih
        simpa [other] using ih

/-- A text without separators is its only piece. -/
theorem splitOn_of_not_mem {sep : Char} {cs : List Char} (absent : sep ∉ cs) :
    splitOn sep cs = [cs] := by
  induction cs with
  | nil => rfl
  | cons c cs ih =>
    rw [List.mem_cons, not_or] at absent
    rw [splitOn, if_neg (Ne.symm absent.1), ih absent.2]

/-- Texts with a separator between them are cut apart there. -/
theorem splitOn_append (sep : Char) (left right : List Char) :
    splitOn sep (left ++ sep :: right) = splitOn sep left ++ splitOn sep right := by
  induction left with
  | nil =>
    have cut : splitOn sep (sep :: right) = [] :: splitOn sep right := by
      rw [splitOn, if_pos rfl]
    exact cut
  | cons c cs ih =>
    rw [List.cons_append, splitOn, splitOn, ih]
    split
    · rfl
    · match hs : splitOn sep cs with
      | [] => exact absurd hs (splitOn_ne_nil sep cs)
      | piece :: pieces => rfl

/-- What stands before a text and has no separator belongs to its first piece. -/
theorem splitOn_append_left {sep : Char} {start cs piece : List Char} {pieces : List (List Char)}
    (absent : sep ∉ start) (cut : splitOn sep cs = piece :: pieces) :
    splitOn sep (start ++ cs) = (start ++ piece) :: pieces := by
  induction start with
  | nil => exact cut
  | cons c start ih =>
    rw [List.mem_cons, not_or] at absent
    rw [List.cons_append, splitOn, if_neg (Ne.symm absent.1), ih absent.2, List.cons_append]

/-- Pieces without separators are found again when they are put together. -/
theorem splitOn_intercalate {sep : Char} {pieces : List (List Char)} (some : pieces ≠ [])
    (absent : ∀ piece ∈ pieces, sep ∉ piece) :
    splitOn sep ([sep].intercalate pieces) = pieces := by
  induction pieces with
  | nil => exact absurd rfl some
  | cons piece pieces ih =>
    have first := absent piece List.mem_cons_self
    cases pieces with
    | nil => rw [List.intercalate_singleton, splitOn_of_not_mem first]
    | cons next pieces =>
      have later := ih (List.cons_ne_nil _ _) fun other member =>
        absent other (List.mem_cons_of_mem _ member)
      rw [List.intercalate_cons_cons, List.append_assoc, List.singleton_append, splitOn_append,
        splitOn_of_not_mem first, later, List.singleton_append]

theorem splitOn_eq_pair_iff (sep : Char) (cs left right : List Char) :
    splitOn sep cs = [left, right] ↔ cs = left ++ sep :: right ∧ sep ∉ left ∧ sep ∉ right := by
  constructor
  · intro cut
    have whole := joinWith_splitOn sep cs
    rw [cut] at whole
    exact ⟨whole.symm, not_mem_of_mem_splitOn (cut ▸ List.mem_cons_self),
      not_mem_of_mem_splitOn (cut ▸ List.mem_cons_of_mem _ List.mem_cons_self)⟩
  · rintro ⟨rfl, noLeft, noRight⟩
    rw [splitOn_append, splitOn_of_not_mem noLeft, splitOn_of_not_mem noRight,
      List.singleton_append]

theorem splitAtMost_zero (sep : Char) (cs : List Char) : splitAtMost sep 0 cs = [cs] := by
  cases cs with
  | nil => rfl
  | cons c cs => rfl

theorem splitAtMost_of_not_mem {sep : Char} {cs : List Char} (absent : sep ∉ cs) (limit : Nat) :
    splitAtMost sep limit cs = [cs] := by
  cases limit with
  | zero => exact splitAtMost_zero sep cs
  | succ limit =>
    induction cs with
    | nil => rfl
    | cons c cs ih =>
      rw [List.mem_cons, not_or] at absent
      rw [splitAtMost, if_neg (Ne.symm absent.1), ih absent.2]

/-- The first separator ends the first piece. -/
theorem splitAtMost_append {sep : Char} {piece : List Char} (absent : sep ∉ piece) (limit : Nat)
    (rest : List Char) :
    splitAtMost sep (limit + 1) (piece ++ sep :: rest) = piece :: splitAtMost sep limit rest := by
  induction piece with
  | nil => rw [List.nil_append, splitAtMost, if_pos rfl]
  | cons c cs ih =>
    rw [List.mem_cons, not_or] at absent
    rw [List.cons_append, splitAtMost, if_neg (Ne.symm absent.1), ih absent.2]

/-- The first separator of a text cuts it in one way. -/
theorem append_cons_inj {sep : Char} {left right otherLeft otherRight : List Char}
    (absent : sep ∉ left) (otherAbsent : sep ∉ otherLeft)
    (same : left ++ sep :: right = otherLeft ++ sep :: otherRight) :
    left = otherLeft ∧ right = otherRight := by
  have cut := congrArg (splitAtMost sep 1) same
  rw [splitAtMost_append absent, splitAtMost_append otherAbsent, splitAtMost_zero,
    splitAtMost_zero] at cut
  simpa using cut

/-- Where there is a second piece, the first one ends with a separator. -/
theorem of_splitAtMost_eq_cons_cons {sep : Char} {limit : Nat} {cs piece next : List Char}
    {pieces : List (List Char)} (cut : splitAtMost sep (limit + 1) cs = piece :: next :: pieces) :
    ∃ rest, sep ∉ piece ∧ cs = piece ++ sep :: rest ∧
      splitAtMost sep limit rest = next :: pieces := by
  by_cases occurs : sep ∈ cs
  · obtain ⟨first, rest, rfl, absent⟩ := List.eq_append_cons_of_mem occurs
    rw [splitAtMost_append absent, List.cons.injEq] at cut
    exact ⟨rest, cut.1 ▸ absent, cut.1 ▸ rfl, cut.2⟩
  · rw [splitAtMost_of_not_mem occurs] at cut
    cases cut

/-- Whether two texts agree when the case of ASCII letters is disregarded. -/
def sameIgnoringCase (a b : String) : Bool :=
  a.toList.map Char.toLower == b.toList.map Char.toLower

end MeshSidecar.Text
