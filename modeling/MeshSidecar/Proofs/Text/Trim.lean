import MeshSidecar.Text.Blank

namespace MeshSidecar.Text

/-!
# What trimming leaves

A text that is trimmed falls into what is dropped and what is kept.  Both are told by
their characters alone: all that is dropped would be dropped anywhere, and what is kept
neither starts nor ends with anything of the kind.
-/

theorem trimStartWhere_eq_iff (p : Char → Bool) (cs kept : List Char) :
    trimStartWhere p cs = kept ↔
      ∃ dropped, cs = dropped ++ kept ∧ dropped.all p ∧ kept.head?.any p = false := by
  rw [trimStartWhere]
  constructor
  · rintro rfl
    refine ⟨cs.takeWhile p, List.takeWhile_append_dropWhile.symm, List.all_takeWhile, ?_⟩
    have stops := cs.head?_dropWhile_not p
    cases first : (cs.dropWhile p).head? with
    | none => rfl
    | some c =>
        rw [first] at stops
        simpa using stops
  · rintro ⟨dropped, rfl, all, stops⟩
    rw [List.dropWhile_append_of_pos (List.all_eq_true.mp all)]
    cases kept with
    | nil => rfl
    | cons c kept =>
        have other : p c = false := by
          simpa using stops
        rw [List.dropWhile_cons_of_neg (by simp [other])]

theorem trimEndWhere_eq_iff (p : Char → Bool) (cs kept : List Char) :
    trimEndWhere p cs = kept ↔
      ∃ dropped, cs = kept ++ dropped ∧ dropped.all p ∧ kept.getLast?.any p = false := by
  have turned : trimEndWhere p cs = kept ↔ trimStartWhere p cs.reverse = kept.reverse :=
    List.reverse_eq_iff
  rw [turned, trimStartWhere_eq_iff]
  constructor
  · rintro ⟨dropped, whole, all, stops⟩
    refine ⟨dropped.reverse, ?_, by simpa using all, by simpa using stops⟩
    rw [← List.reverse_inj, whole]
    simp
  · rintro ⟨dropped, rfl, all, stops⟩
    exact ⟨dropped.reverse, by simp, by simpa using all, by simpa using stops⟩

theorem trimEndWhere_eq_self_iff (p : Char → Bool) (cs : List Char) :
    trimEndWhere p cs = cs ↔ cs.getLast?.any p = false := by
  rw [trimEndWhere_eq_iff]
  constructor
  · rintro ⟨_, -, -, stops⟩
    exact stops
  · intro stops
    exact ⟨[], by simp, rfl, stops⟩

/-- What is dropped at the end of a text does not reach beyond a character that is kept. -/
theorem trimEndWhere_append {p : Char → Bool} {before : List Char}
    (stops : before.getLast?.any p = false) (cs : List Char) :
    trimEndWhere p (before ++ cs) = before ++ trimEndWhere p cs := by
  rcases (trimEndWhere_eq_iff p cs _).mp rfl with ⟨dropped, whole, all, ends⟩
  refine (trimEndWhere_eq_iff p _ _).mpr ⟨dropped, ?_, all, ?_⟩
  · rw [List.append_assoc, ← whole]
  · rw [List.getLast?_append]
    cases last : (trimEndWhere p cs).getLast? with
    | none => exact stops
    | some c =>
        rw [last] at ends
        exact ends

theorem trimEndWhere_of_all {p : Char → Bool} {cs : List Char} (all : cs.all p) :
    trimEndWhere p cs = [] :=
  (trimEndWhere_eq_iff p cs []).mpr ⟨cs, rfl, all, rfl⟩

/-- What is dropped in two goes, the second being less choosy, is dropped in the second. -/
theorem trimEndWhere_trimEndWhere {p q : Char → Bool} (weaker : ∀ c, p c → q c)
    (cs : List Char) : trimEndWhere q (trimEndWhere p cs) = trimEndWhere q cs := by
  rcases (trimEndWhere_eq_iff p cs _).mp rfl with ⟨dropped, whole, all, -⟩
  rcases (trimEndWhere_eq_iff q (trimEndWhere p cs) _).mp rfl with ⟨more, rest, allMore, stops⟩
  refine ((trimEndWhere_eq_iff q cs _).mpr ⟨more ++ dropped, ?_, ?_, stops⟩).symm
  · rw [← List.append_assoc, ← rest, ← whole]
  · rw [List.all_append, allMore, Bool.true_and, List.all_eq_true]
    exact fun c member => weaker c (List.all_eq_true.mp all c member)

/-! ## Blanks -/

/-- A text without blanks at its ends. -/
structure Unpadded (cs : List Char) : Prop where
  start : cs.head?.any isBlank = false
  ending : cs.getLast?.any isBlank = false

/-- Trimming leaves the one part of a text between blanks that has none at its ends. -/
theorem trim_eq_iff (cs core : List Char) :
    trim cs = core ↔ Unpadded core ∧ ∃ before after, cs = before ++ core ++ after ∧
      before.all isBlank ∧ after.all isBlank := by
  rw [trim, trimEndWhere_eq_iff]
  constructor
  · rintro ⟨after, kept, allAfter, ending⟩
    rcases (trimStartWhere_eq_iff _ _ _).mp kept with ⟨before, whole, allBefore, start⟩
    refine ⟨⟨?_, ending⟩, before, after, by rw [whole, List.append_assoc], allBefore, allAfter⟩
    cases core with
    | nil => rfl
    | cons c core => exact start
  · rintro ⟨unpadded, before, after, rfl, allBefore, allAfter⟩
    cases core with
    | nil =>
        -- Blanks alone are dropped in front.
        refine ⟨[], (trimStartWhere_eq_iff _ _ _).mpr ⟨before ++ after, ?_, ?_, rfl⟩, rfl, rfl⟩
        · simp
        · rw [List.all_append, allBefore, allAfter, Bool.and_true]
    | cons c core =>
        refine ⟨after, (trimStartWhere_eq_iff _ _ _).mpr ⟨before, ?_, allBefore, ?_⟩, allAfter,
          unpadded.ending⟩
        · rw [List.append_assoc]
        · exact unpadded.start

end MeshSidecar.Text
