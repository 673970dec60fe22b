import Mathlib.Data.List.TakeWhile
import MeshSidecar.Quantity

namespace MeshSidecar.Quantity

/-!
# The grammar of quantities

The grammar reads a quantity as a sign, a number and a suffix, and says nothing of how to
find where one ends and the next begins.  The check cuts a text once, behind the longest run
of digits and points.  Both come to the same because a number consists of digits and points
and no suffix starts with one: however the grammar reads a text, it reads it at that cut.
-/

/-! ## The grammar -/

/-- A sign, which may be missing. -/
inductive Sign : List Char → Prop
  | none : Sign []
  | plus : Sign ['+']
  | minus : Sign ['-']

/-- One digit or more. -/
structure Digits (cs : List Char) : Prop where
  some : cs ≠ []
  digits : ∀ c ∈ cs, c.isDigit

/-- Digits, which may have a point with further digits behind them, or a point with digits. -/
inductive Number : List Char → Prop
  | whole {digits : List Char} : Digits digits → Number digits
  | decimal {digits decimals : List Char} : Digits digits → (∀ c ∈ decimals, c.isDigit) →
      Number (digits ++ '.' :: decimals)
  | fraction {decimals : List Char} : Digits decimals → Number ('.' :: decimals)

/-- The units in which quantities are counted. -/
def unitNames : List String :=
  ["", "Ki", "Mi", "Gi", "Ti", "Pi", "Ei", "n", "u", "m", "k", "M", "G", "T", "P", "E"]

/-- A unit, or an exponent of ten. -/
inductive Suffix : List Char → Prop
  | unit {name : String} : name ∈ unitNames → Suffix name.toList
  | exponent {mark : Char} {sign digits : List Char} : mark = 'e' ∨ mark = 'E' → Sign sign →
      Digits digits → Suffix (mark :: (sign ++ digits))

/-- A text that the grammar reads as a quantity. -/
inductive Spelled : List Char → Prop
  | intro {sign number suffix : List Char} : Sign sign → Number number → Suffix suffix →
      Spelled (sign ++ number ++ suffix)

/-! ## The cut -/

/-- A text, its sign, the longest run of digits and points behind the sign, and the rest. -/
structure Cut (cs sign run rest : List Char) : Prop where
  whole : cs = sign ++ run ++ rest
  isSign : Sign sign
  signed : sign = [] → ∀ c, cs.head? = some c → c ≠ '+' ∧ c ≠ '-'
  numeric : ∀ c ∈ run, isNumberChar c
  longest : ∀ c, rest.head? = some c → isNumberChar c = false

/-- A run that is no number: it is empty, a lone point, or has more than one point. -/
def Misshapen (run : List Char) : Prop :=
  run = [] ∨ run = ['.'] ∨ 1 < run.count '.'

instance (run : List Char) : Decidable (Misshapen run) :=
  inferInstanceAs (Decidable (_ ∨ _ ∨ _))

theorem isNumberChar_of_isDigit {c : Char} (digit : c.isDigit) : isNumberChar c := by
  rw [isNumberChar, digit]
  rfl

theorem isDigit_of_isNumberChar {c : Char} (numeric : isNumberChar c) (other : c ≠ '.') :
    c.isDigit := by
  simpa [isNumberChar, other] using numeric

theorem not_sign_of_isNumberChar {c : Char} (numeric : isNumberChar c) : c ≠ '+' ∧ c ≠ '-' := by
  constructor
  · rintro rfl
    revert numeric
    decide
  · rintro rfl
    revert numeric
    decide

/-- What is put behind a sign is found again, unless it starts with a sign of its own. -/
theorem unsigned_append {sign cs : List Char} (isSign : Sign sign)
    (plain : sign = [] → ∀ c, cs.head? = some c → c ≠ '+' ∧ c ≠ '-') :
    unsigned (sign ++ cs) = cs := by
  cases isSign with
  | plus => rfl
  | minus => rfl
  | none =>
      cases cs with
      | nil => rfl
      | cons c cs =>
          rcases plain rfl c rfl with ⟨notPlus, notMinus⟩
          simp [unsigned, notPlus, notMinus]

theorem exists_sign (cs : List Char) : ∃ sign, Sign sign ∧ cs = sign ++ unsigned cs ∧
    (sign = [] → ∀ c, cs.head? = some c → c ≠ '+' ∧ c ≠ '-') := by
  unfold unsigned
  split
  · exact ⟨['+'], .plus, rfl, nofun⟩
  · exact ⟨['-'], .minus, rfl, nofun⟩
  · next notPlus notMinus =>
      refine ⟨[], .none, rfl, ?_⟩
      intro _ c first
      cases cs with
      | nil => cases first
      | cons head cs =>
          cases first
          exact ⟨fun same => notPlus cs (by rw [same]), fun same => notMinus cs (by rw [same])⟩

theorem head?_dropWhile (cs : List Char) :
    ∀ c, (cs.dropWhile isNumberChar).head? = some c → isNumberChar c = false := by
  intro c first
  have stops := cs.head?_dropWhile_not isNumberChar
  rw [first] at stops
  exact stops

/-- Every text is cut. -/
theorem exists_cut (cs : List Char) : ∃ sign run rest, Cut cs sign run rest := by
  rcases exists_sign cs with ⟨sign, isSign, whole, plain⟩
  refine ⟨sign, (unsigned cs).takeWhile isNumberChar, (unsigned cs).dropWhile isNumberChar, ?_⟩
  constructor
  case whole => rw [List.append_assoc, List.takeWhile_append_dropWhile, ← whole]
  case isSign => exact isSign
  case signed => exact plain
  case numeric => exact List.all_eq_true.mp List.all_takeWhile
  case longest => exact head?_dropWhile _

namespace Cut

variable {cs sign run rest : List Char}

theorem unsigned_eq (cut : Cut cs sign run rest) : unsigned cs = run ++ rest := by
  rw [cut.whole, List.append_assoc]
  apply unsigned_append cut.isSign
  intro noSign c first
  apply cut.signed noSign
  rw [cut.whole, noSign]
  exact first

theorem takeWhile_eq (cut : Cut cs sign run rest) :
    (run ++ rest).takeWhile isNumberChar = run := by
  rw [List.takeWhile_append_of_pos cut.numeric]
  cases rest with
  | nil => exact List.append_nil run
  | cons c rest =>
      rw [List.takeWhile_cons_of_neg (by rw [cut.longest c rfl]; exact Bool.false_ne_true),
        List.append_nil]

theorem dropWhile_eq (cut : Cut cs sign run rest) :
    (run ++ rest).dropWhile isNumberChar = rest := by
  rw [List.dropWhile_append_of_pos cut.numeric]
  cases rest with
  | nil => rfl
  | cons c rest =>
      rw [List.dropWhile_cons_of_neg (by rw [cut.longest c rfl]; exact Bool.false_ne_true)]

/-- What is wrong with a text shows in the parts that it is cut into. -/
theorem fault?_eq (cut : Cut cs sign run rest) : fault? cs =
    if isNumber run = false then some .number
    else if isSuffix rest = false then some .suffix
    else none := by
  simp only [fault?, cut.unsigned_eq, cut.takeWhile_eq, cut.dropWhile_eq, Bool.not_eq_true']

end Cut

/-! ## Numbers -/

namespace Number

variable {number : List Char}

theorem isNumberChar (isNumber : Number number) : ∀ c ∈ number, isNumberChar c := by
  intro c member
  cases isNumber with
  | whole digits => exact isNumberChar_of_isDigit (digits.digits c member)
  | decimal digits decimals =>
      rcases List.mem_append.mp member with before | behind
      · exact isNumberChar_of_isDigit (digits.digits c before)
      · rcases List.mem_cons.mp behind with rfl | decimal
        · rfl
        · exact isNumberChar_of_isDigit (decimals c decimal)
  | fraction decimals =>
      rcases List.mem_cons.mp member with rfl | decimal
      · rfl
      · exact isNumberChar_of_isDigit (decimals.digits c decimal)

theorem ne_nil (isNumber : Number number) : number ≠ [] := by
  cases isNumber with
  | whole digits => exact digits.some
  | decimal digits decimals => simp
  | fraction decimals => exact List.cons_ne_nil _ _

end Number

theorem isDigit_of_subset {run part : List Char} (numeric : ∀ c ∈ run, isNumberChar c)
    (included : part ⊆ run) (noPoint : '.' ∉ part) : ∀ c ∈ part, c.isDigit := by
  intro c member
  exact isDigit_of_isNumberChar (numeric c (included member)) fun same => noPoint (same ▸ member)

theorem not_mem_of_digits {cs : List Char} (digits : ∀ c ∈ cs, c.isDigit) : '.' ∉ cs := by
  intro member
  exact absurd (digits '.' member) (by decide)

theorem bne_of_not_mem {cs : List Char} (noPoint : '.' ∉ cs) : ∀ c ∈ cs, c != '.' := by
  intro c member
  rw [bne_iff_ne]
  exact fun same => noPoint (same ▸ member)

/-- Without a point the whole run stands before the cut. -/
theorem isNumber_of_whole {run : List Char} (noPoint : '.' ∉ run) :
    isNumber run = !run.isEmpty := by
  have others := bne_of_not_mem noPoint
  rw [isNumber, List.dropWhile_eq_nil_iff.mpr others, List.takeWhile_eq_self_iff.mpr others]

/-- The run is cut where its first point stands. -/
theorem isNumber_of_point {whole : List Char} (noPoint : '.' ∉ whole) (fraction : List Char) :
    isNumber (whole ++ '.' :: fraction) =
      (!fraction.contains '.' && (!whole.isEmpty || !fraction.isEmpty)) := by
  have others := bne_of_not_mem noPoint
  have before : (whole ++ '.' :: fraction).takeWhile (· != '.') = whole := by
    rw [List.takeWhile_append_of_pos others, List.takeWhile_cons_of_neg (by decide),
      List.append_nil]
  have behind : (whole ++ '.' :: fraction).dropWhile (· != '.') = '.' :: fraction := by
    rw [List.dropWhile_append_of_pos others, List.dropWhile_cons_of_neg (by decide)]
  rw [isNumber, before, behind]

theorem isNumber_of_number {run : List Char} (number : Number run) : isNumber run := by
  cases number with
  | whole digits =>
      simp [isNumber_of_whole (not_mem_of_digits digits.digits), digits.some]
  | decimal digits decimals =>
      simp [isNumber_of_point (not_mem_of_digits digits.digits), not_mem_of_digits decimals,
        digits.some]
  | fraction decimals =>
      refine (isNumber_of_point List.not_mem_nil _).trans ?_
      simp [not_mem_of_digits decimals.digits, decimals.some]

/-- A run has a shape of its own where its first point stands. -/
theorem number_of_isNumber {run : List Char} (numeric : ∀ c ∈ run, isNumberChar c)
    (accepted : isNumber run) : Number run := by
  by_cases pointed : '.' ∈ run
  · rcases List.eq_append_cons_of_mem pointed with ⟨digits, decimals, rfl, noPoint⟩
    rw [isNumber_of_point noPoint, Bool.and_eq_true, Bool.not_eq_true', List.contains_eq_mem,
      decide_eq_false_iff_not] at accepted
    rcases accepted with ⟨onlyPoint, some⟩
    have before := isDigit_of_subset numeric (List.subset_append_left _ _) noPoint
    have behind := isDigit_of_subset numeric (by simp) onlyPoint
    cases digits with
    | nil =>
        have decimal : decimals ≠ [] := by simpa using some
        exact .fraction ⟨decimal, behind⟩
    | cons c digits => exact .decimal ⟨List.cons_ne_nil _ _, before⟩ behind
  · rw [isNumber_of_whole pointed] at accepted
    have some : run ≠ [] := by simpa using accepted
    exact .whole ⟨some, isDigit_of_subset numeric (List.Subset.refl run) pointed⟩

/-- Of digits, any run has one unless it is empty. -/
theorem any_isDigit_of_digits {cs : List Char} (digits : ∀ c ∈ cs, c.isDigit) :
    cs.any Char.isDigit = !cs.isEmpty := by
  cases cs with
  | nil => rfl
  | cons c cs => simp [digits c List.mem_cons_self]

/-- Of digits and points, the numbers are the runs with a digit and at most one point. -/
theorem isNumber_eq {run : List Char} (numeric : ∀ c ∈ run, isNumberChar c) :
    isNumber run = (run.any Char.isDigit && run.count '.' ≤ 1) := by
  by_cases pointed : '.' ∈ run
  · rcases List.eq_append_cons_of_mem pointed with ⟨whole, fraction, rfl, noPoint⟩
    have before := isDigit_of_subset numeric (List.subset_append_left _ _) noPoint
    rw [isNumber_of_point noPoint, List.count_append, List.count_eq_zero.mpr noPoint,
      List.count_cons_self, List.any_append, any_isDigit_of_digits before]
    by_cases further : '.' ∈ fraction
    · have counted : fraction.count '.' ≠ 0 := fun none => List.count_eq_zero.mp none further
      simp [further, counted]
    · have behind := isDigit_of_subset numeric (by simp) further
      have point : Char.isDigit '.' = false := rfl
      simp [List.count_eq_zero.mpr further, further, point, any_isDigit_of_digits behind]
  · have digits := isDigit_of_subset numeric (List.Subset.refl run) pointed
    simp [isNumber_of_whole pointed, any_isDigit_of_digits digits, List.count_eq_zero.mpr pointed]

/-- Of digits and points, all runs are numbers but those that are misshapen. -/
theorem isNumber_eq_false_iff {run : List Char} (numeric : ∀ c ∈ run, isNumberChar c) :
    isNumber run = false ↔ Misshapen run := by
  rw [isNumber_eq numeric]
  constructor
  · intro refused
    by_cases points : 1 < run.count '.'
    · exact Or.inr (Or.inr points)
    · -- There is no digit, so there is nothing but points, and at most one.
      have noDigit : ∀ c ∈ run, c = '.' := by
        intro c member
        apply Decidable.byContradiction
        intro other
        have digit : run.any Char.isDigit :=
          List.any_eq_true.mpr ⟨c, member, isDigit_of_isNumberChar (numeric c member) other⟩
        rw [digit, Bool.true_and, decide_eq_false_iff_not] at refused
        omega
      have alike := List.eq_replicate_of_mem noDigit
      match length : run.length with
      | 0 => exact Or.inl (List.length_eq_zero_iff.mp length)
      | 1 =>
          rw [length] at alike
          exact Or.inr (Or.inl alike)
      | more + 2 =>
          rw [alike, length, List.count_replicate_self] at points
          omega
  · rintro (rfl | rfl | points)
    · rfl
    · rfl
    · rw [Bool.and_eq_false_iff, decide_eq_false_iff_not]
      exact Or.inr (by omega)

/-! ## Suffixes -/

theorem units_eq : units = unitNames.map String.toList := by
  decide

/-- An exponent is a mark with digits behind it, before which may stand a sign. -/
theorem isExponent_iff (cs : List Char) : isExponent cs ↔
    ∃ mark sign digits, (mark = 'e' ∨ mark = 'E') ∧ Sign sign ∧ Digits digits ∧
      cs = mark :: (sign ++ digits) := by
  constructor
  · intro accepted
    cases cs with
    | nil => cases accepted
    | cons mark rest =>
        simp only [isExponent, Bool.and_eq_true, Bool.or_eq_true, beq_iff_eq, bne_iff_ne, ne_eq,
          List.all_eq_true] at accepted
        rcases accepted with ⟨⟨marked, some⟩, digits⟩
        rcases exists_sign rest with ⟨sign, isSign, whole, -⟩
        exact ⟨mark, sign, unsigned rest, marked, isSign, ⟨some, digits⟩, by rw [← whole]⟩
  · rintro ⟨mark, sign, digits, marked, isSign, isDigits, rfl⟩
    have found : unsigned (sign ++ digits) = digits := by
      apply unsigned_append isSign
      intro _ c first
      have digit := isDigits.digits c (List.mem_of_head? first)
      exact not_sign_of_isNumberChar (isNumberChar_of_isDigit digit)
    simp only [isExponent, found, Bool.and_eq_true, Bool.or_eq_true, beq_iff_eq, bne_iff_ne, ne_eq,
      List.all_eq_true]
    exact ⟨⟨marked, isDigits.some⟩, isDigits.digits⟩

theorem isSuffix_iff (cs : List Char) : isSuffix cs ↔ Suffix cs := by
  rw [isSuffix, Bool.or_eq_true, List.contains_iff_mem, isExponent_iff, units_eq, List.mem_map]
  constructor
  · rintro (⟨name, listed, rfl⟩ | ⟨mark, sign, digits, marked, isSign, isDigits, rfl⟩)
    · exact .unit listed
    · exact .exponent marked isSign isDigits
  · intro suffix
    cases suffix with
    | unit listed => exact Or.inl ⟨_, listed, rfl⟩
    | exponent marked isSign isDigits =>
        exact Or.inr ⟨_, _, _, marked, isSign, isDigits, rfl⟩

/-- No suffix starts with a character that could belong to the number. -/
theorem Suffix.head?_not_numeric {cs : List Char} (suffix : Suffix cs) :
    ∀ c, cs.head? = some c → isNumberChar c = false := by
  intro c first
  cases suffix with
  | unit listed =>
      have letters : units.all fun cs => cs.head?.all fun c => !isNumberChar c := by
        decide
      have member := List.mem_map_of_mem (f := String.toList) listed
      rw [← units_eq] at member
      have letter := List.all_eq_true.mp letters _ member
      rw [first] at letter
      simpa using letter
  | exponent marked isSign isDigits =>
      cases first
      rcases marked with rfl | rfl
      · rfl
      · rfl

/-! ## The check -/

/-- However the grammar reads a text, it reads it at the cut. -/
theorem cut_of_parts {sign number suffix : List Char} (isSign : Sign sign)
    (isNumber : Number number) (isSuffix : Suffix suffix) :
    Cut (sign ++ number ++ suffix) sign number suffix where
  whole := rfl
  isSign := isSign
  signed := by
    rintro rfl c first
    cases number with
    | nil => exact absurd rfl isNumber.ne_nil
    | cons head number =>
        have same : head = c := Option.some.inj first
        exact not_sign_of_isNumberChar (isNumber.isNumberChar c (same ▸ List.mem_cons_self))
  numeric := isNumber.isNumberChar
  longest := isSuffix.head?_not_numeric

theorem fault?_eq_none_iff (cs : List Char) : fault? cs = none ↔ Spelled cs := by
  constructor
  · intro accepted
    rcases exists_cut cs with ⟨sign, run, rest, cut⟩
    rw [cut.fault?_eq] at accepted
    cases number : isNumber run with
    | false => simp [number] at accepted
    | true =>
        cases suffix : isSuffix rest with
        | false => simp [number, suffix] at accepted
        | true =>
            rw [cut.whole]
            exact .intro cut.isSign (number_of_isNumber cut.numeric number)
              ((isSuffix_iff rest).mp suffix)
  · rintro ⟨isSign, isNumber, isSuffix⟩
    rw [(cut_of_parts isSign isNumber isSuffix).fault?_eq, isNumber_of_number isNumber,
      (isSuffix_iff _).mpr isSuffix]
    rfl

/-- A text that is no quantity fails for its number, or else for its suffix. -/
theorem Cut.fault?_of_not_spelled {cs sign run rest : List Char} (cut : Cut cs sign run rest)
    (refused : ¬ Spelled cs) :
    fault? cs = some (if Misshapen run then .number else .suffix) := by
  have shape := isNumber_eq_false_iff cut.numeric
  rw [← fault?_eq_none_iff, cut.fault?_eq] at refused
  rw [cut.fault?_eq]
  by_cases misshapen : Misshapen run
  · rw [if_pos (shape.mpr misshapen), if_pos misshapen]
  · have number : isNumber run ≠ false := fun noNumber => misshapen (shape.mp noNumber)
    rw [if_neg number] at refused ⊢
    rw [if_neg misshapen]
    split at refused
    · next noSuffix => rw [if_pos noSuffix]
    · exact absurd rfl refused

theorem Cut.isValid {text : String} {sign run rest : List Char}
    (cut : Cut text.toList sign run rest) :
    String.Pos.Raw.IsValid text (String.ofList (sign ++ run)).rawEndPos := by
  rw [String.Pos.Raw.isValid_iff_exists_append]
  refine ⟨_, String.ofList rest, ?_, rfl⟩
  rw [← String.ofList_append, ← cut.whole, String.ofList_toList]

/-- A text is taken for a quantity, and then kept as it is written, exactly when the grammar
reads it as one.  Any other text is reported as it is written, for its number when the run
of digits and points is misshapen and for its suffix when not.  The place of the cut, counted
in bytes, lies between two characters of every text. -/
theorem parse_iff_spelled (text : String) :
    (parse text = .ok text ↔ Spelled text.toList) ∧
    (∀ quantity, parse text = .ok quantity → quantity = text) ∧
    ∃ sign run rest, Cut text.toList sign run rest ∧
      String.Pos.Raw.IsValid text (String.ofList (sign ++ run)).rawEndPos ∧
      (¬ Spelled text.toList →
        parse text = .error ⟨text, if Misshapen run then .number else .suffix⟩) := by
  rcases exists_cut text.toList with ⟨sign, run, rest, cut⟩
  have accepts := fault?_eq_none_iff text.toList
  rw [parse]
  refine ⟨?_, ?_, sign, run, rest, cut, cut.isValid, ?_⟩
  · rw [← accepts]
    cases fault? text.toList with
    | none => simp
    | some fault => simp
  · intro quantity succeeds
    cases found : fault? text.toList with
    | none =>
        rw [found] at succeeds
        exact (Except.ok.inj succeeds).symm
    | some fault =>
        rw [found] at succeeds
        cases succeeds
  · intro refused
    rw [cut.fault?_of_not_spelled refused]

end MeshSidecar.Quantity
