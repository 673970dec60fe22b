import MeshSidecar.Json.Printer
import MeshSidecar.Json.Reader
import MeshSidecar.Proofs.Text.Decimal
import MeshSidecar.Text.Blank

namespace MeshSidecar.Json

/-!
# Reading parts of a text

The reader is a machine, so what it makes of a part of a text can be said for the
part alone: from which states it leads to which.  A value is delivered by its
last character, except that a number ends only where something else begins.  The
statements about values therefore include the character behind the value.

Arrays and objects are read by one argument, since they differ only in the
characters and states of their `Layout`.  Blanks may stand before every part and
behind the last one.
-/

namespace Reader

/-- The characters that may stand directly behind a value in an array or
object. -/
def EndsValue (c : Char) : Prop :=
  c ∈ [',', ']', '}', ' ', '\n', '\t', '\r']

theorem EndsValue.holds {c : Char} {p : Char → Bool} (ends : EndsValue c)
    (all : [',', ']', '}', ' ', '\n', '\t', '\r'].all p) : p c :=
  List.all_eq_true.mp all c ends

theorem endsValue_of_isSpace {c : Char} (blank : isSpace c) : EndsValue c := by
  simp only [isSpace, Bool.or_eq_true, beq_iff_eq] at blank
  rcases blank with ((rfl | rfl) | rfl) | rfl <;> simp [EndsValue]

/-- Where the first item of an array may stand, `cs` is read as any value. -/
def OpensValue (cs : List Char) : Prop :=
  ∀ stack rest, run ⟨.firstItem, stack⟩ (cs ++ rest) = run ⟨.value, stack⟩ (cs ++ rest)

/-- Reading `cs` where a value may stand delivers `value`. -/
structure ReadsValue (cs : List Char) (value : Json) : Prop where
  opens : OpensValue cs
  delivers : ∀ stack c, EndsValue c →
    run ⟨.value, stack⟩ (cs ++ [c]) = (deliver value stack).bind (afterValue c)

/-- As `ReadsValue`, for a value that its own last character ends. -/
structure ReadsClosed (cs : List Char) (value : Json) : Prop where
  opens : OpensValue cs
  delivers : ∀ stack, run ⟨.value, stack⟩ cs = deliver value stack

theorem run_cons (reader : Reader) (c : Char) (cs : List Char) :
    run reader (c :: cs) = (reader.step c).bind fun next => run next cs := by
  simp [run]

@[simp]
theorem run_nil (reader : Reader) : run reader [] = some reader := by
  simp [run]

/-- What delivers a value leaves the reader behind it. -/
theorem step_of_deliver {value : Json} {stack : List Frame} {reader : Reader}
    (delivered : deliver value stack = some reader) (c : Char) :
    reader.step c = afterValue c reader := by
  cases stack with
  | nil =>
      simp only [deliver, Option.some_inj] at delivered
      subst delivered
      rfl
  | cons frame stack =>
      cases frame with
      | items done =>
          simp only [deliver, Option.some_inj] at delivered
          subst delivered
          rfl
      | member done key =>
          simp only [deliver, Option.some_inj] at delivered
          subst delivered
          rfl
      | members done => simp [deliver] at delivered

theorem ReadsClosed.readsValue {cs : List Char} {value : Json} (reads : ReadsClosed cs value) :
    ReadsValue cs value where
  opens := reads.opens
  delivers := by
    intro stack c _
    rw [run_append, reads.delivers]
    cases delivered : deliver value stack with
    | none => rfl
    | some reader => simp [run_cons, step_of_deliver delivered]

theorem opensValue_of_head {cs : List Char} (head : cs.head?.any fun c => !isSpace c && c != ']') :
    OpensValue cs := by
  intro stack rest
  cases cs with
  | nil => simp at head
  | cons c cs =>
      simp only [List.head?_cons, Option.any_some, Bool.and_eq_true, Bool.not_eq_true',
        bne_iff_ne] at head
      rw [List.cons_append, run_cons, run_cons]
      simp [step, head.1, head.2]

/-! ## Blanks -/

/-- Blanks change nothing where each of them changes nothing. -/
theorem run_blanks {reader : Reader} (stays : ∀ c, isSpace c → reader.step c = some reader)
    {lead : List Char} (blank : lead.all isSpace) : run reader lead = some reader := by
  induction lead with
  | nil => exact run_nil reader
  | cons c lead ih =>
      rw [List.all_cons, Bool.and_eq_true] at blank
      rw [run_cons, stays c blank.1, Option.bind_some, ih blank.2]

theorem step_value {c : Char} (blank : isSpace c) (stack : List Frame) :
    step ⟨.value, stack⟩ c = some ⟨.value, stack⟩ := by
  simp [step, blank]

theorem step_firstItem {c : Char} (blank : isSpace c) (stack : List Frame) :
    step ⟨.firstItem, stack⟩ c = some ⟨.firstItem, stack⟩ := by
  simp [step, blank]

/-- Blanks may stand before a value. -/
theorem ReadsValue.gap {lead cs : List Char} {value : Json} (blank : lead.all isSpace)
    (reads : ReadsValue cs value) : ReadsValue (lead ++ cs) value where
  opens := by
    intro stack rest
    rw [List.append_assoc, run_append, run_append,
      run_blanks (fun _ isBlank => step_firstItem isBlank stack) blank,
      run_blanks (fun _ isBlank => step_value isBlank stack) blank]
    exact reads.opens stack rest
  delivers := by
    intro stack c ends
    rw [List.append_assoc, run_append,
      run_blanks (fun _ isBlank => step_value isBlank stack) blank]
    exact reads.delivers stack c ends

/-! ## Strings -/

/-- Reading `cs` inside a string adds the characters of `text` to it. -/
def ReadsChars (cs text : List Char) : Prop :=
  ∀ isKey done stack, run ⟨.text isKey done .plain, stack⟩ cs =
    some ⟨.text isKey (text.reverse ++ done) .plain, stack⟩

theorem ReadsChars.append {cs ds text more : List Char} (first : ReadsChars cs text)
    (second : ReadsChars ds more) : ReadsChars (cs ++ ds) (text ++ more) := by
  intro isKey done stack
  rw [run_append, first, Option.bind_some, second]
  simp

/-- Whether a character stands for itself inside a string. -/
def isPlain (c : Char) : Bool :=
  c != '"' && c != '\\' && 0x20 ≤ c.toNat

theorem readsChars_of_isPlain {c : Char} (plain : isPlain c) : ReadsChars [c] [c] := by
  intro isKey done stack
  simp only [isPlain, Bool.and_eq_true, bne_iff_ne, decide_eq_true_eq] at plain
  rcases plain with ⟨⟨noQuote, noEscape⟩, noControl⟩
  have printable : ¬ c.toNat < 0x20 := by omega
  simp [run_cons, step, insideText, noQuote, noEscape, printable]

theorem readsChars_plain {cs : List Char} (plain : cs.all isPlain) : ReadsChars cs cs := by
  induction cs with
  | nil =>
      intro isKey done stack
      simp
  | cons c cs ih =>
      simp only [List.all_cons, Bool.and_eq_true] at plain
      exact (readsChars_of_isPlain plain.1).append (ih plain.2)

theorem hexValue?_hexChar {d : Nat} (small : d < 16) :
    Text.hexValue? (Text.hexChar d) = some d := by
  have all : ∀ d : Fin 16, Text.hexValue? (Text.hexChar d) = some d.val := by decide
  exact all ⟨d, small⟩

/-- Four digits give a character outside the range of surrogates. -/
theorem readsChars_fourHex {c : Char} (low : c.toNat < 0xD800) :
    ReadsChars (['\\', 'u'] ++ fourHex c.toNat) [c] := by
  intro isKey done stack
  have first : c.toNat / 4096 % 16 < 16 := Nat.mod_lt _ (by decide)
  have second : c.toNat / 256 % 16 < 16 := Nat.mod_lt _ (by decide)
  have third : c.toNat / 16 % 16 < 16 := Nat.mod_lt _ (by decide)
  have fourth : c.toNat % 16 < 16 := Nat.mod_lt _ (by decide)
  have value : 16 * (16 * (16 * (c.toNat / 4096 % 16) + c.toNat / 256 % 16) +
      c.toNat / 16 % 16) + c.toNat % 16 = c.toNat := by
    omega
  have noHigh : ¬ (0xD800 ≤ c.toNat ∧ c.toNat < 0xDC00) := by omega
  have noLow : ¬ (0xDC00 ≤ c.toNat ∧ c.toNat < 0xE000) := by omega
  simp [run_cons, step, insideText, fourHex, hexValue?_hexChar first, hexValue?_hexChar second,
    hexValue?_hexChar third, hexValue?_hexChar fourth, value, deliverUnit, noHigh, noLow]

theorem readsChars_escapeChar (c : Char) : ReadsChars (escapeChar c) [c] := by
  by_cases short : c ∈ ['"', '\\', '\n', '\r', '\t', '\x08', '\x0c']
  · simp only [List.mem_cons, List.not_mem_nil, or_false] at short
    rcases short with rfl | rfl | rfl | rfl | rfl | rfl | rfl <;> exact fun _ _ _ => rfl
  · simp only [List.mem_cons, List.not_mem_nil, or_false, not_or] at short
    by_cases control : c.toNat < 0x20
    · have escaped : escapeChar c = ['\\', 'u'] ++ fourHex c.toNat := by
        simp [escapeChar, short, control]
      rw [escaped]
      exact readsChars_fourHex (by omega)
    · have itself : escapeChar c = [c] := by
        simp [escapeChar, short, control]
      rw [itself]
      apply readsChars_of_isPlain
      simp [isPlain, short, Nat.le_of_not_lt control]

theorem readsChars_embedChar (c : Char) : ReadsChars (embedChar c) [c] := by
  unfold embedChar
  split
  · next markup => exact readsChars_fourHex (by rcases markup with rfl | rfl | rfl | rfl <;> decide)
  · exact readsChars_escapeChar c

/-- Characters that are read one by one are read one after the other. -/
theorem readsChars_flatMap {escape : Char → List Char} (each : ∀ c, ReadsChars (escape c) [c])
    (cs : List Char) : ReadsChars (cs.flatMap escape) cs := by
  induction cs with
  | nil =>
      intro isKey done stack
      simp
  | cons c cs ih => exact (each c).append ih

theorem ReadsChars.readsClosed {cs text : List Char} (reads : ReadsChars cs text) :
    ReadsClosed ('"' :: cs ++ ['"']) (.str (String.ofList text)) where
  opens := opensValue_of_head rfl
  delivers := by
    intro stack
    have opened : run ⟨.value, stack⟩ ['"'] = some ⟨.text false [] .plain, stack⟩ := rfl
    have closed : run ⟨.text false text.reverse .plain, stack⟩ ['"'] =
        deliver (.str (String.ofList text)) stack := by
      simp [run_cons, step, insideText, closeText]
    rw [← List.singleton_append, run_append, run_append, opened, Option.bind_some, reads]
    simp [closed]

/-- A written text is read as the text. -/
theorem readsClosed_text {escape : Char → List Char} (each : ∀ c, ReadsChars (escape c) [c])
    (text : String) : ReadsClosed (write escape (.str text)) (.str text) := by
  have reads := (readsChars_flatMap each text.toList).readsClosed
  simpa [write, writeText] using reads

/-! ## Words and whole numbers -/

theorem readsValue_word {cs : List Char} {value : Json} (opens : cs.head?.any Char.isLower)
    (continues : ∀ stack, run ⟨.value, stack⟩ cs = some ⟨.word cs.reverse, stack⟩)
    (read : readWord cs = some value) : ReadsValue cs value where
  opens := by
    refine opensValue_of_head ?_
    cases cs with
    | nil => cases opens
    | cons c cs =>
        have lower : c.isLower := opens
        have other : ∀ d : Char, d.isLower = false → c ≠ d := by
          intro d upper same
          rw [same, upper] at lower
          cases lower
        simp [isSpace, other ' ' rfl, other '\n' rfl, other '\t' rfl, other '\r' rfl, other ']' rfl]
  delivers := by
    intro stack c ends
    have upper : c.isLower = false := by
      simpa using ends.holds (p := fun c => !c.isLower) rfl
    have ended : step ⟨.word cs.reverse, stack⟩ c = (deliver value stack).bind (afterValue c) := by
      simp [step, upper, read]
    rw [run_append, continues, Option.bind_some, run_cons, ended]
    simp

theorem readsValue_null : ReadsValue ['n', 'u', 'l', 'l'] .null :=
  readsValue_word rfl (fun _ => rfl) rfl

theorem readsValue_bool (value : Bool) (escape : Char → List Char) :
    ReadsValue (write escape (.bool value)) (.bool value) := by
  cases value with
  | false => exact readsValue_word rfl (fun _ => rfl) rfl
  | true => exact readsValue_word rfl (fun _ => rfl) rfl

theorem step_number {done : List Char} {stack : List Frame} {c : Char} (digit : c.isDigit) :
    step ⟨.number done, stack⟩ c = some ⟨.number (c :: done), stack⟩ := by
  simp [step, isNumberChar, digit]

theorem run_number {cs : List Char} (digits : ∀ c ∈ cs, c.isDigit) (done : List Char)
    (stack : List Frame) :
    run ⟨.number done, stack⟩ cs = some ⟨.number (cs.reverse ++ done), stack⟩ := by
  induction cs generalizing done with
  | nil => simp
  | cons c cs ih =>
      have first := digits c List.mem_cons_self
      have later : ∀ d ∈ cs, d.isDigit := fun d member => digits d (List.mem_cons_of_mem _ member)
      rw [run_cons, step_number first, Option.bind_some, ih later]
      simp

theorem step_endOfNumber {done : List Char} {stack : List Frame} {c : Char} {value : Json}
    (ends : EndsValue c) (read : readNumber done.reverse = some value) :
    step ⟨.number done, stack⟩ c = (deliver value stack).bind (afterValue c) := by
  have other : isNumberChar c = false := by
    simpa using ends.holds (p := fun c => !isNumberChar c) rfl
  simp [step, other, read]

theorem isDigit_ne {c d : Char} (digit : c.isDigit) (other : d.isDigit = false) : c ≠ d := by
  intro same
  rw [same, other] at digit
  exact Bool.false_ne_true digit

theorem takeWhile_digits (n : Nat) : (Text.digits n).takeWhile Char.isDigit = Text.digits n := by
  have taken : (Text.digits n ++ []).takeWhile Char.isDigit = Text.digits n ++ [] :=
    List.takeWhile_append_of_pos (Text.isDigit_of_mem_digits n)
  simpa using taken

theorem dropWhile_digits (n : Nat) : (Text.digits n).dropWhile Char.isDigit = [] := by
  have dropped : (Text.digits n ++ []).dropWhile Char.isDigit = [] :=
    List.dropWhile_append_of_pos (Text.isDigit_of_mem_digits n)
  simpa using dropped

/-- Digits have no leading zero that would make them unreadable. -/
theorem digits_canonical (n : Nat) :
    ¬ (Text.digits n = [] ∨ ((Text.digits n).head? = some '0' ∧ Text.digits n ≠ ['0'])) := by
  rintro (none | ⟨leading, more⟩)
  · exact Text.digits_ne_nil n none
  · have zero : n = 0 := Text.head?_digits leading
    rw [zero] at more
    exact more Text.digits_zero

theorem readNumber_digits (n : Nat) : readNumber (Text.digits n) = some (.int n) := by
  have canonical := digits_canonical n
  have noSign : ∀ rest, Text.digits n ≠ '-' :: rest := by
    intro rest same
    have sign := Text.isDigit_of_mem_digits n '-' (by simp [same])
    exact absurd sign (by decide)
  unfold readNumber
  split
  rename_i negative unsigned split
  split at split
  · next rest same => exact absurd same (noSign rest)
  · cases split
    simp only [takeWhile_digits, dropWhile_digits, if_neg canonical, Text.digitsValue_digits]
    simp

theorem readNumber_negative (n : Nat) :
    readNumber ('-' :: Text.digits (n + 1)) = some (.int (.negSucc n)) := by
  have canonical := digits_canonical (n + 1)
  simp only [readNumber, takeWhile_digits, dropWhile_digits, if_neg canonical,
    Text.digitsValue_digits]
  simp [Int.negSucc_eq]

/-- A written whole number is read as the number. -/
theorem readsValue_int (number : Int) : ReadsValue (Text.intDigits number) (.int number) := by
  cases number with
  | ofNat n =>
      have nonempty := List.exists_cons_of_ne_nil (Text.digits_ne_nil n)
      rcases nonempty with ⟨d, ds, same⟩
      have allDigits : ∀ c ∈ d :: ds, c.isDigit := by
        rw [← same]
        exact Text.isDigit_of_mem_digits n
      have digit := allDigits d List.mem_cons_self
      have later : ∀ c ∈ ds, c.isDigit := fun c member =>
        allDigits c (List.mem_cons_of_mem _ member)
      have number : readNumber (ds.reverse ++ [d]).reverse = some (.int n) := by
        simpa [same] using readNumber_digits n
      have notBlank : isSpace d = false := by
        simp [isSpace, isDigit_ne digit (d := ' ') rfl, isDigit_ne digit (d := '\n') rfl,
          isDigit_ne digit (d := '\t') rfl, isDigit_ne digit (d := '\r') rfl]
      refine ⟨opensValue_of_head ?_, fun stack c ends => ?_⟩
      · simp [Text.intDigits, same, notBlank, isDigit_ne digit (d := ']') rfl]
      · have opened : step ⟨.value, stack⟩ d = some ⟨.number [d], stack⟩ := by
          simp [step, notBlank, openValue, digit, isDigit_ne digit (d := '"') rfl,
            isDigit_ne digit (d := '{') rfl, isDigit_ne digit (d := '[') rfl]
        rw [Text.intDigits, same, List.cons_append, run_cons, opened, Option.bind_some,
          run_append, run_number later, Option.bind_some, run_cons, step_endOfNumber ends number]
        simp
  | negSucc n =>
      have number : readNumber ((Text.digits (n + 1)).reverse ++ ['-']).reverse =
          some (.int (.negSucc n)) := by
        simpa using readNumber_negative n
      refine ⟨opensValue_of_head rfl, fun stack c ends => ?_⟩
      have opened : step ⟨.value, stack⟩ '-' = some ⟨.number ['-'], stack⟩ := rfl
      rw [Text.intDigits, List.cons_append, run_cons, opened, Option.bind_some, run_append,
        run_number (Text.isDigit_of_mem_digits _), Option.bind_some, run_cons,
        step_endOfNumber ends number]
      simp

/-! ## Arrays and objects -/

/-- The characters and states that tell arrays and objects apart.  `first` and
`next` say what may come before the first part and behind a comma.  Neither bracket is a
blank, and the closing one opens nothing. -/
structure Layout (α : Type) where
  opening : Char
  closing : Char
  first : Expecting
  next : Expecting
  frame : List α → Frame
  whole : List α → Json
  opens : ∀ stack, step ⟨.value, stack⟩ opening = some ⟨first, frame [] :: stack⟩
  skipsFirst : ∀ c, isSpace c → ∀ stack, step ⟨first, stack⟩ c = some ⟨first, stack⟩
  skipsNext : ∀ c, isSpace c → ∀ stack, step ⟨next, stack⟩ c = some ⟨next, stack⟩
  separates : ∀ done stack,
    step ⟨.separator, frame done :: stack⟩ ',' = some ⟨next, frame done :: stack⟩
  closes : ∀ done stack,
    step ⟨.separator, frame done :: stack⟩ closing = deliver (whole done.reverse) stack
  ends : EndsValue closing
  starts : isSpace opening = false ∧ opening ≠ ']'
  visible : Text.isBlank opening = false ∧ Text.isBlank closing = false
  shuts : closing ≠ '{'

def items : Layout Json where
  opening := '['
  closing := ']'
  first := .firstItem
  next := .value
  frame := .items
  whole := .arr
  opens := fun _ => rfl
  skipsFirst := fun _ blank => step_firstItem blank
  skipsNext := fun _ blank => step_value blank
  separates := fun _ _ => rfl
  closes := fun _ _ => rfl
  ends := by simp [EndsValue]
  starts := by decide
  visible := by decide
  shuts := by decide

def members : Layout (String × Json) where
  opening := '{'
  closing := '}'
  first := .firstKey
  next := .key
  frame := .members
  whole := ofMembers
  opens := fun _ => rfl
  skipsFirst := fun _ blank _ => by simp [step, blank]
  skipsNext := fun _ blank _ => by simp [step, blank]
  separates := fun _ _ => rfl
  closes := fun _ _ => rfl
  ends := by simp [EndsValue]
  starts := by decide
  visible := by decide
  shuts := by decide

namespace Layout

variable {α : Type} (layout : Layout α)

/-- Where a part may stand, the parts `done` having been read. -/
def before (done : List α) (stack : List Frame) : Reader where
  expecting := if done.isEmpty then layout.first else layout.next
  stack := layout.frame done :: stack

/-- Reading `cs` where a part may stand adds `parts`, behind which another may
stand. -/
def ReadsParts (cs : List Char) (parts : List α) : Prop :=
  ∀ done stack, run (layout.before done stack) cs =
    some (layout.before (parts.reverse ++ done) stack)

/-- Reading `cs` where a part may stand adds `parts`, of which the last ends with
what follows. -/
def ReadsLast (cs : List Char) (parts : List α) : Prop :=
  ∀ done stack c, EndsValue c → run (layout.before done stack) (cs ++ [c]) =
    step ⟨.separator, layout.frame (parts.reverse ++ done) :: stack⟩ c

/-- Reading `cs` where a part may stand adds one part. -/
def ReadsPart (cs : List Char) (part : α) : Prop :=
  layout.ReadsLast cs [part]

variable {layout}

theorem run_before {lead : List Char} (blank : lead.all isSpace) (done : List α)
    (stack : List Frame) :
    run (layout.before done stack) lead = some (layout.before done stack) := by
  refine run_blanks (fun c isBlank => ?_) blank
  cases done with
  | nil => exact layout.skipsFirst c isBlank _
  | cons => exact layout.skipsNext c isBlank _

theorem readsParts_nil : layout.ReadsParts [] [] := by
  intro done stack
  simp

theorem ReadsParts.append {cs ds : List Char} {parts more : List α}
    (first : layout.ReadsParts cs parts) (second : layout.ReadsParts ds more) :
    layout.ReadsParts (cs ++ ds) (parts ++ more) := by
  intro done stack
  rw [run_append, first, Option.bind_some, second]
  simp

/-- A comma makes room for the next part. -/
theorem ReadsLast.comma {cs : List Char} {parts : List α} (reads : layout.ReadsLast cs parts)
    (filled : parts ≠ []) : layout.ReadsParts (cs ++ [',']) parts := by
  intro done stack
  rw [reads done stack ',' (by simp [EndsValue]), layout.separates]
  simp [before, filled]

theorem ReadsPart.comma {cs : List Char} {part : α} (reads : layout.ReadsPart cs part) :
    layout.ReadsParts (cs ++ [',']) [part] :=
  ReadsLast.comma reads (List.cons_ne_nil _ _)

theorem ReadsParts.last {cs ds : List Char} {parts more : List α}
    (first : layout.ReadsParts cs parts) (second : layout.ReadsLast ds more) :
    layout.ReadsLast (cs ++ ds) (parts ++ more) := by
  intro done stack c ends
  rw [List.append_assoc, run_append, first, Option.bind_some, second _ _ c ends]
  simp

/-- Blanks may stand before a part. -/
theorem ReadsLast.gap {lead cs : List Char} {parts : List α} (blank : lead.all isSpace)
    (reads : layout.ReadsLast cs parts) : layout.ReadsLast (lead ++ cs) parts := by
  intro done stack c ends
  rw [List.append_assoc, run_append, run_before blank, Option.bind_some, reads done stack c ends]

/-- Blanks may stand behind the last part. -/
theorem ReadsLast.padded {cs trail : List Char} {parts : List α} (blank : trail.all isSpace)
    (reads : layout.ReadsLast cs parts) : layout.ReadsLast (cs ++ trail) parts := by
  intro done stack c ends
  cases trail with
  | nil => simpa using reads done stack c ends
  | cons first trail =>
      rw [List.all_cons, Bool.and_eq_true] at blank
      have stays : ∀ c, isSpace c → ∀ stack : List Frame,
          step ⟨.separator, stack⟩ c = some ⟨.separator, stack⟩ := by
        intro c isBlank stack
        simp [step, afterValue, isBlank]
      have text : cs ++ first :: trail ++ [c] = cs ++ [first] ++ (trail ++ [c]) := by
        simp
      rw [text, run_append, reads done stack first (endsValue_of_isSpace blank.1),
        stays first blank.1, Option.bind_some, run_append,
        run_blanks (fun d isBlank => stays d isBlank _) blank.2, Option.bind_some, run_cons]
      simp

/-- An array or object is read as what its parts complete. -/
theorem ReadsLast.readsClosed {cs : List Char} {parts : List α}
    (reads : layout.ReadsLast cs parts) :
    ReadsClosed (layout.opening :: cs ++ [layout.closing]) (layout.whole parts) where
  opens := opensValue_of_head (by simp [layout.starts])
  delivers := by
    intro stack
    have inside := reads [] stack layout.closing layout.ends
    rw [layout.closes] at inside
    rw [List.cons_append, run_cons, layout.opens, Option.bind_some]
    simpa [before] using inside

end Layout

/-- A value is an item of an array. -/
theorem ReadsValue.item {cs : List Char} {value : Json} (reads : ReadsValue cs value) :
    items.ReadsPart cs value := by
  intro done stack c ends
  have delivered := reads.delivers (.items done :: stack) c ends
  cases done with
  | nil => exact (reads.opens _ _).trans delivered
  | cons => exact delivered

/-- A key and a value are a member of an object. -/
theorem ReadsValue.member {key name cs : List Char} {value : Json} (keyed : ReadsChars key name)
    (reads : ReadsValue cs value) :
    members.ReadsPart ('"' :: key ++ '"' :: ':' :: cs) (String.ofList name, value) := by
  intro done stack c ends
  have opened : run (members.before done stack) ['"'] =
      some ⟨.text true [] .plain, .members done :: stack⟩ := by
    cases done <;> rfl
  have keyRead := keyed true [] (.members done :: stack)
  have closed : run ⟨.text true name.reverse .plain, .members done :: stack⟩ ['"', ':'] =
      some ⟨.value, .member done (String.ofList name) :: stack⟩ := by
    simp [run_cons, step, insideText, closeText, isSpace]
  have delivered := reads.delivers (.member done (String.ofList name) :: stack) c ends
  have text : '"' :: key ++ '"' :: ':' :: cs ++ [c] =
      ['"'] ++ (key ++ (['"', ':'] ++ (cs ++ [c]))) := by
    simp
  rw [List.append_nil] at keyRead
  rw [text, run_append, opened, Option.bind_some, run_append, keyRead, Option.bind_some,
    run_append, closed, Option.bind_some, delivered]
  rfl

/-! ## Whole texts -/

theorem parse?_of_readsClosed {cs : List Char} {value : Json} (reads : ReadsClosed cs value) :
    parse? (String.ofList cs) = some value := by
  have delivered : start.run cs = some ⟨.ended value, []⟩ := reads.delivers []
  simp [parse?, delivered, result]

end Reader

end MeshSidecar.Json
