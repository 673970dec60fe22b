import MeshSidecar.Proofs.Json.Reading
import MeshSidecar.Proofs.Pod.Reading
import MeshSidecar.Proofs.Template.Composition

namespace MeshSidecar.Template

/-!
# Fragments of manifests

A definition is a template for JSON, laid out on lines.  What a fragment renders to and what
a reader makes of the rendered text are said together here, one statement for each way in
which definitions put fragments together, so that commas, brackets and line breaks need not
be looked at again.  Blanks may stand before every fragment: some of them are removed by a
tag that follows, and none of them matters to the reader.
-/

open Json.Reader

/-! ## How fragments are written -/

/-- The text of lines, each behind the end of the line above it. -/
def block (lines : List String) : List Char :=
  lines.flatMap fun line => '\n' :: line.toList

@[simp]
theorem block_nil : block [] = [] := rfl

@[simp]
theorem block_cons (line : List Char) (lines : List String) :
    block (String.ofList line :: lines) = '\n' :: line ++ block lines := by
  simp [block, String.toList_ofList]

@[simp]
theorem block_append (first second : List String) :
    block (first ++ second) = block first ++ block second := by
  simp [block]

theorem head?_block {lines : List String} (filled : lines ≠ []) :
    (block lines).head? = some '\n' := by
  cases lines with
  | nil => exact absurd rfl filled
  | cons => rfl

theorem toList_ofLines (first : String) (lines : List String) :
    (Text.ofLines (first :: lines)).toList = first.toList ++ block lines := by
  induction lines generalizing first with
  | nil => simp [Text.ofLines]
  | cons line lines ih =>
      rw [Text.ofLines_cons_cons, String.toList_append, String.toList_append, ih]
      simp [block]

/-- Whether a line is the text behind blanks. -/
def isIndented (line text : List Char) : Bool :=
  line.dropWhile isSpace == text

theorem exists_lead {line text : List Char} (indented : isIndented line text) :
    ∃ lead, lead.all isSpace ∧ line = lead ++ text := by
  refine ⟨line.takeWhile isSpace, List.all_takeWhile, ?_⟩
  rw [← beq_iff_eq.mp indented, List.takeWhile_append_dropWhile]

/-- A text in double quotes. -/
def quoted (text : List Char) : List Char :=
  '"' :: text ++ ['"']

/-- A member of an object. -/
def field (key value : List Char) : List Char :=
  quoted key ++ ':' :: ' ' :: value

/-- Parts on one line. -/
def commas : List (List Char) → List Char
  | [] => []
  | [part] => part
  | part :: next :: parts => part ++ ',' :: ' ' :: commas (next :: parts)

/-- An object on one line. -/
def object (parts : List (List Char)) : List Char :=
  '{' :: (commas parts ++ ['}'])

/-- An array on one line. -/
def array (parts : List (List Char)) : List Char :=
  '[' :: (commas parts ++ [']'])

/-- A variable in JSON. -/
def jsonOf (name : List Char) : List Char :=
  hole name ["tojson"]

/-- A flag in JSON, as a text. -/
def flagOf (name : List Char) : List Char :=
  hole name ["flag", "tojson"]

/-- A number in JSON, as a text. -/
def digitsOf (name : List Char) : List Char :=
  hole name ["string", "tojson"]

/-- An environment variable with a value of its own. -/
def given (key value : List Char) : List Char :=
  object [field ['n', 'a', 'm', 'e'] (quoted key), field ['v', 'a', 'l', 'u', 'e'] value]

/-- An environment variable that takes its value from a field of the running pod. -/
def fromField (name path : List Char) : List Char :=
  object [field ['n', 'a', 'm', 'e'] name, field ['v', 'a', 'l', 'u', 'e', 'F', 'r', 'o', 'm']
    (object [field ['f', 'i', 'e', 'l', 'd', 'R', 'e', 'f']
      (object [field ['f', 'i', 'e', 'l', 'd', 'P', 'a', 't', 'h'] (quoted path)])])]

/-- A tag that removes the blanks before it. -/
def tight (inside : List Char) : List Char :=
  '{' :: '%' :: '-' :: ' ' :: (inside ++ [' ', '%', '}'])

/-! ## What fragments define -/

section

variable (vars : Json) (depth : Nat)

/-- Behind any blanks, the fragment renders to a text that is read as the value. -/
def Value (text : List Char) (value : Json) : Prop :=
  ∀ lead, lead.all isSpace →
    ∃ out, Renders vars depth (lead ++ text) out ∧ ReadsValue out value

variable {α : Type} (layout : Layout α)

/-- Behind any blanks, the fragment renders to parts of which the last has no comma. -/
def Sequence (text : List Char) (parts : List α) : Prop :=
  ∀ lead, lead.all isSpace →
    ∃ out, Renders vars depth (lead ++ text) out ∧ layout.ReadsLast out parts

/-- The lines render to parts that have a comma each. -/
def Rows (lines : List String) (parts : List α) : Prop :=
  ∃ out, Renders vars depth (block lines) out ∧ layout.ReadsParts out parts

/-- The lines render to parts of which the last has no comma. -/
def LastRows (lines : List String) (parts : List α) : Prop :=
  ∃ out, Renders vars depth (block lines) out ∧ layout.ReadsLast out parts

end

section

variable {vars : Json} {depth : Nat}

theorem not_mem_of_spaces {lead : List Char} (spaces : lead.all isSpace) : '{' ∉ lead := by
  intro member
  exact absurd (List.all_eq_true.mp spaces '{' member) (by decide)

theorem blank_of_spaces {lead : List Char} (spaces : lead.all isSpace) :
    lead.all Text.isBlank := by
  rw [List.all_eq_true] at spaces ⊢
  intro c member
  have space := spaces c member
  simp only [isSpace, Bool.or_eq_true, beq_iff_eq] at space
  rcases space with ((rfl | rfl) | rfl) | rfl <;> decide

/-- The end of a line with the blanks at the start of the next. -/
theorem spaces_cons {lead : List Char} (spaces : lead.all isSpace) :
    ('\n' :: lead).all isSpace := by
  rw [List.all_cons, spaces]
  rfl

/-! ## Values -/

/-- A fragment that leaves the blanks before it is read behind them as without them. -/
theorem value_of_renders {text out : List Char} {value : Json}
    (renders : ∀ lead, '{' ∉ lead → Renders vars depth (lead ++ text) (lead ++ out))
    (reads : ReadsValue out value) : Value vars depth text value :=
  fun lead spaces => ⟨lead ++ out, renders lead (not_mem_of_spaces spaces), reads.gap spaces⟩

section

variable {name : List Char} (isName : isVariable name)

include isName

theorem value_text {text : String} (found : vars.get? (String.ofList name) = some (.str text)) :
    Value vars depth (jsonOf name) (.str text) :=
  value_of_renders (fun _ plain => renders_json plain isName found)
    (readsClosed_text readsChars_embedChar text).readsValue

/-- A text that may be missing, in JSON. -/
theorem value_text? {text : Option String}
    (found : vars.get? (String.ofList name) = some (.ofText? text)) :
    Value vars depth (jsonOf name) (.ofText? text) := by
  cases text with
  | none => exact value_of_renders (fun _ plain => renders_json plain isName found) readsValue_null
  | some text => exact value_text isName found

theorem value_flag {flag : Bool} (found : vars.get? (String.ofList name) = some (.bool flag)) :
    Value vars depth (flagOf name) (.str (flagDigit flag)) :=
  value_of_renders (fun _ plain => renders_flag plain isName found)
    (readsClosed_text readsChars_embedChar _).readsValue

theorem value_digits {number : Int}
    (found : vars.get? (String.ofList name) = some (.int number)) :
    Value vars depth (digitsOf name) (.str (Text.ofInt number)) :=
  value_of_renders (fun _ plain => renders_digits plain isName found)
    (readsClosed_text readsChars_embedChar _).readsValue

theorem value_number {number : Int}
    (found : vars.get? (String.ofList name) = some (.int number)) :
    Value vars depth (hole name []) (.int number) := by
  refine value_of_renders (fun _ plain => ?_) (readsValue_int number)
  have rendered : Renders vars depth _ _ := renders_value plain isName found
  simpa only [display, showInside] using rendered

end

/-- Whether a text may stand between quotation marks in a template as it is. -/
def isVerbatim (text : List Char) : Bool :=
  text.all fun c => isPlain c && c != '{'

theorem not_mem_of_isVerbatim {text : List Char} (verbatim : isVerbatim text) : '{' ∉ text := by
  intro brace
  simp only [isVerbatim, List.all_eq_true, Bool.and_eq_true, bne_iff_ne] at verbatim
  exact (verbatim '{' brace).2 rfl

theorem readsChars_of_isVerbatim {text : List Char} (verbatim : isVerbatim text) :
    ReadsChars text text := by
  refine readsChars_plain ?_
  simp only [isVerbatim, List.all_eq_true, Bool.and_eq_true] at verbatim ⊢
  exact fun c member => (verbatim c member).1

theorem value_quoted {text : List Char} (verbatim : isVerbatim text) :
    Value vars depth (quoted text) (.str (String.ofList text)) := by
  refine value_of_renders (fun lead plain => ?_)
    (readsChars_of_isVerbatim verbatim).readsClosed.readsValue
  refine renders_text ?_ ?_
  · simp [quoted, plain, not_mem_of_isVerbatim verbatim]
  · simpa [quoted] using solid_concat (lead ++ '"' :: text) (rfl : Text.isBlank '"' = false)

/-- A tag that has no blanks before it. -/
def bare : Margin where
  lead := []
  removes := false
  blank := rfl

/-- Of two values a condition chooses one. -/
theorem Value.either {name yes no : List Char} {condition value other : Json}
    (isName : isVariable name) (found : vars.get? (String.ofList name) = some condition)
    (first : Value vars depth yes value) (second : Value vars depth no other) :
    Value vars (depth + 1) (either bare bare bare name yes no)
      (if isTrue condition then value else other) := by
  intro lead spaces
  rcases first [] rfl with ⟨out, renders, reads⟩
  rcases second [] rfl with ⟨out', renders', reads'⟩
  have whole := @Renders.either vars depth ⟨lead, false, blank_of_spaces spaces⟩ bare bare _ _ _ _
    _ _ isName found renders renders'
  refine ⟨_, by simpa [Template.either, Margin.tag, bare] using whole, ?_⟩
  cases isTrue condition with
  | true => simpa [Margin.kept] using reads.gap spaces
  | false => simpa [Margin.kept] using reads'.gap spaces

/-- Of two texts a flag chooses one. -/
theorem value_either {name yes no : List Char} {flag : Bool} (isName : isVariable name)
    (found : vars.get? (String.ofList name) = some (.bool flag)) (verbatim : isVerbatim yes)
    (verbatim' : isVerbatim no) :
    Value vars (depth + 1) (either bare bare bare name (quoted yes) (quoted no))
      (.str (if flag then String.ofList yes else String.ofList no)) := by
  have chosen : Value vars (depth + 1) _ _ :=
    (value_quoted verbatim).either isName found (value_quoted verbatim')
  cases flag with
  | true => exact chosen
  | false => exact chosen

/-! ## Parts of arrays and objects -/

theorem Value.item {text : List Char} {value : Json} (reads : Value vars depth text value) :
    Sequence vars depth items text [value] := by
  intro lead spaces
  rcases reads lead spaces with ⟨out, renders, reads⟩
  exact ⟨out, renders, reads.item⟩

theorem Value.field {key text : List Char} {value : Json} (verbatim : isVerbatim key)
    (reads : Value vars depth text value) :
    Sequence vars depth members (field key text) [(String.ofList key, value)] := by
  intro lead spaces
  rcases reads [' '] rfl with ⟨out, renders, reads⟩
  have plain : '{' ∉ lead ++ ('"' :: key ++ ['"', ':']) := by
    simp [not_mem_of_spaces spaces, not_mem_of_isVerbatim verbatim]
  have solid : Solid (lead ++ ('"' :: key ++ ['"', ':'])) := by
    simpa using solid_concat (lead ++ '"' :: key ++ ['"']) (rfl : Text.isBlank ':' = false)
  have keyed := @renders_text vars depth _ plain solid
  have member := (reads.member (readsChars_of_isVerbatim verbatim)).gap spaces
  refine ⟨_, ?_, by simpa using member⟩
  simpa [Template.field, quoted] using keyed.append renders

variable {α : Type} {layout : Layout α}

theorem renders_comma : Renders vars depth [','] [','] :=
  renders_text (by decide) rfl

theorem Sequence.last {text : List Char} {parts : List α}
    (reads : Sequence vars depth layout text parts) :
    Sequence vars depth layout (commas [text]) parts := reads

theorem Sequence.followed {text next : List Char} {texts : List (List Char)} {part : α}
    {parts : List α} (first : Sequence vars depth layout text [part])
    (later : Sequence vars depth layout (commas (next :: texts)) parts) :
    Sequence vars depth layout (commas (text :: next :: texts)) (part :: parts) := by
  intro lead spaces
  rcases first lead spaces with ⟨out, renders, reads⟩
  rcases later [' '] rfl with ⟨out', renders', reads'⟩
  have whole := (renders.append renders_comma).append renders'
  refine ⟨_, by simpa [commas] using whole, ?_⟩
  simpa using (reads.comma (List.cons_ne_nil _ _)).last reads'

/-- Brackets around parts, with blanks before the closing one. -/
theorem value_enclosed {text out trail : List Char} {parts : List α} {c : Char}
    (head : (text ++ (trail ++ [layout.closing])).head? = some c) (brace : c ≠ '{')
    (percent : c ≠ '%') (hash : c ≠ '#') (spaces : trail.all isSpace)
    (renders : Renders vars depth text out) (reads : layout.ReadsLast out parts) :
    Value vars depth (layout.opening :: (text ++ (trail ++ [layout.closing])))
      (layout.whole parts) := by
  have noBrace : '{' ∉ trail ++ [layout.closing] := by
    simp [not_mem_of_spaces spaces, layout.shuts.symm]
  have closing := @renders_text vars depth _ noBrace (solid_concat trail layout.visible.2)
  have closed := (reads.padded spaces).readsClosed.readsValue
  refine value_of_renders (fun lead plain => ?_) closed
  simpa using
    (renders.append closing).opening plain layout.visible.1 head brace percent hash

/-- An array or object on one line. -/
theorem Sequence.enclosed {text : List Char} {parts : List α} (head : text.head? = some '"')
    (reads : Sequence vars depth layout text parts) :
    Value vars depth (layout.opening :: (text ++ [layout.closing])) (layout.whole parts) := by
  have noTrail : ([] : List Char).all isSpace := rfl
  have head : (text ++ ([] ++ [layout.closing])).head? = some '"' := by
    rw [List.head?_append, head, Option.some_or]
  rcases reads [] rfl with ⟨out, renders, reads⟩
  exact value_enclosed head (by decide) (by decide) (by decide) noTrail renders reads

/-- An array or object whose parts stand on lines of their own. -/
theorem LastRows.enclosed {lines : List String} {trail : List Char} {parts : List α}
    (spaces : trail.all isSpace) (reads : LastRows vars depth layout lines parts) :
    Value vars depth (layout.opening :: (block lines ++ ('\n' :: trail ++ [layout.closing])))
      (layout.whole parts) := by
  have head : (block lines ++ ('\n' :: trail ++ [layout.closing])).head? = some '\n' := by
    cases lines with
    | nil => rfl
    | cons => rfl
  rcases reads with ⟨out, renders, reads⟩
  exact value_enclosed head (by decide) (by decide) (by decide) (spaces_cons spaces) renders reads

/-! ## Lines -/

theorem Sequence.row {line text : List Char} {parts : List α} (filled : parts ≠ [])
    (indented : isIndented line (text ++ [','])) (reads : Sequence vars depth layout text parts) :
    Rows vars depth layout [String.ofList line] parts := by
  rcases exists_lead indented with ⟨lead, spaces, whole⟩
  rcases reads ('\n' :: lead) (spaces_cons spaces) with ⟨out, renders, reads⟩
  refine ⟨_, ?_, reads.comma filled⟩
  rw [block_cons, block_nil, whole]
  simpa using renders.append renders_comma

theorem Sequence.lastRow {line text : List Char} {parts : List α} (indented : isIndented line text)
    (reads : Sequence vars depth layout text parts) :
    LastRows vars depth layout [String.ofList line] parts := by
  rcases exists_lead indented with ⟨lead, spaces, whole⟩
  rcases reads ('\n' :: lead) (spaces_cons spaces) with ⟨out, renders, reads⟩
  refine ⟨out, ?_, reads⟩
  rw [block_cons, block_nil, whole]
  simpa using renders

/-- A member whose value is an array or object on several lines. -/
theorem LastRows.member {first trail key : List Char} {lines : List String} {parts : List α}
    (opens : isIndented first (Template.field key [layout.opening])) (spaces : trail.all isSpace)
    (verbatim : isVerbatim key) (reads : LastRows vars depth layout lines parts) :
    ∃ out, Renders vars depth
        ('\n' :: first ++ (block lines ++ ('\n' :: trail ++ [layout.closing]))) out ∧
      members.ReadsLast out [(String.ofList key, layout.whole parts)] := by
  rcases exists_lead opens with ⟨lead, spaces', rfl⟩
  have member := (reads.enclosed spaces).field verbatim
  rcases member ('\n' :: lead) (spaces_cons spaces') with ⟨out, renders, reads⟩
  exact ⟨out, by simpa [Template.field] using renders, reads⟩

theorem LastRows.row {first last key : List Char} {lines : List String} {parts : List α}
    (opens : isIndented first (Template.field key [layout.opening]))
    (closes : isIndented last [layout.closing, ',']) (verbatim : isVerbatim key)
    (reads : LastRows vars depth layout lines parts) :
    Rows vars depth members (String.ofList first :: (lines ++ [String.ofList last]))
      [(String.ofList key, layout.whole parts)] := by
  rcases exists_lead closes with ⟨trail, spaces, rfl⟩
  rcases reads.member opens spaces verbatim with ⟨out, renders, reads⟩
  refine ⟨_, ?_, reads.comma (List.cons_ne_nil _ _)⟩
  rw [block_cons, block_append, block_cons, block_nil]
  simpa using renders.append renders_comma

theorem LastRows.lastRow {first last key : List Char} {lines : List String} {parts : List α}
    (opens : isIndented first (Template.field key [layout.opening]))
    (closes : isIndented last [layout.closing]) (verbatim : isVerbatim key)
    (reads : LastRows vars depth layout lines parts) :
    LastRows vars depth members (String.ofList first :: (lines ++ [String.ofList last]))
      [(String.ofList key, layout.whole parts)] := by
  rcases exists_lead closes with ⟨trail, spaces, rfl⟩
  rcases reads.member opens spaces verbatim with ⟨out, renders, reads⟩
  refine ⟨out, ?_, reads⟩
  rw [block_cons, block_append, block_cons, block_nil]
  simpa using renders

/-- A member on one line. -/
theorem Value.row {line key text : List Char} {value : Json}
    (indented : isIndented line (Template.field key text ++ [','])) (verbatim : isVerbatim key)
    (reads : Value vars depth text value) :
    Rows vars depth members [String.ofList line] [(String.ofList key, value)] :=
  (reads.field verbatim).row (List.cons_ne_nil _ _) indented

theorem Value.lastRow {line key text : List Char} {value : Json}
    (indented : isIndented line (Template.field key text)) (verbatim : isVerbatim key)
    (reads : Value vars depth text value) :
    LastRows vars depth members [String.ofList line] [(String.ofList key, value)] :=
  (reads.field verbatim).lastRow indented

theorem Rows.append {lines more : List String} {parts parts' : List α}
    (first : Rows vars depth layout lines parts) (later : Rows vars depth layout more parts') :
    Rows vars depth layout (lines ++ more) (parts ++ parts') := by
  rcases first with ⟨out, renders, reads⟩
  rcases later with ⟨out', renders', reads'⟩
  exact ⟨_, by simpa using renders.append renders', reads.append reads'⟩

theorem Rows.followed {lines more : List String} {parts parts' : List α}
    (first : Rows vars depth layout lines parts) (later : LastRows vars depth layout more parts') :
    LastRows vars depth layout (lines ++ more) (parts ++ parts') := by
  rcases first with ⟨out, renders, reads⟩
  rcases later with ⟨out', renders', reads'⟩
  exact ⟨_, by simpa using renders.append renders', reads.last reads'⟩

/-! ## Conditions -/

/-- A tag with the line break and the blanks that it removes. -/
theorem exists_margin {line inside rest : List Char}
    (indented : isIndented line (tight inside ++ rest)) :
    ∃ margin : Margin, margin.kept = [] ∧ '\n' :: line = margin.tag inside ++ rest := by
  rcases exists_lead indented with ⟨lead, spaces, rfl⟩
  refine ⟨⟨'\n' :: lead, true, blank_of_spaces (spaces_cons spaces)⟩, rfl, ?_⟩
  simp [Margin.tag, tight]

/-- A tag on a line of its own. -/
theorem exists_tag {line inside : List Char} (indented : isIndented line (tight inside)) :
    ∃ margin : Margin, margin.kept = [] ∧ '\n' :: line = margin.tag inside := by
  have followed : isIndented line (tight inside ++ []) := by
    rwa [List.append_nil]
  rcases exists_margin followed with ⟨margin, removed, whole⟩
  exact ⟨margin, removed, by rwa [List.append_nil] at whole⟩

section

variable {first middle last name : List Char} {condition : Json}

/-- Lines that depend on a condition. -/
theorem Rows.onlyIf {lines : List String} {parts : List α}
    (opens : isIndented first (tight (ifTag name))) (closes : isIndented last (tight endTag))
    (isName : isVariable name) (found : vars.get? (String.ofList name) = some condition)
    (reads : Rows vars depth layout lines parts) :
    Rows vars (depth + 1) layout (String.ofList first :: (lines ++ [String.ofList last]))
      (if isTrue condition then parts else []) := by
  rcases reads with ⟨out, renders, reads⟩
  rcases exists_tag opens with ⟨margin, removed, isFirst⟩
  rcases exists_tag closes with ⟨margin', removed', isLast⟩
  have whole := @Renders.onlyIf vars depth margin margin' _ _ _ _ isName found renders
  rw [removed, removed', List.append_nil, List.nil_append, Template.onlyIf, ← isFirst,
    ← isLast] at whole
  refine ⟨if isTrue condition then out else [], by simpa using whole, ?_⟩
  cases isTrue condition with
  | true => exact reads
  | false => exact Layout.readsParts_nil

/-- Lines of which a condition chooses some. -/
theorem Rows.either {lines lines' : List String} {parts parts' : List α}
    (opens : isIndented first (tight (ifTag name))) (turns : isIndented middle (tight elseTag))
    (closes : isIndented last (tight endTag)) (isName : isVariable name)
    (found : vars.get? (String.ofList name) = some condition)
    (left : Rows vars depth layout lines parts) (right : Rows vars depth layout lines' parts') :
    Rows vars (depth + 1) layout (String.ofList first ::
        (lines ++ String.ofList middle :: (lines' ++ [String.ofList last])))
      (if isTrue condition then parts else parts') := by
  rcases left with ⟨out, renders, reads⟩
  rcases right with ⟨out', renders', reads'⟩
  rcases exists_tag opens with ⟨margin, removed, isFirst⟩
  rcases exists_tag turns with ⟨margin', removed', isMiddle⟩
  rcases exists_tag closes with ⟨margin'', removed'', isLast⟩
  have whole := @Renders.either vars depth margin margin' margin'' _ _ _ _ _ _ isName found
    renders renders'
  rw [removed, removed', removed'', List.append_nil, List.append_nil, List.nil_append,
    Template.either, ← isFirst, ← isMiddle, ← isLast] at whole
  refine ⟨if isTrue condition then out else out', by simpa using whole, ?_⟩
  cases isTrue condition with
  | true => exact reads
  | false => exact reads'

/-- Last lines, behind which others stand when a condition holds.  These take the comma that
they need along. -/
theorem LastRows.orMore {lines more : List String} {parts parts' : List α} (filled : parts ≠ [])
    (opens : isIndented first (tight (ifTag name) ++ [',']))
    (closes : isIndented last (tight endTag)) (isName : isVariable name)
    (found : vars.get? (String.ofList name) = some condition)
    (reads : LastRows vars (depth + 1) layout lines parts)
    (reads' : LastRows vars depth layout more parts') :
    LastRows vars (depth + 1) layout
      (lines ++ String.ofList first :: (more ++ [String.ofList last]))
      (parts ++ if isTrue condition then parts' else []) := by
  rcases reads with ⟨out, renders, reads⟩
  rcases reads' with ⟨out', renders', reads'⟩
  rcases exists_margin opens with ⟨margin, removed, isFirst⟩
  rcases exists_tag closes with ⟨margin', removed', isLast⟩
  have follower := @Renders.onlyIf vars depth margin margin' _ _ _ _ isName found
    (renders_comma.append renders')
  have whole := renders.append follower
  rw [removed, removed', List.append_nil, List.nil_append, Template.onlyIf, ← isLast] at whole
  refine ⟨out ++ if isTrue condition then [','] ++ out' else [], ?_, ?_⟩
  · rw [block_append, block_cons, block_append, block_cons, block_nil, isFirst]
    simpa using whole
  · cases isTrue condition with
    | true => simpa using (reads.comma filled).last reads'
    | false => simpa using reads

end

/-! ## Fields of containers -/

/-- A member for a text. -/
theorem row_text {line key name : List Char} {text : String}
    (indented : isIndented line (field key (jsonOf name) ++ [','])) (verbatim : isVerbatim key)
    (isName : isVariable name) (found : vars.get? (String.ofList name) = some (.str text)) :
    Rows vars depth members [String.ofList line] [(String.ofList key, .str text)] :=
  (value_text isName found).row indented verbatim

/-- A last member for a text that is given only when it says something. -/
theorem LastRows.orText {lines : List String} {first line last key name : List Char}
    {text : Option String} {parts : List (String × Json)} (filled : parts ≠ [])
    (opens : isIndented first (tight (ifTag name) ++ [',']))
    (indented : isIndented line (field key (jsonOf name)))
    (closes : isIndented last (tight endTag)) (verbatim : isVerbatim key)
    (isName : isVariable name) (found : vars.get? (String.ofList name) = some (.ofText? text))
    (reads : LastRows vars (depth + 1) members lines parts) :
    LastRows vars (depth + 1) members
      (lines ++ [String.ofList first, String.ofList line, String.ofList last])
      (parts ++ (text.filter fun text => text != "").toList.map fun text =>
        (String.ofList key, .str text)) := by
  have member : LastRows vars depth members [String.ofList line] _ :=
    (value_text? isName found).lastRow indented verbatim
  have rows := reads.orMore filled opens closes isName found member
  cases text with
  | none => exact rows
  | some text =>
      by_cases empty : text = ""
      · simpa [isTrue, Json.ofText?, Option.filter, empty] using rows
      · simpa [isTrue, Json.ofText?, Option.filter, empty] using rows

/-- An object whose first member stands at its opening brace. -/
theorem Sequence.object {key value : List Char} {rest : List (List Char)}
    {parts : List (String × Json)}
    (reads : Sequence vars depth members (commas (field key value :: rest)) parts) :
    Value vars depth (object (field key value :: rest)) (Json.ofMembers parts) :=
  reads.enclosed (by cases rest <;> rfl)

/-- An array whose first item is a text. -/
theorem Sequence.array {text : List Char} {rest : List (List Char)} {parts : List Json}
    (reads : Sequence vars depth items (commas (quoted text :: rest)) parts) :
    Value vars depth (array (quoted text :: rest)) (.arr parts) :=
  reads.enclosed (by cases rest <;> rfl)

/-- An object with one member. -/
theorem Value.alone {key text : List Char} {value : Json} (reads : Value vars depth text value)
    (verbatim : isVerbatim key) :
    Value vars depth (Template.object [Template.field key text])
      (.obj [(String.ofList key, value)]) :=
  (reads.field verbatim).last.object

theorem value_port {name portName protocol : List Char} {port : Int} (isName : isVariable name)
    (found : vars.get? (String.ofList name) = some (.int port)) (verbatim : isVerbatim portName)
    (verbatim' : isVerbatim protocol) :
    Value vars depth (object [field ['n', 'a', 'm', 'e'] (quoted portName),
        field ['c', 'o', 'n', 't', 'a', 'i', 'n', 'e', 'r', 'P', 'o', 'r', 't'] (hole name []),
        field ['p', 'r', 'o', 't', 'o', 'c', 'o', 'l'] (quoted protocol)])
      (.obj [("containerPort", .int port), ("name", .str (String.ofList portName)),
        ("protocol", .str (String.ofList protocol))]) := by
  have nameField : Sequence vars depth members
      (field ['n', 'a', 'm', 'e'] (quoted portName)) _ :=
    (value_quoted verbatim).field rfl
  have numberField : Sequence vars depth members
      (field ['c', 'o', 'n', 't', 'a', 'i', 'n', 'e', 'r', 'P', 'o', 'r', 't'] (hole name [])) _ :=
    (value_number isName found).field rfl
  have protocolField : Sequence vars depth members
      (field ['p', 'r', 'o', 't', 'o', 'c', 'o', 'l'] (quoted protocol)) _ :=
    (value_quoted verbatim').field rfl
  have object := (nameField.followed (numberField.followed protocolField.last)).object
  have sorted : Json.ofMembers [("name", .str (String.ofList portName)),
      ("containerPort", .int port), ("protocol", .str (String.ofList protocol))] =
      .obj [("containerPort", .int port), ("name", .str (String.ofList portName)),
        ("protocol", .str (String.ofList protocol))] := by
    simp only [Json.ofMembers, List.foldl, SortedMap.insertEntry, String.reduceLT, if_true,
      if_false]
  rw [← sorted]
  exact object

/-- A command that a shell runs. -/
theorem value_shellCommand {name : List Char} {text : String} (isName : isVariable name)
    (found : vars.get? (String.ofList name) = some (.str text)) :
    Value vars depth (array [quoted ['s', 'h'], quoted ['-', 'c'], jsonOf name])
      (.ofTexts ["sh", "-c", text]) := by
  have script : Value vars depth (jsonOf name) (.str text) := value_text isName found
  exact ((value_quoted rfl).item.followed ((value_quoted rfl).item.followed script.item.last)).array

/-- The volume and path of a mount are rendered as a mount. -/
theorem value_mount {volume path : List Char} {volumeText pathText : String}
    (isVolume : isVariable volume) (isPath : isVariable path)
    (volumeFound : vars.get? (String.ofList volume) = some (.str volumeText))
    (pathFound : vars.get? (String.ofList path) = some (.str pathText)) :
    Value vars depth (object [field ['n', 'a', 'm', 'e'] (jsonOf volume),
        field ['m', 'o', 'u', 'n', 't', 'P', 'a', 't', 'h'] (jsonOf path)])
      (VolumeMount.plain volumeText pathText).toJson := by
  have nameField : Sequence vars depth members (field ['n', 'a', 'm', 'e'] (jsonOf volume)) _ :=
    (value_text isVolume volumeFound).field rfl
  have pathField : Sequence vars depth members
      (field ['m', 'o', 'u', 'n', 't', 'P', 'a', 't', 'h'] (jsonOf path)) _ :=
    (value_text isPath pathFound).field rfl
  have object := (nameField.followed pathField.last).object
  have sorted : (VolumeMount.plain volumeText pathText).toJson =
      Json.ofMembers [("name", .str volumeText), ("mountPath", .str pathText)] := by
    simp only [Json.ofMembers, List.foldl, SortedMap.insertEntry, String.reduceLT, if_true]
    rfl
  rw [sorted]
  exact object

/-! ## Environments -/

theorem value_given {key value : List Char} {json : Json} (verbatim : isVerbatim key)
    (reads : Value vars depth value json) :
    Value vars depth (given key value)
      (.obj [("name", .str (String.ofList key)), ("value", json)]) := by
  have nameField : Sequence vars depth members (field ['n', 'a', 'm', 'e'] (quoted key)) _ :=
    (value_quoted verbatim).field rfl
  have valueField : Sequence vars depth members (field ['v', 'a', 'l', 'u', 'e'] value) _ :=
    reads.field rfl
  have object := (nameField.followed valueField.last).object
  have sorted : Json.ofMembers [("name", .str (String.ofList key)), ("value", json)] =
      .obj [("name", .str (String.ofList key)), ("value", json)] := by
    simp only [Json.ofMembers, List.foldl, SortedMap.insertEntry, String.reduceLT, if_true,
      if_false]
  rw [given, ← sorted]
  exact object

theorem value_fromField {name path : List Char} {key : String} (verbatim : isVerbatim path)
    (reads : Value vars depth name (.str key)) :
    Value vars depth (fromField name path)
      (EnvVar.ofField key (String.ofList path)).toJson := by
  have reference : Value vars depth
      (Template.object [field ['f', 'i', 'e', 'l', 'd', 'P', 'a', 't', 'h'] (quoted path)]) _ :=
    (value_quoted verbatim).alone rfl
  have source : Value vars depth
      (Template.object [field ['f', 'i', 'e', 'l', 'd', 'R', 'e', 'f'] (Template.object _)]) _ :=
    reference.alone rfl
  have nameField : Sequence vars depth members (field ['n', 'a', 'm', 'e'] name) _ :=
    reads.field rfl
  have sourceField : Sequence vars depth members
      (field ['v', 'a', 'l', 'u', 'e', 'F', 'r', 'o', 'm'] (Template.object _)) _ :=
    source.field rfl
  have object := (nameField.followed sourceField.last).object
  have sorted : (EnvVar.ofField key (String.ofList path)).toJson =
      Json.ofMembers [("name", .str key), ("valueFrom",
        .obj [("fieldRef", .obj [("fieldPath", .str (String.ofList path))])])] := by
    simp only [Json.ofMembers, List.foldl, SortedMap.insertEntry, String.reduceLT, if_true,
      if_false]
    rfl
  rw [sorted]
  exact object

/-- The lines declare these variables, each with a comma. -/
structure Declares (vars : Json) (depth : Nat) (lines : List String) (env : List EnvVar) :
    Prop where
  rows : Rows vars depth items lines (env.map EnvVar.toJson)
  readable : ∀ var ∈ env, EnvVar.read? var.toJson = some var

/-- The lines declare these variables, the last without a comma. -/
structure Environment (vars : Json) (depth : Nat) (lines : List String) (env : List EnvVar) :
    Prop where
  rows : LastRows vars depth items lines (env.map EnvVar.toJson)
  readable : ∀ var ∈ env, EnvVar.read? var.toJson = some var

section

variable {line key name value path : List Char}

theorem readable_given (name text : String) :
    ∀ var ∈ [EnvVar.given name text], EnvVar.read? var.toJson = some var := by
  intro var member
  rw [List.mem_singleton.mp member]
  exact EnvVar.read?_given name text

theorem readable_ofField (name path : String) :
    ∀ var ∈ [EnvVar.ofField name path], EnvVar.read? var.toJson = some var := by
  intro var member
  rw [List.mem_singleton.mp member]
  exact EnvVar.read?_ofField name path

theorem declares_given {text : String} (indented : isIndented line (given key value ++ [',']))
    (verbatim : isVerbatim key) (reads : Value vars depth value (.str text)) :
    Declares vars depth [String.ofList line] [EnvVar.given (String.ofList key) text] where
  rows := (value_given verbatim reads).item.row (List.cons_ne_nil _ _) indented
  readable := readable_given _ text

theorem declares_fromField {name : String}
    (indented : isIndented line (fromField value path ++ [','])) (verbatim : isVerbatim path)
    (reads : Value vars depth value (.str name)) :
    Declares vars depth [String.ofList line] [EnvVar.ofField name (String.ofList path)] where
  rows := (value_fromField verbatim reads).item.row (List.cons_ne_nil _ _) indented
  readable := readable_ofField name _

theorem declares_text {text : String}
    (indented : isIndented line (given key (jsonOf name) ++ [','])) (verbatim : isVerbatim key)
    (isName : isVariable name) (found : vars.get? (String.ofList name) = some (.str text)) :
    Declares vars depth [String.ofList line] [EnvVar.given (String.ofList key) text] :=
  declares_given indented verbatim (value_text isName found)

theorem declares_flag {flag : Bool}
    (indented : isIndented line (given key (flagOf name) ++ [','])) (verbatim : isVerbatim key)
    (isName : isVariable name) (found : vars.get? (String.ofList name) = some (.bool flag)) :
    Declares vars depth [String.ofList line]
      [EnvVar.given (String.ofList key) (flagDigit flag)] :=
  declares_given indented verbatim (value_flag isName found)

theorem declares_digits {number : Nat}
    (indented : isIndented line (given key (digitsOf name) ++ [','])) (verbatim : isVerbatim key)
    (isName : isVariable name) (found : vars.get? (String.ofList name) = some (.int number)) :
    Declares vars depth [String.ofList line]
      [EnvVar.given (String.ofList key) (Text.ofNat number)] :=
  declares_given indented verbatim (value_digits isName found)

theorem declares_quoted (indented : isIndented line (given key (quoted value) ++ [',']))
    (verbatim : isVerbatim key) (verbatim' : isVerbatim value) :
    Declares vars depth [String.ofList line]
      [EnvVar.given (String.ofList key) (String.ofList value)] :=
  declares_given indented verbatim (value_quoted verbatim')

section

variable {first middle last : List Char}

/-- A variable for a text that is given only when it says something. -/
theorem declares_optional {text : Option String} (opens : isIndented first (tight (ifTag name)))
    (indented : isIndented line (given key (jsonOf name) ++ [',']))
    (closes : isIndented last (tight endTag)) (verbatim : isVerbatim key)
    (isName : isVariable name) (found : vars.get? (String.ofList name) = some (.ofText? text)) :
    Declares vars (depth + 1) [String.ofList first, String.ofList line, String.ofList last]
      (EnvVar.optional (String.ofList key) text) := by
  have value : Value vars depth (jsonOf name) (.ofText? text) := value_text? isName found
  cases text with
  | none =>
      -- The line is left out, and it would render to a null if it were not.
      have row := (value_given verbatim value).item.row (List.cons_ne_nil _ _) indented
      have rows := row.onlyIf opens closes isName found
      exact ⟨by simpa [isTrue, Json.ofText?, EnvVar.optional] using rows, by simp [EnvVar.optional]⟩
  | some text =>
      have declared := declares_given indented verbatim value
      have rows := declared.rows.onlyIf opens closes isName found
      by_cases empty : text = ""
      · exact ⟨by simpa [isTrue, Json.ofText?, EnvVar.optional, empty] using rows,
          by simp [EnvVar.optional, empty]⟩
      · refine ⟨by simpa [isTrue, Json.ofText?, EnvVar.optional, empty] using rows, ?_⟩
        simpa [EnvVar.optional, empty] using declared.readable

/-- Variables that a flag decides on. -/
theorem Declares.onlyIf {lines : List String} {flag : Bool} {env : List EnvVar}
    (opens : isIndented first (tight (ifTag name))) (closes : isIndented last (tight endTag))
    (isName : isVariable name) (found : vars.get? (String.ofList name) = some (.bool flag))
    (declares : Declares vars depth lines env) :
    Declares vars (depth + 1) (String.ofList first :: (lines ++ [String.ofList last]))
      (if flag then env else []) := by
  have rows := declares.rows.onlyIf opens closes isName found
  cases flag with
  | true => exact ⟨rows, declares.readable⟩
  | false => exact ⟨rows, by simp⟩

/-- Of two variables a flag chooses one. -/
theorem Declares.either {lines lines' : List String} {flag : Bool} {var var' : EnvVar}
    (opens : isIndented first (tight (ifTag name))) (turns : isIndented middle (tight elseTag))
    (closes : isIndented last (tight endTag)) (isName : isVariable name)
    (found : vars.get? (String.ofList name) = some (.bool flag))
    (left : Declares vars depth lines [var]) (right : Declares vars depth lines' [var']) :
    Declares vars (depth + 1) (String.ofList first ::
        (lines ++ String.ofList middle :: (lines' ++ [String.ofList last])))
      [if flag then var else var'] := by
  have rows := left.rows.either opens turns closes isName found right.rows
  cases flag with
  | true => exact ⟨rows, left.readable⟩
  | false => exact ⟨rows, right.readable⟩

end

theorem Declares.append {lines lines' : List String} {env env' : List EnvVar}
    (first : Declares vars depth lines env) (later : Declares vars depth lines' env') :
    Declares vars depth (lines ++ lines') (env ++ env') where
  rows := by simpa using first.rows.append later.rows
  readable := by
    intro var member
    rcases List.mem_append.mp member with left | right
    · exact first.readable var left
    · exact later.readable var right

theorem Declares.followed {lines lines' : List String} {env env' : List EnvVar}
    (first : Declares vars depth lines env) (later : Environment vars depth lines' env') :
    Environment vars depth (lines ++ lines') (env ++ env') where
  rows := by simpa using first.rows.followed later.rows
  readable := by
    intro var member
    rcases List.mem_append.mp member with left | right
    · exact first.readable var left
    · exact later.readable var right

theorem environment_given {text : String} (indented : isIndented line (given key value))
    (verbatim : isVerbatim key) (reads : Value vars depth value (.str text)) :
    Environment vars depth [String.ofList line] [EnvVar.given (String.ofList key) text] where
  rows := (value_given verbatim reads).item.lastRow indented
  readable := readable_given _ text

theorem environment_fromField {name : String} (indented : isIndented line (fromField value path))
    (verbatim : isVerbatim path) (reads : Value vars depth value (.str name)) :
    Environment vars depth [String.ofList line] [EnvVar.ofField name (String.ofList path)] where
  rows := (value_fromField verbatim reads).item.lastRow indented
  readable := readable_ofField name _

end

/-! ## Whole definitions -/

/-- The definition renders to the text of an object with these members. -/
def Defines (vars : Json) (text : String) (parts : List (String × Json)) : Prop :=
  ∀ name, ∃ rendered, render name text vars = .ok rendered ∧
    Json.parse? rendered = some (Json.ofMembers parts)

theorem LastRows.defines {lines : List String} {parts : List (String × Json)}
    (shallow : depth ≤ depthLimit) (filled : lines ≠ [])
    (reads : LastRows vars depth members lines parts) : Defines vars (braced lines) parts := by
  intro name
  rcases reads with ⟨out, renders, reads⟩
  have whole : (braced lines).toList = [] ++ '{' :: block lines ++ ['\n', '}'] := by
    rw [braced, toList_ofLines, block_append]
    simp [block]
  have opened : Renders vars depth ([] ++ '{' :: block lines) ([] ++ '{' :: out) :=
    renders.opening (by decide) rfl (head?_block filled) (by decide) (by decide) (by decide)
  have rendered := @render_of_renders _ _ name _ _ _ _ shallow whole opened (by decide)
  have lineBreak : ['\n'].all isSpace := rfl
  have parsed := parse?_of_readsClosed (reads.padded lineBreak).readsClosed
  have same : [] ++ '{' :: out ++ ['\n', '}'] =
      members.opening :: (out ++ ['\n']) ++ [members.closing] := by
    simp [members]
  rw [same] at rendered
  exact ⟨_, rendered, parsed⟩

theorem Defines.define {β : Type} {name text : String} {parts : List (String × Json)}
    {read? : Json → Option β} {result : β} (defines : Defines vars text parts)
    (decoded : read? (Json.ofMembers parts) = some result) :
    define read? name text vars = .ok result := by
  rcases defines name with ⟨rendered, renders, parsed⟩
  simp only [Template.define, renders, parsed, Option.bind_some, decoded]

end

end MeshSidecar.Template
