import MeshSidecar.Injection.Rendered
import MeshSidecar.Proofs.Text.Trim

namespace MeshSidecar.Template

/-!
# Templates cut into fragments

A template is read as a whole: literal text reaches up to the next delimiter, which may
remove the blanks before it.  To say what a definition renders to, its text is cut into
fragments, and what each of these contributes to the rendered text has to be said for a
fragment inside an arbitrary template.

`Renders vars depth text out` says this: reading `text` on top of whatever has
been read adds nodes that render to `out`, and leaves the branches that were open
as they were.  A fragment takes the blanks before it along and ends with a character that
no delimiter removes, so fragments compose along `++`; for a whole template this gives the
rendered text (`render_of_renders`).
-/

/-! ## Cutting the inside of a piece -/

/-- Whether a text is a name inside a piece. -/
def isWord (cs : List Char) : Bool :=
  cs.head?.any isWordStart && cs.all isWordChar

/-- The inside of a piece that `mark` closes is cut into these tokens, whatever
follows the piece. -/
def Cut (mark : Char) (inside : List Char) (tokens : List Token) : Prop :=
  ∀ fuel rest, inside.length < fuel →
    tokens? mark fuel (inside ++ mark :: '}' :: rest) = some (tokens, false, rest)

/-- The characters that close a piece. -/
def IsMark (mark : Char) : Prop :=
  mark = '}' ∨ mark = '%'

theorem closes?_of_ne {mark c : Char} (rest : List Char) (minus : c ≠ '-') (plus : c ≠ '+')
    (other : c ≠ mark) : closes? mark (c :: rest) = none := by
  unfold closes?
  split <;> simp_all

theorem closes?_mark {mark : Char} (isMark : IsMark mark) (rest : List Char) :
    closes? mark (mark :: '}' :: rest) = some (false, rest) := by
  rcases isMark with rfl | rfl <;> simp [closes?]

theorem cut_nil {mark : Char} (isMark : IsMark mark) : Cut mark [] [] := by
  intro fuel rest enough
  obtain ⟨fuel, rfl⟩ : ∃ n, fuel = n + 1 := ⟨fuel - 1, by simp at enough; omega⟩
  simp [tokens?, closes?_mark isMark]

theorem Cut.gap {mark : Char} {inside : List Char} {tokens : List Token} (isMark : IsMark mark)
    (cut : Cut mark inside tokens) : Cut mark (' ' :: inside) tokens := by
  intro fuel rest enough
  obtain ⟨fuel, rfl⟩ : ∃ n, fuel = n + 1 := ⟨fuel - 1, by simp at enough; omega⟩
  have open_ : closes? mark (' ' :: (inside ++ mark :: '}' :: rest)) = none :=
    closes?_of_ne _ (by decide) (by decide) (by rcases isMark with rfl | rfl <;> decide)
  have isGap : isGap ' ' = true := rfl
  simp only [List.cons_append, tokens?, open_, isGap, if_true]
  exact cut fuel rest (by simpa using enough)

theorem Cut.bar {mark : Char} {inside : List Char} {tokens : List Token} (isMark : IsMark mark)
    (cut : Cut mark inside tokens) : Cut mark ('|' :: inside) (.sign '|' :: tokens) := by
  intro fuel rest enough
  obtain ⟨fuel, rfl⟩ : ∃ n, fuel = n + 1 := ⟨fuel - 1, by simp at enough; omega⟩
  have open_ : closes? mark ('|' :: (inside ++ mark :: '}' :: rest)) = none :=
    closes?_of_ne _ (by decide) (by decide) (by rcases isMark with rfl | rfl <;> decide)
  have later := cut fuel rest (by simpa using enough)
  have noGap : isGap '|' = false := rfl
  have noWord : isWordStart '|' = false := rfl
  have noDigit : Char.isDigit '|' = false := rfl
  have sign : isSign '|' = true := by decide
  simp [tokens?, open_, later, noGap, noWord, noDigit, sign]

theorem isGap_of_isWordStart {c : Char} (start : isWordStart c) : isGap c = false := by
  cases gap : isGap c with
  | false => rfl
  | true =>
      simp only [isGap, Bool.or_eq_true, beq_iff_eq] at gap
      rcases gap with (((rfl | rfl) | rfl) | rfl) | rfl <;> exact absurd start (by decide)

theorem Cut.word {mark : Char} {word inside : List Char} {tokens : List Token}
    (isMark : IsMark mark) (cut : Cut mark inside tokens) (name : isWord word)
    (ends : inside.head?.any isWordChar = false) :
    Cut mark (word ++ inside) (.word (String.ofList word) :: tokens) := by
  intro fuel rest enough
  obtain ⟨fuel, rfl⟩ : ∃ n, fuel = n + 1 := ⟨fuel - 1, by simp at enough; omega⟩
  obtain ⟨c, cs, rfl⟩ : ∃ c cs, word = c :: cs := by
    cases word with
    | nil => simp [isWord] at name
    | cons c cs => exact ⟨c, cs, rfl⟩
  have start : isWordStart c := by
    simp only [isWord, List.head?_cons, Option.any_some, Bool.and_eq_true] at name
    exact name.1
  have chars : ∀ d ∈ c :: cs, isWordChar d := by
    simp only [isWord, Bool.and_eq_true, List.all_eq_true] at name
    exact name.2
  have open_ : closes? mark (c :: (cs ++ (inside ++ mark :: '}' :: rest))) = none := by
    refine closes?_of_ne _ ?_ ?_ ?_
    · rintro rfl; exact absurd start (by decide)
    · rintro rfl; exact absurd start (by decide)
    · rintro rfl
      rcases isMark with rfl | rfl <;> exact absurd start (by decide)
  -- The word ends where `inside` or, when that is empty, the mark begins.
  have follows : (inside ++ mark :: '}' :: rest).head?.any isWordChar = false := by
    cases inside with
    | nil => rcases isMark with rfl | rfl <;> rfl
    | cons d ds => simpa using ends
  have taken : ((c :: cs) ++ (inside ++ mark :: '}' :: rest)).takeWhile isWordChar = c :: cs := by
    rw [List.takeWhile_append_of_pos chars]
    cases after : inside ++ mark :: '}' :: rest with
    | nil => simp
    | cons d ds => rw [after] at follows; simp_all
  have dropped : ((c :: cs) ++ (inside ++ mark :: '}' :: rest)).dropWhile isWordChar =
      inside ++ mark :: '}' :: rest := by
    rw [List.dropWhile_append_of_pos chars]
    cases after : inside ++ mark :: '}' :: rest with
    | nil => simp
    | cons d ds => rw [after] at follows; simp_all
  have later := cut fuel rest (by simp at enough; omega)
  rw [List.cons_append] at taken dropped
  simp only [List.append_assoc, List.cons_append, tokens?, open_, isGap_of_isWordStart start,
    start, if_true, Bool.false_eq_true, if_false, taken, dropped, later]
  rfl

/-! ## Variables and their filters -/

/-- A variable with filters behind it, as text. -/
def pipeline (name : List Char) (filters : List String) : List Char :=
  name ++ filters.flatMap fun filter => '|' :: filter.toList

/-- The tokens of that text. -/
def pipelineTokens (name : List Char) (filters : List String) : List Token :=
  .word (String.ofList name) :: filters.flatMap fun filter => [.sign '|', .word filter]

/-- The expression that the text stands for. -/
def Expr.pipeline (name : List Char) (filters : List String) : Expr :=
  filters.foldl .filtered (.name (String.ofList name))

/-- Whether a name is one of a variable, being neither a constant nor an operator. -/
def isVariable (name : List Char) : Bool :=
  isWord name && (constant? (String.ofList name)).isNone && String.ofList name != "not"

theorem cut_filters {mark : Char} {inside : List Char} {tokens : List Token}
    (isMark : IsMark mark) (cut : Cut mark inside tokens)
    (ends : inside.head?.any isWordChar = false) (filters : List String)
    (names : ∀ filter ∈ filters, isWord filter.toList) :
    Cut mark ((filters.flatMap fun filter => '|' :: filter.toList) ++ inside)
      ((filters.flatMap fun filter => [.sign '|', .word filter]) ++ tokens) := by
  induction filters with
  | nil => exact cut
  | cons filter filters ih =>
      have later := ih fun other member => names other (List.mem_cons_of_mem _ member)
      have ends' : ((filters.flatMap fun filter => '|' :: filter.toList) ++ inside).head?.any
          isWordChar = false := by
        cases filters with
        | nil => exact ends
        | cons => rfl
      have word := (later.word isMark (names filter List.mem_cons_self) ends').bar isMark
      simpa [String.ofList_toList] using word

theorem cut_pipeline {mark : Char} {inside : List Char} {tokens : List Token}
    (isMark : IsMark mark) (cut : Cut mark inside tokens)
    (ends : inside.head?.any isWordChar = false) {name : List Char} {filters : List String}
    (isName : isWord name) (names : ∀ filter ∈ filters, isWord filter.toList) :
    Cut mark (pipeline name filters ++ inside) (pipelineTokens name filters ++ tokens) := by
  have later := cut_filters isMark cut ends filters names
  have ends' : ((filters.flatMap fun filter => '|' :: filter.toList) ++ inside).head?.any
      isWordChar = false := by
    cases filters with
    | nil => exact ends
    | cons => rfl
  have word := later.word isMark isName ends'
  simpa [pipeline, pipelineTokens, String.ofList_toList] using word

theorem filters_tokens (value : Expr) (names : List String) :
    filters value (names.flatMap fun filter => [.sign '|', .word filter]) =
      some (names.foldl .filtered value, []) := by
  induction names generalizing value with
  | nil => rfl
  | cons name names ih => simpa [filters] using ih (.filtered value name)

theorem negation_pipelineTokens {name : List Char} (isName : isVariable name) (names : List String)
    (fuel : Nat) :
    negation (fuel + 2) (pipelineTokens name names) = some (.pipeline name names, []) := by
  simp only [isVariable, Bool.and_eq_true, Option.isNone_iff_eq_none, bne_iff_ne] at isName
  rcases isName with ⟨⟨_, noConstant⟩, noOperator⟩
  have noAttribute (rest : List Token) (h : rest.head? ≠ some (.sign '.')) :
      attributes (.name (String.ofList name)) rest = some (.name (String.ofList name), rest) := by
    unfold attributes
    split <;> simp_all
  have filtered := noAttribute (names.flatMap fun filter => [.sign '|', .word filter])
    (by cases names <;> simp)
  rw [pipelineTokens, negation]
  · simp [operand, noConstant, filtered, filters_tokens, Expr.pipeline]
  · intro rest same
    exact noOperator (Token.word.inj (List.cons.inj same).1)

theorem expression?_pipelineTokens {name : List Char} (isName : isVariable name)
    (names : List String) :
    expression? (pipelineTokens name names) = some (.pipeline name names) := by
  have conjunctionRead (fuel : Nat) :
      conjunction (fuel + 3) (pipelineTokens name names) = some (.pipeline name names, []) := by
    simp [conjunction, negation_pipelineTokens isName, conjunctionTail]
  simp [expression?, disjunction, conjunctionRead, disjunctionTail]

/-! ## Literal text before a fragment -/

/-- No delimiter behind the text removes any of it. -/
def Solid (cs : List Char) : Prop :=
  cs.getLast?.any Text.isBlank = false

theorem solid_concat (cs : List Char) {c : Char} (visible : Text.isBlank c = false) :
    Solid (cs ++ [c]) := by
  rw [Solid, List.getLast?_concat]
  exact visible

theorem not_mem_of_blank {lead : List Char} (blank : lead.all Text.isBlank) : '{' ∉ lead := by
  intro member
  exact absurd (List.all_eq_true.mp blank '{' member) (by decide)

theorem literal_append (cs rest : List Char) (plain : '{' ∉ cs) :
    literal (cs ++ rest) = (cs ++ (literal rest).1, (literal rest).2) := by
  induction cs with
  | nil => rfl
  | cons c cs ih =>
      have different : c ≠ '{' := fun same => plain (same ▸ List.mem_cons_self)
      have later : '{' ∉ cs := fun member => plain (List.mem_cons_of_mem _ member)
      simp [literal, different, ih later]

/-- A character opens no piece when the text behind it begins with none of the
characters that would make it a delimiter. -/
theorem literal_cons {first c : Char} {rest : List Char} (head : rest.head? = some c)
    (brace : c ≠ '{') (percent : c ≠ '%') (hash : c ≠ '#') :
    literal (first :: rest) = (first :: (literal rest).1, (literal rest).2) := by
  simp [literal, head, brace, percent, hash]

/-- Blanks reach up to the delimiter behind them. -/
theorem literal_delimited {lead rest : List Char} {kind : Char} (plain : '{' ∉ lead)
    (opens : kind = '{' ∨ kind = '%') :
    literal (lead ++ '{' :: kind :: rest) = (lead, '{' :: kind :: rest) := by
  rw [literal_append _ _ plain]
  rcases opens with rfl | rfl <;> simp [literal]

/-- Text in front of a template becomes part of its first piece. -/
theorem pieces?_of_literal {cs rest text before : List Char} {pieces : List Piece} {fuel : Nat}
    (found : literal cs = (before ++ (literal rest).1, (literal rest).2))
    (solid : Solid before) (read : pieces? fuel false rest = some (.text text :: pieces)) :
    pieces? fuel false cs = some (.text (before ++ text) :: pieces) := by
  cases fuel with
  | zero => simp [pieces?] at read
  | succ fuel =>
      rw [pieces?, found]
      rw [pieces?] at read
      generalize literal rest = cut at *
      rcases cut with ⟨first, after⟩
      match after with
      | [] => simpa using read
      | [last] => simpa using read
      | opening :: kind :: inside =>
          -- Whether or not the delimiter removes blanks, it spares what is solid.
          have spared : (if (openingSign inside).1 then
              Text.trimEndWhere Text.isBlank (before ++ first) else before ++ first) =
              before ++ if (openingSign inside).1 then
                Text.trimEndWhere Text.isBlank first else first := by
            split
            · exact Text.trimEndWhere_append solid first
            · rfl
          simp only [Bool.false_eq_true, if_false, spared] at read ⊢
          split at read
          · next comment =>
            simp only [if_pos comment, Option.bind_eq_bind, Option.bind_eq_some_iff] at read ⊢
            obtain ⟨closed, skipped, _, later, same⟩ := read
            cases same
            exact ⟨closed, skipped, _, later, rfl⟩
          · next noComment =>
            rw [if_neg noComment]
            split at read
            · next tag =>
              simp only [if_pos tag, Option.bind_eq_bind, Option.bind_eq_some_iff] at read ⊢
              obtain ⟨closed, inner, _, later, same⟩ := read
              cases same
              exact ⟨closed, inner, _, later, rfl⟩
            · next noTag =>
              simp only [if_neg noTag, Option.bind_eq_bind, Option.bind_eq_some_iff] at read ⊢
              obtain ⟨closed, inner, _, later, same⟩ := read
              cases same
              exact ⟨closed, inner, _, later, rfl⟩

/-- The blanks before a tag, and whether the tag removes them. -/
structure Margin where
  lead : List Char
  removes : Bool
  blank : lead.all Text.isBlank

namespace Margin

/-- The blanks as far as the tag leaves them. -/
def kept (margin : Margin) : List Char :=
  if margin.removes then [] else margin.lead

/-- The text of a tag behind its blanks. -/
def tag (margin : Margin) (inside : List Char) : List Char :=
  margin.lead ++ '{' :: '%' :: ((if margin.removes then ['-'] else []) ++
    ' ' :: (inside ++ [' ', '%', '}']))

theorem openingSign_eq (margin : Margin) (rest : List Char) :
    openingSign ((if margin.removes then ['-'] else []) ++ ' ' :: rest) =
      (margin.removes, ' ' :: rest) := by
  cases margin.removes <;> rfl

theorem kept_eq (margin : Margin) : (if margin.removes then
    Text.trimEndWhere Text.isBlank margin.lead else margin.lead) = margin.kept := by
  rw [kept, Text.trimEndWhere_of_all margin.blank]

end Margin

/-! ## Reading on from some progress -/

namespace Progress

/-- Puts literal text behind what has been read. -/
def addText (progress : Progress) (cs : List Char) : Progress :=
  match cs, progress.nodes with
  | [], _ => progress
  | cs, .text before :: nodes => { progress with nodes := .text (before ++ cs) :: nodes }
  | cs, nodes => { progress with nodes := .text cs :: nodes }

@[simp]
theorem addText_nil (progress : Progress) : progress.addText [] = progress := by
  simp [addText]

theorem addText_addText (progress : Progress) (first second : List Char) :
    (progress.addText first).addText second = progress.addText (first ++ second) := by
  cases first with
  | nil => simp
  | cons c cs =>
      cases second with
      | nil => simp
      | cons d ds =>
          obtain ⟨nodes, stack⟩ := progress
          cases nodes with
          | nil => simp [addText]
          | cons node nodes => cases node <;> simp [addText]

/-- Whether what was read last is not literal text. -/
def Fresh (progress : Progress) : Prop :=
  ∀ cs nodes, progress.nodes ≠ .text cs :: nodes

theorem Fresh.piece?_text {progress : Progress} (fresh : progress.Fresh) (cs : List Char) :
    progress.piece? (.text cs) = some (progress.addText cs) := by
  rcases progress with ⟨nodes, stack⟩
  cases cs with
  | nil => rfl
  | cons c cs =>
      cases nodes with
      | nil => rfl
      | cons node nodes =>
          cases node with
          | text before => exact absurd rfl (fresh before nodes)
          | print value => rfl
          | branch condition yes no => rfl

/-- Reading `cs` on top of `progress` ends with `result`.  The first piece of
`cs` continues literal text that was read before. -/
def Reads (progress : Progress) (cs : List Char) (result : Progress) : Prop :=
  ∃ text pieces, (∀ fuel, cs.length < fuel → pieces? fuel false cs = some (.text text :: pieces)) ∧
    pieces.foldlM Progress.piece? (progress.addText text) = some result

theorem reads_plain (progress : Progress) {cs : List Char} (plain : '{' ∉ cs) :
    progress.Reads cs (progress.addText cs) := by
  refine ⟨cs, [], fun fuel enough => ?_, by simp⟩
  obtain ⟨fuel, rfl⟩ : ∃ n, fuel = n + 1 := ⟨fuel - 1, by omega⟩
  have whole := literal_append cs [] plain
  rw [List.append_nil] at whole
  simp [pieces?, whole, literal]

theorem Reads.of_literal {progress result : Progress} {cs rest before : List Char}
    (found : literal cs = (before ++ (literal rest).1, (literal rest).2)) (solid : Solid before)
    (longer : rest.length ≤ cs.length) (reads : (progress.addText before).Reads rest result) :
    progress.Reads cs result := by
  rcases reads with ⟨text, pieces, read, folded⟩
  refine ⟨before ++ text, pieces, fun fuel enough => ?_, ?_⟩
  · exact pieces?_of_literal found solid (read fuel (by omega))
  · rwa [← addText_addText]

theorem length_lt_append (inside rest : List Char) :
    inside.length < (inside ++ rest).length + 1 := by
  rw [List.length_append]
  omega

theorem Reads.of_print {progress result : Progress} {lead inside rest : List Char}
    {tokens : List Token} {value : Expr} (plain : '{' ∉ lead) (cut : Cut '}' (' ' :: inside) tokens)
    (expression : expression? tokens = some value)
    (reads : Reads
      { progress.addText lead with nodes := .print value :: (progress.addText lead).nodes }
      rest result) :
    progress.Reads (lead ++ '{' :: '{' :: ' ' :: inside ++ '}' :: '}' :: rest) result := by
  rcases reads with ⟨text, pieces, read, folded⟩
  refine ⟨lead, .print tokens :: .text text :: pieces, fun fuel enough => ?_, ?_⟩
  · obtain ⟨fuel, rfl⟩ : ∃ n, fuel = n + 1 := ⟨fuel - 1, by simp at enough; omega⟩
    have read := read fuel (by simp at enough; omega)
    have inner := cut ((' ' :: inside ++ '}' :: '}' :: rest).length + 1) rest (length_lt_append _ _)
    have found : literal (lead ++ '{' :: '{' :: (' ' :: inside ++ '}' :: '}' :: rest)) = _ :=
      literal_delimited plain (Or.inl rfl)
    simp only [List.cons_append, List.length_cons, List.length_append] at inner found
    simp [pieces?, found, openingSign, inner, read]
  · have fresh : Fresh { progress.addText lead with
        nodes := .print value :: (progress.addText lead).nodes } := by
      intro cs nodes same
      cases same
    have printed : (progress.addText lead).piece? (.print tokens) =
        some { progress.addText lead with
          nodes := .print value :: (progress.addText lead).nodes } := by
      simp [piece?, expression]
    simp [printed, fresh.piece?_text, folded]

theorem Reads.of_tag {progress next result : Progress} {margin : Margin}
    {inside rest : List Char} {tokens : List Token}
    (cut : Cut '%' (' ' :: (inside ++ [' '])) tokens)
    (does : (progress.addText margin.kept).tag? tokens = some next) (fresh : next.Fresh)
    (reads : next.Reads rest result) : progress.Reads (margin.tag inside ++ rest) result := by
  rcases reads with ⟨text, pieces, read, folded⟩
  refine ⟨margin.kept, .tag tokens :: .text text :: pieces, fun fuel enough => ?_, ?_⟩
  · obtain ⟨fuel, rfl⟩ : ∃ n, fuel = n + 1 := ⟨fuel - 1, by simp at enough; omega⟩
    have read := read fuel (by simp [Margin.tag] at enough; omega)
    have inner := cut ((' ' :: (inside ++ [' ']) ++ '%' :: '}' :: rest).length + 1) rest
      (length_lt_append _ _)
    have opened := margin.openingSign_eq (inside ++ ' ' :: '%' :: '}' :: rest)
    have found : literal (margin.lead ++ '{' :: '%' :: ((if margin.removes then ['-'] else []) ++
        ' ' :: (inside ++ ' ' :: '%' :: '}' :: rest))) = _ :=
      literal_delimited (not_mem_of_blank margin.blank) (Or.inr rfl)
    simp only [List.cons_append, List.append_assoc, List.nil_append, List.length_cons,
      List.length_append] at inner
    simp [pieces?, Margin.tag, found, opened, margin.kept_eq, inner, read]
  · have tagged : (progress.addText margin.kept).piece? (.tag tokens) = some next := does
    simp [tagged, fresh.piece?_text, folded]

end Progress

/-! ## What a fragment renders to -/

theorem renderNodes_append (vars : Json) (first second : List Node) :
    renderNodes vars (first ++ second) =
      match renderNodes vars first with
      | .ok text => (renderNodes vars second).map fun rest => text ++ rest
      | .error failure => .error failure := by
  induction first with
  | nil => cases h : renderNodes vars second <;> simp [renderNodes, h, Except.map]
  | cons node nodes ih =>
      simp only [List.cons_append, renderNodes, ih]
      cases node.render vars with
      | error failure => rfl
      | ok text =>
          cases renderNodes vars nodes with
          | error failure => rfl
          | ok rest => cases renderNodes vars second <;> simp [Except.map]

theorem renderNodes_snoc {vars : Json} {nodes : List Node} {node : Node} {before out : List Char}
    (rendered : renderNodes vars nodes = .ok before) (last : node.render vars = .ok out) :
    renderNodes vars (nodes ++ [node]) = .ok (before ++ out) := by
  simp [renderNodes_append, rendered, renderNodes, last, Except.map]

theorem renderNodes_text {vars : Json} {nodes : List Node} {before : List Char}
    (rendered : renderNodes vars nodes = .ok before) (cs : List Char) :
    renderNodes vars (nodes ++ [.text cs]) = .ok (before ++ cs) :=
  renderNodes_snoc rendered rfl

/-- `later` continues `progress` by nodes that render to `out`. -/
def Progress.Extends (vars : Json) (progress later : Progress) (out : List Char) : Prop :=
  later.stack = progress.stack ∧
    ∀ before, renderNodes vars progress.nodes.reverse = .ok before →
      renderNodes vars later.nodes.reverse = .ok (before ++ out)

theorem Progress.extends_addText (vars : Json) (progress : Progress) (cs : List Char) :
    progress.Extends vars (progress.addText cs) cs := by
  rcases progress with ⟨nodes, stack⟩
  cases cs with
  | nil => exact ⟨by simp, fun before rendered => by simpa using rendered⟩
  | cons c cs =>
      match nodes with
      | .text first :: nodes =>
          refine ⟨rfl, fun before rendered => ?_⟩
          simp only [List.reverse_cons, renderNodes_append] at rendered
          cases earlier : renderNodes vars nodes.reverse with
          | error failure => simp [earlier] at rendered
          | ok text =>
              have same : text ++ first = before := by
                simpa [earlier, renderNodes, Node.render, Except.map] using rendered
              have joined := renderNodes_text earlier (first ++ c :: cs)
              simpa [Progress.addText, ← same] using joined
      | [] => exact ⟨rfl, fun before rendered => by
          simpa [Progress.addText] using renderNodes_text rendered (c :: cs)⟩
      | .print value :: nodes => exact ⟨rfl, fun before rendered => by
          simpa [Progress.addText] using renderNodes_text rendered (c :: cs)⟩
      | .branch condition yes no :: nodes => exact ⟨rfl, fun before rendered => by
          simpa [Progress.addText] using renderNodes_text rendered (c :: cs)⟩

@[simp]
theorem Progress.stack_addText (progress : Progress) (cs : List Char) :
    (progress.addText cs).stack = progress.stack :=
  (progress.extends_addText .null cs).1

theorem Progress.Extends.trans {vars : Json} {first second third : Progress}
    {out out' : List Char} (early : first.Extends vars second out)
    (late : second.Extends vars third out') : first.Extends vars third (out ++ out') := by
  refine ⟨late.1.trans early.1, fun before rendered => ?_⟩
  rw [← List.append_assoc]
  exact late.2 _ (early.2 before rendered)

theorem Progress.extends_node {vars : Json} (progress : Progress) {node : Node} {out : List Char}
    (rendered : node.render vars = .ok out) :
    progress.Extends vars { progress with nodes := node :: progress.nodes } out :=
  ⟨rfl, fun before earlier => by simpa using renderNodes_snoc earlier rendered⟩

/-- What stands for a flag in an environment. -/
def flagDigit (flag : Bool) : String :=
  if flag then "1" else "0"

/-- Reading `text` on top of any progress adds nodes that render to `out`; at
most `depth` branches are open inside it. -/
def Renders (vars : Json) (depth : Nat) (text out : List Char) : Prop :=
  ∀ progress : Progress, progress.stack.length + depth ≤ depthLimit →
    ∃ later, progress.Extends vars later out ∧
      ∀ rest result, later.Reads rest result → progress.Reads (text ++ rest) result

section

variable {vars : Json} {depth : Nat}

theorem renders_text {cs : List Char} (plain : '{' ∉ cs) (solid : Solid cs) :
    Renders vars depth cs cs := by
  intro progress _
  refine ⟨progress.addText cs, progress.extends_addText vars cs, fun rest result reads => ?_⟩
  exact reads.of_literal (literal_append cs rest plain) solid (by simp)

theorem Renders.append {first second out out' : List Char} (left : Renders vars depth first out)
    (right : Renders vars depth second out') :
    Renders vars depth (first ++ second) (out ++ out') := by
  intro progress room
  rcases left progress room with ⟨middle, early, reads⟩
  rcases right middle (by rwa [early.1]) with ⟨later, late, reads'⟩
  refine ⟨later, early.trans late, fun rest result ends => ?_⟩
  rw [List.append_assoc]
  exact reads _ _ (reads' _ _ ends)

/-- A bracket, be it a brace, stands for itself before what makes it no delimiter. -/
theorem Renders.opening {lead text out : List Char} {bracket c : Char} (plain : '{' ∉ lead)
    (visible : Text.isBlank bracket = false) (head : text.head? = some c)
    (brace : c ≠ '{') (percent : c ≠ '%') (hash : c ≠ '#') (inner : Renders vars depth text out) :
    Renders vars depth (lead ++ bracket :: text) (lead ++ bracket :: out) := by
  intro progress room
  have opened := progress.extends_addText vars (lead ++ [bracket])
  rcases inner (progress.addText (lead ++ [bracket])) (by rwa [opened.1]) with
    ⟨later, extended, reads⟩
  refine ⟨later, by simpa using opened.trans extended, fun rest result ends => ?_⟩
  have next : (text ++ rest).head? = some c := by
    cases text with
    | nil => simp at head
    | cons => simpa using head
  have found : literal (lead ++ bracket :: (text ++ rest)) =
      (lead ++ [bracket] ++ (literal (text ++ rest)).1, (literal (text ++ rest)).2) := by
    rw [literal_append _ _ plain, literal_cons next brace percent hash]
    simp
  have read := (reads rest result ends).of_literal found (solid_concat lead visible)
    (by simp; omega)
  simpa using read

/-- A variable with its filters, as it stands in a template. -/
def hole (name : List Char) (filters : List String) : List Char :=
  '{' :: '{' :: ' ' :: pipeline name filters ++ [' ', '}', '}']

/-- A variable with its filters renders to its value. -/
theorem renders_hole {lead name : List Char} {filters : List String} {out : List Char}
    (plain : '{' ∉ lead) (isName : isVariable name)
    (words : ∀ filter ∈ filters, isWord filter.toList)
    (rendered : (Expr.pipeline name filters).render vars = .ok out) :
    Renders vars depth (lead ++ hole name filters) (lead ++ out) := by
  intro progress _
  have printed : (Node.print (.pipeline name filters)).render vars = .ok out := rendered
  refine ⟨_, (progress.extends_addText vars lead).trans (Progress.extends_node _ printed),
    fun rest result reads => ?_⟩
  have isWord : isWord name := by
    simp only [isVariable, Bool.and_eq_true] at isName
    exact isName.1.1
  have mark : IsMark '}' := Or.inl rfl
  have cut : Cut '}' (' ' :: (pipeline name filters ++ [' '])) (pipelineTokens name filters) := by
    simpa using (cut_pipeline mark ((cut_nil mark).gap mark) rfl isWord words).gap mark
  have read := Progress.Reads.of_print plain cut (expression?_pipelineTokens isName filters) reads
  simpa [hole] using read

/-! ## Conditions -/

theorem Progress.Reads.of_word {progress next result : Progress} {margin : Margin}
    {word rest : List Char} (isWord : isWord word)
    (does : (progress.addText margin.kept).tag? [.word (String.ofList word)] = some next)
    (fresh : next.Fresh)
    (reads : next.Reads rest result) : progress.Reads (margin.tag word ++ rest) result := by
  have mark : IsMark '%' := Or.inr rfl
  have cut : Cut '%' (' ' :: (word ++ [' '])) [.word (String.ofList word)] :=
    (((cut_nil mark).gap mark).word mark isWord rfl).gap mark
  exact Reads.of_tag cut does fresh reads

theorem guard_eq_some {condition : Prop} [Decidable condition] (holds : condition) :
    (guard condition : Option Unit) = some () :=
  if_pos holds

/-- The inside of a tag that opens a branch, and of those that go on with it and close it. -/
def ifTag (name : List Char) : List Char := 'i' :: 'f' :: ' ' :: name

def elseTag : List Char := ['e', 'l', 's', 'e']

def endTag : List Char := ['e', 'n', 'd', 'i', 'f']

@[simp]
theorem ofList_elseTag : String.ofList elseTag = "else" := rfl

@[simp]
theorem ofList_endTag : String.ofList endTag = "endif" := rfl

/-- What has been read, with a branch open behind it for whose condition `yes` comes true. -/
def Progress.inside (progress : Progress) (name : List Char) : Progress :=
  ⟨[], ⟨progress.nodes, [], some (.name (String.ofList name))⟩ :: progress.stack⟩

theorem Progress.reads_if {progress result : Progress} {margin : Margin}
    {name rest : List Char} (isName : isVariable name) (room : progress.stack.length < depthLimit)
    (reads : ((progress.addText margin.kept).inside name).Reads rest result) :
    progress.Reads (margin.tag (ifTag name) ++ rest) result := by
  have named : isWord name := by
    simp only [isVariable, Bool.and_eq_true] at isName
    exact isName.1.1
  have mark : IsMark '%' := Or.inr rfl
  have condition : Cut '%' (' ' :: (name ++ [' '])) (pipelineTokens name []) := by
    have noFilter : ∀ filter ∈ ([] : List String), isWord filter.toList := by
      simp
    simpa [pipeline] using
      (cut_pipeline mark ((cut_nil mark).gap mark) rfl named noFilter).gap mark
  have isIf : isWord ['i', 'f'] := by decide
  have cut : Cut '%' (' ' :: (ifTag name ++ [' '])) (.word "if" :: pipelineTokens name []) :=
    (condition.word mark isIf rfl).gap mark
  have does : (progress.addText margin.kept).tag? (.word "if" :: pipelineTokens name []) =
      some ((progress.addText margin.kept).inside name) := by
    rw [tag?]
    refine Option.bind_eq_some_iff.mpr ⟨_, expression?_pipelineTokens isName [], ?_⟩
    refine Option.bind_eq_some_iff.mpr ⟨(), guard_eq_some ?_, rfl⟩
    rwa [stack_addText]
  have fresh : ((progress.addText margin.kept).inside name).Fresh := by
    intro cs nodes same
    cases same
  exact Reads.of_tag cut does fresh reads

/-- Text that stands only when a variable is true, between its tags. -/
def onlyIf (first last : Margin) (name text : List Char) : List Char :=
  first.tag (ifTag name) ++ (text ++ last.tag endTag)

/-- One of two texts, depending on a variable. -/
def either (first middle last : Margin) (name yes no : List Char) : List Char :=
  first.tag (ifTag name) ++ (yes ++ (middle.tag elseTag ++ (no ++ last.tag endTag)))

/-- A branch renders to the alternative that its condition chooses. -/
theorem render_branch {name : List Char} {value : Json} {yes no : List Node}
    {out out' : List Char} (found : vars.get? (String.ofList name) = some value)
    (rendersYes : renderNodes vars yes = .ok out)
    (rendersNo : renderNodes vars no = .ok out') :
    (Node.branch (.name (String.ofList name)) yes no).render vars =
      .ok (if isTrue value then out else out') := by
  have truthful : ((Expr.name (String.ofList name)).eval vars).bind truth = .ok (isTrue value) := by
    simp [Expr.eval, found, truth, Except.bind]
  rw [Node.render, truthful]
  cases isTrue value with
  | true => simpa using rendersYes
  | false => simpa using rendersNo

/-- A text under a condition renders to nothing when the condition is false. -/
theorem Renders.onlyIf {first last : Margin} {value : Json}
    {name text out : List Char} (isName : isVariable name)
    (found : vars.get? (String.ofList name) = some value)
    (inner : Renders vars depth text out) :
    Renders vars (depth + 1) (onlyIf first last name text)
      (first.kept ++ if isTrue value then out ++ last.kept else []) := by
  intro progress room
  obtain ⟨later, extended, reads⟩ := inner ((progress.addText first.kept).inside name)
    (by simp [Progress.inside]; omega)
  have whole := extended.trans (later.extends_addText vars last.kept)
  have nothing : renderNodes vars [] = .ok [] := rfl
  have rendered := render_branch found (whole.2 [] rfl) nothing
  refine ⟨_, (progress.extends_addText vars first.kept).trans (Progress.extends_node _ rendered),
    fun rest result ends => ?_⟩
  rw [Template.onlyIf, List.append_assoc, List.append_assoc]
  refine Progress.reads_if isName (by omega) (reads _ _ ?_)
  refine Progress.Reads.of_word (by decide) ?_ ?_ ends
  · simp [Progress.tag?, extended.1, Progress.inside, nest]
  · intro cs nodes same
    cases same

/-- Of two texts the condition chooses one. -/
theorem Renders.either {first middle last : Margin} {value : Json}
    {name yes no out out' : List Char} (isName : isVariable name)
    (found : vars.get? (String.ofList name) = some value)
    (left : Renders vars depth yes out) (right : Renders vars depth no out') :
    Renders vars (depth + 1) (either first middle last name yes no)
      (first.kept ++ if isTrue value then out ++ middle.kept else out' ++ last.kept) := by
  intro progress room
  obtain ⟨chosen, extended, reads⟩ := left ((progress.addText first.kept).inside name)
    (by simp [Progress.inside]; omega)
  have chosenWhole := extended.trans (chosen.extends_addText vars middle.kept)
  obtain ⟨other, extended', reads'⟩ := right
    ⟨[], ⟨(progress.addText first.kept).nodes,
      [(.name (String.ofList name), (chosen.addText middle.kept).nodes.reverse)], none⟩ ::
        progress.stack⟩
    (by simp; omega)
  have otherWhole := extended'.trans (other.extends_addText vars last.kept)
  have rendered := render_branch found (chosenWhole.2 [] rfl) (otherWhole.2 [] rfl)
  refine ⟨_, (progress.extends_addText vars first.kept).trans (Progress.extends_node _ rendered),
    fun rest result ends => ?_⟩
  rw [Template.either]
  simp only [List.append_assoc]
  refine Progress.reads_if isName (by omega) (reads _ _ ?_)
  refine Progress.Reads.of_word (by decide) ?_ ?_ (reads' _ _ ?_)
  · simp [Progress.tag?, extended.1, Progress.inside]
  · intro cs nodes same
    cases same
  · refine Progress.Reads.of_word (by decide) ?_ ?_ ends
    · simp [Progress.tag?, extended'.1, nest]
    · intro cs nodes same
      cases same

/-! ## Variables in the forms that definitions print them in -/

section

variable {lead name : List Char} (plain : '{' ∉ lead) (isName : isVariable name)

include plain isName

theorem renders_value {value : Json} (found : vars.get? (String.ofList name) = some value) :
    Renders vars depth (lead ++ hole name []) (lead ++ display value) := by
  refine renders_hole plain isName (by simp) ?_
  simp [Expr.pipeline, Expr.render, Expr.eval, found]

theorem renders_json {value : Json} (found : vars.get? (String.ofList name) = some value) :
    Renders vars depth (lead ++ hole name ["tojson"])
      (lead ++ Json.write Json.embedChar value) := by
  refine renders_hole plain isName (by decide) ?_
  simp [Expr.pipeline, Expr.render, Expr.eval, found, applyFilter, Except.map, display]

/-- A flag is told by a digit. -/
theorem renders_flag {flag : Bool} (found : vars.get? (String.ofList name) = some (.bool flag)) :
    Renders vars depth (lead ++ hole name ["flag", "tojson"])
      (lead ++ Json.write Json.embedChar (.str (flagDigit flag))) := by
  refine renders_hole plain isName (by decide) ?_
  cases flag <;> simp [Expr.pipeline, Expr.render, Expr.eval, found, applyFilter, Except.map,
    display, flagDigit]

theorem renders_digits {number : Int}
    (found : vars.get? (String.ofList name) = some (.int number)) :
    Renders vars depth (lead ++ hole name ["string", "tojson"])
      (lead ++ Json.write Json.embedChar (.str (Text.ofInt number))) := by
  refine renders_hole plain isName (by decide) ?_
  simp [Expr.pipeline, Expr.render, Expr.eval, found, applyFilter, Except.map, display,
    showInside, Text.ofInt]

end

/-! ## Whole templates -/

/-- A fragment and plain text behind it, being a whole template, render as the fragment does
with the same text behind it. -/
theorem render_of_renders {name text : String} {cs rest out : List Char}
    (shallow : depth ≤ depthLimit) (whole : text.toList = cs ++ rest)
    (renders : Renders vars depth cs out) (plain : '{' ∉ rest) :
    render name text vars = .ok (String.ofList (out ++ rest)) := by
  rcases renders ⟨[], []⟩ (by simpa using shallow) with ⟨later, extended, reads⟩
  rcases reads rest _ (later.reads_plain plain) with ⟨first, pieces, read, folded⟩
  have extended := extended.trans (later.extends_addText vars rest)
  have fresh : Progress.Fresh ⟨[], []⟩ := by
    intro cs nodes same
    cases same
  have parsed : parse? text = some (later.addText rest).nodes.reverse := by
    have pieced : (.text first :: pieces : List Piece).foldlM Progress.piece? ⟨[], []⟩ =
        some (later.addText rest) := by
      simp [fresh.piece?_text, folded]
    rw [parse?, whole]
    refine Option.bind_eq_some_iff.mpr ⟨_, read _ (Nat.lt_succ_self _), ?_⟩
    refine Option.bind_eq_some_iff.mpr ⟨_, pieced, ?_⟩
    exact Option.bind_eq_some_iff.mpr ⟨(), guard_eq_some (by rw [extended.1]; rfl), rfl⟩
  have nodes : renderNodes vars (later.addText rest).nodes.reverse = .ok (out ++ rest) := by
    simpa using extended.2 [] rfl
  simp [render, parsed, nodes]

end

end MeshSidecar.Template
