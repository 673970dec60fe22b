import MeshSidecar.Proofs.Injection.Tracing

namespace MeshSidecar

/-!
# The script that writes the file of a tracer

The init container of a tracer hands the file to its shell as a here-document, which
ends at the first line that is its word.  The document starts with the key of the tracer,
although the content that was rendered starts with an empty line.  The address stands in
the file as the settings have it, line breaks included.  So the shell reads the document to
the end that is meant exactly when no line that the address adds is the word, and the file
names the address exactly when the address adds no line at all.
-/

namespace Text

/-- The lines of a text.  What follows the last line break is a line as well. -/
def lines (text : String) : List String :=
  (splitOn '\n' text.toList).map String.ofList

theorem lines_of_not_mem {text : String} (absent : '\n' ∉ text.toList) : lines text = [text] := by
  rw [lines, splitOn_of_not_mem absent, List.map_singleton, String.ofList_toList]

theorem lines_append (left right : String) :
    lines (left ++ "\n" ++ right) = lines left ++ lines right := by
  have lineBreak : "\n".toList = ['\n'] := rfl
  rw [lines, String.toList_append, String.toList_append, lineBreak, List.append_assoc,
    List.singleton_append, splitOn_append, List.map_append, lines, lines]

/-- What stands before a text on the same line belongs to its first line. -/
theorem lines_append_left {start text first : String} {rest : List String}
    (absent : '\n' ∉ start.toList) (read : lines text = first :: rest) :
    lines (start ++ text) = (start ++ first) :: rest := by
  rcases List.map_eq_cons_iff.mp read with ⟨piece, pieces, cut, rfl, rfl⟩
  rw [lines, String.toList_append, splitOn_append_left absent cut, List.map_cons,
    String.ofList_append, String.ofList_toList]

theorem exists_lines_eq_cons (text : String) : ∃ first rest, lines text = first :: rest := by
  refine List.exists_cons_of_ne_nil ?_
  rw [lines, Ne, List.map_eq_nil_iff]
  exact splitOn_ne_nil _ _

theorem not_mem_of_mem_lines {text line : String} (member : line ∈ lines text) :
    '\n' ∉ line.toList := by
  rcases List.mem_map.mp member with ⟨piece, cut, rfl⟩
  rw [String.toList_ofList]
  exact not_mem_of_mem_splitOn cut

theorem lines_ofLines {listed : List String} (some : listed ≠ []) :
    lines (ofLines listed) = listed.flatMap lines := by
  induction listed with
  | nil => exact absurd rfl some
  | cons line listed ih =>
      cases listed with
      | nil => rw [List.flatMap_singleton, ofLines, String.intercalate_singleton]
      | cons next listed =>
          have later := ih (List.cons_ne_nil _ _)
          rw [ofLines_cons_cons, lines_append, later]
          exact List.flatMap_cons.symm

/-- The value on a line that gives one to the key, however far the line is indented. -/
def entry? (key line : String) : Option String :=
  let start := (key ++ ": ").toList
  let told := line.toList.dropWhile (· == ' ')
  if start.isPrefixOf told then some (String.ofList (told.drop start.length)) else none

/-- A here-document as a shell reads it: the lines up to the first that is the word, and
the lines after that one. -/
def hereDocument (word : String) (lines : List String) : List String × List String :=
  (lines.takeWhile (· != word), (lines.dropWhile (· != word)).tail)

/-- A document ends where it is meant to end when its word is none of its lines. -/
theorem hereDocument_eq_iff {word : String} {body rest : List String} :
    hereDocument word (body ++ word :: rest) = (body, rest) ↔ word ∉ body := by
  constructor
  · intro read member
    have taken : (body ++ word :: rest).takeWhile (· != word) = body := congrArg Prod.fst read
    rw [← taken] at member
    have other := List.all_eq_true.mp List.all_takeWhile word member
    exact bne_iff_ne.mp other rfl
  · intro absent
    have other : ∀ line ∈ body, (line != word) = true := by
      intro line member
      exact bne_iff_ne.mpr fun same => absent (same ▸ member)
    rw [hereDocument, List.takeWhile_append_of_pos other, List.dropWhile_append_of_pos other]
    simp

end Text

namespace Tracer

/-! ## The lines of the file -/

/-- Lines that are no more than lines. -/
theorem flatMap_lines {listed : List String} (whole : ∀ line ∈ listed, '\n' ∉ line.toList) :
    listed.flatMap Text.lines = listed := by
  induction listed with
  | nil => rfl
  | cons line listed ih =>
      have later := ih fun other member => whole other (List.mem_cons_of_mem _ member)
      rw [List.flatMap_cons, Text.lines_of_not_mem (whole line List.mem_cons_self), later,
        List.singleton_append]

/-- No line above the address is taken for the word of the document, the address or the
port. -/
structure Heading (tracer : Tracer) (rest : List String) : Prop extends tracer.Heads rest where
  whole : ∀ line ∈ rest, '\n' ∉ line.toList
  continues : "EOF" ∉ rest
  address : rest.filterMap (Text.entry? "address") = []
  port : rest.filterMap (Text.entry? "port_value") = []

theorem exists_heading {tracing : Config.Tracing} {tracer : Tracer}
    (listed : tracer ∈ tracing.fileTracers) : ∃ rest, tracer.Heading rest := by
  rcases Config.Tracing.mem_fileTracers.mp listed with rfl | rfl
  · exact ⟨_, heads_jaeger _, by simp [jaegerHeading], by simp [jaegerHeading], by decide,
      by decide⟩
  · exact ⟨_, heads_datadog _, by simp [datadogHeading], by simp [datadogHeading], by decide,
      by decide⟩

theorem entry?_address (address : String) :
    Text.entry? "address" ("                address: " ++ address) = some address := by
  simp [Text.entry?]

theorem entry?_port (port : String) :
    Text.entry? "port_value" ("                port_value: " ++ port) = some port := by
  simp [Text.entry?]

theorem entry?_port_address (address : String) :
    Text.entry? "port_value" ("                address: " ++ address) = none := by
  simp [Text.entry?]

theorem entry?_address_port (port : String) :
    Text.entry? "address" ("                port_value: " ++ port) = none := by
  simp [Text.entry?]

/-- A line with an address is not the word that ends the document, and neither is one with a
port. -/
theorem ne_word {key line value : String} (told : Text.entry? key line = some value)
    (other : Text.entry? key "EOF" = none) : "EOF" ≠ line := by
  intro same
  rw [same, told] at other
  cases other

/-- The lines of the file, where an address with line breaks counts for several. -/
def written (tracer : Tracer) : List String :=
  tracer.lines.flatMap Text.lines

section

variable {tracer : Tracer}

theorem writtenAddress_eq (tracer : Tracer) : tracer.writtenAddress =
    if tracer.address = hostIpReference then "$\x7bHOST_IP\x7d" else tracer.address := by
  exact ite_congr (propext beq_iff_eq) (fun _ => rfl) fun _ => rfl

/-- Only an address that is written as it is can have line breaks. -/
theorem lines_writtenAddress (tracer : Tracer) :
    (Text.lines tracer.writtenAddress).tail = (Text.lines tracer.address).tail ∧
    ('\n' ∈ tracer.writtenAddress.toList ↔ '\n' ∈ tracer.address.toList) := by
  rw [writtenAddress_eq]
  split
  · next onHost =>
    rw [onHost]
    decide
  · exact ⟨rfl, Iff.rfl⟩

/-- Only the first line of the address stands behind the key for it. -/
theorem written_eq {rest : List String} (fixed : tracer.Heading rest) {first : String}
    {more : List String} (read : Text.lines tracer.writtenAddress = first :: more) :
    tracer.written = "tracing:" :: (rest ++ ("                address: " ++ first) ::
      (more ++ ["                port_value: " ++ Text.ofNat tracer.port.toNat])) := by
  have begins : '\n' ∉ "tracing:".toList := by
    simp
  have addressKey : '\n' ∉ "                address: ".toList := by
    simp
  have portLine : '\n' ∉ ("                port_value: " ++
      Text.ofNat tracer.port.toNat).toList := by
    have digits : '\n' ∉ (Text.ofNat tracer.port.toNat).toList := by
      rw [Text.ofNat, String.toList_ofList]
      exact Text.not_mem_digits rfl _
    rw [String.toList_append, List.mem_append, not_or]
    exact ⟨by simp, digits⟩
  rw [written, lines, fixed.heading, List.tail_cons, List.flatMap_append, List.flatMap_cons,
    Text.lines_of_not_mem begins, flatMap_lines fixed.whole, addressLines, List.flatMap_cons,
    Text.lines_append_left addressKey read, List.flatMap_singleton, Text.lines_of_not_mem portLine,
    List.singleton_append, List.cons_append, List.cons_append]

theorem lines_ne_nil (tracer : Tracer) : tracer.lines ≠ [] :=
  List.append_ne_nil_of_right_ne_nil _ (List.cons_ne_nil _ _)

/-- A text behind the file is read on its own, since the file ends with a line break. -/
theorem lines_body (tracer : Tracer) (rest : String) :
    Text.lines (tracer.body ++ rest) = tracer.written ++ Text.lines rest := by
  rw [body, Text.lines_append, Text.lines_ofLines tracer.lines_ne_nil, written]

end

/-! ## What the script and the file say -/

/-- The init container of a tracer has the script write these lines: those of the rendered
content below its leading line break, as a here-document between its opening and its word,
before the file is shown.  The variable that the file may name is given to it exactly when
traces go to the node. -/
structure Transcribes (tracer : Tracer) (init : Container) (script : String)
    (written : List String) : Prop where
  command : init.command = some ["sh", "-c", script]
  script : Text.lines script = ("cat <<EOF >> " ++ Artifact.tracingFile) ::
    (written ++ ["EOF", "", "cat " ++ Artifact.tracingFile, ""])
  rendered : ∃ content, tracer.content = .ok content ∧
    Text.lines content = "" :: (written ++ [""])
  begins : written.head? = some "tracing:"
  env : init.env = if tracer.address = hostIpReference
    then some [.ofField "HOST_IP" "status.hostIP"] else none

/-- The lines have one with the address, or with the variable that stands for that of the
node, and one with the port. -/
structure Tells (tracer : Tracer) (written : List String) : Prop where
  address : written.filterMap (Text.entry? "address") =
    [if tracer.address = hostIpReference then "$\x7bHOST_IP\x7d" else tracer.address]
  port : written.filterMap (Text.entry? "port_value") = [Text.ofNat tracer.port.toNat]

/-- The shell reads the lines as the document, and goes on to show the file. -/
structure Arrives (tracer : Tracer) (script : String) (written : List String) : Prop
    extends tracer.Tells written where
  document : Text.hereDocument "EOF" (Text.lines script).tail =
    (written, ["", "cat " ++ Artifact.tracingFile, ""])

section

variable {tracer : Tracer} {rest : List String}

theorem lines_script (heads : tracer.Heads rest) : Text.lines (Tracer.script tracer.text) =
    ("cat <<EOF >> " ++ Artifact.tracingFile) ::
      (tracer.written ++ ["EOF", "", "cat " ++ Artifact.tracingFile, ""]) := by
  have opening : '\n' ∉ ("cat <<EOF >> " ++ Artifact.tracingFile).toList := by
    decide
  have closing : Text.lines ("EOF\n\ncat " ++ Artifact.tracingFile ++ "\n") =
      ["EOF", "", "cat " ++ Artifact.tracingFile, ""] := by
    decide
  -- Stated for variables, since literals would be compared letter by letter.
  have split (first file lineBreak word : String) :
      first ++ file ++ lineBreak ++ tracer.body ++ word ++ file ++ lineBreak =
        first ++ file ++ lineBreak ++ (tracer.body ++ (word ++ file ++ lineBreak)) := by
    simp only [String.append_assoc]
  rw [script_text heads, split, Text.lines_append, Text.lines_of_not_mem opening, lines_body,
    closing, List.singleton_append]

theorem transcribes_initContainer (fixed : tracer.Heading rest) :
    tracer.Transcribes tracer.initContainer (Tracer.script tracer.text) tracer.written where
  command := rfl
  script := lines_script fixed.toHeads
  rendered := by
    have blank : Text.lines "" = [""] := by
      decide
    have whole := Text.lines_append "" (tracer.body ++ "")
    rw [lines_body, blank, String.empty_append, String.append_empty] at whole
    exact ⟨_, content_eq fixed.toHeads, whole⟩
  begins := by
    rcases Text.exists_lines_eq_cons tracer.writtenAddress with ⟨first, more, read⟩
    rw [written_eq fixed read, List.head?_cons]
  env := ite_congr (propext beq_iff_eq) (fun _ => rfl) fun _ => rfl

/-- Apart from lines that the address adds, no line is the word of the document. -/
theorem word_mem_written (fixed : tracer.Heading rest) :
    "EOF" ∈ tracer.written ↔ "EOF" ∈ (Text.lines tracer.address).tail := by
  rcases Text.exists_lines_eq_cons tracer.writtenAddress with ⟨first, more, read⟩
  have addressLine := ne_word (entry?_address first) (by decide)
  have portLine := ne_word (entry?_port (Text.ofNat tracer.port.toNat)) (by decide)
  rw [written_eq fixed read, ← (lines_writtenAddress tracer).1, read]
  simp [fixed.continues, addressLine, portLine]

/-- A line cannot hold more than the first line of an address. -/
theorem tells_written (fixed : tracer.Heading rest) :
    tracer.Tells tracer.written ↔ '\n' ∉ tracer.address.toList := by
  rw [← (lines_writtenAddress tracer).2]
  rcases Text.exists_lines_eq_cons tracer.writtenAddress with ⟨first, more, read⟩
  have shape := written_eq fixed read
  have noAddress : Text.entry? "address" "tracing:" = none := by
    decide
  have noPort : Text.entry? "port_value" "tracing:" = none := by
    decide
  constructor
  · intro tells
    -- The first address that is found is the first line alone, which has no line break.
    have told := tells.address
    rw [shape, List.filterMap_cons_none noAddress, List.filterMap_append, fixed.address,
      List.nil_append, List.filterMap_cons_some (entry?_address first), ← writtenAddress_eq,
      List.cons.injEq] at told
    rw [← told.1]
    exact Text.not_mem_of_mem_lines (read ▸ List.mem_cons_self)
  · intro absent
    rw [Text.lines_of_not_mem absent, List.cons.injEq] at read
    rcases read with ⟨rfl, rfl⟩
    constructor
    case address =>
      rw [shape, List.filterMap_cons_none noAddress, List.filterMap_append, fixed.address,
        List.nil_append, List.filterMap_cons_some (entry?_address _), ← writtenAddress_eq]
      rw [List.nil_append, List.filterMap_cons_none (entry?_address_port _), List.filterMap_nil]
    case port =>
      rw [shape, List.filterMap_cons_none noPort, List.filterMap_append, fixed.port,
        List.nil_append, List.filterMap_cons_none (entry?_port_address _), List.nil_append,
        List.filterMap_cons_some (entry?_port _), List.filterMap_nil]

/-- An init container is asked for one list of lines. -/
theorem Transcribes.unique {init : Container} {script other : String} {written lines : List String}
    (transcribes : tracer.Transcribes init script written)
    (again : tracer.Transcribes init other lines) : script = other ∧ written = lines := by
  have same : script = other := by
    simpa using transcribes.command.symm.trans again.command
  subst same
  have cut := transcribes.script.symm.trans again.script
  rw [List.cons.injEq] at cut
  exact ⟨rfl, List.append_cancel_right cut.2⟩

/-- The document ends where it is meant to end when no line of the file is its word. -/
theorem Transcribes.document_iff {init : Container} {script : String} {written : List String}
    (transcribes : tracer.Transcribes init script written) :
    Text.hereDocument "EOF" (Text.lines script).tail =
      (written, ["", "cat " ++ Artifact.tracingFile, ""]) ↔ "EOF" ∉ written := by
  rw [transcribes.script, List.tail_cons]
  exact Text.hereDocument_eq_iff

end

section

variable {tracing : Config.Tracing} {tracer : Tracer} {pod : Pod}

/-- What a tracer adds to a pod without its volume. -/
theorem apply_of_hidden (listed : tracer ∈ tracing.fileTracers) (enabled : tracer.enabled)
    (hidden : pod.hasVolume Artifact.tracingVolume = false) :
    ∃ served, tracer.apply pod = .ok served ∧
      served.initContainers = pod.initContainers ++ [tracer.initContainer] := by
  rcases Config.Tracing.exists_heads listed with ⟨rest, heads⟩
  refine ⟨_, apply_eq (content_eq heads) pod, ?_⟩
  rw [enabled, hidden]
  simp [Pod.initContainers_eq, Pod.addInitContainer, Pod.addVolumes]

/-- Every tracer that is enabled gives a pod without its volume an init container for its
file.  The shell reads the document to the end that is meant exactly when no line that the
address adds is the word of the document, and the file arrives as a whole, with the address
and the port on one line each, exactly when the address adds no line. -/
theorem file_arrives_iff (listed : tracer ∈ tracing.fileTracers) (enabled : tracer.enabled)
    (hidden : pod.hasVolume Artifact.tracingVolume = false) :
    ∃ served init script written, tracer.apply pod = .ok served ∧
      served.initContainers = pod.initContainers ++ [init] ∧
      tracer.Transcribes init script written ∧
      (Text.hereDocument "EOF" (Text.lines script).tail =
          (written, ["", "cat " ++ Artifact.tracingFile, ""]) ↔
        "EOF" ∉ (Text.lines tracer.address).tail) ∧
      (tracer.Arrives script written ↔ '\n' ∉ tracer.address.toList) := by
  rcases exists_heading listed with ⟨rest, fixed⟩
  rcases apply_of_hidden listed enabled hidden with ⟨served, applied, added⟩
  have transcribes := transcribes_initContainer fixed
  have tells := tells_written fixed
  have document := transcribes.document_iff.trans (not_congr (word_mem_written fixed))
  refine ⟨served, _, _, _, applied, added, transcribes, document, ?_⟩
  constructor
  · exact fun arrives => tells.mp arrives.toTells
  · intro absent
    refine ⟨tells.mpr absent, document.mpr ?_⟩
    rw [Text.lines_of_not_mem absent]
    exact List.not_mem_nil

/-- The file of an agent on the node arrives, with the variable for its address. -/
theorem file_arrives_on_host :
    let tracing : Config.Tracing :=
      { datadog := { enabled := true, address := "ref:status.hostIP" } }
    let tracer := Tracer.datadog tracing.datadog
    tracer ∈ tracing.fileTracers ∧ tracer.enabled ∧
    Pod.empty.hasVolume Artifact.tracingVolume = false ∧
    ∃ served init script written, tracer.apply .empty = .ok served ∧
      served.initContainers = [init] ∧ tracer.Transcribes init script written ∧
      tracer.Arrives script written := by
  intro tracing tracer
  have listed : tracer ∈ tracing.fileTracers := List.mem_cons_of_mem _ List.mem_cons_self
  have hidden : Pod.empty.hasVolume Artifact.tracingVolume = false := by
    decide
  rcases file_arrives_iff listed rfl hidden with
    ⟨served, init, script, written, applied, added, transcribes, document, arrives⟩
  exact ⟨listed, rfl, hidden, served, init, script, written, applied, added, transcribes,
    arrives.mpr (by decide)⟩

/-- An address with a line of its own that is the word ends the document there. -/
theorem file_cut_short :
    let tracer := Tracer.jaeger { enabled := true, address := "collector\nEOF\necho" }
    tracer.enabled ∧ Pod.empty.hasVolume Artifact.tracingVolume = false ∧
    ¬ ∃ served init script written, tracer.apply .empty = .ok served ∧
      served.initContainers = [init] ∧ tracer.Transcribes init script written ∧
      Text.hereDocument "EOF" (Text.lines script).tail =
        (written, ["", "cat " ++ Artifact.tracingFile, ""]) := by
  intro tracer
  have hidden : Pod.empty.hasVolume Artifact.tracingVolume = false := by
    decide
  refine ⟨rfl, hidden, ?_⟩
  rintro ⟨served, init, script, written, applied, added, transcribes, document⟩
  have listed : tracer ∈ Config.Tracing.fileTracers
      { jaeger := { enabled := true, address := "collector\nEOF\necho" } } := List.mem_cons_self
  rcases exists_heading listed with ⟨rest, fixed⟩
  rcases apply_of_hidden listed rfl hidden with ⟨other, again, brought⟩
  rw [again, Except.ok.injEq] at applied
  rw [← applied, brought] at added
  have same : tracer.initContainer = init := List.singleton_inj.mp added
  have determined := (same ▸ transcribes_initContainer fixed).unique transcribes
  have absent := transcribes.document_iff.mp document
  rw [← determined.2, word_mem_written fixed] at absent
  exact absent (by decide)

end

end Tracer

end MeshSidecar
