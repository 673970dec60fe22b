import MeshSidecar.Injection.Tracer
import MeshSidecar.Proofs.Template.Composition
import MeshSidecar.Proofs.Text.Trim

namespace MeshSidecar.Tracer

/-!
# The files of tracers

The file of a tracer is rendered from lines of which only two hold variables.  It
always renders, to the same lines with the address and the port in them.  The first
line is empty, and the script leaves it out.
-/

open Template

/-- The last lines of the file. -/
def addressLines (address port : String) : List String :=
  ["                address: " ++ address, "                port_value: " ++ port]

/-- The lines above the address are an empty one, the key of the tracer, and lines
without variables. -/
structure Heads (tracer : Tracer) (rest : List String) : Prop where
  heading : tracer.heading = "" :: "tracing:" :: rest
  plain : ∀ line ∈ rest, '{' ∉ line.toList

theorem heads_jaeger (config : Config.Jaeger) : (jaeger config).Heads (jaegerHeading.drop 2) where
  heading := rfl
  plain := by simp [jaegerHeading]

theorem heads_datadog (config : Config.Datadog) :
    (datadog config).Heads (datadogHeading.drop 2) where
  heading := rfl
  plain := by simp [datadogHeading]

/-- The lines of the file with its address and port. -/
def lines (tracer : Tracer) : List String :=
  tracer.heading.tail ++ addressLines tracer.writtenAddress (Text.ofNat tracer.port.toNat)

/-- The file with its address and port. -/
def body (tracer : Tracer) : String :=
  Text.ofLines tracer.lines ++ "\n"

/-- What the definition of the file renders to. -/
def text (tracer : Tracer) : String :=
  "\n" ++ tracer.body

section

variable {tracer : Tracer} {rest : List String}

/-- Below the heading, the definition and the file differ in the address and the port. -/
theorem toList_definition (heads : tracer.Heads rest) (address port : String) :
    (Text.ofLines (tracer.heading ++ (addressLines address port ++ [""]))).toList =
      (Text.ofLines tracer.heading ++ "\n                address: ").toList ++ address.toList ++
        ("\n                port_value: ".toList ++ port.toList) ++ ['\n'] := by
  have filled : tracer.heading ≠ [] := by
    rw [heads.heading]
    exact List.cons_ne_nil _ _
  simp only [addressLines, List.cons_append, List.nil_append]
  rw [Text.ofLines_append filled (List.cons_ne_nil _ _), Text.ofLines_cons_cons,
    Text.ofLines_cons_cons]
  simp [Text.ofLines]

theorem toList_text (heads : tracer.Heads rest) : tracer.text.toList =
    (Text.ofLines tracer.heading ++ "\n                address: ").toList ++
        tracer.writtenAddress.toList ++
      ("\n                port_value: ".toList ++ (Text.ofNat tracer.port.toNat).toList) ++
        ['\n'] := by
  have cut := Text.ofLines_append (List.cons_ne_nil "tracing:" rest) (List.cons_ne_nil
    ("                address: " ++ tracer.writtenAddress)
    ["                port_value: " ++ Text.ofNat tracer.port.toNat])
  rw [text, body, lines, heads.heading, List.tail_cons, addressLines, cut, Text.ofLines_cons_cons,
    Text.ofLines_cons_cons]
  simp [Text.ofLines]

/-- A tracer gets its file written. -/
theorem content_eq (heads : tracer.Heads rest) : tracer.content = .ok tracer.text := by
  have addressFound : (Json.obj [("address", .str tracer.writtenAddress),
      ("port", .int tracer.port.toNat)]).get? "address" = some (.str tracer.writtenAddress) := by
    simp [Json.get?, SortedMap.lookup]
  have portFound : (Json.obj [("address", .str tracer.writtenAddress),
      ("port", .int tracer.port.toNat)]).get? "port" = some (.int tracer.port.toNat) := by
    simp [Json.get?, SortedMap.lookup]
  have plain : '{' ∉ (Text.ofLines tracer.heading ++ "\n                address: ").toList := by
    have above : '{' ∉ (Text.ofLines tracer.heading).toList := by
      refine Text.not_mem_ofLines (by decide) ?_
      simpa [heads.heading] using heads.plain
    rw [String.toList_append, List.mem_append, not_or]
    exact ⟨above, by simp⟩
  have between : '{' ∉ "\n                port_value: ".toList := by
    simp
  have address : Renders _ 0 _ _ := renders_value plain rfl addressFound
  have port : Renders _ 0 _ _ := renders_value between rfl portFound
  have whole := toList_definition heads "\x7b\x7b address \x7d\x7d" "\x7b\x7b port \x7d\x7d"
  have rendered := @render_of_renders _ _ tracer.template _ _ _ _ (by decide) whole
    (address.append port) (by decide)
  have digits : display (.int tracer.port.toNat) = (Text.ofNat tracer.port.toNat).toList := by
    simp [display, showInside, Text.ofNat, Text.intDigits]
  rw [display, digits, ← toList_text heads, String.ofList_toList] at rendered
  exact rendered

end

theorem content_jaeger (config : Config.Jaeger) :
    (jaeger config).content = .ok (jaeger config).text :=
  content_eq (heads_jaeger config)

theorem content_datadog (config : Config.Datadog) :
    (datadog config).content = .ok (datadog config).text :=
  content_eq (heads_datadog config)

/-! ## The script -/

/-- Line breaks at the start of the content make no difference. -/
theorem script_lineBreak (content : String) : script ("\n" ++ content) = script content := by
  have dropped : Text.trimStartWhere (· == '\n') ("\n" ++ content).toList =
      Text.trimStartWhere (· == '\n') content.toList := by
    rw [String.toList_append]
    exact List.dropWhile_cons_of_pos rfl
  unfold script
  rw [dropped]

/-- The key of the tracer stands on the line below the one that opens the document. -/
theorem script_text {tracer : Tracer} {rest : List String} (heads : tracer.Heads rest) :
    script tracer.text = "cat <<EOF >> " ++ Artifact.tracingFile ++ "\n" ++ tracer.body ++
      "EOF\n\ncat " ++ Artifact.tracingFile ++ "\n" := by
  have begins : tracer.body.toList.head? = some 't' := by
    have more : rest ++ addressLines tracer.writtenAddress (Text.ofNat tracer.port.toNat) ≠ [] :=
      List.append_ne_nil_of_right_ne_nil rest (List.cons_ne_nil _ _)
    rcases List.exists_cons_of_ne_nil more with ⟨next, later, follows⟩
    rw [body, lines, heads.heading, List.tail_cons, List.cons_append, follows,
      Text.ofLines_cons_cons]
    simp
  have stays : Text.trimStartWhere (· == '\n') tracer.body.toList = tracer.body.toList :=
    (Text.trimStartWhere_eq_iff _ _ _).mpr ⟨[], rfl, rfl, by rw [begins]; rfl⟩
  rw [text, script_lineBreak]
  unfold script
  rw [stays, String.ofList_toList]

end MeshSidecar.Tracer
