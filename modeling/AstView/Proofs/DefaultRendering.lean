import AstView.Proofs.Knob
import AstView.Proofs.Settings.Defaults

/-!
# Rendering without a choice of one's own

The value of a knob to which nobody gives one is written down in three places: where a format
renders without parameters, where it reads its parameter, and in the document of the defaults. All
three say the same (`Knob.render_eq`, `Knob.renderWith_eq`, and `Knob.setting_default` with
`Settings.ofDocument_defaultsText`), so every way to leave the choice to the program emits the same
view (`Knob.unchosen_eq`). A sink in memory ends up with the text of that view, so making a text of
it cannot fail (`Knob.serialize_eq`). The emitter of JSON could fail with a fault of the form, but
emitters of views fail only as their sinks do (`Knob.writeWith_error`).
-/
namespace AstView

/-- Writes a document under a label to a sink. -/
abbrev Way := Document → String → Sink → Sink × Except Error Unit

namespace Format

/-- The ways to write in a format with the parameters that settings say or with none, by itself or
out of the registry. -/
def unchosen (format : Format) (settings : Settings) : List Way :=
  let said := settings.parametersFor format.name
  [format.write, format.writeWith .empty, format.writeWith said,
    Registry.withDefaults.write format.name, Registry.withDefaults.writeWith format.name .empty,
    Registry.withDefaults.writeWith format.name said]

end Format

namespace Knob

/-- A format renders as if its knob had the value that it has without a parameter. -/
theorem render_eq (knob : Knob) (document : Document) (label : String) :
    knob.format.render document label = (knob.view knob.unset).emitter document label := by
  cases knob <;> rfl

variable (knob : Knob) (document : Document) (label : String) (sink : Sink)

/-- Without parameters a format gives a sink the pieces of that view. -/
theorem write_eq : knob.format.write document label sink =
    sink.put ((knob.view knob.unset).rendering document label) := by
  rw [Format.write, render_eq, View.run_emitter]

/-- No parameters give a format the value that its knob has without one. -/
theorem writeWith_empty :
    knob.format.writeWith .empty document label sink = knob.format.write document label sink := by
  have alone : knob.Alone .empty := fun _ inside => nomatch inside
  rw [writeWith_gives document label sink alone (rfl : knob.Gives .empty knob.unset), write_eq]

/-- The parameters of the defaults give a format the same value. -/
theorem writeWith_default :
    knob.format.writeWith (Settings.parametersFor {} knob.format.name) document label sink =
      knob.format.write document label sink := by
  rw [writeWith_gives document label sink (knob.alone_parametersFor {})
    (knob.gives_parametersFor {}), setting_default, write_eq]

/-- All ways to leave the choice to the program come to the same. -/
theorem unchosen_eq : ∀ way ∈ knob.format.unchosen {},
    way document label sink = knob.format.write document label sink := by
  have found := knob.get_format
  simp only [Format.unchosen, List.forall_mem_cons, Registry.write_of_get document label sink found,
    Registry.writeWith_of_get document label sink found, writeWith_empty, writeWith_default]
  exact ⟨trivial, trivial, trivial, trivial, trivial, trivial, nofun⟩

/-- The text of the view that a format renders without parameters. -/
def plainText (knob : Knob) (document : Document) (label : String) : String :=
  (knob.view knob.unset).text document label

/-- A sink in memory ends up with that text. -/
theorem write_memory : ∃ gathered, knob.format.write document label .memory = (gathered, .ok ()) ∧
    gathered.written = Utf8.encode (knob.plainText document label) := by
  obtain ⟨written, success⟩ := Sink.put_memory ((knob.view knob.unset).rendering document label)
  rw [← write_eq] at written success
  exact ⟨_, Prod.ext rfl success, written.trans (View.bytes_rendering _ document label)⟩

/-- That text can be had as such. -/
theorem serialize_eq :
    knob.format.serialize document label = .ok (knob.plainText document label) := by
  obtain ⟨gathered, wrote, text⟩ := knob.write_memory document label
  rw [Format.write] at wrote
  rw [Format.serialize, wrote]
  simp only [text, Utf8.decode_encode]
  rfl

/-- Writing with parameters fails only as the sink does, or because the format refuses them. -/
theorem writeWith_error {parameters : Parameters} {error : Error}
    (failed : (knob.format.writeWith parameters document label sink).2 = .error error) :
    (∃ exhaustion : Exhaustion, error = .write exhaustion.message) ∨
      ∃ refusal, error = .ofRefusal refusal := by
  rw [Format.writeWith] at failed
  obtain ⟨value, emits⟩ | ⟨refusal, refused⟩ := knob.renderWith_cases parameters document label
  · rw [emits] at failed
    have put := (knob.view value).run_emitter document label sink
    exact .inl (Sink.put_error ((congrArg Prod.snd put).symm.trans failed))
  · rw [refused] at failed
    cases failed
    exact .inr ⟨refusal, rfl⟩

end Knob

/-- What comes of the ways to write a document that leave the choice to the program. -/
structure WritesPlainly (format : Format) (settings : Settings) (document : Document)
    (label text : String) : Prop where
  /-- A sink in memory ends up with the bytes of one text, and that is a success. -/
  memory : ∀ way ∈ format.unchosen settings, ∃ sink, way document label .memory = (sink, .ok ()) ∧
    sink.written = Utf8.encode text
  /-- The bytes are UTF-8. -/
  valid : ∀ way ∈ format.unchosen settings,
    Utf8.decode (way document label .memory).1.written = .ok text
  /-- Any other sink is written to in the same way too. -/
  same : ∀ way ∈ format.unchosen settings, ∀ sink,
    way document label sink = format.write document label sink
  /-- The text can be had as such. -/
  serialized : format.serialize document label = .ok text
  /-- Whatever the parameters and the sink are, no error is about the form of the output. -/
  formed : ∀ parameters sink reason,
    (format.write document label sink).2 ≠ .error (.serialization reason) ∧
      (format.writeWith parameters document label sink).2 ≠ .error (.serialization reason)

/-- All ways to write a document that leave the choice to the program agree, and none fails in
memory. The settings are those of the file of the defaults, which a loader without files and
overrides has. -/
theorem Format.unchosen_agree {format : Format} (builtIn : format ∈ builtIn) :
    ∃ (knob : Knob) (settings : Settings), knob.format = format ∧
      (∀ name, Settings.ofDocument name Settings.defaultsText = .ok settings) ∧
      (∀ files, ({} : Settings.Loader).build FileSystem.host files = (.ok settings, files)) ∧
      ∀ document label, WritesPlainly format settings document label
        ((knob.view knob.unset).text document label) := by
  obtain ⟨knob, rfl⟩ := Knob.mem_builtIn_iff.1 builtIn
  refine ⟨knob, {}, rfl, Settings.ofDocument_defaultsText, Settings.Loader.build_empty,
    fun document label => ?_⟩
  have same := knob.unchosen_eq document label
  have memory : ∀ way ∈ knob.format.unchosen {}, ∃ sink,
      way document label .memory = (sink, .ok ()) ∧
        sink.written = Utf8.encode (knob.plainText document label) := by
    intro way listed
    rw [same .memory way listed]
    exact knob.write_memory document label
  constructor
  case memory => exact memory
  case valid =>
    intro way listed
    obtain ⟨sink, wrote, text⟩ := memory way listed
    rw [wrote, text, Utf8.decode_encode]
    rfl
  case same => exact fun way listed sink => same sink way listed
  case serialized => exact knob.serialize_eq document label
  case formed =>
    intro parameters sink reason
    refine ⟨fun failed => ?_, fun failed => ?_⟩
    · rw [Knob.write_eq] at failed
      obtain ⟨exhaustion, other⟩ := Sink.put_error failed
      cases other
    · obtain ⟨exhaustion, other⟩ | ⟨refusal, other⟩ :=
        knob.writeWith_error document label sink failed
      · cases other
      · cases other

/-- A call with an error whose bytes are not UTF-8. -/
def torn : Document where
  calls := [⟨"f", ⟨.error [0x61, 0xC3], []⟩⟩]

theorem Format.unchosen_agree_torn :
    Format.treeView ∈ builtIn ∧
      Format.treeView.serialize torn "a" = .ok
        ("⧉ a (1 calls, 0 streams)\n├─ ƒ calls\n│ └─ ▭ f\n" ++
          "│   └─ ⚠ ERROR(a\uFFFD)\n└─ ≋ streams\n") ∧
      ∃ sink, Registry.withDefaults.writeWith "treeviz" (Settings.parametersFor {} "treeviz") torn
        "a" .memory = (sink, .ok ()) := by
  have member : Format.treeView ∈ builtIn := .tail _ (.head _)
  obtain ⟨knob, settings, own, read, -, writes⟩ := unchosen_agree member
  have plain := writes torn "a"
  obtain rfl : knob = .showIds := Knob.format_injective own
  obtain rfl : settings = {} :=
    Except.ok.inj ((read "").symm.trans (Settings.ofDocument_defaultsText ""))
  have text : (Knob.showIds.view Knob.showIds.unset).text torn "a" =
      "⧉ a (1 calls, 0 streams)\n├─ ƒ calls\n│ └─ ▭ f\n" ++
        "│   └─ ⚠ ERROR(a\uFFFD)\n└─ ≋ streams\n" := by
    decide +kernel
  rw [text] at plain
  obtain ⟨sink, wrote, -⟩ := plain.memory _ (List.getLast_mem (List.cons_ne_nil _ _))
  exact ⟨member, plain.serialized, sink, wrote⟩

end AstView
