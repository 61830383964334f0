import AstView.CommandLine.Conversion
import AstView.Proofs.FileSystem
import AstView.Proofs.Knob

/-!
# What a conversion does

A conversion of files in memory resolves its format, reads its input and decodes it; then it makes
its output, renders into memory and adds what came of that to the output. `Writes` and `Converts`
say how it ends for each stage that fails and how it ends if none does, with the files that it
leaves; `convertFile_converts` says that there is nothing else. What becomes of the files follows by
cases: an error from before the output is written leaves them as they were (`Converts.keeps`), a
refusal leaves the output empty (`Converts.creates`), and if no stage fails the output has what the
registry writes into memory (`Converts.fills`).
-/
namespace AstView

/-! ## Registered formats -/

namespace Registry

variable {registry : Registry}

/-- A format that cannot be resolved is not registered. -/
theorem resolve_error {asked : Option String} {file fallback : String} {error : Error}
    (failed : registry.resolve asked file fallback = .error error) :
    ∃ name, error = .formatNotFound name := by
  rw [resolve] at failed
  cases found : registry.get (asked.getD ((registry.detect file).getD fallback)) with
  | ok format =>
    rw [found] at failed
    cases failed
  | error missing =>
    rw [found] at failed
    cases failed
    exact ⟨_, get_error found⟩

/-- A format that is resolved is registered. -/
theorem get_of_resolve {asked : Option String} {file fallback name : String}
    (resolved : registry.resolve asked file fallback = .ok name) :
    ∃ format, registry.get name = .ok format := by
  rw [resolve] at resolved
  cases found : registry.get (asked.getD ((registry.detect file).getD fallback)) with
  | error error =>
    rw [found] at resolved
    cases resolved
  | ok format =>
    rw [found] at resolved
    cases resolved
    exact ⟨format, found⟩

/-- A built-in format emits a document, which does not fail in memory, or refuses parameters. -/
theorem renderWith_cases {name : String} {format : Format}
    (found : withDefaults.get name = .ok format) (parameters : Parameters) (document : Document)
    (label : String) :
    (∃ emitter gathered, withDefaults.renderWith name parameters document label = .ok emitter ∧
        Sink.memory.run emitter = (gathered, .ok ())) ∨
      ∃ refusal,
        withDefaults.renderWith name parameters document label = .error (.ofRefusal refusal) := by
  obtain ⟨knob, rfl⟩ := Knob.exists_of_get found
  rw [renderWith_of_get document label found]
  obtain ⟨value, emits⟩ | ⟨refusal, refused⟩ := knob.renderWith_cases parameters document label
  · obtain ⟨-, success⟩ := Sink.put_memory ((knob.view value).rendering document label)
    rw [← View.run_emitter] at success
    exact .inl ⟨_, _, congrArg (Except.mapError _) emits, Prod.ext rfl success⟩
  · exact .inr ⟨refusal, congrArg (Except.mapError _) refused⟩

end Registry

namespace CommandLine

open FileSystem (Quiet)

/-! ## The stages -/

/-- How a document is written to a file, and the files that it leaves. -/
inductive Writes (files : FileSystem) (output format label : String) (parameters : Parameters)
    (document : Document) : Except Error Unit → FileSystem → Prop
  /-- The output cannot be made. -/
  | uncreated {error : FileError} (failed : files.create output = .error error) :
      Writes files output format label parameters document
        (.error (.outputCreate output error.message)) files
  /-- The format refuses parameters. The output has been made by then. -/
  | refused {made : FileSystem} {refusal : Refusal} (created : files.create output = .ok made)
      (failed : Registry.withDefaults.renderWith format parameters document label =
        .error (.ofRefusal refusal)) :
      Writes files output format label parameters document (.error (.ofRefusal refusal)) made
  /-- What is gathered in memory cannot be added to the output. -/
  | unwritten {made : FileSystem} {gathered : Sink} {error : FileError}
      (created : files.create output = .ok made)
      (rendered : Registry.withDefaults.writeWith format parameters document label .memory =
        (gathered, .ok ()))
      (failed : made.append output gathered.written = .error error) :
      Writes files output format label parameters document (.error (.write error.message)) made
  /-- What is gathered in memory is added to the output. -/
  | written {made after : FileSystem} {gathered : Sink}
      (created : files.create output = .ok made)
      (rendered : Registry.withDefaults.writeWith format parameters document label .memory =
        (gathered, .ok ()))
      (appended : made.append output gathered.written = .ok after) :
      Writes files output format label parameters document (.ok ()) after

/-- How a conversion of one file into another one ends, and the files that it leaves. -/
inductive Converts (files : FileSystem) (input output : String) (asked : Option String)
    (settings : Settings) (parameters : Parameters) : Except Error Unit → FileSystem → Prop
  /-- The format is not registered. -/
  | unresolved {name : String}
      (failed : Registry.withDefaults.resolve asked output settings.defaultFormat =
        .error (.formatNotFound name)) :
      Converts files input output asked settings parameters (.error (.formatNotFound name)) files
  /-- The input cannot be read. -/
  | unread {format : String} {error : FileError}
      (resolved : Registry.withDefaults.resolve asked output settings.defaultFormat = .ok format)
      (failed : files.read input = .error error) :
      Converts files input output asked settings parameters
        (.error (.inputRead input error.message)) files
  /-- The input is no document. -/
  | undecoded {format : String} {bytes : Bytes} {error : Wire.DecodeError}
      (resolved : Registry.withDefaults.resolve asked output settings.defaultFormat = .ok format)
      (read : files.read input = .ok bytes) (failed : Document.load bytes = .error error) :
      Converts files input output asked settings parameters (.error (.ofDecodeError error)) files
  /-- The input is a document, and it is written. -/
  | decoded {format : String} {bytes : Bytes} {document : Document} {result : Except Error Unit}
      {after : FileSystem}
      (resolved : Registry.withDefaults.resolve asked output settings.defaultFormat = .ok format)
      (read : files.read input = .ok bytes) (loaded : Document.load bytes = .ok document)
      (writes : Writes files output format (FilePath.astName (Utf8.encode input))
        (formatParameters settings format parameters) document result after) :
      Converts files input output asked settings parameters result after

section
variable {files : FileSystem} {input : String} {bytes : Bytes}

/-- A document whose file cannot be read is not loaded. -/
theorem loadPath_unread {error : FileError} (failed : files.read input = .error error) :
    Document.loadPath FileSystem.host input files =
      (.error (.inputRead input error.message), files) := by
  have read : FileSystem.host.read input files = (.error error, files) :=
    Prod.ext failed rfl
  rw [Document.loadPath, FileSystem.bind_eq read]
  rfl

/-- A document is loaded from the bytes of its file. -/
theorem loadPath_read (read : files.read input = .ok bytes) :
    Document.loadPath FileSystem.host input files =
      ((Document.load bytes).mapError Error.ofDecodeError |>.map (bytes, ·), files) := by
  have ran : FileSystem.host.read input files = (.ok bytes, files) := Prod.ext read rfl
  rw [Document.loadPath, FileSystem.bind_eq ran]
  cases decoded : Document.load bytes with
  | error error => simp only [decoded]; rfl
  | ok document => simp only [decoded]; rfl

/-- A conversion that decodes its input tells of the document and writes it. -/
theorem convertFile_loaded {output format : String} {asked : Option String} {settings : Settings}
    {document : Document}
    (resolved : Registry.withDefaults.resolve asked output settings.defaultFormat = .ok format)
    (read : files.read input = .ok bytes) (loaded : Document.load bytes = .ok document)
    (parameters : Parameters) :
    convertFile FileSystem.host input output asked settings parameters files =
      let (report, after) := writeFile FileSystem.host output format
        (FilePath.astName (Utf8.encode input)) (formatParameters settings format parameters)
        document files
      ({ report with events := .ofDocument bytes document :: report.events }, after) := by
  rw [convertFile, resolved]
  simp only [FileSystem.bind_eq (loadPath_read read), loaded]
  rfl

end

/-- A document is written in one of the four ways to a file in a registered format. -/
theorem writeFile_writes {format : String} {found : Format}
    (registered : Registry.withDefaults.get format = .ok found) (files : FileSystem)
    (output label : String) (parameters : Parameters) (document : Document) :
    Writes files output format label parameters document
      (writeFile FileSystem.host output format label parameters document files).1.result
      (writeFile FileSystem.host output format label parameters document files).2 := by
  simp only [writeFile, bind, StateT.bind, FileSystem.host_create]
  cases created : files.create output with
  | error error => exact .uncreated created
  | ok made =>
    obtain ⟨emitter, gathered, emits, ran⟩ | ⟨refusal, failed⟩ :=
      Registry.renderWith_cases registered parameters document label
    · have rendered : Registry.withDefaults.writeWith format parameters document label .memory =
          (gathered, .ok ()) := by
        rw [Registry.writeWith, emits]
        exact ran
      simp only [emits, ran, StateT.bind, FileSystem.host_append]
      cases appended : made.append output gathered.written with
      | error error => exact .unwritten created rendered appended
      | ok after => exact .written created rendered appended
    · simp only [failed]
      exact .refused created failed

/-- A conversion ends in one of the ways. -/
theorem convertFile_converts (files : FileSystem) (input output : String) (asked : Option String)
    (settings : Settings) (parameters : Parameters) :
    Converts files input output asked settings parameters
      (convertFile FileSystem.host input output asked settings parameters files).1.result
      (convertFile FileSystem.host input output asked settings parameters files).2 := by
  cases resolved : Registry.withDefaults.resolve asked output settings.defaultFormat with
  | error error =>
    obtain ⟨name, rfl⟩ := Registry.resolve_error resolved
    rw [convertFile, resolved]
    exact .unresolved resolved
  | ok format =>
    cases read : files.read input with
    | error error =>
      rw [convertFile, resolved]
      simp only [FileSystem.bind_eq (loadPath_unread read)]
      exact .unread resolved read
    | ok bytes =>
      cases loaded : Document.load bytes with
      | error error =>
        rw [convertFile, resolved]
        simp only [FileSystem.bind_eq (loadPath_read read), loaded]
        exact .undecoded resolved read loaded
      | ok document =>
        obtain ⟨found, registered⟩ := Registry.get_of_resolve resolved
        rw [convertFile_loaded resolved read loaded]
        exact .decoded resolved read loaded (writeFile_writes registered ..)

/-! ## What becomes of the files -/

/-- An error of a stage that comes before the output is written. -/
inductive EarlyError : Error → Prop
  /-- The format is not registered. -/
  | formatNotFound (name : String) : EarlyError (.formatNotFound name)
  /-- The input cannot be read. -/
  | inputRead (path reason : String) : EarlyError (.inputRead path reason)
  /-- The input is no document. -/
  | deserialization (reason : String) : EarlyError (.deserialization reason)
  /-- The output cannot be made. -/
  | outputCreate (path reason : String) : EarlyError (.outputCreate path reason)

section
variable {files after : FileSystem} {input output : String} {asked : Option String}
  {settings : Settings} {parameters : Parameters} {result : Except Error Unit}

/-- A conversion that ends with an early error changes no file. -/
theorem Converts.keeps {error : Error}
    (converts : Converts files input output asked settings parameters (.error error) after)
    (early : EarlyError error) : after = files := by
  cases converts with
  | unresolved _ => rfl
  | unread _ _ => rfl
  | undecoded _ _ _ => rfl
  | decoded _ _ _ writes =>
    cases writes with
    | uncreated _ => rfl
    | refused _ _ => nomatch early
    | unwritten _ _ _ => nomatch early

/-- A conversion that a format refuses has made its output, and nothing else. -/
theorem Converts.creates {reason : String}
    (converts : Converts files input output asked settings parameters
      (.error (.notSupported reason)) after) : files.create output = .ok after := by
  cases converts with
  | decoded _ _ _ writes =>
    cases writes with
    | refused created _ => exact created

/-- If no stage of a conversion fails, its output has what the registry writes into memory, and
nothing else changes. -/
theorem Converts.fills {format : String} {bytes : Bytes} {document : Document} {gathered : Sink}
    {location : Location}
    (converts : Converts files input output asked settings parameters result after)
    (resolved : Registry.withDefaults.resolve asked output settings.defaultFormat = .ok format)
    (read : files.read input = .ok bytes) (loaded : Document.load bytes = .ok document)
    (rendered : Registry.withDefaults.writeWith format
      (formatParameters settings format parameters) document
      (FilePath.astName (Utf8.encode input)) .memory = (gathered, .ok ()))
    (placed : files.place output = .ok location) (room : files.HasRoom location) :
    result = .ok () ∧ after = files.put location (.file gathered.written) := by
  have created : files.create output = .ok (files.put location (.file [])) :=
    FileSystem.create_of_place placed room
  have appended : (files.put location (.file [])).append output gathered.written =
      .ok (files.put location (.file gathered.written)) :=
    FileSystem.append_put placed room.isDirectoryAt [] gathered.written
  cases converts with
  | unresolved failed => cases resolved.symm.trans failed
  | unread _ failed => cases read.symm.trans failed
  | undecoded _ read' failed =>
    cases read.symm.trans read'
    cases loaded.symm.trans failed
  | decoded resolved' read' loaded' writes =>
    cases resolved.symm.trans resolved'
    cases read.symm.trans read'
    cases loaded.symm.trans loaded'
    cases writes with
    | uncreated failed => cases created.symm.trans failed
    | refused _ failed =>
      rw [Registry.writeWith, failed] at rendered
      cases rendered
    | unwritten created' rendered' failed =>
      cases created.symm.trans created'
      cases rendered.symm.trans rendered'
      cases appended.symm.trans failed
    | written created' rendered' appended' =>
      cases created.symm.trans created'
      cases rendered.symm.trans rendered'
      cases appended.symm.trans appended'
      exact ⟨rfl, rfl⟩

end

end CommandLine

end AstView
