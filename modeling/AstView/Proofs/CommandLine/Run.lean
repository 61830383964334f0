import AstView.CommandLine.Run
import AstView.Proofs.CommandLine.Conversion
import AstView.Proofs.Settings.Defaults
import AstView.Proofs.Wire.Truncation

/-!
# How runs end

A run is its ending put into words (`run_eq_finish`), and `Finishes` says for each ending what the
stages have come to (`finish_finishes`). Up to the conversion they read files only
(`runRequest_eq`). So a run that fails before the output is written touches no file
(`early_end_keeps_files`). A format refuses parameters after the output has been made, so such a run
leaves the output empty (`refusal_empties_output`), whatever it had (`refusal_loses_content`).
-/
namespace AstView.CommandLine

open FileSystem (bind_eq_ok)

/-! ## Endings -/

/-- How a run ends. -/
inductive Ending where
  /-- It fails before the conversion. -/
  | failed (failure : Failure)
  /-- The formats are listed. -/
  | listed
  /-- It converts a file, or fails to. -/
  | converted (report : Report)

namespace Ending

/-- What the user gets. -/
def outcome : Ending → Outcome
  | failed failure => failure.outcome
  | listed => { output := formatList Registry.withDefaults }
  | converted report => report.outcome

/-- The ending for what a request comes to. -/
def ofResult : Except Failure Report → Ending
  | .error failure => failed failure
  | .ok report => converted report

/-- An ending before the output is written. -/
inductive Early : Ending → Prop
  /-- The run fails before the conversion. -/
  | failed (failure : Failure) : Early (.failed failure)
  /-- There is no conversion. -/
  | listed : Early .listed
  /-- The conversion ends with an early error. -/
  | converted {events : List Event} {error : Error} (early : EarlyError error) :
      Early (.converted ⟨events, .error error⟩)

end Ending

section
variable {m : Type → Type} [Monad m]

/-- Runs the program up to its ending. -/
def finish (host : Host m) (arguments : List String) : m Ending :=
  match Request.parse (splitExtras arguments).1 with
  | .error error => return .failed (.usage error)
  | .ok request =>
    if request.listFormats then return .listed
    else return .ofResult (← runRequest host request (splitExtras arguments).2)

/-- A run is its ending put into words. -/
theorem run_eq_finish [LawfulMonad m] (host : Host m) (arguments : List String) :
    run host arguments = Ending.outcome <$> finish host arguments := by
  simp only [run, finish]
  cases parsed : Request.parse (splitExtras arguments).1 with
  | error error => simp only [map_pure, Ending.outcome]
  | ok request =>
    cases listing : request.listFormats with
    | true => simp only [listing, if_true, map_pure, Ending.outcome]
    | false =>
      simp only [listing, Bool.false_eq_true, if_false, map_bind, map_pure]
      congr 1
      funext result
      cases result <;> rfl

end

/-! ## Requests -/

/-- A request for a conversion has both paths. -/
theorem Request.paths_of_parse {arguments : List String} {request : Request}
    (accepted : Request.parse arguments = .ok request) (converting : request.listFormats = false) :
    ∃ input output, request.input = some input ∧ request.output = some output := by
  obtain ⟨progress, -, accepted⟩ := bind_eq_ok.1 accepted
  obtain ⟨settled, -, accepted⟩ := bind_eq_ok.1 accepted
  simp only at accepted
  split at accepted
  · cases accepted
  · split at accepted
    · cases accepted
    · rename_i complete
      cases accepted
      rw [converting] at complete
      simp only [Bool.not_false, Bool.true_and, Bool.or_eq_true, not_or, Bool.not_eq_true,
        Option.isNone_eq_false_iff, Option.isSome_iff_exists] at complete
      obtain ⟨⟨input, first⟩, output, second⟩ := complete
      exact ⟨input, output, first, second⟩

/-- A request with both paths converts the one file into the other. -/
theorem convert_eq {request : Request} {input output : String} (first : request.input = some input)
    (second : request.output = some output) (settings : Settings) (parameters : Parameters) :
    convert FileSystem.host request settings parameters =
      convertFile FileSystem.host input output request.format settings parameters := by
  rw [convert, first, second]

/-- The settings are loaded and changed, and then the file is converted. Only that changes files. -/
theorem runRequest_eq (request : Request) (extras : Parameters) (files : FileSystem) :
    runRequest FileSystem.host request extras files =
      match ((settingsLoader request.settings).build FileSystem.host files).1 with
      | .error error => (.error (.settings error), files)
      | .ok loaded =>
        match applyOverrides loaded extras with
        | .error refusal => (.error (.override refusal), files)
        | .ok (settings, parameters) =>
          (.ok (convert FileSystem.host request settings parameters files).1,
            (convert FileSystem.host request settings parameters files).2) := by
  have quiet : ((settingsLoader request.settings).build FileSystem.host files).2 = files :=
    Settings.Loader.quiet_build _ files
  have built : (settingsLoader request.settings).build FileSystem.host files =
      (((settingsLoader request.settings).build FileSystem.host files).1, files) :=
    Prod.ext rfl quiet
  rw [runRequest, FileSystem.bind_eq built]
  cases ((settingsLoader request.settings).build FileSystem.host files).1 with
  | error error => rfl
  | ok loaded =>
    simp only
    cases applyOverrides loaded extras with
    | error refusal => rfl
    | ok changed => rfl

/-- A run of a request for a conversion ends with what the request comes to. -/
theorem finish_accepted {files : FileSystem} {arguments : List String} {request : Request}
    (accepted : Request.parse (splitExtras arguments).1 = .ok request)
    (converting : request.listFormats = false) :
    finish FileSystem.host arguments files =
      (.ofResult (runRequest FileSystem.host request (splitExtras arguments).2 files).1,
        (runRequest FileSystem.host request (splitExtras arguments).2 files).2) := by
  simp only [finish, accepted, converting, Bool.false_eq_true, if_false]
  rfl

/-- A run that gets as far as the conversion ends with its report. -/
theorem finish_of_built {files : FileSystem} {arguments : List String} {request : Request}
    {loaded settings : Settings} {parameters : Parameters}
    (accepted : Request.parse (splitExtras arguments).1 = .ok request)
    (converting : request.listFormats = false)
    (built : ((settingsLoader request.settings).build FileSystem.host files).1 = .ok loaded)
    (changed : applyOverrides loaded (splitExtras arguments).2 = .ok (settings, parameters)) :
    finish FileSystem.host arguments files =
      (.converted (convert FileSystem.host request settings parameters files).1,
        (convert FileSystem.host request settings parameters files).2) := by
  rw [finish_accepted accepted converting, runRequest_eq, built]
  simp only [changed, Ending.ofResult]

/-! ## The stages -/

/-- How a run on files in memory ends, and the files that it leaves. -/
inductive Finishes (files : FileSystem) (arguments : List String) : Ending → FileSystem → Prop
  /-- The arguments come to no request. -/
  | misused {error : UsageError} (failed : Request.parse (splitExtras arguments).1 = .error error) :
      Finishes files arguments (.failed (.usage error)) files
  /-- The request is for the list of formats. -/
  | listed {request : Request} (accepted : Request.parse (splitExtras arguments).1 = .ok request)
      (listing : request.listFormats = true) : Finishes files arguments .listed files
  /-- The settings cannot be loaded. -/
  | unloaded {request : Request} {error : Settings.Error}
      (accepted : Request.parse (splitExtras arguments).1 = .ok request)
      (converting : request.listFormats = false)
      (failed : ((settingsLoader request.settings).build FileSystem.host files).1 = .error error) :
      Finishes files arguments (.failed (.settings error)) files
  /-- An extra argument that stands for a setting is no truth value. -/
  | misread {request : Request} {loaded : Settings} {refusal : Refusal}
      (accepted : Request.parse (splitExtras arguments).1 = .ok request)
      (converting : request.listFormats = false)
      (built : ((settingsLoader request.settings).build FileSystem.host files).1 = .ok loaded)
      (failed : applyOverrides loaded (splitExtras arguments).2 = .error refusal) :
      Finishes files arguments (.failed (.override refusal)) files
  /-- The file of the request is converted. -/
  | converted {request : Request} {loaded settings : Settings} {parameters : Parameters}
      {input output : String} {report : Report} {after : FileSystem}
      (accepted : Request.parse (splitExtras arguments).1 = .ok request)
      (converting : request.listFormats = false)
      (built : ((settingsLoader request.settings).build FileSystem.host files).1 = .ok loaded)
      (changed : applyOverrides loaded (splitExtras arguments).2 = .ok (settings, parameters))
      (first : request.input = some input) (second : request.output = some output)
      (converts : Converts files input output request.format settings parameters report.result
        after) :
      Finishes files arguments (.converted report) after

/-- A run ends in one of the ways. -/
theorem finish_finishes (files : FileSystem) (arguments : List String) :
    Finishes files arguments (finish FileSystem.host arguments files).1
      (finish FileSystem.host arguments files).2 := by
  cases accepted : Request.parse (splitExtras arguments).1 with
  | error error =>
    simp only [finish, accepted]
    exact .misused accepted
  | ok request =>
    cases converting : request.listFormats with
    | true =>
      simp only [finish, accepted, converting, if_true]
      exact .listed accepted converting
    | false =>
      cases built : ((settingsLoader request.settings).build FileSystem.host files).1 with
      | error error =>
        rw [finish_accepted accepted converting, runRequest_eq, built]
        exact .unloaded accepted converting built
      | ok loaded =>
        cases changed : applyOverrides loaded (splitExtras arguments).2 with
        | error refusal =>
          rw [finish_accepted accepted converting, runRequest_eq, built]
          simp only [changed]
          exact .misread accepted converting built changed
        | ok pair =>
          obtain ⟨input, output, first, second⟩ := Request.paths_of_parse accepted converting
          rw [finish_of_built accepted converting built changed, convert_eq first second]
          exact .converted accepted converting built changed first second
            (convertFile_converts files input output request.format pair.1 pair.2)

/-! ## What failing runs leave -/

section
variable {files : FileSystem} {arguments : List String}

/-- A run in memory is its ending put into words, with the files that it leaves. -/
theorem run_eq : run FileSystem.host arguments files =
    ((finish FileSystem.host arguments files).1.outcome,
      (finish FileSystem.host arguments files).2) := by
  rw [run_eq_finish]
  rfl

/-- A conversion of a request that ends with an early error changes no file. -/
theorem convert_keeps {request : Request} {settings : Settings} {parameters : Parameters}
    {error : Error}
    (failed : (convert FileSystem.host request settings parameters files).1.result = .error error)
    (early : EarlyError error) :
    (convert FileSystem.host request settings parameters files).2 = files := by
  cases first : request.input with
  | none =>
    rw [convert, first]
    rfl
  | some input =>
    cases second : request.output with
    | none =>
      rw [convert, first, second]
      rfl
    | some output =>
      have converts := convertFile_converts files input output request.format settings parameters
      rw [convert_eq first second] at failed ⊢
      rw [failed] at converts
      exact converts.keeps early

/-- A request that comes to an early ending changes no file. -/
theorem runRequest_keeps {request : Request} {extras : Parameters}
    (early : (Ending.ofResult (runRequest FileSystem.host request extras files).1).Early) :
    (runRequest FileSystem.host request extras files).2 = files := by
  rw [runRequest_eq] at early ⊢
  cases built : ((settingsLoader request.settings).build FileSystem.host files).1 with
  | error error => rfl
  | ok loaded =>
    rw [built] at early
    cases changed : applyOverrides loaded extras with
    | error refusal => simp only [changed]
    | ok pair =>
      simp only [changed, Ending.ofResult] at early ⊢
      generalize ended : (convert FileSystem.host request pair.1 pair.2 files).1 = report at early
      cases early with
      | converted early => exact convert_keeps (congrArg Report.result ended) early

/-- A run with an early ending changes no file. -/
theorem finish_keeps (early : (finish FileSystem.host arguments files).1.Early) :
    (finish FileSystem.host arguments files).2 = files := by
  cases accepted : Request.parse (splitExtras arguments).1 with
  | error error =>
    simp only [finish, accepted]
    rfl
  | ok request =>
    cases converting : request.listFormats with
    | true =>
      simp only [finish, accepted, converting, if_true]
      rfl
    | false =>
      rw [finish_accepted accepted converting] at early ⊢
      exact runRequest_keeps early

/-- What fails before the output is written touches no file: neither a run, nor a request whatever
it asks for, nor a conversion with whatever settings. -/
theorem early_end_keeps_files (files : FileSystem) :
    (∀ arguments, (finish FileSystem.host arguments files).1.Early →
      run FileSystem.host arguments files =
        ((finish FileSystem.host arguments files).1.outcome, files)) ∧
    (∀ request extras,
      (Ending.ofResult (runRequest FileSystem.host request extras files).1).Early →
      (runRequest FileSystem.host request extras files).2 = files) ∧
    ∀ request settings parameters error,
      (convert FileSystem.host request settings parameters files).1.result = .error error →
      EarlyError error →
      (convert FileSystem.host request settings parameters files).2 = files := by
  refine ⟨fun arguments early => ?_, fun _ _ => runRequest_keeps, fun _ _ _ _ => convert_keeps⟩
  rw [run_eq, finish_keeps early]

end

/-- A root with a call. -/
def oneCall : Wire.Root where
  calls := [{ name := "add", value := some { tag := 1, slot := some (.unsigned 7) } }]

/-- A document and another file. -/
def twoFiles : FileSystem :=
  (FileSystem.scratch.withFile "t.bin" oneCall.encode).withFile "keep.dot" (Utf8.encode "old")

/-- The settings for the two files are the defaults. -/
theorem build_twoFiles :
    ((settingsLoader none).build FileSystem.host twoFiles).1 = .ok {} := by
  rw [Settings.build_absent (by decide +kernel) (by decide +kernel)]

theorem early_end_keeps_files_svg :
    (finish FileSystem.host ["t.bin", "keep.dot", "--to", "svg"] twoFiles).1 =
        .converted ⟨[], .error (.formatNotFound "svg")⟩ ∧
      run FileSystem.host ["t.bin", "keep.dot", "--to", "svg"] twoFiles =
        ({ exitCode := 1, complaint := "Error: Format 'svg' not found\n" }, twoFiles) := by
  let request : Request :=
    { input := some "t.bin", output := some "keep.dot", format := some "svg" }
  have accepted : Request.parse (splitExtras ["t.bin", "keep.dot", "--to", "svg"]).1 =
      .ok request := rfl
  have ended : (finish FileSystem.host ["t.bin", "keep.dot", "--to", "svg"] twoFiles).1 =
      .converted ⟨[], .error (.formatNotFound "svg")⟩ := by
    rw [finish_of_built accepted rfl build_twoFiles rfl]
    rfl
  refine ⟨ended, ?_⟩
  rw [(early_end_keeps_files twoFiles).1 _ (ended ▸ .converted (.formatNotFound "svg")), ended]
  rfl

/-! ## What refusals leave -/

/-- How a run with an extra argument that no format knows ends on the two files. -/
theorem finish_twoFiles :
    finish FileSystem.host ["t.bin", "keep.dot", "--extra-x"] twoFiles =
      (.converted ⟨[.decoded oneCall.encode.length 1 0 1],
        .error (.notSupported "Format 'dot' does not support parameter(s): x")⟩,
        twoFiles.put [Utf8.encode "work", Utf8.encode "keep.dot"] (.file [])) := by
  have loaded : Document.load oneCall.encode = .ok (.ofWire oneCall) :=
    Document.load_encode (by decide)
  have read : twoFiles.read "t.bin" = .ok oneCall.encode := rfl
  let request : Request := { input := some "t.bin", output := some "keep.dot" }
  have accepted : Request.parse (splitExtras ["t.bin", "keep.dot", "--extra-x"]).1 = .ok request :=
    rfl
  have resolved : Registry.withDefaults.resolve none "keep.dot" "dot" = .ok "dot" := rfl
  rw [finish_of_built accepted rfl build_twoFiles rfl, convert_eq rfl rfl,
    convertFile_loaded resolved read loaded]
  rfl

/-- A run that a format refuses has emptied its output. -/
theorem refusal_empties_output {files : FileSystem} {arguments : List String} {events : List Event}
    {reason : String}
    (refused : (finish FileSystem.host arguments files).1 =
      .converted ⟨events, .error (.notSupported reason)⟩) :
    ∃ request output location, Request.parse (splitExtras arguments).1 = .ok request ∧
      request.output = some output ∧ files.place output = .ok location ∧
      (files.HasRoom location →
        run FileSystem.host arguments files =
          (Report.outcome ⟨events, .error (.notSupported reason)⟩,
            files.put location (.file []))) := by
  have finishes := finish_finishes files arguments
  rw [refused] at finishes
  cases finishes with
  | @converted request _ _ _ _ output _ _ accepted _ _ _ _ second converts =>
    obtain ⟨location, placed, emptied⟩ := FileSystem.place_of_create converts.creates
    refine ⟨request, output, location, accepted, second, placed, fun room => ?_⟩
    rw [run_eq, refused, emptied room]
    rfl

theorem refusal_empties_output_twoFiles :
    run FileSystem.host ["t.bin", "keep.dot", "--extra-x"] twoFiles =
      ({ exitCode := 1,
         events := [.decoded oneCall.encode.length 1 0 1],
         complaint :=
          "Error: Operation not supported: Format 'dot' does not support parameter(s): x\n" },
        twoFiles.put [Utf8.encode "work", Utf8.encode "keep.dot"] (.file [])) := by
  have refused := congrArg Prod.fst finish_twoFiles
  obtain ⟨request, output, location, accepted, second, placed, emptied⟩ :=
    refusal_empties_output refused
  have own : Request.parse (splitExtras ["t.bin", "keep.dot", "--extra-x"]).1 =
      .ok { input := some "t.bin", output := some "keep.dot" } := rfl
  cases own.symm.trans accepted
  cases second
  have place : twoFiles.place "keep.dot" =
      .ok [Utf8.encode "work", Utf8.encode "keep.dot"] := rfl
  cases place.symm.trans placed
  exact emptied (.inr ⟨Utf8.encode "old", rfl⟩)

/-- A refused run does not keep what its output had. -/
theorem refusal_loses_content :
    (finish FileSystem.host ["t.bin", "keep.dot", "--extra-x"] twoFiles).1 =
        .converted ⟨[.decoded oneCall.encode.length 1 0 1],
          .error (.notSupported "Format 'dot' does not support parameter(s): x")⟩ ∧
      twoFiles.read "keep.dot" = .ok (Utf8.encode "old") ∧
      (run FileSystem.host ["t.bin", "keep.dot", "--extra-x"] twoFiles).2.read "keep.dot" =
        .ok [] := by
  refine ⟨congrArg Prod.fst finish_twoFiles, rfl, ?_⟩
  rw [run_eq, finish_twoFiles]
  rfl

end AstView.CommandLine
