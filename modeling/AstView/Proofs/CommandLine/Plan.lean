import AstView.Proofs.CommandLine.Run

/-!
# Runs that succeed

A plan has what the stages of a run come to: the settings, the format, the document and what is left
of the extra arguments. It is valid if no stage fails and each comes to what the plan says. A run
succeeds if and only if it has a valid plan, and then its output has what the registry writes for
the plan into memory, and nothing else has changed (`run_refines_library`). The plan is about the
files before the run, so this is true as well if the output takes the place of the input.
-/
namespace AstView.CommandLine

open FileSystem (bind_eq_ok)

/-! ## Default formats -/

/-- A parameter that stands for another setting leaves the default format as it is. -/
theorem defaultFormat_of_takeFlag {settings changed : Settings} {parameters left : Parameters}
    {name key : String} {change : Bool → Settings}
    (taken : takeFlag settings parameters name key change = .ok (changed, left))
    (other : ∀ value, (change value).defaultFormat = settings.defaultFormat) :
    changed.defaultFormat = settings.defaultFormat := by
  unfold takeFlag at taken
  split at taken
  · cases taken
    rfl
  · cases flag : Parameters.readFlag name _ with
    | error refusal =>
      rw [flag] at taken
      cases taken
    | ok value =>
      rw [flag] at taken
      cases taken
      exact other value

/-- No parameter stands for the default format. -/
theorem defaultFormat_of_applyOverrides {loaded settings : Settings} {extras left : Parameters}
    (changed : applyOverrides loaded extras = .ok (settings, left)) :
    settings.defaultFormat = loaded.defaultFormat := by
  unfold applyOverrides at changed
  obtain ⟨⟨first, rest⟩, escaping, changed⟩ := bind_eq_ok.1 changed
  obtain ⟨⟨second, rest'⟩, showing, printing⟩ := bind_eq_ok.1 changed
  calc settings.defaultFormat
      = second.defaultFormat := defaultFormat_of_takeFlag printing fun _ => rfl
    _ = first.defaultFormat := defaultFormat_of_takeFlag showing fun _ => rfl
    _ = loaded.defaultFormat := defaultFormat_of_takeFlag escaping fun _ => rfl

/-! ## Plans -/

/-- What the stages of a run come to. -/
structure Plan where
  /-- The path of the input. -/
  input : String
  /-- The path of the output. -/
  output : String
  /-- The settings from files. -/
  loaded : Settings
  /-- The settings changed by extra arguments. -/
  settings : Settings
  /-- The extra arguments that are left for the format. -/
  parameters : Parameters
  /-- The name of the format. -/
  format : String
  /-- The content of the input. -/
  bytes : Bytes
  /-- The document of the input. -/
  document : Document

namespace Plan

/-- What the registry writes into memory, and how that ends. -/
def written (plan : Plan) : Sink × Except Error Unit :=
  Registry.withDefaults.writeWith plan.format
    (formatParameters plan.settings plan.format plan.parameters) plan.document
    (FilePath.astName (Utf8.encode plan.input)) .memory

/-- The content of the output. -/
def content (plan : Plan) : Bytes := plan.written.1.written

/-- No stage of a request fails, and they come to the plan. -/
structure Valid (plan : Plan) (files : FileSystem) (request : Request) (extras : Parameters) :
    Prop where
  /-- The request has the input path. -/
  input : request.input = some plan.input
  /-- The request has the output path. -/
  output : request.output = some plan.output
  /-- The settings are loaded. -/
  built : ((settingsLoader request.settings).build FileSystem.host files).1 = .ok plan.loaded
  /-- The settings are changed. -/
  changed : applyOverrides plan.loaded extras = .ok (plan.settings, plan.parameters)
  /-- The format is resolved. -/
  resolved : Registry.withDefaults.resolve request.format plan.output plan.loaded.defaultFormat =
    .ok plan.format
  /-- The input is read. -/
  read : files.read plan.input = .ok plan.bytes
  /-- The input is decoded. -/
  decoded : Document.load plan.bytes = .ok plan.document
  /-- The output can be made. -/
  created : ∃ made, files.create plan.output = .ok made
  /-- The document is rendered. -/
  rendered : plan.written.2 = .ok ()

end Plan

/-! ## Runs -/

/-- The report of a conversion gives the code zero if no stage has failed, and else one. -/
theorem Report.exitCode_outcome (report : Report) :
    report.outcome.exitCode = if report.result = .ok () then 0 else 1 := by
  unfold Report.outcome
  cases report.result with
  | ok done => rfl
  | error error => rfl

section
variable {files after : FileSystem} {arguments : List String} {request : Request} {ending : Ending}
  (accepted : Request.parse (splitExtras arguments).1 = .ok request)
  (finishes : Finishes files arguments ending after)
include accepted finishes

/-- A run that has a request ends with the code zero or one. -/
theorem Finishes.exitCode : ending.outcome.exitCode = 0 ∨ ending.outcome.exitCode = 1 := by
  cases finishes with
  | misused failed => cases accepted.symm.trans failed
  | listed _ _ => exact .inl rfl
  | unloaded _ _ _ => exact .inr rfl
  | misread _ _ _ _ => exact .inr rfl
  | converted _ _ _ _ _ _ _ =>
    rw [Ending.outcome, Report.exitCode_outcome]
    split
    · exact .inl rfl
    · exact .inr rfl

variable (converting : request.listFormats = false)
include converting

/-- A run that succeeds has a valid plan. -/
theorem Finishes.exists_plan (success : ending.outcome.exitCode = 0) :
    ∃ plan : Plan, plan.Valid files request (splitExtras arguments).2 := by
  cases finishes with
  | misused failed => cases accepted.symm.trans failed
  | listed accepted' listing =>
    cases accepted.symm.trans accepted'
    cases converting.symm.trans listing
  | unloaded _ _ _ => cases success
  | misread _ _ _ _ => cases success
  | @converted _ loaded settings parameters input output report _ accepted' _ built changed first
      second converts =>
    cases accepted.symm.trans accepted'
    rw [Ending.outcome, Report.exitCode_outcome, ite_eq_left_iff] at success
    have ended : report.result = .ok () := by
      by_contra failed
      cases success failed
    rw [ended] at converts
    cases converts with
    | @decoded format bytes document _ _ resolved read decoded writes =>
      cases writes with
      | written created rendered _ =>
        rw [defaultFormat_of_applyOverrides changed] at resolved
        exact ⟨⟨input, output, loaded, settings, parameters, format, bytes, document⟩,
          first, second, built, changed, resolved, read, decoded, ⟨_, created⟩,
          congrArg Prod.snd rendered⟩

/-- A run with a valid plan succeeds, and puts what the plan says in the place of the output. -/
theorem Finishes.of_valid {plan : Plan} {location : Location}
    (valid : plan.Valid files request (splitExtras arguments).2)
    (placed : files.place plan.output = .ok location) (room : files.HasRoom location) :
    ending.outcome.exitCode = 0 ∧ after = files.put location (.file plan.content) := by
  cases finishes with
  | misused failed => cases accepted.symm.trans failed
  | listed accepted' listing =>
    cases accepted.symm.trans accepted'
    cases converting.symm.trans listing
  | unloaded accepted' _ failed =>
    cases accepted.symm.trans accepted'
    cases valid.built.symm.trans failed
  | misread accepted' _ built failed =>
    cases accepted.symm.trans accepted'
    cases valid.built.symm.trans built
    cases valid.changed.symm.trans failed
  | @converted _ loaded settings parameters input output report _ accepted' _ built changed first
      second converts =>
    cases accepted.symm.trans accepted'
    cases valid.built.symm.trans built
    cases valid.changed.symm.trans changed
    cases valid.input.symm.trans first
    cases valid.output.symm.trans second
    have rendered : plan.written = (plan.written.1, .ok ()) := Prod.ext rfl valid.rendered
    have resolved := valid.resolved
    rw [← defaultFormat_of_applyOverrides valid.changed] at resolved
    have filled := converts.fills resolved valid.read valid.decoded rendered placed room
    rw [Ending.outcome, Report.exitCode_outcome, if_pos filled.1]
    exact ⟨rfl, filled.2⟩

end

/-- Runs do what the library does: a run that converts a file ends with the code zero or one, with
zero if and only if it has a valid plan, and then the output has the content of the plan and
everything else is as it was. -/
theorem run_refines_library {files : FileSystem} {arguments : List String} {request : Request}
    (accepted : Request.parse (splitExtras arguments).1 = .ok request)
    (converting : request.listFormats = false)
    (room : ∀ output location, request.output = some output →
      files.place output = .ok location → files.HasRoom location) :
    let ran := run FileSystem.host arguments files
    (ran.1.exitCode = 0 ∨ ran.1.exitCode = 1) ∧
      (ran.1.exitCode = 0 ↔ ∃ plan : Plan, plan.Valid files request (splitExtras arguments).2) ∧
      ∀ plan : Plan, plan.Valid files request (splitExtras arguments).2 →
        ∃ location, files.place plan.output = .ok location ∧
          ran.2.read plan.output = .ok plan.content ∧
          ran.2.workingDirectory = files.workingDirectory ∧
          ∀ other, ran.2.at? other =
            if other = location then some (.file plan.content) else files.at? other := by
  have finishes := finish_finishes files arguments
  have place (plan : Plan) (valid : plan.Valid files request (splitExtras arguments).2) :
      ∃ location, files.place plan.output = .ok location ∧ files.HasRoom location := by
    obtain ⟨made, created⟩ := valid.created
    obtain ⟨location, placed, -⟩ := FileSystem.place_of_create created
    exact ⟨location, placed, room plan.output location valid.output placed⟩
  rw [run_eq]
  refine ⟨finishes.exitCode accepted, ⟨finishes.exists_plan accepted converting, ?_⟩, ?_⟩
  · rintro ⟨plan, valid⟩
    obtain ⟨location, placed, free⟩ := place plan valid
    exact (finishes.of_valid accepted converting valid placed free).1
  · intro plan valid
    obtain ⟨location, placed, free⟩ := place plan valid
    have filled := (finishes.of_valid accepted converting valid placed free).2
    refine ⟨location, placed, ?_, ?_, fun other => ?_⟩
    · rw [filled, FileSystem.read_put placed free.isDirectoryAt]
    · rw [filled, FileSystem.put]
    · rw [filled, FileSystem.at?_put (FileSystem.ne_root_of_place placed)]

/-- The plan of a run that writes a tree view in the place of its input. -/
def inPlace : Plan where
  input := "t.bin"
  output := "t.bin"
  loaded := {}
  settings := { showIds := true }
  parameters := .empty
  format := "treeviz"
  bytes := oneCall.encode
  document := .ofWire oneCall

/-- What that run writes. -/
def inPlaceText : String :=
  String.join (["⧉ t (1 calls, 0 streams)",
    "├─ ƒ calls",
    "│ └─ ▭ add [c0]",
    "│   └─ ◦ UINT64(7) [c0v0]",
    "└─ ≋ streams"].map (· ++ "\n"))

theorem run_refines_library_inPlace :
    (run FileSystem.host ["t.bin", "t.bin", "--to", "treeviz", "--extra-ids"] twoFiles).1.exitCode =
        0 ∧
      (run FileSystem.host ["t.bin", "t.bin", "--to", "treeviz", "--extra-ids"] twoFiles).2.read
          "t.bin" =
        .ok (Utf8.encode inPlaceText) := by
  let request : Request :=
    { input := some "t.bin", output := some "t.bin", format := some "treeviz" }
  have accepted :
      Request.parse (splitExtras ["t.bin", "t.bin", "--to", "treeviz", "--extra-ids"]).1 =
        .ok request := rfl
  have place : twoFiles.place "t.bin" = .ok [Utf8.encode "work", Utf8.encode "t.bin"] := rfl
  have room : ∀ output location, request.output = some output →
      twoFiles.place output = .ok location → twoFiles.HasRoom location := by
    rintro _ location ⟨rfl⟩ placed
    cases place.symm.trans placed
    exact .inr ⟨oneCall.encode, rfl⟩
  have valid : inPlace.Valid twoFiles request
      (splitExtras ["t.bin", "t.bin", "--to", "treeviz", "--extra-ids"]).2 :=
    { input := rfl
      output := rfl
      built := build_twoFiles
      changed := rfl
      resolved := rfl
      read := rfl
      decoded := Document.load_encode (by decide)
      created := ⟨_, rfl⟩
      rendered := rfl }
  obtain ⟨-, succeeds, fills⟩ := run_refines_library accepted rfl room
  obtain ⟨location, -, read, -⟩ := fills inPlace valid
  have content : inPlace.content = Utf8.encode inPlaceText := by decide +kernel
  rw [content] at read
  exact ⟨succeeds.2 ⟨inPlace, valid⟩, read⟩

end AstView.CommandLine
