import AstView.Proofs.Settings.Merging
import AstView.Proofs.Toml

/-!
# The file of the defaults

The defaults are written down in a document that lists every setting with a comment. The same
document with other settings in the place of the defaults is read as those settings
(`ofDocument_documentText`), and the document of the defaults is the one with the defaults
(`defaultsText_eq`). So this document is the first layer of every loader (`layer_defaultsText`), it
says what a loader without files and overrides comes to (`ofDocument_defaultsText`,
`Loader.build_empty`), and a run that finds no files has these settings (`build_absent`).
-/
namespace AstView.Settings

open Toml (Piece)

/-- The settings of a document without any others below it. -/
def ofDocument (label text : String) : Except Error Settings := do
  let layer ← Source.layer label text
  ofValue (putLayer Value.emptyTable layer)

/-- The lines of a file with all settings. -/
def documentPieces (settings : Settings) : List Piece :=
  [.remark " Built-in defaults for animagus-dot.",
    .remark "",
    .remark " Every key is listed here; user files (animagus-dot.toml in the working",
    .remark " directory, or a file passed with --config) only need the keys they change.",
    .empty,
    .header "output",
    .remark " Format used when --to is absent and the output extension is not recognized.",
    .text "default_format" settings.defaultFormat,
    .empty,
    .header "dot",
    .remark " Escape backslashes, quotes and newlines inside labels. Off by default so the",
    .remark " output stays byte-identical to what the animagus toolchain expects.",
    .flag "escape_labels" settings.escapeLabels,
    .empty,
    .header "treeviz",
    .remark " Append the DOT identifier of every node.",
    .flag "show_ids" settings.showIds,
    .empty,
    .header "json",
    .flag "pretty" settings.pretty]

/-- The text of a file with all settings. -/
def documentText (settings : Settings) : String := Piece.join (documentPieces settings)

/-- The values of settings. -/
def value (settings : Settings) : Setting → Scalar
  | .defaultFormat => .string settings.defaultFormat
  | .escapeLabels => .bool settings.escapeLabels
  | .showIds => .bool settings.showIds
  | .pretty => .bool settings.pretty

/-- What a file with all settings says. -/
def documentEntries (settings : Settings) : List (String × Toml.Value) :=
  [("output", .table [("default_format", .string settings.defaultFormat)]),
    ("dot", .table [("escape_labels", .boolean settings.escapeLabels)]),
    ("treeviz", .table [("show_ids", .boolean settings.showIds)]),
    ("json", .table [("pretty", .boolean settings.pretty)])]

/-- The values of settings convert to the settings. -/
theorem converted_value (settings : Settings) : Converted settings.value settings :=
  ⟨rfl, rfl, rfl, rfl⟩

/-- A file with all settings is read line by line. -/
theorem parse_documentText {settings : Settings}
    (plain : settings.defaultFormat.toList.all Toml.isBasic = true) :
    Toml.parse (documentText settings) = some (documentEntries settings) := by
  have lawful : ∀ piece ∈ documentPieces settings, piece.Lawful := by
    simp only [documentPieces, List.forall_mem_cons]
    exact ⟨.remark rfl, .remark rfl, .remark rfl, .remark rfl, .empty,
      .header (by decide), .remark rfl, .text (by decide) plain, .empty,
      .header (by decide), .remark rfl, .remark rfl, .flag (by decide) _, .empty,
      .header (by decide), .remark rfl, .flag (by decide) _, .empty,
      .header (by decide), .flag (by decide) _, nofun⟩
  have read := Toml.lines_join lawful (show some '#' ≠ some '\uFEFF' by decide)
  rw [Toml.parse, documentText, read]
  rfl

/-- The layer of a file with all settings gives the settings their values. -/
theorem holds_documentEntries (settings : Settings) (label : Option String) :
    Holds (putLayer Value.emptyTable (fieldsOfToml label (documentEntries settings)))
      settings.value := by
  have layer : fieldsOfToml label (documentEntries settings) =
      [Setting.defaultFormat, .escapeLabels, .showIds, .pretty].map fun setting =>
        (setting.group, .table label [(setting.field, .scalar label (settings.value setting))]) :=
    rfl
  rw [layer]
  exact holds_layer label settings.value

/-- A file with all settings is a layer of the settings that it was made of, if the name of the
default format needs no escapes. -/
theorem layer_documentText {settings : Settings} (label : Option String)
    (plain : settings.defaultFormat.toList.all Toml.isBasic = true) :
    Source.layer label (documentText settings) =
      .ok (fieldsOfToml label (documentEntries settings)) := by
  rw [Source.layer, parse_documentText plain]

/-- A file with all settings is read as these settings. -/
theorem ofDocument_documentText {settings : Settings} (label : String)
    (plain : settings.defaultFormat.toList.all Toml.isBasic = true) :
    ofDocument label (documentText settings) = .ok settings := by
  rw [ofDocument, layer_documentText _ plain]
  exact (pure_bind _ _).trans
    (((holds_documentEntries settings label).ofValue_eq_ok_iff settings).2
      (converted_value settings))

/-! ## The defaults -/

/-- The document of the defaults is the file with the defaults. -/
theorem defaultsText_eq : defaultsText = documentText {} := by
  unfold defaultsText
  -- Both sides are lines behind each other once the pieces are written out.
  simp only [documentText, documentPieces, Piece.join_nil, Piece.join_cons, Piece.ofList_empty,
    Piece.ofList_remark, Piece.ofList_header, Piece.ofList_flag, Piece.ofList_text]
  decide +kernel

/-- The layer of the defaults. -/
def defaultLayer : Layer := fieldsOfToml none (documentEntries {})

/-- The document of the defaults is a layer. -/
theorem layer_defaultsText : Source.layer none defaultsText = .ok defaultLayer := by
  rw [defaultsText_eq]
  exact layer_documentText none rfl

/-- The layer of the defaults gives every setting its default. -/
theorem holds_defaultLayer : Holds (putLayer Value.emptyTable defaultLayer) Setting.default := by
  have values : ({} : Settings).value = Setting.default := by
    funext setting
    cases setting <;> rfl
  rw [← values]
  exact holds_documentEntries {} none

/-- The document of the defaults says the defaults. -/
theorem ofDocument_defaultsText (label : String) : ofDocument label defaultsText = .ok {} := by
  rw [defaultsText_eq]
  exact ofDocument_documentText label rfl

/-- The layers are put over that of the defaults. -/
theorem ofLayers_eq (layers : List Layer) (overrides : List Override) :
    ofLayers layers overrides =
      ofValue (overrides.foldl (fun root override => override.1.set override.2 root)
        (layers.foldl putLayer (putLayer Value.emptyTable defaultLayer))) := by
  rw [ofLayers, layer_defaultsText]
  rfl

/-! ## No files -/

/-- Without files and overrides the settings are the defaults. -/
theorem ofLayers_empty : ofLayers [] [] = .ok {} := by
  rw [ofLayers_eq]
  exact (holds_defaultLayer.ofValue_eq_ok_iff {}).2 (converted_value {})

/-- A layer without entries changes nothing. -/
theorem ofLayers_blank (front back : List Layer) (overrides : List Override) :
    ofLayers (front ++ [] :: back) overrides = ofLayers (front ++ back) overrides := by
  simp only [ofLayers_eq, List.foldl_cons, List.foldl_append]
  rfl

/-- A loader without files and overrides comes to the defaults. -/
theorem Loader.build_empty (files : FileSystem) :
    ({} : Loader).build FileSystem.host files = (.ok {}, files) := by
  change (ofLayers [] [], files) = _
  rw [ofLayers_empty]

/-- The settings of a run without files with settings are the defaults. -/
theorem build_absent {files : FileSystem}
    (absent : files.isFile CommandLine.localSettingsFile = false)
    (other : files.isFile (CommandLine.localSettingsFile ++ ".toml") = false) :
    (CommandLine.settingsLoader none).build FileSystem.host files = (.ok {}, files) := by
  have extended : Source.withExtension CommandLine.localSettingsFile =
      some (CommandLine.localSettingsFile ++ ".toml") := by decide +kernel
  let source : Source := ⟨CommandLine.localSettingsFile, false⟩
  have found : source.find FileSystem.host files = (none, files) := by
    rw [Source.find_host, extended]
    simp only [source, absent, other, Bool.false_eq_true, if_false]
  have text : source.text FileSystem.host files =
      (.error (.missingFile CommandLine.localSettingsFile), files) := by
    simp only [Source.text, bind, StateT.bind, found]
    rfl
  have fetched : source.fetch FileSystem.host files = (.ok [], files) := by
    simp only [Source.fetch, bind, StateT.bind, text]
    rfl
  have all : Source.fetchAll FileSystem.host [source] files = (.ok [[]], files) := by
    simp only [Source.fetchAll, bind, StateT.bind, fetched]
    rfl
  have loader : CommandLine.settingsLoader none = ⟨[source], []⟩ := rfl
  simp only [loader, Loader.build, bind, StateT.bind, all]
  change (ofLayers ([] ++ [[]]) [], files) = _
  rw [ofLayers_blank, List.append_nil, ofLayers_empty]

end AstView.Settings
