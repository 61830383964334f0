import AstView.Proofs.Settings.Defaults
import AstView.Proofs.Utf8
import Mathlib.Data.List.Induction

/-!
# The law of layers

A loader is made by steps: files that have to be there, files that may be missing, and overrides.
What it comes to depends on the files in their order and on the overrides in theirs, and not on how
the two are mixed (`Loader.after_eq`). Of the overrides of a setting the last one is kept
(`Loader.putAll_keeps`).

Building reads the files and changes none (`Loader.build_eq`). A file that is not there is either no
layer or the end of it all (`Source.fetched_absent`). If every file that is there is a document of
settings, the value that wins for a setting is the last override, else the last value in the files,
else the default (`Loader.build_holds`), and what is built is what these values convert to.
-/
namespace AstView.Settings

/-! ## Steps -/

namespace Loader

/-- A step in gathering what settings come from. -/
inductive Step where
  /-- A file that has to be there. -/
  | file (path : String)
  /-- A file that may be missing. -/
  | optionalFile (path : String)
  /-- A value that overrides those of files. -/
  | override (setting : Setting) (content : Scalar)

/-- The file of a step. -/
def Step.source? : Step → Option Source
  | file path => some ⟨path, true⟩
  | optionalFile path => some ⟨path, false⟩
  | override _ _ => none

/-- The setting that a step overrides, and its value. -/
def Step.override? : Step → Option (Setting × Scalar)
  | override setting content => some (setting, content)
  | _ => none

/-- Takes a step. -/
def take (loader : Loader) : Step → Except Error Loader
  | .file path => .ok (loader.withFile path)
  | .optionalFile path => .ok (loader.withOptionalFile path)
  | .override setting content => loader.setOverride setting.key (.scalar none content)

/-- The loader after some steps from one without layers. -/
def after (steps : List Step) : Except Error Loader := steps.foldlM take {}

/-- Puts values for settings into overrides, one after the other. -/
def putAll (overrides : List Override) (pairs : List (Setting × Scalar)) : List Override :=
  pairs.foldl (fun overrides pair => putOverride pair.1.path (.scalar none pair.2) overrides)
    overrides

/-- Steps add their files and put their overrides. -/
theorem foldlM_take (steps : List Step) (loader : Loader) :
    steps.foldlM take loader = .ok ⟨loader.sources ++ steps.filterMap Step.source?,
      putAll loader.overrides (steps.filterMap Step.override?)⟩ := by
  induction steps generalizing loader with
  | nil =>
    rw [List.filterMap_nil, List.append_nil]
    rfl
  | cons step rest ih =>
    have goes {next : Loader} (own : loader.take step = .ok next) :
        (step :: rest).foldlM take loader = rest.foldlM take next := by
      rw [List.foldlM_cons, own]
      rfl
    cases step with
    | file path =>
      rw [goes rfl, ih, withFile, List.append_assoc]
      rfl
    | optionalFile path =>
      rw [goes rfl, ih, withOptionalFile, List.append_assoc]
      rfl
    | override setting content =>
      have own : loader.take (.override setting content) =
          .ok { loader with
            overrides := putOverride setting.path (.scalar none content) loader.overrides } := by
        rw [take, setOverride, setting.parse_key]
      rw [goes own, ih]
      rfl

/-- What a loader comes to is its files and its overrides, each in order. -/
theorem after_eq (steps : List Step) :
    after steps = .ok ⟨steps.filterMap Step.source?,
      putAll [] (steps.filterMap Step.override?)⟩ :=
  foldlM_take steps {}

/-! ## Overrides -/

/-- The values for a setting, in their order. -/
def valuesOf (setting : Setting) (pairs : List (Setting × Scalar)) : List Scalar :=
  pairs.filterMap fun pair => if pair.1 = setting then some pair.2 else none

/-- The values for a setting are those of the pairs that are for it. -/
theorem valuesOf_cons (setting : Setting) (pair : Setting × Scalar)
    (rest : List (Setting × Scalar)) :
    valuesOf setting (pair :: rest) =
      if pair.1 = setting then pair.2 :: valuesOf setting rest else valuesOf setting rest := by
  by_cases own : pair.1 = setting
  · simp only [valuesOf, List.filterMap_cons, if_pos own]
  · simp only [valuesOf, List.filterMap_cons, if_neg own]

/-- A value for a setting as an override. -/
def asOverride (pair : Setting × Scalar) : Override := (pair.1.path, .scalar none pair.2)

/-- An override takes the place of the one of its setting. -/
theorem putOverride_asOverride (setting : Setting) (content : Scalar)
    (kept : List (Setting × Scalar)) :
    ∃ changed, putOverride setting.path (.scalar none content) (kept.map asOverride) =
        changed.map asOverride ∧
      ∀ other, valuesOf other changed =
        if other = setting then content :: (valuesOf other kept).tail else valuesOf other kept := by
  induction kept with
  | nil =>
    refine ⟨[(setting, content)], rfl, fun other => ?_⟩
    rw [valuesOf_cons]
    simp only [eq_comm]
    rfl
  | cons head rest ih =>
    rw [List.map_cons, putOverride]
    by_cases here : head.1 = setting
    · have own : (asOverride head).1 = setting.path := congrArg Setting.path here
      refine ⟨(setting, content) :: rest, by rw [if_pos own]; rfl, fun other => ?_⟩
      rw [valuesOf_cons, valuesOf_cons, here]
      by_cases same : setting = other
      · rw [if_pos same, if_pos same, if_pos same.symm, List.tail_cons]
      · rw [if_neg same, if_neg same, if_neg (Ne.symm same)]
    · obtain ⟨changed, put, keeps⟩ := ih
      have apart : (asOverride head).1 ≠ setting.path := by
        intro same
        simp only [asOverride, Setting.path, KeyPath.child.injEq, KeyPath.name.injEq] at same
        exact here (Setting.group_inj.1 same.1)
      refine ⟨head :: changed, by rw [if_neg apart, put]; rfl, fun other => ?_⟩
      rw [valuesOf_cons, valuesOf_cons, keeps other]
      by_cases same : head.1 = other
      · have different : other ≠ setting := fun equal => here (same.trans equal)
        rw [if_pos same, if_pos same, if_neg different, if_neg different]
      · rw [if_neg same, if_neg same]

/-- Of the values for a setting the last one is kept. -/
theorem putAll_keeps (pairs : List (Setting × Scalar)) :
    ∃ kept, putAll [] pairs = kept.map asOverride ∧
      ∀ setting, valuesOf setting kept = (valuesOf setting pairs).getLast?.toList := by
  induction pairs using List.reverseRecOn with
  | nil => exact ⟨[], rfl, fun setting => rfl⟩
  | append_singleton before pair ih =>
    obtain ⟨kept, put, keeps⟩ := ih
    obtain ⟨changed, again, values⟩ := putOverride_asOverride pair.1 pair.2 kept
    refine ⟨changed, ?_, fun other => ?_⟩
    · rw [← again, ← put, putAll, List.foldl_append]
      rfl
    · have split : valuesOf other (before ++ [pair]) =
          valuesOf other before ++ valuesOf other [pair] := List.filterMap_append
      rw [values other, keeps other, split, List.getLast?_append, valuesOf_cons]
      by_cases same : other = pair.1
      · -- No more than one value was kept before, so nothing stands behind the new one.
        rw [if_pos same, if_pos same.symm]
        cases (valuesOf other before).getLast? <;> rfl
      · rw [if_neg same, if_neg (Ne.symm same)]
        rfl

/-- Overrides give their settings the last of their values. -/
theorem holds_overrides {root : Value} {values : Setting → Scalar} (holds : Holds root values)
    (kept : List (Setting × Scalar)) :
    Holds ((kept.map asOverride).foldl (fun root override => override.1.set override.2 root) root)
      fun setting => (valuesOf setting kept).getLastD (values setting) := by
  induction kept generalizing root values with
  | nil => exact holds
  | cons head rest ih =>
    obtain ⟨setting, content⟩ := head
    have goes := ih (holds.set setting content)
    have same (other : Setting) : (valuesOf other ((setting, content) :: rest)).getLastD
        (values other) =
          (valuesOf other rest).getLastD (Function.update values setting content other) := by
      rw [valuesOf_cons]
      by_cases own : setting = other
      · rw [if_pos own, List.getLastD_cons, ← own, Function.update_self]
      · rw [if_neg own, Function.update_of_ne (Ne.symm own)]
    simp only [same]
    exact goes

end Loader

/-! ## Files -/

/-- Where the file of a path is: at the path, or else at the path with the extension. -/
def located (files : FileSystem) (path : String) : Option String :=
  (path :: (Source.withExtension path).toList).find? files.isFile

/-- The outermost table of the document at a path, if there is one. -/
def documentAt (files : FileSystem) (path : String) : Option (List (String × Toml.Value)) := do
  let place ← located files path
  let bytes ← (files.read place).toOption
  let text ← (Utf8.decode bytes).toOption
  Toml.parse text

/-- The values that the file of a path gives to a setting. -/
def Setting.saidAt (setting : Setting) (files : FileSystem) (path : String) : List Scalar :=
  ((documentAt files path).map setting.said).getD []

/-- The layer that comes from a file. -/
def Source.fetched (files : FileSystem) (source : Source) : Except Error Layer :=
  (source.fetch FileSystem.host files).1

/-- A result that is there is no error. -/
theorem eq_ok_of_toOption {ε α : Type} {result : Except ε α} {value : α}
    (found : result.toOption = some value) : result = .ok value := by
  cases result with
  | error error => cases found
  | ok own => exact congrArg Except.ok (Option.some.inj found)

namespace Source

/-- A file is found where it is. -/
theorem find_located (source : Source) (files : FileSystem) :
    source.find FileSystem.host files = (located files source.path, files) := by
  rw [find_host, located, List.find?_cons]
  cases files.isFile source.path with
  | true => rfl
  | false =>
    cases withExtension source.path with
    | none => rfl
    | some path => cases found : files.isFile path <;> simp [found]

/-- A file that is not there is no layer, unless it has to be there. -/
theorem fetched_absent {source : Source} {files : FileSystem}
    (absent : located files source.path = none) :
    source.fetched files =
      if source.required then .error (.missingFile source.path) else .ok [] := by
  have found := source.find_located files
  rw [absent] at found
  simp only [fetched, fetch, text, bind, StateT.bind, found]
  rfl

/-- The layer of a document has its entries. -/
theorem fetched_document {source : Source} {files : FileSystem}
    {entries : List (String × Toml.Value)}
    (document : documentAt files source.path = some entries) :
    ∃ label, source.fetched files = .ok (fieldsOfToml label entries) := by
  simp only [documentAt, Option.bind_eq_bind, Option.bind_eq_some_iff] at document
  obtain ⟨place, at?, bytes, read, text, decoded, parsed⟩ := document
  have found := source.find_located files
  rw [at?] at found
  have content : FileSystem.host.read place files = (.ok bytes, files) := by
    rw [← eq_ok_of_toOption read]
    rfl
  have characters := eq_ok_of_toOption decoded
  have written : source.text FileSystem.host files =
      (.ok (label files.workingDirectory place, text), files) := by
    simp only [Source.text, bind, StateT.bind, found, content, characters]
    rfl
  refine ⟨label files.workingDirectory place, ?_⟩
  simp only [fetched, fetch, bind, StateT.bind, written]
  change layer _ text = _
  rw [layer, parsed]

/-- Fetching changes no file. -/
theorem fetch_eq (source : Source) (files : FileSystem) :
    source.fetch FileSystem.host files = (source.fetched files, files) :=
  Prod.ext rfl (source.quiet_fetch files)

/-- Layers are fetched one after the other. -/
theorem fetchAll_eq (sources : List Source) (files : FileSystem) :
    fetchAll FileSystem.host sources files = (sources.mapM (fetched files), files) := by
  induction sources with
  | nil => rfl
  | cons source rest ih =>
    rw [List.mapM_cons]
    cases own : source.fetched files with
    | error error =>
      simp only [fetchAll, bind, StateT.bind, fetch_eq, own]
      rfl
    | ok layer =>
      simp only [fetchAll, bind, StateT.bind, fetch_eq, own, ih]
      cases rest.mapM (fetched files) <;> rfl

/-- The fetched layers come to what is made of them, and no file changes. -/
theorem fetchAll_then (sources : List Source) (files : FileSystem)
    (put : List Layer → Except Error Settings) :
    (do match ← fetchAll FileSystem.host sources with
        | .error error => return .error error
        | .ok layers => return put layers : StateM FileSystem (Except Error Settings)) files =
      ((sources.mapM (fetched files)).bind put, files) := by
  simp only [bind, StateT.bind, fetchAll_eq]
  cases sources.mapM (fetched files) <;> rfl

/-- A file that may be missing and is missing changes nothing if an empty layer does not. -/
theorem mapM_blank {files : FileSystem} {path : String} (absent : located files path = none)
    {put : List Layer → Except Error Settings}
    (same : ∀ front back, put (front ++ [] :: back) = put (front ++ back))
    (front back : List Source) :
    ((front ++ ⟨path, false⟩ :: back).mapM (fetched files)).bind put =
      ((front ++ back).mapM (fetched files)).bind put := by
  have blank : (⟨path, false⟩ : Source).fetched files = .ok [] := fetched_absent absent
  simp only [List.mapM_append, List.mapM_cons, blank]
  cases front.mapM (fetched files) with
  | error => rfl
  | ok layers =>
    cases back.mapM (fetched files) with
    | error => rfl
    | ok others => exact same layers others

end Source

/-- Building fetches the layers and puts them over each other. -/
theorem Loader.build_eq (loader : Loader) (files : FileSystem) :
    loader.build FileSystem.host files =
      ((loader.sources.mapM (Source.fetched files)).bind fun layers =>
        ofLayers layers loader.overrides, files) :=
  Source.fetchAll_then loader.sources files fun layers => ofLayers layers loader.overrides

/-- A file that has to be there and is not ends the building. -/
theorem Source.mapM_absent {files : FileSystem} {sources : List Source} {source : Source}
    (inside : source ∈ sources) (required : source.required = true)
    (absent : located files source.path = none) :
    ∃ error, sources.mapM (fetched files) = .error error := by
  induction sources with
  | nil => cases inside
  | cons first rest ih =>
    rw [List.mapM_cons]
    cases own : first.fetched files with
    | error error => exact ⟨error, rfl⟩
    | ok layer =>
      cases inside with
      | head =>
        rw [fetched_absent absent, if_pos required] at own
        cases own
      | tail _ later =>
        obtain ⟨error, failed⟩ := ih later
        exact ⟨error, by rw [failed]; rfl⟩

/-- A file that may be missing and is missing changes nothing. -/
theorem Loader.build_blank {files : FileSystem} {path : String}
    (absent : located files path = none) (front back : List Source) (overrides : List Override) :
    (⟨front ++ ⟨path, false⟩ :: back, overrides⟩ : Loader).build FileSystem.host files =
      (⟨front ++ back, overrides⟩ : Loader).build FileSystem.host files := by
  have same := fun front back => ofLayers_blank front back overrides
  rw [build_eq, build_eq, Source.mapM_blank absent same]

/-! ## What wins -/

/-- What is at a path, if there is a file, is a document of settings. -/
def RegularAt (files : FileSystem) (path : String) : Prop :=
  ∀ place, located files path = some place →
    ∃ entries, documentAt files path = some entries ∧ Regular entries

/-- The value that wins for a setting: the last of its overrides, else the last of its values in the
files, else its default. -/
def winner (files : FileSystem) (steps : List Loader.Step) (setting : Setting) : Scalar :=
  (Loader.valuesOf setting (steps.filterMap Loader.Step.override?)).getLastD
    (((steps.filterMap Loader.Step.source?).flatMap fun source =>
      setting.saidAt files source.path).getLastD setting.default)

/-- The layer of a file gives the values of the file to the settings. -/
theorem Source.fetched_holds {files : FileSystem} {source : Source}
    (regular : RegularAt files source.path)
    (present : source.required = true → located files source.path ≠ none) :
    ∃ layer, source.fetched files = .ok layer ∧ ∀ root values, Holds root values →
      Holds (putLayer root layer)
        fun setting => (setting.saidAt files source.path).getLastD (values setting) := by
  cases place : located files source.path with
  | none =>
    have optional : ¬source.required = true := fun required => present required place
    have nothing : documentAt files source.path = none := by rw [documentAt, place]; rfl
    refine ⟨[], by rw [fetched_absent place, if_neg optional], fun root values holds => ?_⟩
    simp only [Setting.saidAt, nothing]
    exact holds
  | some found =>
    obtain ⟨entries, document, plain⟩ := regular found place
    obtain ⟨label, fetched⟩ := fetched_document document
    refine ⟨fieldsOfToml label entries, fetched, fun root values holds => ?_⟩
    simp only [Setting.saidAt, document]
    exact holds.putLayer plain label

/-- The layers of files give the values of the files to the settings, one after the other. -/
theorem Source.mapM_holds {files : FileSystem} {sources : List Source}
    (regular : ∀ source ∈ sources, RegularAt files source.path)
    (present : ∀ source ∈ sources, source.required = true → located files source.path ≠ none) :
    ∃ layers, sources.mapM (fetched files) = .ok layers ∧ ∀ root values, Holds root values →
      Holds (layers.foldl putLayer root) fun setting =>
        (sources.flatMap fun source => setting.saidAt files source.path).getLastD
          (values setting) := by
  induction sources with
  | nil => exact ⟨[], rfl, fun root values holds => holds⟩
  | cons source rest ih =>
    obtain ⟨layer, own, goes⟩ := fetched_holds (regular source List.mem_cons_self)
      (present source List.mem_cons_self)
    obtain ⟨layers, others, on⟩ := ih (fun other inside => regular other (.tail _ inside))
      fun other inside => present other (.tail _ inside)
    refine ⟨layer :: layers, ?_, fun root values holds => ?_⟩
    · rw [List.mapM_cons, own, others]
      rfl
    · simp only [List.flatMap_cons, getLastD_append]
      exact on _ _ (goes root values holds)

/-- If every file is a document of settings, what is built is read out of a table that holds the
values that win. -/
theorem Loader.build_holds {files : FileSystem} {steps : List Step} {loader : Loader}
    (made : after steps = .ok loader)
    (regular : ∀ source ∈ loader.sources, RegularAt files source.path)
    (present : ∀ source ∈ loader.sources,
      source.required = true → located files source.path ≠ none) :
    ∃ root, loader.build FileSystem.host files = (ofValue root, files) ∧
      Holds root (winner files steps) := by
  obtain ⟨layers, fetched, goes⟩ := Source.mapM_holds regular present
  rw [after_eq] at made
  cases made
  obtain ⟨kept, put, keeps⟩ := putAll_keeps (steps.filterMap Step.override?)
  have base := goes _ _ holds_defaultLayer
  have built := build_eq ⟨steps.filterMap Step.source?, putAll [] (steps.filterMap Step.override?)⟩
    files
  simp only [fetched, Except.bind, ofLayers_eq] at built
  refine ⟨_, built, ?_⟩
  rw [put]
  have overridden := holds_overrides base kept
  have last (setting : Setting) (other : Scalar) : (valuesOf setting kept).getLastD other =
      (valuesOf setting (steps.filterMap Step.override?)).getLastD other := by
    rw [keeps, List.getLastD_eq_getLast?, List.getLastD_eq_getLast?]
    cases (valuesOf setting (steps.filterMap Step.override?)).getLast? <;> rfl
  simp only [last] at overridden
  exact overridden

/-- Every loader that is made by steps builds settings by one law. If the files that have to be
there are there and every file that is there is a document of settings, what is built is what the
values that win convert to, and it fails on a value of another type exactly if one of them does not
convert. Without a file that has to be there nothing is built. A file that may be missing and is
missing changes nothing wherever it stands, and it makes no difference how overrides stand among
files. -/
theorem build_layered (files : FileSystem) (steps : List Loader.Step) :
    ∃ loader, Loader.after steps = .ok loader ∧
      ((∀ step ∈ steps, ∀ source, step.source? = some source → RegularAt files source.path) →
        (∀ path, .file path ∈ steps → located files path ≠ none) →
        (∀ settings, loader.build FileSystem.host files = (.ok settings, files) ↔
          Converted (winner files steps) settings) ∧
        ((∃ found expected key origin, loader.build FileSystem.host files =
            (.error (.mistyped found expected key origin), files)) ↔
          ∃ setting : Setting, ¬setting.Accepts (winner files steps setting))) ∧
      (∀ path, .file path ∈ steps → located files path = none →
        ∃ error, loader.build FileSystem.host files = (.error error, files)) ∧
      (∀ front path back, steps = front ++ .optionalFile path :: back → located files path = none →
        ∃ other, Loader.after (front ++ back) = .ok other ∧
          loader.build FileSystem.host files = other.build FileSystem.host files) ∧
      ∀ others : List Loader.Step,
        others.filterMap Loader.Step.source? = steps.filterMap Loader.Step.source? →
        others.filterMap Loader.Step.override? = steps.filterMap Loader.Step.override? →
        Loader.after others = .ok loader := by
  have made := Loader.after_eq steps
  refine ⟨_, made, ?_, ?_, ?_, ?_⟩
  · intro regular present
    have documents : ∀ source ∈ steps.filterMap Loader.Step.source?,
        RegularAt files source.path := by
      intro source inside
      obtain ⟨step, taken, own⟩ := List.mem_filterMap.1 inside
      exact regular step taken source own
    have there : ∀ source ∈ steps.filterMap Loader.Step.source?,
        source.required = true → located files source.path ≠ none := by
      intro source inside required
      obtain ⟨step, taken, own⟩ := List.mem_filterMap.1 inside
      cases step with
      | file path =>
        cases own
        exact present path taken
      | optionalFile path =>
        cases own
        cases required
      | override setting content => cases own
    obtain ⟨root, built, holds⟩ := Loader.build_holds made documents there
    have outcome (result : Except Error Settings) :
        (ofValue root, files) = (result, files) ↔ ofValue root = result := by
      rw [Prod.mk.injEq, and_iff_left rfl]
    rw [built]
    constructor
    · intro settings
      exact (outcome _).trans (holds.ofValue_eq_ok_iff settings)
    · refine Iff.trans ?_ holds.ofValue_mistyped_iff
      exact exists_congr fun _ => exists_congr fun _ => exists_congr fun _ => exists_congr fun _ =>
        outcome _
  · intro path taken absent
    have inside : (⟨path, true⟩ : Source) ∈ steps.filterMap Loader.Step.source? :=
      List.mem_filterMap.2 ⟨_, taken, rfl⟩
    obtain ⟨error, failed⟩ := Source.mapM_absent inside rfl absent
    exact ⟨error, by rw [Loader.build_eq, failed]; rfl⟩
  · rintro front path back rfl absent
    refine ⟨_, Loader.after_eq _, ?_⟩
    simp only [List.filterMap_append, List.filterMap_cons, Loader.Step.source?,
      Loader.Step.override?]
    exact Loader.build_blank absent _ _ _
  · intro others sameFiles sameOverrides
    rw [Loader.after_eq, sameFiles, sameOverrides]

/-- A document with a value that is no truth value. -/
def firstText : String := "dot.escape_labels = \"maybe\"\n"

/-- A document with a number for a truth value and a name that is no setting. -/
def secondText : String := "title = 1\njson.pretty = 0\n"

/-- The files of these documents. -/
def layeredFiles : FileSystem :=
  (FileSystem.scratch.withFile "first.toml" (Utf8.encode firstText)).withFile "second.toml"
    (Utf8.encode secondText)

/-- The first file without its extension, an override of its bad value, a file that is missing, and
the second file. -/
def layeredSteps : List Loader.Step :=
  [.file "first", .override .escapeLabels (.string "on"), .optionalFile "third",
    .optionalFile "second.toml"]

theorem build_layered_layeredFiles :
    (∃ loader, Loader.after layeredSteps = .ok loader ∧
      loader.build FileSystem.host layeredFiles =
        (.ok ⟨"dot", true, false, false⟩, layeredFiles)) ∧
      ∃ loader, Loader.after [.optionalFile "second.toml", .file "third"] = .ok loader ∧
        ∃ error, loader.build FileSystem.host layeredFiles = (.error error, layeredFiles) := by
  have first : documentAt layeredFiles "first" =
      some [("dot", .table [("escape_labels", .string "maybe")])] := by decide +kernel
  have second : documentAt layeredFiles "second.toml" =
      some [("title", .integer 1), ("json", .table [("pretty", .integer 0)])] := by decide +kernel
  have third : located layeredFiles "third" = none := by decide +kernel
  have firstRegular : RegularAt layeredFiles "first" := by
    refine fun place _ => ⟨_, first, fun entry inside => ?_⟩
    cases List.mem_singleton.1 inside
    refine ⟨by decide, fun setting _ => ⟨_, rfl, fun field inside => ?_⟩⟩
    cases List.mem_singleton.1 inside
    exact ⟨by decide, _, rfl⟩
  have secondRegular : RegularAt layeredFiles "second.toml" := by
    refine fun place _ => ⟨_, second, fun entry inside => ?_⟩
    cases inside with
    | head => exact ⟨by decide, fun setting own => absurd own (by cases setting <;> decide)⟩
    | tail _ later =>
      cases List.mem_singleton.1 later
      refine ⟨by decide, fun setting _ => ⟨_, rfl, fun field inside => ?_⟩⟩
      cases List.mem_singleton.1 inside
      exact ⟨by decide, _, rfl⟩
  constructor
  · obtain ⟨loader, made, law, -⟩ := build_layered layeredFiles layeredSteps
    refine ⟨loader, made, ((law ?_ ?_).1 _).2 ?_⟩
    · intro step taken source own
      simp only [layeredSteps, List.mem_cons, List.not_mem_nil, or_false] at taken
      obtain rfl | rfl | rfl | rfl := taken <;> cases own
      · exact firstRegular
      · intro place there
        cases third.symm.trans there
      · exact secondRegular
    · intro path taken
      simp only [layeredSteps, List.mem_cons, List.not_mem_nil, or_false, reduceCtorEq] at taken
      cases taken
      decide +kernel
    · have nothing : documentAt layeredFiles "third" = none := by
        rw [documentAt, third]
        rfl
      have wins : winner layeredFiles layeredSteps .defaultFormat = .string "dot" ∧
          winner layeredFiles layeredSteps .escapeLabels = .string "on" ∧
          winner layeredFiles layeredSteps .showIds = .bool false ∧
          winner layeredFiles layeredSteps .pretty = .integer 0 := by
        simp only [winner, layeredSteps, Setting.saidAt, List.filterMap_cons,
          Loader.Step.source?, Loader.Step.override?, List.filterMap_nil, List.flatMap_cons,
          List.flatMap_nil, first, second, nothing]
        exact ⟨rfl, rfl, rfl, rfl⟩
      obtain ⟨format, escape, ids, layout⟩ := wins
      have on : Value.toFlag (.scalar none (.string "on")) = .ok true := by
        rw [Value.toFlag, Text.toLower_plain (by decide)]
        rfl
      rw [Converted, format, escape, ids, layout]
      exact ⟨rfl, on, rfl, rfl⟩
  · obtain ⟨loader, made, -, missing, -⟩ :=
      build_layered layeredFiles [.optionalFile "second.toml", .file "third"]
    exact ⟨loader, made, missing "third" (.tail _ (.head _)) third⟩

end AstView.Settings
