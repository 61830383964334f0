import AstView.CommandLine.Run
import AstView.Proofs.FileSystem
import Mathlib.Data.List.TakeWhile

/-!
# Loading settings

Loading settings reads files and changes none of them (`Loader.quiet_build`). A file is looked for
in two places (`Source.find_host`), and a plain name in it is the path of a setting or of a group
(`KeyPath.parse_name`).
-/
namespace AstView.Settings

open FileSystem (Quiet)

/-! ## Files are read only -/

theorem Source.quiet_find (source : Source) : Quiet (source.find FileSystem.host) := by
  unfold Source.find
  apply Quiet.bind (Quiet.isFile source.path)
  intro found
  split
  · exact Quiet.pure _
  · split
    · exact Quiet.pure _
    · apply Quiet.bind (Quiet.isFile _)
      intro found
      exact Quiet.pure _

theorem Source.quiet_text (source : Source) : Quiet (source.text FileSystem.host) := by
  unfold Source.text
  apply Quiet.bind source.quiet_find
  intro found
  split
  · exact Quiet.pure _
  · apply Quiet.bind (Quiet.read _)
    intro content
    split
    · exact Quiet.pure _
    · split
      · exact Quiet.pure _
      · apply Quiet.bind Quiet.workingDirectory
        intro directory
        exact Quiet.pure _

theorem Source.quiet_fetch (source : Source) : Quiet (source.fetch FileSystem.host) := by
  unfold Source.fetch
  apply Quiet.bind source.quiet_text
  intro text
  split
  · exact Quiet.pure _
  · exact Quiet.pure _

theorem Source.quiet_fetchAll (sources : List Source) :
    Quiet (Source.fetchAll FileSystem.host sources) := by
  induction sources with
  | nil => exact Quiet.pure _
  | cons source rest ih =>
    unfold Source.fetchAll
    apply Quiet.bind source.quiet_fetch
    intro layer
    split
    · exact Quiet.pure _
    · apply Quiet.bind ih
      intro layers
      exact Quiet.pure _

/-- Loading settings changes no file. -/
theorem Loader.quiet_build (loader : Loader) : Quiet (loader.build FileSystem.host) := by
  unfold Loader.build
  apply Quiet.bind (Source.quiet_fetchAll loader.sources)
  intro layers
  split
  · exact Quiet.pure _
  · exact Quiet.pure _

/-! ## Names and places -/

/-- A text of characters of names is the path of a name. -/
theorem KeyPath.parse_name {text : String} (filled : text.toList ≠ [])
    (named : text.toList.all KeyPath.isNameChar = true) :
    KeyPath.parse text = some (.name text) := by
  rw [List.all_eq_true] at named
  obtain ⟨first, rest, same⟩ := List.exists_cons_of_ne_nil filled
  have head : KeyPath.isNameChar first = true := named first (same ▸ List.mem_cons_self)
  have tail : ∀ char ∈ rest, KeyPath.isNameChar char = true :=
    fun char inside => named char (same ▸ List.mem_cons_of_mem _ inside)
  have scanned : KeyPath.scanName text.toList = some (text, []) := by
    have whole : rest.takeWhile KeyPath.isNameChar = rest := List.takeWhile_eq_self_iff.2 tail
    have none : rest.dropWhile KeyPath.isNameChar = [] := List.dropWhile_eq_nil_iff.2 tail
    have own : String.ofList (first :: rest) = text := by rw [← same, String.ofList_toList]
    rw [same, ← own]
    simp only [KeyPath.scanName, Scan.spanSome, Scan.one, Scan.span, bind, StateT.bind,
      Option.bind, head, if_true, whole, none]
    rfl
  have ended : Scan.many KeyPath.scanStep [] = some ([], []) := by
    rw [Scan.many]
    rfl
  simp only [KeyPath.parse, scanned, Option.bind_eq_bind, Option.bind_some, ended]
  rfl

/-- A file is looked for at its path and then at the path with the extension. -/
theorem Source.find_host (source : Source) (files : FileSystem) :
    source.find FileSystem.host files =
      (if files.isFile source.path then some source.path
        else match Source.withExtension source.path with
          | none => none
          | some path => if files.isFile path then some path else none, files) := by
  simp only [Source.find, FileSystem.host, bind, StateT.bind]
  cases files.isFile source.path with
  | true => rfl
  | false =>
    cases Source.withExtension source.path with
    | none => rfl
    | some path => rfl

end AstView.Settings
