import AstView.Settings.Value

/-!
# Errors of the settings

Settings fail to load because a key or a file has no meaning, because a file is not there, or
because a value is not of the type asked for. A value of the wrong type for a single setting is
told together with the path to it and the file that it comes from.
-/
namespace AstView.Settings

/-- Why settings cannot be loaded. -/
inductive Error where
  /-- A text is no path to a setting. -/
  | keyPath
  /-- A file is no TOML document. -/
  | document (file : String)
  /-- A file that has to be there is not. -/
  | missingFile (path : String)
  /-- A file is not UTF-8. -/
  | notText
  /-- A file cannot be read. -/
  | unreadable (reason : String)
  /-- A value is not of the type of its setting. -/
  | mistyped (found : Unexpected) (expected key : String) (origin : Option String)
  /-- A value stands where a group of settings should. -/
  | noGroup (found : Unexpected) (group : String)
  /-- An array stands where a group of settings should, and has no items. -/
  | emptyGroup (group : String)
  /-- A group has no value for a setting. -/
  | missingField (name : String)

/-- The text of an error. -/
def Error.message : Error → String
  | keyPath => "invalid path to a setting"
  | document file => "invalid TOML document in " ++ file
  | missingFile path => "configuration file \"" ++ path ++ "\" not found"
  | notText => "stream did not contain valid UTF-8"
  | unreadable reason => reason
  | mistyped found expected key origin =>
    "invalid type: " ++ found.text ++ ", expected " ++ expected ++ " for key `" ++ key ++ "`"
      ++ match origin with
        | some file => " in " ++ file
        | none => ""
  | noGroup found group => "invalid type: " ++ found.text ++ ", expected struct " ++ group
  | emptyGroup group => "invalid length 0, expected struct " ++ group ++ " with 1 element"
  | missingField name => "missing field `" ++ name ++ "`"

end AstView.Settings
