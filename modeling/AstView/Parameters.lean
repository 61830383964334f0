import AstView.NameMap
import AstView.Text.LowerCase

/-!
# Parameters of formats

A format can be given parameters, texts under names. It says which names it knows, and every
other name is refused; all of those are named, in order. A parameter that is a truth value has
four spellings of true and four of false, in any case.
-/
namespace AstView

/-- Texts under names. -/
abbrev Parameters := NameMap String

/-- Why parameters are refused. -/
inductive Refusal where
  /-- A text, given in lowercase, is no truth value. -/
  | notBoolean (text key : String)
  /-- A format does not know some names. -/
  | unknown (format : String) (keys : List String)
  /-- A format takes no parameters at all. -/
  | anything (format : String)
  deriving Repr, DecidableEq

/-- The text of a refusal. -/
def Refusal.message : Refusal → String
  | notBoolean text key => s!"Invalid boolean value '{text}' for '{key}'"
  | unknown format keys =>
    "Format '" ++ format ++ "' does not support parameter(s): " ++ String.intercalate ", " keys
  | anything format => s!"Format '{format}' does not support extra parameters"

/-- The truth value that a lowercase text spells. -/
def spelledFlag (text : String) : Option Bool :=
  if text ∈ ["true", "1", "yes", "y"] then some true
  else if text ∈ ["false", "0", "no", "n"] then some false
  else none

namespace Parameters

/-- The truth value that a text under a key spells in any case. -/
def readFlag (key text : String) : Except Refusal Bool :=
  match spelledFlag (Text.toLower text) with
  | some value => .ok value
  | none => .error (.notBoolean (Text.toLower text) key)

/-- The truth value under a key, which is the default one if there is no text. -/
def flag (parameters : Parameters) (key : String) (default : Bool) : Except Refusal Bool :=
  match parameters.get? key with
  | none => .ok default
  | some text => readFlag key text

/-- The names that a format does not know, in order. -/
def unknownKeys (parameters : Parameters) (known : List String) : List String :=
  parameters.names.filter fun name => name ∉ known

/-- Refuses all names that a format does not know. -/
def check (parameters : Parameters) (format : String) (known : List String) :
    Except Refusal Unit :=
  match parameters.unknownKeys known with
  | [] => .ok ()
  | keys => .error (.unknown format keys)

end Parameters

end AstView
