import AstView.Proofs.Dot.Label
import Mathlib.Data.List.TakeWhile

/-!
# The language of graphs

A text in the DOT language is cut into tokens: marks, arrows, words and quoted texts, with blanks
between them left out. The tokens of a directed graph are a head and then statements, up to the
brace that closes it: settings, nodes with attributes, edges to one node or to a group of them, and
clusters, which are closed by braces of their own. Identifiers are quoted texts and words that are
not among the keywords.

The reader knows that much of the language and refuses the rest, such as comments, ports and
semicolons, so what it accepts is well-formed DOT. It does not look for the line breaks that the
graphs of documents have.
-/
namespace AstView.Dot

/-! ## Identifiers -/

/-- A character that a name can begin with: a letter, the underscore, or any one outside ASCII. -/
def isNameStart (char : Char) : Bool := char.isAlpha || char = '_' || 128 ≤ char.toNat

/-- A character that a name can go on with. -/
def isNameChar (char : Char) : Bool := isNameStart char || char.isDigit

/-- Whether characters are a name. -/
def isName : List Char → Bool
  | [] => false
  | first :: rest => isNameStart first && rest.all isNameChar

/-- Whether characters are digits with at most one dot among them, and not the dot alone. -/
def isUnsigned (chars : List Char) : Bool :=
  match chars.dropWhile Char.isDigit with
  | [] => !chars.isEmpty
  | '.' :: fraction => fraction.all Char.isDigit && 1 < chars.length
  | _ => false

/-- Whether characters are a numeral, with or without a minus sign. -/
def isNumeral : List Char → Bool
  | '-' :: rest => isUnsigned rest
  | chars => isUnsigned chars

/-- The words that the language keeps for itself. -/
def keywords : List String := ["node", "edge", "graph", "digraph", "subgraph", "strict"]

/-- Whether characters are a word in any case. -/
def spells (chars : List Char) (word : String) : Bool := chars.map Char.toLower = word.toList

/-- Whether characters are a keyword in any case. -/
def isKeyword (chars : List Char) : Bool := keywords.any (spells chars)

/-- Whether a text can stand for a node as it is, without quotes. -/
def isIdentifier (text : String) : Bool :=
  (isName text.toList || isNumeral text.toList) && !isKeyword text.toList

/-- Characters are no keyword if one of them is in no keyword. -/
theorem isKeyword_eq_false {chars : List Char} {char : Char} (inside : char ∈ chars)
    (other : ∀ keyword ∈ keywords, char.toLower ∉ keyword.toList) : isKeyword chars = false := by
  rw [isKeyword, List.any_eq_false]
  intro keyword own
  simp only [spells, decide_eq_true_eq]
  intro same
  apply other keyword own
  rw [← same]
  exact List.mem_map_of_mem inside

/-! ## Tokens -/

/-- What a text in the language is made of. -/
inductive Token where
  /-- A brace, a bracket, an equals sign or a comma. -/
  | mark (char : Char)
  /-- What stands between the ends of an edge. -/
  | arrow
  /-- A name or a numeral. -/
  | word (text : String)
  /-- A text between quotes. -/
  | quoted (text : String)
  deriving Repr, DecidableEq

/-- The characters that may stand between tokens. -/
def blanks : List Char := [' ', '\t', '\n', '\r']

/-- The characters that are tokens by themselves. -/
def marks : List Char := ['\x7b', '\x7d', '[', ']', '=', ',']

/-- The characters that a name or a numeral goes on with. -/
def isWordChar (char : Char) : Bool := isNameChar char || char = '.'

/-- Whether characters are a name or a numeral. -/
def isWord (chars : List Char) : Bool := isName chars || isNumeral chars

/-- Reads a token that is no mark, and leaves what follows it. -/
def token? : List Char → Option (Token × List Char)
  | [] => none
  | '-' :: '>' :: rest => some (.arrow, rest)
  | '"' :: rest => (quoted rest).map fun (text, left) => (.quoted (String.ofList text), left)
  | first :: rest =>
    let word := first :: rest.takeWhile isWordChar
    if isWord word then some (.word (String.ofList word), rest.dropWhile isWordChar) else none

/-- Cuts a text into tokens. What a token leaves is never longer than what was given; that is looked
at so that the reading is seen to end. -/
def lex (all : List Char) : Option (List Token) :=
  match all with
  | [] => some []
  | first :: rest =>
    if first ∈ blanks then lex rest
    else if first ∈ marks then (lex rest).map (.mark first :: ·)
    else
      match token? (first :: rest) with
      | none => none
      | some (token, left) =>
        if left.length ≤ rest.length then (lex left).map (token :: ·) else none
termination_by all.length

/-! ## Cutting into tokens -/

/-- What is read as a token is one if it begins like no blank and no mark. -/
theorem lex_token {first : Char} {rest left : List Char} {token : Token}
    (solid : first ∉ blanks) (plain : first ∉ marks)
    (found : token? (first :: rest) = some (token, left)) (shorter : left.length ≤ rest.length) :
    lex (first :: rest) = (lex left).map (token :: ·) := by
  rw [lex, if_neg solid, if_neg plain]
  simp only [found, if_pos shorter]

/-- Characters are cut into tokens, whatever follows them. -/
def Scans (chars : List Char) (tokens : List Token) : Prop :=
  ∀ rest, lex (chars ++ rest) = (lex rest).map (tokens ++ ·)

namespace Scans

variable {chars others : List Char} {tokens more : List Token}

/-- No characters are no tokens. -/
theorem nil : Scans [] [] := by
  intro rest
  rw [List.nil_append]
  cases lex rest <;> rfl

/-- Characters in a row are tokens in a row. -/
theorem append (first : Scans chars tokens) (second : Scans others more) :
    Scans (chars ++ others) (tokens ++ more) := by
  intro rest
  rw [List.append_assoc, first, second, Option.map_map]
  simp only [Function.comp_def, List.append_assoc]

/-- A blank is left out. -/
theorem blank {char : Char} (blank : char ∈ blanks) (behind : Scans chars tokens) :
    Scans (char :: chars) tokens := by
  intro rest
  rw [List.cons_append, lex, if_pos blank, behind]

/-- A mark is a token. -/
theorem mark {char : Char} (mark : char ∈ marks) (behind : Scans chars tokens) :
    Scans (char :: chars) (.mark char :: tokens) := by
  intro rest
  have solid : ∀ char ∈ marks, char ∉ blanks := by simp [marks, blanks]
  rw [List.cons_append, lex, if_neg (solid char mark), if_pos mark, behind, Option.map_map]
  rfl

/-- An arrow is a token. -/
theorem arrow (behind : Scans chars tokens) :
    Scans ('-' :: '>' :: chars) (.arrow :: tokens) := by
  intro rest
  have found : token? ('-' :: '>' :: (chars ++ rest)) = some (.arrow, chars ++ rest) := rfl
  have shorter : (chars ++ rest).length ≤ ('>' :: (chars ++ rest)).length := Nat.le_succ _
  have whole := lex_token (by decide) (by decide) found shorter
  rw [List.cons_append, List.cons_append, whole, behind, Option.map_map]
  rfl

/-- An escaped text between quotes is a token. -/
theorem quoted (text : List Char) (behind : Scans chars tokens) :
    Scans ('"' :: (text.flatMap escapeChar ++ '"' :: chars))
      (.quoted (String.ofList text) :: tokens) := by
  intro rest
  have found : token? ('"' :: (text.flatMap escapeChar ++ '"' :: (chars ++ rest))) =
      some (.quoted (String.ofList text), chars ++ rest) := by
    simp only [token?, quoted_escape, Option.map_some]
  have shorter : (chars ++ rest).length ≤
      (text.flatMap escapeChar ++ '"' :: (chars ++ rest)).length := by
    simp only [List.length_append, List.length_cons]
    omega
  have whole := lex_token (by decide) (by decide) found shorter
  rw [List.cons_append, List.append_assoc, List.cons_append, whole, behind, Option.map_map]
  rfl

end Scans

/-- The digits of an unsigned numeral and its dot go on like words do. -/
theorem isUnsigned_chars {chars : List Char} (unsigned : isUnsigned chars = true) :
    chars ≠ [] ∧ ∀ char ∈ chars, char.isDigit = true ∨ char = '.' := by
  have digits : ∀ char ∈ chars.takeWhile Char.isDigit, char.isDigit = true :=
    fun _ => List.mem_takeWhile_imp
  have whole := List.takeWhile_append_dropWhile (p := Char.isDigit) (l := chars)
  unfold isUnsigned at unsigned
  split at unsigned
  · rename_i rest
    rw [rest, List.append_nil] at whole
    refine ⟨by simpa using unsigned, fun char inside => .inl (digits char ?_)⟩
    rw [whole]
    exact inside
  · rename_i fraction rest
    rw [Bool.and_eq_true, List.all_eq_true] at unsigned
    rw [rest] at whole
    refine ⟨by rintro rfl; simp at rest, fun char inside => ?_⟩
    rw [← whole, List.mem_append, List.mem_cons] at inside
    obtain front | rfl | back := inside
    · exact .inl (digits char front)
    · exact .inr rfl
    · exact .inl (unsigned.1 char back)
  · cases unsigned

/-- A word begins like a name or a numeral and goes on like one, and is more than a minus sign. -/
theorem isWord_cases {word : List Char} (shape : isWord word = true) :
    ∃ first more, word = first :: more ∧
      (isWordChar first = true ∨ first = '-' ∧ more ≠ []) ∧
      ∀ char ∈ more, isWordChar char = true := by
  have numeral {chars : List Char} (unsigned : isUnsigned chars = true) :
      chars ≠ [] ∧ ∀ char ∈ chars, isWordChar char = true := by
    obtain ⟨some, own⟩ := isUnsigned_chars unsigned
    refine ⟨some, fun char inside => ?_⟩
    obtain digit | dot := own char inside
    · simp [isWordChar, isNameChar, digit]
    · simp [isWordChar, dot]
  rw [isWord, Bool.or_eq_true] at shape
  obtain name | number := shape
  · cases word with
    | nil => cases name
    | cons first more =>
      rw [isName, Bool.and_eq_true, List.all_eq_true] at name
      refine ⟨first, more, rfl, .inl ?_, fun char inside => ?_⟩
      · simp [isWordChar, isNameChar, name.1]
      · simp [isWordChar, name.2 char inside]
  · unfold isNumeral at number
    split at number
    · rename_i rest
      obtain ⟨some, own⟩ := numeral number
      exact ⟨'-', rest, rfl, .inr ⟨rfl, some⟩, own⟩
    · obtain ⟨some, own⟩ := numeral number
      obtain ⟨first, more, rfl⟩ := List.exists_cons_of_ne_nil some
      exact ⟨first, more, rfl, .inl (own _ List.mem_cons_self),
        fun char inside => own char (List.mem_cons_of_mem _ inside)⟩

/-- A word is read up to the first character that it cannot go on with. -/
theorem token?_word {word : List Char} (shape : isWord word = true) {char : Char}
    (ends : isWordChar char = false) (rest : List Char) :
    token? (word ++ char :: rest) = some (.word (String.ofList word), char :: rest) := by
  obtain ⟨first, more, rfl, begins, goes⟩ := isWord_cases shape
  have taken : (more ++ char :: rest).takeWhile isWordChar = more := by
    rw [List.takeWhile_append_of_pos goes, List.takeWhile_cons_of_neg (by simp [ends]),
      List.append_nil]
  have left : (more ++ char :: rest).dropWhile isWordChar = char :: rest := by
    rw [List.dropWhile_append_of_pos goes, List.dropWhile_cons_of_neg (by simp [ends])]
  rw [List.cons_append]
  unfold token?
  split
  · contradiction
  · rename_i same
    obtain ⟨minus, greater⟩ := List.cons.inj same
    obtain own | ⟨-, some⟩ := begins
    · rw [minus] at own
      cases own
    · obtain ⟨second, others, rfl⟩ := List.exists_cons_of_ne_nil some
      have own := goes second List.mem_cons_self
      rw [(List.cons.inj greater).1] at own
      cases own
  · rename_i same
    have quote := (List.cons.inj same).1
    obtain own | ⟨minus, -⟩ := begins
    · rw [quote] at own
      cases own
    · rw [quote] at minus
      cases minus
  · rename_i same
    obtain ⟨rfl, rfl⟩ := List.cons.inj same
    simp only [taken, left, if_pos shape]

/-- A character that a word begins with is no blank and no mark. -/
theorem solid_of_begins {first : Char} (begins : isWordChar first = true ∨ first = '-') :
    first ∉ blanks ∧ first ∉ marks := by
  have apart : ∀ char ∈ blanks ++ marks, ¬(isWordChar char = true ∨ char = '-') := by
    simp [blanks, marks, isWordChar, isNameChar, isNameStart]
  exact ⟨fun blank => apart first (List.mem_append_left _ blank) begins,
    fun mark => apart first (List.mem_append_right _ mark) begins⟩

/-- A word is a token if the character behind it does not go on with it. -/
theorem lex_word {text : String} (shape : isWord text.toList = true) {char : Char}
    (ends : isWordChar char = false) (rest : List Char) :
    lex (text.toList ++ char :: rest) = (lex (char :: rest)).map (.word text :: ·) := by
  obtain ⟨first, more, whole, begins, -⟩ := isWord_cases shape
  have found := token?_word shape ends rest
  rw [String.ofList_toList, whole, List.cons_append] at found
  obtain ⟨solid, plain⟩ := solid_of_begins (begins.imp_right And.left)
  have shorter : (char :: rest).length ≤ (more ++ char :: rest).length := by
    rw [List.length_append]
    omega
  rw [whole, List.cons_append]
  exact lex_token solid plain found shorter

/-- A word is a token in front of what does not go on with it. -/
theorem Scans.word {text : String} {chars : List Char} {tokens : List Token}
    (shape : isWord text.toList = true) {char : Char} (ends : isWordChar char = false)
    (behind : Scans (char :: chars) tokens) :
    Scans (text.toList ++ char :: chars) (.word text :: tokens) := by
  intro rest
  rw [List.append_assoc, List.cons_append, lex_word shape ends, ← List.cons_append, behind,
    Option.map_map]
  rfl

/-! ## Graphs -/

/-- The identifier that a token is: a quoted text, or a word that is no keyword. -/
def Token.id? : Token → Option String
  | .word text => if isKeyword text.toList then none else some text
  | .quoted text => some text
  | _ => none

/-- What stands in a graph. -/
inductive Item where
  /-- A property of the graph or the cluster. -/
  | setting (name value : String)
  /-- A node with attributes. -/
  | node (id : String) (attributes : List (String × String))
  /-- Edges from a node to others. -/
  | edges (source : String) (targets : List String)
  /-- A cluster begins. -/
  | cluster (name : String)
  /-- The innermost cluster or the graph ends. -/
  | close
  deriving Repr, DecidableEq

/-- Reads attributes up to the bracket that closes them. A comma may stand behind each. -/
def attributes? : List Token → Option (List (String × String) × List Token)
  | .mark ']' :: rest => some ([], rest)
  | name :: .mark '=' :: value :: .mark ',' :: rest => do
    let (others, left) ← attributes? rest
    return ((← name.id?, ← value.id?) :: others, left)
  | name :: .mark '=' :: value :: rest => do
    let (others, left) ← attributes? rest
    return ((← name.id?, ← value.id?) :: others, left)
  | _ => none

/-- Reads a group of nodes up to the brace that closes it. -/
def group? : List Token → Option (List String × List Token)
  | .mark '\x7d' :: rest => some ([], rest)
  | token :: rest => do
    let (others, left) ← group? rest
    return ((← token.id?) :: others, left)
  | [] => none

/-- A word that can stand for a node is an identifier. -/
theorem Token.id?_word {text : String} (legal : isIdentifier text = true) :
    (Token.word text).id? = some text := by
  rw [isIdentifier, Bool.and_eq_true, Bool.not_eq_true'] at legal
  simp only [id?, legal.2, Bool.false_eq_true, if_false]

/-- Whether a token is the word that a cluster begins with. -/
def Token.beginsCluster : Token → Bool
  | .word text => spells text.toList "subgraph"
  | _ => false

/-- Reads what stands in a graph, and leaves what follows it. -/
def item? : List Token → Option (Item × List Token)
  | .mark '\x7d' :: rest => some (.close, rest)
  | name :: .mark '=' :: value :: rest => do return (.setting (← name.id?) (← value.id?), rest)
  | node :: .mark '[' :: rest => do
    let (attributes, left) ← attributes? rest
    return (.node (← node.id?) attributes, left)
  | source :: .arrow :: .mark '\x7b' :: rest => do
    let (targets, left) ← group? rest
    return (.edges (← source.id?) targets, left)
  | source :: .arrow :: target :: rest => do return (.edges (← source.id?) [← target.id?], rest)
  | first :: name :: .mark '\x7b' :: rest => do
    if first.beginsCluster then return (.cluster (← name.id?), rest) else none
  | _ => none

/-- Reads all that stands in a graph. What it leaves gets shorter; that is looked at so that the
reading is seen to end. -/
def items? (all : List Token) : Option (List Item) :=
  match all with
  | [] => some []
  | first :: rest =>
    match item? (first :: rest) with
    | none => none
    | some (item, left) =>
      if left.length ≤ rest.length then (items? left).map (item :: ·) else none
termination_by all.length

/-- Tokens are read as items, whatever follows them. -/
def Reads (tokens : List Token) (items : List Item) : Prop :=
  ∀ rest, items? (tokens ++ rest) = (items? rest).map (items ++ ·)

namespace Reads

/-- No tokens are no items. -/
theorem nil : Reads [] [] := by
  intro rest
  rw [List.nil_append]
  cases items? rest <;> rfl

/-- Tokens in a row are items in a row. -/
theorem append {tokens others : List Token} {items more : List Item} (first : Reads tokens items)
    (second : Reads others more) : Reads (tokens ++ others) (items ++ more) := by
  intro rest
  rw [List.append_assoc, first, second, Option.map_map]
  simp only [Function.comp_def, List.append_assoc]

/-- The tokens of an item are read as that item. -/
theorem item {first : Token} {others : List Token} {item : Item}
    (read : ∀ rest, item? (first :: (others ++ rest)) = some (item, rest)) :
    Reads (first :: others) [item] := by
  intro rest
  have shorter : rest.length ≤ (others ++ rest).length := by
    rw [List.length_append]
    omega
  rw [List.cons_append, items?]
  simp only [read, if_pos shorter]
  rfl

end Reads

/-- Whether as many clusters end as are open, and nothing follows the end of the outermost one. -/
def nests : Nat → List Item → Bool
  | 0, items => items.isEmpty
  | _ + 1, [] => false
  | depth + 1, .close :: rest => nests depth rest
  | depth + 1, .cluster _ :: rest => nests (depth + 2) rest
  | depth + 1, _ :: rest => nests (depth + 1) rest

/-- The node that an item declares. -/
def Item.declared? : Item → Option String
  | node id _ => some id
  | _ => none

/-- The edges of an item. -/
def Item.drawn : Item → List (String × String)
  | edges source targets => targets.map (source, ·)
  | _ => []

/-- The nodes and edges of a graph, in the order in which they stand there. -/
structure Graph where
  /-- The nodes that are declared. -/
  declared : List String
  /-- The edges. -/
  edges : List (String × String)
  deriving Repr, DecidableEq

/-- Reads a directed graph. -/
def parse (text : String) : Option Graph := do
  match ← lex text.toList with
  | .word keyword :: name :: .mark '\x7b' :: rest =>
    let items ← items? rest
    if spells keyword.toList "digraph" && name.id?.isSome && nests 1 items then
      return { declared := items.filterMap Item.declared?, edges := items.flatMap Item.drawn }
    else none
  | _ => none

end AstView.Dot
