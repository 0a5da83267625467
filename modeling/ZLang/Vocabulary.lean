import ZLang.Text.LowerCase

/-!
The words of Z-LANG that an editor knows, keywords and built-in functions, and the completions among
them: the words that start with what was typed, whatever its case.
-/
set_option autoImplicit false

namespace ZLang.Vocabulary

/-- The word that declares a variable. -/
def declarationKeyword : Text := "LETT".toList

def keywords : List Text :=
  ["ALIAS", "BLEND", "BOOL", "BOUNCE", "CAP", "CASE", "CORE", "DECI", "DOUBLE", "DROP", "ELSE",
    "EMOJI", "EMPTY", "ENUM", "FAM", "FIXED", "FOR", "GRAB", "IF", "IMPORT", "LENGTH", "LETT",
    "MAXI", "MINI", "MATIC", "NEXT", "NOCAP", "NORM", "NUMBS", "OUT", "SHADY", "SPILL", "STAY",
    "STRUCT", "SWIM", "SWITCH", "TAG", "TEXT", "VIBE", "WHILE", "ZAVED"].map String.toList

def functions : List Text :=
  ["avg", "ascending", "descending", "max", "min", "findString"].map String.toList

inductive WordClass where
  | keyword
  | function
  deriving DecidableEq, Repr

/-- The kind of word in words. -/
def WordClass.detail : WordClass → Text
  | keyword => "Z-LANG keyword".toList
  | function => "Z-LANG built-in function".toList

def isKeyword (word : Text) : Bool := keywords.contains word

def isFunction (word : Text) : Bool := functions.contains word

/-- The class of a word, spelled exactly as in its table. -/
def classify? (word : Text) : Option WordClass :=
  if isKeyword word then some .keyword
  else if isFunction word then some .function
  else none

/-- What is shown for a word: its name in bold, and its class below. -/
def hover? (word : Text) : Option Text :=
  (classify? word).map fun c => "**".toList ++ word ++ "**\n\n".toList ++ c.detail

/-! ## Completions -/

structure Item where
  label : Text
  wordClass : WordClass
  deriving DecidableEq, Repr

/-- What is inserted for a function: a call, with the cursor between its parentheses. -/
def Item.snippet? (i : Item) : Option Text :=
  match i.wordClass with
  | .keyword => none
  | .function => some (i.label ++ "($1)".toList)

/-- The name starts with what was typed, in lower case. -/
def starts (typed name : Text) : Bool := (Text.lower typed).isPrefixOf (Text.lower name)

/-- The keywords and then the functions that start with what was typed. -/
def completions (typed : Text) : List Item :=
  (keywords.filter (starts typed)).map (⟨·, .keyword⟩) ++
    (functions.filter (starts typed)).map (⟨·, .function⟩)

end ZLang.Vocabulary
