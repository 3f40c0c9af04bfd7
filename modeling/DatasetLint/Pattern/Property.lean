import DatasetLint.Unicode.Case
import DatasetLint.Unicode.Category
import DatasetLint.Unicode.Property
import DatasetLint.Unicode.Script

/-!
# Sets of characters by name

The sets that a regular expression names: by an escaped letter, by a word in brackets, or by a property of
Unicode. In the names of properties only letters and digits of ASCII count, the case of letters does
not, and neither does a leading `is`.
-/

namespace DatasetLint.Pattern

open Unicode

/-- The names and the characters of the ASCII classes. -/
def asciiClasses : List (String × List (Char × Char)) := [
  ("alnum", [('0', '9'), ('A', 'Z'), ('a', 'z')]),
  ("alpha", [('A', 'Z'), ('a', 'z')]),
  ("ascii", [('\x00', '\x7f')]),
  ("blank", [('\t', '\t'), (' ', ' ')]),
  ("cntrl", [('\x00', '\x1f'), ('\x7f', '\x7f')]),
  ("digit", [('0', '9')]),
  ("graph", [('!', '~')]),
  ("lower", [('a', 'z')]),
  ("print", [(' ', '~')]),
  ("punct", [('!', '/'), (':', '@'), ('[', '\x60'), ('\x7b', '~')]),
  ("space", [('\t', '\r'), (' ', ' ')]),
  ("upper", [('A', 'Z')]),
  ("word", [('0', '9'), ('A', 'Z'), ('_', '_'), ('a', 'z')]),
  ("xdigit", [('0', '9'), ('A', 'F'), ('a', 'f')])]

def asciiClass? (name : String) : Option CharSet :=
  (asciiClasses.lookup name).map fun rs => .unions (rs.map fun r => .ofRange r.1 r.2)

/-- The digits, blanks or word characters that an escaped letter stands for, of all scripts or of
ASCII. -/
def letterClass? (unicode : Bool) (letter : Char) : Option CharSet :=
  match letter with
  | 'd' => if unicode then some decimalDigits else asciiClass? "digit"
  | 's' => if unicode then some whiteSpace else asciiClass? "space"
  | 'w' => if unicode then some Unicode.wordChars else asciiClass? "word"
  | _ => none

/-! ## Properties -/

/-- The short names of properties of characters. -/
def propertyAliases : List (String × String) := [
  ("ahex", "ASCII_Hex_Digit"), ("alpha", "Alphabetic"), ("bidic", "Bidi_Control"), ("bidim", "Bidi_Mirrored"),
  ("ci", "Case_Ignorable"), ("cwcf", "Changes_When_Casefolded"), ("cwcm", "Changes_When_Casemapped"),
  ("cwl", "Changes_When_Lowercased"), ("cwt", "Changes_When_Titlecased"), ("cwu", "Changes_When_Uppercased"),
  ("di", "Default_Ignorable_Code_Point"), ("dep", "Deprecated"), ("dia", "Diacritic"),
  ("ecomp", "Emoji_Component"), ("emod", "Emoji_Modifier"), ("ebase", "Emoji_Modifier_Base"),
  ("epres", "Emoji_Presentation"), ("extpict", "Extended_Pictographic"), ("ext", "Extender"),
  ("grbase", "Grapheme_Base"), ("grext", "Grapheme_Extend"), ("hex", "Hex_Digit"),
  ("idsb", "IDS_Binary_Operator"), ("idst", "IDS_Trinary_Operator"), ("idc", "ID_Continue"),
  ("ids", "ID_Start"), ("ideo", "Ideographic"), ("joinc", "Join_Control"), ("loe", "Logical_Order_Exception"),
  ("lower", "Lowercase"), ("nchar", "Noncharacter_Code_Point"), ("patsyn", "Pattern_Syntax"),
  ("patws", "Pattern_White_Space"), ("pcm", "Prepended_Concatenation_Mark"), ("qmark", "Quotation_Mark"),
  ("ri", "Regional_Indicator"), ("sterm", "Sentence_Terminal"), ("sd", "Soft_Dotted"),
  ("term", "Terminal_Punctuation"), ("uideo", "Unified_Ideograph"), ("upper", "Uppercase"),
  ("vs", "Variation_Selector"), ("wspace", "White_Space"), ("space", "White_Space"),
  ("xidc", "XID_Continue"), ("xids", "XID_Start")]

/-- A name reduced to what counts: small ASCII letters and digits without a leading `is`. -/
def looseName (name : List Char) : String :=
  let isStart := match name with
    | a :: b :: _ => (a == 'i' || a == 'I') && (b == 's' || b == 'S')
    | _ => false
  let body := if isStart then name.drop 2 else name
  let cs := (body.filter fun c => c.toNat < 0x80 && c != ' ' && c != '_' && c != '-').map Char.toLower
  if isStart && cs == ['c'] then "isc" else String.ofList cs

/-- Whether a name is one of the given ones, loosely. -/
def isNamed (name : String) (names : List String) : Bool := names.any fun n => looseName n.toList == name

/-- The characters with a property. -/
def property? (name : String) : Option CharSet :=
  let canonical := ((propertyAliases.lookup name).map fun n => looseName n.toList).getD name
  (properties.find? fun p => looseName p.1.toList == canonical).map (·.2)

/-- All characters. -/
def anyChar : CharSet := CharSet.empty.compl

/-- The characters of a category or of a group of categories. -/
def category? (name : String) : Option CharSet :=
  if name = "any" then some anyChar
  else if name = "ascii" then some (.ofRange '\x00' '\x7f')
  else if name = "assigned" then some (categories.preimage (· == "Cn")).compl
  else (categoryNames.find? (isNamed name)).map fun ns => categories.preimage (isInGroup (ns.headD ""))

/-- The characters that belong to a script. -/
def script? (name : String) : Option CharSet :=
  (scriptNames.find? (isNamed name)).map fun ns => scripts.preimage fun s => ns.head? == some s

/-- The characters that a script uses. -/
def scriptUse? (name : String) : Option CharSet :=
  (scriptNames.find? (isNamed name)).map fun ns =>
    scriptExtensions.preimage fun s => (s.splitOn ".").any fun n => ns.head? == some n

/-- The characters that a single name stands for: a property before a category before a script. -/
def named? (name : List Char) : Option CharSet :=
  let n := looseName name
  let p := if n = "cf" ∨ n = "sc" ∨ n = "lc" then none else property? n
  (p.or (category? n)).or (script? n)

/-- The characters for which a property has a value. -/
def valued? (name value : List Char) : Option CharSet :=
  let n := looseName name
  let v := looseName value
  if n = "gc" ∨ n = "generalcategory" then category? v
  else if n = "sc" ∨ n = "script" then script? v
  else if n = "scx" ∨ n = "scriptextensions" then scriptUse? v
  else none

end DatasetLint.Pattern
