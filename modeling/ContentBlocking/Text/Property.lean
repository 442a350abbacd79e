import ContentBlocking.Text.Property.Age
import ContentBlocking.Text.Property.Binary
import ContentBlocking.Text.Property.Break
import ContentBlocking.Text.Property.Category
import ContentBlocking.Text.Property.Script
import ContentBlocking.Text.Property.ScriptExtension

/-!
# Properties of characters

Sets of characters by the names of properties and their values, as Unicode 16 has them. A name alone
may be that of a binary property, a general category or a script; with a value, it is the name of a
property that has several values. Digits and word characters are put together from such sets, and
there is an ASCII version of either.
-/

namespace ContentBlocking.Text

namespace Property

/-- Drops what does not count in a name: separators, and characters that are not ASCII. -/
def significant (name : List Char) : List Char :=
  (name.filter fun c => c.toNat < 0x80 && c ≠ ' ' && c ≠ '_' && c ≠ '-').map Char.toLower

/-- The normal form of a name. A leading "is" does not count. -/
def normalName (name : List Char) : String :=
  match name.map Char.toLower with
  | 'i' :: 's' :: _ =>
      let rest := significant (name.drop 2)
      if rest = ['c'] then "isc" else String.ofList rest
  | _ => String.ofList (significant name)

/-- General categories that consist of others. -/
def categoryGroups : List (List String × List String) :=
  [(["c", "other"], ["cc", "cf", "cn", "co"]),
   (["l", "letter"], ["lu", "ll", "lt", "lm", "lo"]),
   (["lc", "casedletter"], ["lu", "ll", "lt"]),
   (["m", "mark", "combiningmark"], ["mn", "mc", "me"]),
   (["n", "number"], ["nd", "nl", "no"]),
   (["p", "punctuation", "punct"], ["pc", "pd", "pe", "pf", "pi", "po", "ps"]),
   (["s", "symbol"], ["sc", "sk", "sm", "so"]),
   (["z", "separator"], ["zl", "zp", "zs"])]

/-- The characters of a general category, or of all, all assigned or all ASCII characters. -/
def category? (name : String) : Option CharSet :=
  if name = "any" then some .all
  else if name = "assigned" then some (NamedSet.get categories "cn").compl
  else if name = "ascii" then some (.codes 0 0x7f)
  else
    match categoryGroups.find? fun (names, _) => names.contains name with
    | some (_, members) => some (NamedSet.getAll categories members)
    | none => NamedSet.find? categories name

/-- The characters with the property of a name. Three short names of general categories are
preferred to other meanings that they have. -/
def named? (name : List Char) : Option CharSet :=
  let name := normalName name
  let binary :=
    if name = "cf" || name = "sc" || name = "lc" then none
    else NamedSet.find? binaryProperties name
  (binary.or (category? name)).or (NamedSet.find? scripts name)

def valued? (name value : List Char) : Option CharSet :=
  let name := normalName name
  let value := normalName value
  if name = "gc" || name = "generalcategory" then category? value
  else if name = "sc" || name = "script" then NamedSet.find? scripts value
  else if name = "scx" || name = "scriptextensions" then NamedSet.find? scriptExtensions value
  else if name = "age" then NamedSet.upTo? ages value
  else if name = "gcb" || name = "graphemeclusterbreak" then NamedSet.find? graphemeBreaks value
  else if name = "wb" || name = "wordbreak" then NamedSet.find? wordBreaks value
  else if name = "sb" || name = "sentencebreak" then NamedSet.find? sentenceBreaks value
  else none

end Property

/-! ## Digits and word characters -/

def digits : CharSet := NamedSet.get categories "nd"

/-- The word characters of all scripts: alphabetic characters, marks, decimal digits, connecting
punctuation, and the characters that control joining. -/
def wordChars : CharSet :=
  .unionAll
    [NamedSet.get binaryProperties "alphabetic", NamedSet.getAll categories ["mn", "mc", "me"],
     digits, NamedSet.get categories "pc", NamedSet.get binaryProperties "joincontrol"]

def asciiDigits : CharSet := .range '0' '9'

def asciiWordChars : CharSet := .ofRanges [('0', '9'), ('A', 'Z'), ('_', '_'), ('a', 'z')]

def isWord (c : Char) : Bool := wordChars.mem c

def isAsciiWord (c : Char) : Bool := asciiWordChars.mem c

end ContentBlocking.Text
