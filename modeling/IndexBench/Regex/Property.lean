import IndexBench.Regex.CharSet

/-!
# Properties by name

Character properties are asked for by name, by the name of a table and a value
in it, or by a single letter.  Names are compared without regard to case, and
blanks, hyphens, underscores and a leading "is" do not count.

Main definitions:

- `Property.normalize` is the form in which names are compared.
- `Property.find?` and `Property.findIn?` are the two ways to ask.
-/

namespace IndexBench
namespace Regex
namespace Property

/-- An ASCII letter in lower case; other characters stay as they are. -/
def lowerChar (c : Char) : Char :=
  if 65 ≤ c.toNat ∧ c.toNat ≤ 90 then Char.ofNat (c.toNat + 32) else c

/-- Whether a character counts in a name. -/
def isSignificant (c : Char) : Bool :=
  c.toNat ≤ 127 && c != ' ' && c != '_' && c != '-'

/-- The significant characters of a name, in lower case. -/
def significant (name : List Char) : String :=
  String.ofList ((name.filter isSignificant).map lowerChar)

/-- The form of a name in which names are compared.  Only the name of an
unrelated property keeps its leading "is", where without it one letter would be
left that names a category. -/
def normalize (name : List Char) : String :=
  match name with
  | i :: s :: rest =>
      if lowerChar i = 'i' && lowerChar s = 's' then
        let short := significant rest
        if short = "c" then "isc" else short
      else significant name
  | _ => significant name

/-- The union of the categories whose first name passes a test. -/
def categoriesWith (test : String → Bool) : CharSet :=
  .unions <| (List.range Unicode.categories.size).filterMap fun i => do
    let property ← Unicode.categories[i]?
    let name ← property.names.head?
    if test name then some (.property .category i) else none

/-- The surrogates, which are no characters and yet assigned. -/
def surrogates : CharSet :=
  .range 0xD800 0xDFFF

/-- The code points with a category of their own. -/
def assigned : CharSet :=
  .union (categoriesWith fun _ => true) surrogates

/-- The code points of the categories that only control, and of none. -/
def other : CharSet :=
  .complement (categoriesWith fun name => !(["cc", "cf", "co"].contains name))

/-- The category or group of categories with a normalized name. -/
def category? (name : String) : Option CharSet :=
  match name with
  | "any" => some .all
  | "ascii" => some (.range 0 127)
  | "assigned" => some assigned
  | "cn" | "unassigned" => some (.complement assigned)
  | "c" | "other" => some other
  | _ =>
      match Unicode.categoryGroups.find? fun group => group.1.contains name with
      | some group => some (categoriesWith group.2.contains)
      | none => (Unicode.find? Unicode.categories name).map (.property .category)

/-- The script with a normalized name. -/
def script? (name : String) : Option CharSet :=
  (Unicode.find? Unicode.scripts name).map (.property .script)

/-- The characters used with the script with a normalized name.  A script that
is used with no others has no entry among the extensions. -/
def scriptExtension? (name : String) : Option CharSet :=
  ((Unicode.find? Unicode.scriptExtensions name).map (.property .scriptExtension)).or
    (script? name)

/-- The characters that existed at the age with a normalized name, which are
those of that age and of all before it. -/
def age? (name : String) : Option CharSet :=
  (Unicode.find? Unicode.ages name).map fun index =>
    .unions ((List.range (index + 1)).map (.property .age))

/-- The set asked for by one name. -/
def find? (name : List Char) : Option CharSet :=
  let name := normalize name
  ((Unicode.find? Unicode.binaryProperties name).map (.property .binary)).or
    ((category? name).or (script? name))

/-- The set asked for by the name of a table and a value in it. -/
def findIn? (table value : List Char) : Option CharSet :=
  let value := normalize value
  match normalize table with
  | "gc" | "generalcategory" => category? value
  | "sc" | "script" => script? value
  | "scx" | "scriptextensions" => scriptExtension? value
  | "age" => age? value
  | "gcb" | "graphemeclusterbreak" =>
      (Unicode.find? Unicode.graphemeBreaks value).map (.property .graphemeBreak)
  | "wb" | "wordbreak" => (Unicode.find? Unicode.wordBreaks value).map (.property .wordBreak)
  | "sb" | "sentencebreak" =>
      (Unicode.find? Unicode.sentenceBreaks value).map (.property .sentenceBreak)
  | _ => none

end Property
end Regex
end IndexBench
