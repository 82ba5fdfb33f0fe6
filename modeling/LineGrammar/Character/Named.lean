import LineGrammar.Character.Age
import LineGrammar.Character.Property
import LineGrammar.Character.ScriptExtension

/-!
Sets of characters by name: a property, a general category or a script alone, or one of the values
of a property. Names are compared loosely: case, spaces, hyphens and underscores do not count, nor
does `is` in front.
-/

namespace LineGrammar

/-- A name without what does not count, in lower case. Characters outside of ASCII do not count
either. What is left of `isc` alone would be the name of another set. -/
def looseName (name : Text) : String :=
  let plain := (name.filter fun c => c.toNat < 0x80).map Char.toLower
  let counts := fun (c : Char) => c != ' ' && c != '_' && c != '-'
  let core := match plain with
    | 'i' :: 's' :: rest => if rest.filter counts = ['c'] then "isc".toList else rest.filter counts
    | plain => plain.filter counts
  String.ofList core

namespace CharSet

/-- The general category, or the group of them, with the given name. -/
def category? (edition : Edition) (name : String) : Option CharSet :=
  match name with
  | "any" => some all
  | "ascii" => some ascii
  | "assigned" => some (compl (Category.members edition .unassigned))
  | name =>
    ((Category.list.find? fun c => c.names.contains name).map (Category.members edition)).or
      ((Category.groups.find? fun group => group.1.contains name).map fun group =>
        Category.anyOf edition group.2)

/-- The listed or derived property with the given name. -/
def property? (edition : Edition) (name : String) : Option CharSet :=
  ((ListedProperty.list.find? fun p => p.names.contains name).map ListedProperty.members).or
    (derived? edition name)

/-- The set with the given name. -/
def named? (edition : Edition) (name : Text) : Option CharSet :=
  let name := looseName name
  ((property? edition name).or (category? edition name)).or (Script.named? name)

/-- The characters for which a property has a value. -/
def valued? (edition : Edition) (property value : Text) : Option CharSet :=
  let value := looseName value
  match looseName property with
  | "gc" | "generalcategory" => category? edition value
  | "sc" | "script" => Script.named? value
  | "scx" | "scriptextensions" => ScriptExtension.named? value
  | "age" => Age.named? value
  | _ => none

end CharSet

end LineGrammar
