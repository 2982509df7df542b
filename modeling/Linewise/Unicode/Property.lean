import Linewise.Unicode.Break
import Linewise.Unicode.Table.Age

/-!
The properties of code points that a pattern may name. Names are compared loosely, without case,
blanks, hyphens, underscores and a leading `is`. The values are those of Unicode 16.0.
-/
namespace Linewise.Unicode

/-- What had been assigned by the version of that name. -/
def age? (name : String) : Option CodeSet :=
  (Table.age.findIdx? fun e => e.1.contains name).map fun i =>
    CodeSet.ofTable ((Table.age.take (i + 1)).flatMap Prod.snd)

/-- A name without case, blanks, hyphens, underscores and what is not ASCII, and without a leading
`is`, which is dropped before anything else; `isc` stays whole, as it would be `c`. -/
def looseName (name : String) : String :=
  let keep (cs : List Char) : List Char :=
    (cs.filter fun c => c.toNat < 0x80 && c != ' ' && c != '_' && c != '-').map Char.toLower
  match name.toList with
  | a :: b :: rest =>
      if a.toLower == 'i' && b.toLower == 's' then
        match keep rest with
        | ['c'] => "isc"
        | kept => String.ofList kept
      else String.ofList (keep name.toList)
  | short => String.ofList (keep short)

/-- Why a property that a pattern names has no code points. -/
inductive PropertyError
  | unknownProperty
  | unknownValue
deriving DecidableEq, Repr

/-- Categories and scripts that have names and no characters. -/
private def withoutCodes : List String :=
  ["cs", "surrogate", "hrkt", "katakanaorhiragana", "zzzz", "unknown"]

/-- Looks a name up as a binary property, a general category and a script, in this order; `cf`,
`sc` and `lc` are categories. -/
def named (name : String) : Except PropertyError CodeSet :=
  let loose := looseName name
  let asBinary := if ["cf", "sc", "lc"].contains loose then none else binary? loose
  match asBinary <|> category? loose <|> script? loose with
  | some s => .ok s
  | none => .error (if withoutCodes.contains loose then .unknownValue else .unknownProperty)

/-- How the values of a property are looked up, if there is such a property. -/
private def lookup? (property : String) : Option (String → Option CodeSet) :=
  match property with
  | "gc" | "generalcategory" => some category?
  | "sc" | "script" => some script?
  | "scx" | "scriptextensions" => some scriptExtension?
  | "age" => some age?
  | "gcb" | "graphemeclusterbreak" => some graphemeBreak?
  | "wb" | "wordbreak" => some wordBreak?
  | "sb" | "sentencebreak" => some sentenceBreak?
  | name =>
      let unsupported := Table.unsupported.any fun row => (row.splitOn " ").contains name
      if unsupported || (binary? name).isSome then some fun _ => none else none

/-- Looks up a value of a property that has more than two. -/
def valued (property value : String) : Except PropertyError CodeSet :=
  match lookup? (looseName property) with
  | none => .error .unknownProperty
  | some values =>
      match values (looseName value) with
      | some s => .ok s
      | none => .error .unknownValue

end Linewise.Unicode
