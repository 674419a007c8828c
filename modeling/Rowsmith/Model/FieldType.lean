import Rowsmith.Catalog.Assembly
import Rowsmith.Text.Basic
import Rowsmith.Text.CaseMapping

/-!
# Type names and field types

The names of database types in their normal form, and the field types that stand for them.
-/

namespace Rowsmith

open Text

/-!
# Names of database types

One type has many spellings: letter case, blanks and the parameters in parentheses do not matter,
and some types have a long and a short name. The normal form is in small letters, without
parameters, with single spaces and under the short name.
-/

/-- The text without its groups in parentheses. A group ends at the first closing parenthesis; one
that is never closed is kept. The first argument is the group being read, last character first. -/
def withoutGroups : Option (List Char) → List Char → List Char
  | none, [] => []
  | some held, [] => held.reverse
  | none, c :: rest =>
      if c = '(' then withoutGroups (some [c]) rest else c :: withoutGroups none rest
  | some held, c :: rest =>
      if c = ')' then withoutGroups none rest else withoutGroups (some (c :: held)) rest

/-- The types that have a longer name too. -/
def longNames : List (List Char × List Char) :=
  [("character varying".toList, "varchar".toList),
    ("timestamp with time zone".toList, "timestamptz".toList)]

def shortName (name : List Char) : List Char :=
  (longNames.lookup name).getD name

def normalName (name : List Char) : List Char :=
  shortName (collapseBlanks (withoutGroups none (lower (trim name))))

def normalTypeName (name : String) : String :=
  String.ofList (normalName name.toList)

/-!
## Array types
-/

/-- The element type of an array type, as it is spelled. -/
def elementSpelling? (name : List Char) : Option (List Char) :=
  match name.reverse with
  | ']' :: '[' :: rest => some rest.reverse
  | _ => none

/-- The normal form of the element type of an array type in normal form. Only a space can be left
over at the end once the brackets are gone. -/
def elementName? (name : List Char) : Option (List Char) :=
  (elementSpelling? name).map fun element => shortName (trimEnd element)

theorem length_shortName_le (name : List Char) : (shortName name).length ≤ name.length := by
  unfold shortName longNames
  simp only [List.lookup_cons, List.lookup_nil]
  split
  · next h =>
      rw [eq_of_beq h]
      decide
  · split
    · next h =>
        rw [eq_of_beq h]
        decide
    · simp

theorem length_trimEnd_le (cs : List Char) : (trimEnd cs).length ≤ cs.length := by
  have := (List.dropWhile_sublist isBlank (l := cs.reverse)).length_le
  simpa [trimEnd] using this

theorem length_elementName {name element : List Char} (h : elementName? name = some element) :
    element.length < name.length := by
  obtain ⟨spelling, hs, rfl⟩ := Option.map_eq_some_iff.1 h
  have shorter : spelling.length < name.length := by
    unfold elementSpelling? at hs
    split at hs
    · next rest hr =>
        have := congrArg List.length hr
        simp only [List.length_reverse, List.length_cons] at this
        obtain rfl := Option.some.inj hs
        simp only [List.length_reverse]
        omega
    · simp at hs
  have := length_shortName_le (trimEnd spelling)
  have := length_trimEnd_le spelling
  omega

/-!
# Field types

The type of the field that holds a column. Overrides of the user's own, under the normal form of a
type name, come before the table of known types; a type that nobody knows is held as text. The
elements of an array get the type that a column of their type would get.
-/

/-- Field types by the normal names of the database types. -/
abbrev Overrides := NameMap String

/-- Where two keys have one normal form, the greater key counts. -/
def Overrides.ofConfigured (configured : NameMap String) : Overrides :=
  NameMap.ofList (configured.entries.map fun (name, fieldType) =>
    (normalTypeName name, fieldType))

def textType : String := "String"

def knownTypes : List (String × String) :=
  [("bool", "bool"), ("boolean", "bool"),
    ("char", "i8"), ("\"char\"", "i8"),
    ("int2", "i16"), ("smallint", "i16"), ("smallserial", "i16"),
    ("int4", "i32"), ("integer", "i32"), ("serial", "i32"),
    ("int8", "i64"), ("bigint", "i64"), ("bigserial", "i64"),
    ("oid", "u32"),
    ("float4", "f32"), ("real", "f32"),
    ("float8", "f64"), ("double precision", "f64"),
    ("text", textType), ("varchar", textType), ("character", textType), ("bpchar", textType),
    ("name", textType), ("citext", textType),
    ("uuid", "uuid::Uuid"),
    ("json", "serde_json::Value"), ("jsonb", "serde_json::Value"),
    ("timestamptz", "chrono::DateTime<chrono::Utc>"),
    ("timestamp", "chrono::NaiveDateTime"),
    ("timestamp without time zone", "chrono::NaiveDateTime"),
    ("date", "chrono::NaiveDate"),
    ("time", "chrono::NaiveTime"), ("time without time zone", "chrono::NaiveTime"),
    ("bytea", "Vec<u8>")]

def listType (element : String) : String :=
  "Vec<" ++ element ++ ">"

def optionalType (inner : String) : String :=
  "Option<" ++ inner ++ ">"

namespace Overrides

/-- The field type for a type name in normal form. -/
def typeOfNormal (overrides : Overrides) (name : List Char) : String :=
  match overrides.find? (String.ofList name) with
  | some fieldType => fieldType
  | none =>
      match _h : elementName? name with
      | some element => listType (overrides.typeOfNormal element)
      | none => (knownTypes.lookup (String.ofList name)).getD textType
termination_by name.length
decreasing_by exact length_elementName _h

def typeOf (overrides : Overrides) (name : String) : String :=
  overrides.typeOfNormal (normalName name.toList)

def columnType (overrides : Overrides) (column : Column) : String :=
  if column.nullable then optionalType (overrides.typeOf column.type)
  else overrides.typeOf column.type

end Overrides

end Rowsmith
