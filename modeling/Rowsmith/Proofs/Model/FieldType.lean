import Rowsmith.Model.FieldType
import Rowsmith.Proofs.Derive.TypeText

/-!
# Field types as texts of types

The type of a field is the text of a type if every override is one. This covers the known types, and
the lists and optional types made of others.
-/

namespace Rowsmith
namespace Derive

open Text

/-!
# Known types
-/

theorem isTypeText_listType {element : String} (h : IsTypeText element) :
    IsTypeText (listType element) := by
  have hword : isPlainWord "Vec" = true := by decide
  apply isTypeText_generic _ (writable_of_isPlainWord hword) (isName_of_isPlainWord hword) h
  simp [listType, genericText, Identifier.text]

theorem isTypeText_optionalType {inner : String} (h : IsTypeText inner) :
    IsTypeText (optionalType inner) := by
  have hword : isPlainWord "Option" = true := by decide
  apply isTypeText_generic _ (writable_of_isPlainWord hword) (isName_of_isPlainWord hword) h
  simp [optionalType, genericText, Identifier.text]

def knownPaths : List (String × List String) :=
  [("bool", []), ("i8", []), ("i16", []), ("i32", []), ("i64", []), ("u32", []), ("f32", []),
    ("f64", []), (textType, []), ("u8", []), ("uuid", ["Uuid"]), ("serde_json", ["Value"]),
    ("chrono", ["NaiveDateTime"]), ("chrono", ["NaiveDate"]), ("chrono", ["NaiveTime"]),
    ("chrono", ["Utc"])]

def IsKnownPath (text : String) : Prop :=
  ∃ path ∈ knownPaths, text.toList = pathText ⟨path.1, false⟩ (plainPath path.2)

instance (text : String) : Decidable (IsKnownPath text) :=
  inferInstanceAs (Decidable (∃ path ∈ knownPaths, _))

theorem isPlainWord_knownPaths :
    ∀ path ∈ knownPaths, ∀ word ∈ path.1 :: path.2, isPlainWord word = true := by
  decide

theorem isTypeText_knownPath {text : String} (h : IsKnownPath text) : IsTypeText text := by
  rcases h with ⟨path, hpath, htext⟩
  exact isTypeText_plainPath (isPlainWord_knownPaths path hpath) htext

theorem isTypeText_dateTime : IsTypeText "chrono::DateTime<chrono::Utc>" := by
  have hargument : IsTypeText "chrono::Utc" := isTypeText_knownPath (by decide)
  have hplain : ∀ word ∈ ["chrono", "DateTime"], isPlainWord word = true := by decide
  have htext : "chrono::DateTime<chrono::Utc>".toList =
      genericText (pathText ⟨"chrono", false⟩ ([] ++ [⟨"DateTime", false⟩])) "chrono::Utc" := by
    decide
  exact isTypeText_genericPath htext (writable_plainPath hplain) (isName_plainPath hplain)
    hargument

theorem knownTypes_cases : ∀ entry ∈ knownTypes, IsKnownPath entry.2 ∨ entry.2 = listType "u8" ∨
    entry.2 = "chrono::DateTime<chrono::Utc>" := by
  decide

theorem isTypeText_known : ∀ entry ∈ knownTypes, IsTypeText entry.2 := by
  intro entry hentry
  rcases knownTypes_cases entry hentry with hpath | hlist | htime
  · exact isTypeText_knownPath hpath
  · rw [hlist]
    exact isTypeText_listType (isTypeText_knownPath (by decide))
  · rw [htime]
    exact isTypeText_dateTime

theorem mem_of_lookup {α : Type} {entries : List (String × α)} {name : String} {a : α}
    (h : entries.lookup name = some a) : (name, a) ∈ entries := by
  rcases List.lookup_eq_some_iff.mp h with ⟨front, back, rfl, _⟩
  simp

end Derive

/-!
# The types of columns
-/

open Text Derive

variable {overrides : Overrides}

theorem typeOfNormal_overridden {name : List Char} {fieldType : String}
    (h : overrides.find? (String.ofList name) = some fieldType) :
    overrides.typeOfNormal name = fieldType := by
  rw [Overrides.typeOfNormal, h]

theorem typeOfNormal_element {name element : List Char}
    (h : overrides.find? (String.ofList name) = none)
    (helement : elementName? name = some element) :
    overrides.typeOfNormal name = listType (overrides.typeOfNormal element) := by
  rw [Overrides.typeOfNormal, h, helement]

theorem typeOfNormal_single {name : List Char}
    (h : overrides.find? (String.ofList name) = none) (helement : elementName? name = none) :
    overrides.typeOfNormal name = (knownTypes.lookup (String.ofList name)).getD textType := by
  rw [Overrides.typeOfNormal, h, helement]

/-- The override that a type name in normal form has, for itself or for the elements of an array. -/
def Overrides.overriding? (overrides : Overrides) (name : List Char) : Option String :=
  match overrides.find? (String.ofList name) with
  | some fieldType => some fieldType
  | none =>
      match _h : elementName? name with
      | some element => overrides.overriding? element
      | none => none
termination_by name.length
decreasing_by exact length_elementName _h

def Overrides.TypesColumn (overrides : Overrides) (column : Column) : Prop :=
  ∀ fieldType, overrides.overriding? (normalName column.type.toList) = some fieldType →
    IsTypeText fieldType

theorem mem_of_overriding? {name : List Char} {fieldType : String}
    (h : overrides.overriding? name = some fieldType) :
    ∃ entry ∈ overrides.entries, entry.2 = fieldType := by
  induction name using Overrides.overriding?.induct overrides with
  | case1 name found hfound =>
      rw [Overrides.overriding?, hfound] at h
      cases h
      exact ⟨_, mem_of_lookup hfound, rfl⟩
  | case2 name hfound element helement ih =>
      rw [Overrides.overriding?, hfound, helement] at h
      exact ih h
  | case3 name hfound helement =>
      rw [Overrides.overriding?, hfound, helement] at h
      cases h

theorem typesColumn_of_entries (h : ∀ entry ∈ overrides.entries, IsTypeText entry.2)
    (column : Column) : overrides.TypesColumn column := by
  intro fieldType hoverriding
  rcases mem_of_overriding? hoverriding with ⟨entry, hentry, rfl⟩
  exact h entry hentry

theorem isTypeText_typeOfNormal {name : List Char}
    (h : ∀ fieldType, overrides.overriding? name = some fieldType → IsTypeText fieldType) :
    IsTypeText (overrides.typeOfNormal name) := by
  induction name using Overrides.typeOfNormal.induct overrides with
  | case1 name fieldType hfound =>
      rw [typeOfNormal_overridden hfound]
      apply h
      rw [Overrides.overriding?, hfound]
  | case2 name hfound element helement ih =>
      rw [typeOfNormal_element hfound helement]
      apply isTypeText_listType
      apply ih
      intro fieldType hoverriding
      apply h
      rw [Overrides.overriding?, hfound, helement]
      exact hoverriding
  | case3 name hfound helement =>
      rw [typeOfNormal_single hfound helement]
      cases hknown : knownTypes.lookup (String.ofList name) with
      | some type => exact isTypeText_known _ (mem_of_lookup hknown)
      | none =>
          have htext : IsTypeText textType := isTypeText_knownPath (by decide)
          exact htext

theorem isTypeText_columnType {column : Column} (h : overrides.TypesColumn column) :
    IsTypeText (overrides.columnType column) := by
  have htype := isTypeText_typeOfNormal h
  unfold Overrides.columnType Overrides.typeOf
  cases column.nullable with
  | false => exact htype
  | true => exact isTypeText_optionalType htype

/-- What holds for the known types, and for lists of what it holds for, holds for every type that is
not overridden. -/
theorem typeOf_empty_induction {p : String → Prop} (hknown : ∀ entry ∈ knownTypes, p entry.2)
    (htext : p textType) (hlist : ∀ element, p element → p (listType element)) (name : String) :
    p (Overrides.typeOf .empty name) := by
  unfold Overrides.typeOf
  induction normalName name.toList using Overrides.typeOfNormal.induct .empty with
  | case1 name fieldType hfound => cases hfound
  | case2 name hfound element helement ih =>
      rw [typeOfNormal_element hfound helement]
      exact hlist _ ih
  | case3 name hfound helement =>
      rw [typeOfNormal_single hfound helement]
      cases hlookup : knownTypes.lookup (String.ofList name) with
      | some type => exact hknown _ (mem_of_lookup hlookup)
      | none => exact htext

end Rowsmith
