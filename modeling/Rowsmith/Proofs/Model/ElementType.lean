import Rowsmith.Proofs.Catalog.Entries
import Rowsmith.Proofs.Model.TypeSpelling

/-!
# Element types of array columns

An array is reported under a name that is made from its element type by an underscore before it.
The column has the right type exactly if the name of the element type begins with no underscore of
its own, since all of them are taken away. The number of underscores tells the two names apart, as
no step towards the normal form changes it.
-/

namespace Rowsmith

open Text

/-!
# Underscores in a normal name
-/

def underscores (name : List Char) : Nat :=
  (normalName name).count '_'

theorem count_shortName (name : List Char) : (shortName name).count '_' = name.count '_' := by
  by_cases hmem : name ∈ longNames.map Prod.fst
  · have hall : ∀ long ∈ longNames.map Prod.fst,
        (shortName long).count '_' = long.count '_' := by
      decide
    exact hall name hmem
  · rw [shortName_of_not_mem hmem]

theorem count_collapseBlanks (cs : List Char) : (collapseBlanks cs).count '_' = cs.count '_' := by
  have hsolid (cs : List Char) : (cs.filter fun c => !isBlank c).count '_' = cs.count '_' :=
    List.count_filter (by decide)
  rw [← hsolid, filter_collapseBlanks, hsolid]

theorem underscores_eq (name : List Char) :
    underscores name = (withoutGroups none (lower name)).count '_' := by
  have hname : name.takeWhile isBlank ++ trimStart name = name := List.takeWhile_append_dropWhile
  have hblanks : ∀ c ∈ name.takeWhile isBlank, isBlank c = true := fun c hc =>
    List.all_eq_true.mp List.all_takeWhile c hc
  have hopening : '(' ∉ name.takeWhile isBlank := fun hmem => by cases hblanks _ hmem
  have hnone : (name.takeWhile isBlank).count '_' = 0 := by
    rw [List.count_eq_zero]
    intro hmem
    cases hblanks _ hmem
  have hlower : lower name = name.takeWhile isBlank ++ lower (trimStart name) := by
    conv_lhs => rw [← hname]
    exact lower_append_left fun c hc => isCaseless_of_isBlank (hblanks c hc)
  unfold underscores
  rw [normalName_eq, count_shortName, count_collapseBlanks, hlower,
    withoutGroups_append_left hopening, List.count_append, hnone, Nat.zero_add]

theorem underscores_cons (name : List Char) :
    underscores ('_' :: name) = underscores name + 1 := by
  have hcaseless : ∀ c ∈ ['_'], IsCaseless c :=
    List.forall_mem_singleton.mpr (by decide +kernel)
  have hlower : lower ('_' :: name) = ['_'] ++ lower name := lower_append_left hcaseless
  rw [underscores_eq, hlower, withoutGroups_append_left (by decide), List.count_append,
    underscores_eq, Nat.add_comm]
  rfl

theorem underscores_append_brackets (name : List Char) :
    underscores (name ++ brackets) = underscores name := by
  rw [underscores_eq, lower_append fun c hc => (isMark_of_mem_brackets c hc).caseless,
    withoutGroups_append (by decide), List.count_append, underscores_eq]
  rfl

/-!
# Names with underscores at the front
-/

def withoutUnderscores (name : String) : String :=
  String.ofList (name.toList.dropWhile (· = '_'))

def BeginsUnderscored (name : String) : Prop :=
  name.toList.head? = some '_'

instance (name : String) : Decidable (BeginsUnderscored name) :=
  inferInstanceAs (Decidable (_ = _))

theorem withoutUnderscores_of_not_begins {name : String} (h : ¬ BeginsUnderscored name) :
    withoutUnderscores name = name := by
  have hkept : name.toList.dropWhile (· = '_') = name.toList := by
    unfold BeginsUnderscored at h
    cases hname : name.toList with
    | nil => rfl
    | cons c rest =>
        rw [hname] at h
        exact List.dropWhile_cons_of_neg (by simpa using h)
  unfold withoutUnderscores
  rw [hkept, String.ofList_toList]

theorem underscores_dropWhile_lt {name : List Char} (h : name.head? = some '_') :
    underscores (name.dropWhile (· = '_')) < underscores name := by
  have hle : ∀ name : List Char, underscores (name.dropWhile (· = '_')) ≤ underscores name := by
    intro name
    induction name with
    | nil => exact Nat.le_refl _
    | cons c rest ih =>
        by_cases hc : c = '_'
        · subst hc
          rw [List.dropWhile_cons_of_pos (by decide), underscores_cons]
          exact Nat.le_succ_of_le ih
        · rw [List.dropWhile_cons_of_neg (by simpa using hc)]
  cases name with
  | nil => cases h
  | cons c rest =>
      obtain rfl : c = '_' := by simpa using h
      rw [List.dropWhile_cons_of_pos (by decide), underscores_cons]
      exact Nat.lt_succ_of_le (hle rest)

theorem normalTypeName_ne_of_begins {name : String} (h : BeginsUnderscored name) :
    normalTypeName name ≠ normalTypeName (withoutUnderscores name) ∧
      normalTypeName name ≠ normalTypeName (withoutUnderscores name ++ "[]") := by
  have hlt := underscores_dropWhile_lt h
  have hlist : (withoutUnderscores name).toList = name.toList.dropWhile (· = '_') :=
    String.toList_ofList
  have harray : (withoutUnderscores name ++ "[]").toList =
      name.toList.dropWhile (· = '_') ++ brackets := by
    rw [String.toList_append, hlist]
    rfl
  have hne {other : String} (hcount : underscores other.toList < underscores name.toList) :
      normalTypeName name ≠ normalTypeName other := by
    intro hsame
    have hnormal : normalName name.toList = normalName other.toList :=
      String.ofList_injective hsame
    unfold underscores at hcount
    rw [hnormal] at hcount
    exact Nat.lt_irrefl _ hcount
  constructor
  · apply hne
    rw [hlist]
    exact hlt
  · apply hne
    rw [harray, underscores_append_brackets]
    exact hlt

theorem normalTypeName_ne_append_brackets (name : String) :
    normalTypeName name ≠ normalTypeName (name ++ "[]") := by
  intro hsame
  have hnormal : normalName name.toList = normalName (name ++ "[]").toList :=
    String.ofList_injective hsame
  have hshorter := length_elementName (elementName?_append_brackets name.toList)
  have hlist : (name ++ "[]").toList = name.toList ++ brackets := String.toList_append
  rw [hnormal, hlist] at hshorter
  exact Nat.lt_irrefl _ hshorter

/-- Where the element type has an underscore of its own, there are overrides that tell it from what
the array is taken for. -/
theorem exists_overrides_of_begins {name : String} (h : BeginsUnderscored name) :
    ∃ configured, Undecided configured (withoutUnderscores name ++ "[]") ∧
      (Overrides.ofConfigured configured).typeOf (withoutUnderscores name) ≠
        (Overrides.ofConfigured configured).typeOf name := by
  rcases normalTypeName_ne_of_begins h with ⟨hbase, harray⟩
  have hbrackets := normalTypeName_ne_append_brackets (withoutUnderscores name)
  have hdecides : Decides (soleOverride name "Named") name _ := (undecided_empty _).decides_insert
  have hother : Decides ((soleOverride name "Named").insert (withoutUnderscores name) textType)
      (withoutUnderscores name) _ :=
    Undecided.decides_insert ((undecided_empty _).insert hbase)
  refine ⟨(soleOverride name "Named").insert (withoutUnderscores name) textType, ?_, ?_⟩
  · exact Undecided.insert ((undecided_empty _).insert harray) hbrackets
  · rw [Overrides.typeOf_of_find? (Overrides.find?_of_decides hother),
      Overrides.typeOf_of_find? (Overrides.find?_of_decides (hdecides.insert (Ne.symm hbase)))]
    show textType ≠ "Named"
    decide

/-!
# Columns of arrays
-/

/-- The row of a column that has a type of the user's own and is else like this one. -/
def ColumnRow.ofUserType (row : ColumnRow) (name : String) : ColumnRow :=
  { row with dataType := "USER-DEFINED", typeName := name }

structure ColumnRow.ReportsArray (row : ColumnRow) (element : String) : Prop where
  dataType : row.dataType = "ARRAY"
  typeName : row.typeName = "_" ++ element

namespace ColumnRow

variable {row : ColumnRow} {element : String}

theorem ReportsArray.resolvedType (h : row.ReportsArray element) :
    row.resolvedType = withoutUnderscores element ++ "[]" := by
  have hname : row.typeName.toList = '_' :: element.toList := by
    rw [h.typeName, String.toList_append]
    rfl
  unfold ColumnRow.resolvedType withoutUnderscores
  rw [if_pos h.dataType, hname, List.dropWhile_cons_of_pos (by decide)]

theorem columnType_ofUserType (overrides : Overrides) (hrequired : row.nullable ≠ "YES") :
    overrides.columnType (row.ofUserType element).toColumn = overrides.typeOf element := by
  have hnullable : (row.ofUserType element).toColumn.nullable = false :=
    decide_eq_false hrequired
  have htype : (row.ofUserType element).toColumn.type = element := rfl
  unfold Overrides.columnType
  rw [hnullable, htype]
  rfl

theorem Lists.columnType_array {column : Column} {configured : NameMap String}
    (h : row.Lists column) (harray : row.ReportsArray element) (hrequired : row.nullable ≠ "YES")
    (hundecided : Undecided configured column.type) :
    (Overrides.ofConfigured configured).columnType column =
      listType ((Overrides.ofConfigured configured).typeOf (withoutUnderscores element)) := by
  have htype : column.type = withoutUnderscores element ++ "[]" :=
    h.type.trans harray.resolvedType
  have hnullable : column.nullable ≠ true := fun hnull => hrequired (h.nullable.mp hnull)
  rw [htype] at hundecided
  unfold Overrides.columnType
  rw [if_neg hnullable, htype,
    Overrides.typeOf_append_brackets (Overrides.find?_of_undecided hundecided)]

end ColumnRow

theorem listType_injective {element other : String} (h : listType element = listType other) :
    element = other := by
  have hlist := congrArg String.toList h
  unfold listType at hlist
  simp only [String.toList_append] at hlist
  exact String.toList_injective (List.append_cancel_left (List.append_cancel_right hlist))

/-- The column of an array that is reported for a listed table is in the catalog, as an array of
the element type without any underscore at its front. This is the element type itself, and the
elements get the field type that a column of the element type would get whatever is overridden
except for the array, exactly if the element type begins with no underscore. -/
theorem array_columns_keep_element_iff {tables : List TableRow} {rows : List ColumnRow}
    {catalog : Catalog} {table : TableRow} {row : ColumnRow} {element : String}
    (hcatalog : assemble tables rows = .ok catalog) (htable : table ∈ tables) (hrow : row ∈ rows)
    (howns : table.owns row = true) (harray : row.ReportsArray element) :
    ∃ entry, catalog.table? table.table = some ⟨table.table, entry⟩ ∧
      ∃ column ∈ entry, row.Lists column ∧
        column.type = withoutUnderscores element ++ "[]" ∧
        (column.type = element ++ "[]" ↔ ¬ BeginsUnderscored element) ∧
        (row.nullable ≠ "YES" →
          (∀ configured, Undecided configured column.type →
            (Overrides.ofConfigured configured).columnType column =
              listType ((Overrides.ofConfigured configured).columnType
                (row.ofUserType (withoutUnderscores element)).toColumn)) ∧
          ((∀ configured, Undecided configured column.type →
            (Overrides.ofConfigured configured).columnType column =
              listType ((Overrides.ofConfigured configured).columnType
                (row.ofUserType element).toColumn)) ↔
            ¬ BeginsUnderscored element)) := by
  rcases assemble_eq_ok_iff.mp hcatalog with ⟨owners, howners, rfl⟩
  have hfound := ((Owners.collect_eq_ok_iff.mp howners).right.right table.table table.schema).mpr
    (Or.inl htable)
  refine ⟨columnsOf rows table.table table.schema, ?_, row.toColumn, ?_, lists_toColumn row,
    harray.resolvedType, ⟨?_, ?_⟩, ?_⟩
  · unfold Catalog.table?
    rw [NameMap.find?_mapEntries, hfound]
    rfl
  · apply List.mem_map_of_mem
    rw [List.mem_mergeSort, List.mem_filter]
    exact ⟨hrow, howns⟩
  · intro hsame hbegins
    have htype := hsame.symm.trans harray.resolvedType
    have hname := String.append_left_inj _ |>.mp htype
    exact (normalTypeName_ne_of_begins hbegins).left (congrArg normalTypeName hname)
  · intro hbegins
    rw [← withoutUnderscores_of_not_begins hbegins]
    exact harray.resolvedType
  · intro hrequired
    refine ⟨?_, ?_, ?_⟩
    · intro configured hundecided
      rw [ColumnRow.columnType_ofUserType _ hrequired]
      exact (lists_toColumn row).columnType_array harray hrequired hundecided
    · intro halike hbegins
      rcases exists_overrides_of_begins hbegins with ⟨configured, hundecided, hne⟩
      rw [← harray.resolvedType] at hundecided
      have hcolumn := halike configured hundecided
      rw [ColumnRow.columnType_ofUserType _ hrequired,
        (lists_toColumn row).columnType_array harray hrequired hundecided] at hcolumn
      exact hne (listType_injective hcolumn)
    · intro hbegins configured hundecided
      rw [ColumnRow.columnType_ofUserType _ hrequired,
        (lists_toColumn row).columnType_array harray hrequired hundecided,
        withoutUnderscores_of_not_begins hbegins]

/-- Arrays of a type with a capital letter, which has an override. -/
theorem array_of_moods_keeps_element :
    let row : ColumnRow := ⟨"public", "people", "moods", 1, "NO", "ARRAY", "_Mood"⟩
    let overrides := Overrides.ofConfigured (soleOverride "mood" "Mood")
    ∃ catalog entry, assemble [⟨"public", "people"⟩] [row] = .ok catalog ∧
      catalog.table? "people" = some ⟨"people", entry⟩ ∧
      ∃ column ∈ entry, column.type = "Mood[]" ∧
        overrides.columnType column =
          listType (overrides.columnType (row.ofUserType "Mood").toColumn) := by
  intro row overrides
  have hexists : ∃ catalog, assemble [⟨"public", "people"⟩] [row] = .ok catalog :=
    exists_assemble_iff.mpr (by simp)
  have harray : row.ReportsArray "Mood" := ⟨rfl, by decide⟩
  rcases hexists with ⟨catalog, hcatalog⟩
  rcases array_columns_keep_element_iff hcatalog List.mem_cons_self List.mem_cons_self
    (by decide) harray with
    ⟨entry, hentry, column, hcolumn, _, _, htype, htypes⟩
  have hmood : column.type = "Mood[]" := htype.mpr (by decide)
  have hundecided : Undecided (soleOverride "mood" "Mood") column.type := by
    rw [hmood]
    decide +kernel
  refine ⟨catalog, entry, hcatalog, hentry, column, hcolumn, hmood, ?_⟩
  exact (htypes (by decide)).right.mpr (by decide) _ hundecided

/-- An array of a type with an underscore of its own is taken for an array of another type. -/
theorem array_of_underscored_type_loses_element :
    let row : ColumnRow := ⟨"public", "t", "a", 1, "NO", "ARRAY", "__foo"⟩
    let overrides := Overrides.ofConfigured (soleOverride "_foo" "Foo")
    row.ReportsArray "_foo" ∧
      assemble [⟨"public", "t"⟩] [row] = .ok (.ofTables [⟨"t", [⟨"a", "foo[]", false⟩]⟩]) ∧
      overrides.columnType (row.ofUserType "_foo").toColumn = "Foo" ∧
      overrides.columnType ⟨"a", "foo[]", false⟩ = "Vec<String>" := by
  intro row overrides
  have harray : row.ReportsArray "_foo" := ⟨rfl, by decide⟩
  have hcolumns : columnsOf [row] "t" "public" = [⟨"a", "foo[]", false⟩] := by
    simp [columnsOf, row, ColumnRow.toColumn, ColumnRow.resolvedType]
  have hdecides : Decides (soleOverride "_foo" "Foo") "_foo" _ := (undecided_empty _).decides_insert
  refine ⟨harray, ?_, ?_, ?_⟩
  · apply assemble_eq_ok_iff.mpr
    refine ⟨.ofList [("t", "public")], rfl, ?_⟩
    apply NameMap.ext_find?
    intro name
    show List.lookup name [("t", columnsOf [row] "t" "public")] = _
    rw [hcolumns]
    rfl
  · rw [ColumnRow.columnType_ofUserType _ (by decide),
      Overrides.typeOf_of_find? (Overrides.find?_of_decides hdecides)]
  · have hbase : Undecided (soleOverride "_foo" "Foo") "foo" := by
      decide +kernel
    have hundecided : Undecided (soleOverride "_foo" "Foo") ("foo" ++ "[]") := by
      decide +kernel
    show overrides.typeOf ("foo" ++ "[]") = _
    rw [Overrides.typeOf_append_brackets (Overrides.find?_of_undecided hundecided),
      Overrides.typeOf_eq_searchStep]
    unfold Overrides.searchStep
    rw [Overrides.find?_of_undecided hbase]
    decide +kernel

end Rowsmith
