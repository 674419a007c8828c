import Rowsmith.Derive.Expansion
import Rowsmith.Proofs.Derive.Settings

/-!
# Which fields are bound

The code for a struct with named fields is generated exactly if the settings of its fields are well
formed and no two of the fields that are not skipped have one column. It binds these fields, in
their order; what a skipped field is called plays no part.
-/

namespace Rowsmith
namespace Derive

/-!
# One field
-/

/-- The last column that the settings name, or else the word of the field; none if they say to skip
the field. -/
def Field.columnOf? (field : Field) (settings : List Setting) : Option String :=
  if .skip ∈ settings then none
  else some ((settings.filterMap Setting.column?).getLast?.getD field.name.word)

def Field.binding? (field : Field) (settings : List Setting) : Option Binding :=
  (field.columnOf? settings).map fun column => ⟨column, field.name⟩

theorem Field.column_eq_ok_iff {field : Field} {column : Option String} :
    field.column = .ok column ↔
      ∃ settings, field.Declares settings ∧ field.columnOf? settings = column := by
  have hcolumn (settings : List Setting) :
      (if settings.contains .skip then return none
        else return some ((settings.reverse.findSome? Setting.column?).getD field.name.word) :
          Except SettingError (Option String)) = .ok (field.columnOf? settings) := by
    unfold Field.columnOf?
    rw [List.getLast?_filterMap]
    by_cases hskip : .skip ∈ settings
    · rw [if_pos hskip, if_pos (List.contains_iff_mem.mpr hskip)]
      rfl
    · rw [if_neg hskip, if_neg fun hcontains => hskip (List.contains_iff_mem.mp hcontains)]
      rfl
  unfold Field.column
  simp only [bind_eq_ok_iff, Field.settings_eq_ok_iff, hcolumn, Except.ok.injEq]

theorem find?_column_eq_none_iff {bindings : List Binding} {column : String} :
    bindings.find? (·.column = column) = none ↔ column ∉ bindings.map Binding.column := by
  rw [List.find?_eq_none]
  simp

theorem bindField_eq_ok_iff {bindings result : List Binding} {field : Field} :
    bindField bindings field = .ok result ↔
      ∃ settings, field.Declares settings ∧
        (∀ binding ∈ field.binding? settings, binding.column ∉ bindings.map Binding.column) ∧
        result = bindings ++ (field.binding? settings).toList := by
  have herror {column : Option String} :
      field.column.mapError DeriveError.setting = .ok column ↔ field.column = .ok column := by
    cases field.column with
    | error cause => exact ⟨fun h => (nomatch h), fun h => (nomatch h)⟩
    | ok found => exact ⟨fun h => by cases h; rfl, fun h => by cases h; rfl⟩
  unfold bindField
  simp only [bind_eq_ok_iff, herror, Field.column_eq_ok_iff]
  constructor
  · intro hexists
    rcases hexists with ⟨column, ⟨settings, hdeclares, hcolumn⟩, h⟩
    refine ⟨settings, hdeclares, ?_⟩
    unfold Field.binding?
    rw [hcolumn]
    cases column with
    | none =>
        cases h
        exact ⟨fun _ hmem => (nomatch hmem), (List.append_nil _).symm⟩
    | some column =>
        dsimp only at h
        split at h
        · cases h
        · next hfind =>
            cases h
            refine ⟨?_, rfl⟩
            intro _ hsome
            cases hsome
            exact find?_column_eq_none_iff.mp hfind
  · intro hexists
    rcases hexists with ⟨settings, hdeclares, hnew, rfl⟩
    refine ⟨field.columnOf? settings, ⟨settings, hdeclares, rfl⟩, ?_⟩
    unfold Field.binding? at hnew ⊢
    cases hcolumn : field.columnOf? settings with
    | none => exact congrArg Except.ok (List.append_nil _).symm
    | some column =>
        rw [hcolumn] at hnew
        dsimp only
        rw [find?_column_eq_none_iff.mpr (hnew _ rfl)]
        rfl

/-!
# All fields
-/

/-- The fields that are not skipped, each with its column. -/
def boundFields (fields : List Field) (settings : List (List Setting)) : List Binding :=
  (fields.zip settings).filterMap fun (field, settings) => field.binding? settings

theorem boundFields_cons (field : Field) (fields : List Field) (settings : List Setting)
    (others : List (List Setting)) :
    boundFields (field :: fields) (settings :: others) =
      (field.binding? settings).toList ++ boundFields fields others := by
  unfold boundFields
  rw [List.zip_cons_cons]
  cases hbinding : field.binding? settings with
  | none => exact List.filterMap_cons_none hbinding
  | some binding => exact List.filterMap_cons_some hbinding

theorem nodup_columns_binding?_iff {bindings : List Binding} {field : Field}
    {settings : List Setting} (hdistinct : (bindings.map Binding.column).Nodup) :
    ((bindings ++ (field.binding? settings).toList).map Binding.column).Nodup ↔
      ∀ binding ∈ field.binding? settings, binding.column ∉ bindings.map Binding.column := by
  cases field.binding? settings with
  | none => simpa using hdistinct
  | some binding =>
      rw [Option.toList_some, List.map_append, List.map_singleton,
        List.perm_append_comm.nodup_iff, List.singleton_append, List.nodup_cons]
      simp [hdistinct]

theorem foldlM_bindField_eq_ok_iff {fields : List Field} {bindings result : List Binding}
    (hdistinct : (bindings.map Binding.column).Nodup) :
    fields.foldlM bindField bindings = .ok result ↔
      ∃ settings, List.Forall₂ Field.Declares fields settings ∧
        ((bindings ++ boundFields fields settings).map Binding.column).Nodup ∧
        result = bindings ++ boundFields fields settings := by
  -- By induction on the fields, with distinct columns of the bindings so far as the invariant.
  induction fields generalizing bindings with
  | nil =>
      simp only [List.forall₂_nil_left_iff, exists_eq_left]
      have hnone : bindings ++ boundFields [] [] = bindings := List.append_nil _
      rw [hnone]
      constructor
      · intro h
        cases h
        exact ⟨hdistinct, rfl⟩
      · intro hexists
        rcases hexists with ⟨_, rfl⟩
        rfl
  | cons field fields ih =>
      have hresult (settings : List Setting) (others : List (List Setting)) :
          bindings ++ boundFields (field :: fields) (settings :: others) =
            bindings ++ (field.binding? settings).toList ++ boundFields fields others := by
        rw [boundFields_cons, List.append_assoc]
      rw [List.foldlM_cons, bind_eq_ok_iff]
      simp only [bindField_eq_ok_iff]
      constructor
      · intro hexists
        rcases hexists with ⟨_, ⟨settings, hdeclares, hnew, rfl⟩, h⟩
        have hgrown := (nodup_columns_binding?_iff hdistinct).mpr hnew
        rcases (ih hgrown).mp h with ⟨others, hothers, hnodup, rfl⟩
        rw [← hresult] at hnodup ⊢
        exact ⟨settings :: others, List.Forall₂.cons hdeclares hothers, hnodup, rfl⟩
      · intro hexists
        rcases hexists with ⟨_, hall, hnodup, rfl⟩
        rcases List.forall₂_cons_left_iff.mp hall with ⟨settings, others, hdeclares, hothers, rfl⟩
        rw [hresult] at hnodup
        have hgrown :
            ((bindings ++ (field.binding? settings).toList).map Binding.column).Nodup := by
          rw [List.map_append] at hnodup
          exact (List.nodup_append.mp hnodup).left
        have hnew := (nodup_columns_binding?_iff hdistinct).mp hgrown
        refine ⟨_, ⟨settings, hdeclares, hnew, rfl⟩, ?_⟩
        exact (ih hgrown).mpr ⟨others, hothers, hnodup, hresult settings others⟩

/-- Code is generated for well-formed settings and distinct columns, and for nothing else. -/
theorem expand_eq_ok_iff {item : Item} {fields : List (Entry Field)} {expansion : Expansion}
    (hbody : item.body = .named fields) :
    item.expand = .ok expansion ↔
      ∃ settings, List.Forall₂ Field.Declares (fields.map Entry.value) settings ∧
        ((boundFields (fields.map Entry.value) settings).map Binding.column).Nodup ∧
        expansion = ⟨item, boundFields (fields.map Entry.value) settings⟩ := by
  have hfields : item.namedFields = .ok (fields.map Entry.value) := by
    unfold Item.namedFields
    rw [hbody]
    rfl
  have hbind {result : List Binding} : bindFields (fields.map Entry.value) = .ok result ↔ _ :=
    @foldlM_bindField_eq_ok_iff _ [] _ List.nodup_nil
  unfold Item.expand
  rw [hfields, bind_eq_ok_iff]
  simp only [Except.ok.injEq, exists_eq_left', bind_eq_ok_iff, hbind, List.nil_append]
  constructor
  · intro hexists
    rcases hexists with ⟨_, ⟨settings, hdeclares, hnodup, rfl⟩, h⟩
    cases h
    exact ⟨settings, hdeclares, hnodup, rfl⟩
  · intro hexists
    rcases hexists with ⟨settings, hdeclares, hnodup, rfl⟩
    exact ⟨_, ⟨settings, hdeclares, hnodup, rfl⟩, rfl⟩

end Derive
end Rowsmith
