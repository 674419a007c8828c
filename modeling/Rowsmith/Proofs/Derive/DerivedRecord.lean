import Rowsmith.Proofs.Derive.Bindings
import Rowsmith.Proofs.Derive.Registrations
import Rowsmith.Proofs.Record.Binding
import Rowsmith.Statement.Builder

/-!
# Records of derived structs

What the generated code makes of a value of its struct. The value is seen as a record of all fields
under their own words; the two generated functions register the bound fields under their columns,
once as places to scan into and once as values. Both lists are the bound columns of the type, so a
request for these is answered like one for everything, and a skipped field takes part in neither.
-/

namespace Rowsmith
namespace Derive

open Text

/-- The record holds a value of the struct: all its fields, each under its own word. -/
structure HoldsStruct (whole : Record) (fields : List Field) : Prop where
  words : whole.columns = fields.map (·.name.word)
  distinct : whole.columns.Nodup

/-!
# The generated functions
-/

def registeredField? (whole : Record) (binding : Binding) : Option Rowsmith.Field :=
  (whole.field? binding.field.word).map fun field => ⟨binding.column, field.value⟩

def registered (bindings : List Binding) (whole : Record) : Record where
  fields := bindings.filterMap (registeredField? whole)

def places (bindings : List Binding) (whole : Record) : List Nat :=
  bindings.filterMap fun binding => whole.position? binding.field.word

def valuesOf (bindings : List Binding) (whole : Record) : ValueSource :=
  (registered bindings whole).values

def pointersOf (bindings : List Binding) : Scanning.Resolver := fun whole columns =>
  ((registered bindings whole).targets columns).map fun positions =>
    positions.filterMap ((places bindings whole)[·]?)

theorem map_some_filterMap {α β : Type} {f : α → Option β} {members : List α}
    (h : ∀ a ∈ members, f a ≠ none) : (members.filterMap f).map some = members.map f := by
  induction members with
  | nil => rfl
  | cons a members ih =>
      rcases List.forall_mem_cons.mp h with ⟨hfirst, hrest⟩
      rcases Option.ne_none_iff_exists'.mp hfirst with ⟨b, hb⟩
      rw [List.filterMap_cons_some hb, List.map_cons, List.map_cons, ih hrest, hb]

section Functions

variable {bindings : List Binding} {whole : Record}

theorem registered_fields (h : ∀ binding ∈ bindings, binding.field.word ∈ whole.columns) :
    (registered bindings whole).fields.map some = bindings.map (registeredField? whole) := by
  apply map_some_filterMap
  intro binding hbinding hnone
  have hfield := Option.map_eq_none_iff.mp hnone
  exact Record.field?_eq_none_iff.mp hfield (h binding hbinding)

theorem registered_columns (h : ∀ binding ∈ bindings, binding.field.word ∈ whole.columns) :
    (registered bindings whole).columns = bindings.map Binding.column := by
  have hsome : (registered bindings whole).columns.map some =
      (bindings.map Binding.column).map some := by
    have hfields := congrArg (List.map (Option.map Rowsmith.Field.column)) (registered_fields h)
    rw [List.map_map, List.map_map] at hfields
    unfold Record.columns
    rw [List.map_map, List.map_map]
    refine hfields.trans (List.map_congr_left fun binding hbinding => ?_)
    cases hfield : whole.field? binding.field.word with
    | none => exact absurd (h binding hbinding) (Record.field?_eq_none_iff.mp hfield)
    | some field =>
        show ((whole.field? binding.field.word).map _).map _ = _
        rw [hfield]
        rfl
  exact List.map_injective_iff.mpr (Option.some_injective _) hsome

theorem registered_fieldValues (h : ∀ binding ∈ bindings, binding.field.word ∈ whole.columns) :
    (registered bindings whole).fieldValues.map some =
      bindings.map fun binding => (whole.field? binding.field.word).map (·.value) := by
  have hfields := congrArg (List.map (Option.map Rowsmith.Field.value)) (registered_fields h)
  rw [List.map_map, List.map_map] at hfields
  unfold Record.fieldValues
  rw [List.map_map]
  refine hfields.trans (List.map_congr_left fun binding _ => ?_)
  exact Option.map_map _ _ _

theorem places_eq (h : ∀ binding ∈ bindings, binding.field.word ∈ whole.columns) :
    (places bindings whole).map some =
      bindings.map fun binding => whole.position? binding.field.word := by
  apply map_some_filterMap
  intro binding hbinding hnone
  exact Record.position?_eq_none_iff.mp hnone (h binding hbinding)

theorem filterMap_range_getElem? {α : Type} (members : List α) :
    (List.range members.length).filterMap (members[·]?) = members := by
  have hmap : (List.range members.length).map (members[·]?) = members.map some := by
    apply List.ext_getElem
    · simp
    · intro i hi _
      rw [List.length_map, List.length_range] at hi
      simp [hi]
  have hall := congrArg (List.filterMap id) hmap
  rwa [List.filterMap_map, List.filterMap_map, Function.id_comp, Function.id_comp,
    List.filterMap_some] at hall

theorem pointersOf_of_targets {columns : List String}
    (h : ∀ binding ∈ bindings, binding.field.word ∈ whole.columns)
    (htargets : (registered bindings whole).targets columns =
      .ok (List.range (registered bindings whole).fields.length)) :
    pointersOf bindings whole columns = .ok (places bindings whole) := by
  have hfields := congrArg List.length (registered_columns h)
  have hplaces := congrArg List.length (places_eq h)
  unfold Record.columns at hfields
  simp only [List.length_map] at hfields hplaces
  unfold pointersOf
  rw [htargets, hfields, ← hplaces]
  exact congrArg Except.ok (filterMap_range_getElem? _)

theorem mem_places_of_pointersOf {columns : List String} {positions : List Nat} {position : Nat}
    (h : pointersOf bindings whole columns = .ok positions) (hmem : position ∈ positions) :
    position ∈ places bindings whole := by
  unfold pointersOf at h
  cases htargets : (registered bindings whole).targets columns with
  | error failure =>
      rw [htargets] at h
      cases h
  | ok targets =>
      rw [htargets] at h
      cases h
      rcases List.mem_filterMap.mp hmem with ⟨target, _, hplace⟩
      exact List.mem_of_getElem? hplace

theorem registered_setValue {position : Nat} (h : position ∉ places bindings whole) (v : Value) :
    registered bindings (whole.setValue position v) = registered bindings whole := by
  have hfield : ∀ binding ∈ bindings,
      (whole.setValue position v).field? binding.field.word = whole.field? binding.field.word := by
    intro binding hbinding
    rw [Record.field?_eq_position?, Record.field?_eq_position?,
      Record.position?_congr (Record.columns_setValue whole position v)]
    cases hplace : whole.position? binding.field.word with
    | none => rfl
    | some place =>
        apply Record.fields_setValue_of_ne
        intro hsame
        subst hsame
        exact h (List.mem_filterMap.mpr ⟨binding, hbinding, hplace⟩)
  unfold registered
  rw [List.filterMap_congr]
  intro binding hbinding
  unfold registeredField?
  rw [hfield binding hbinding]

end Functions

/-!
# Fields that are bound and fields that are not
-/

section Fields

variable {fields : List Field} {settings : List (List Setting)} {whole : Record}

theorem exists_field_of_mem_boundFields {binding : Binding}
    (h : binding ∈ boundFields fields settings) :
    ∃ (position : Nat) (field : Field) (said : List Setting), fields[position]? = some field ∧
      settings[position]? = some said ∧ field.binding? said = some binding := by
  rcases List.mem_filterMap.mp h with ⟨⟨field, said⟩, hmem, hbinding⟩
  rcases List.mem_iff_getElem?.mp hmem with ⟨position, hposition⟩
  rcases List.getElem?_zip_eq_some.mp hposition with ⟨hfield, hsaid⟩
  exact ⟨position, field, said, hfield, hsaid, hbinding⟩

theorem Field.binding?_eq_some_iff {field : Field} {said : List Setting} {binding : Binding} :
    field.binding? said = some binding ↔
      .skip ∉ said ∧ binding.field = field.name ∧
        binding.column = (said.filterMap Setting.column?).getLast?.getD field.name.word := by
  rcases binding with ⟨column, name⟩
  unfold Field.binding? Field.columnOf?
  by_cases hskip : .skip ∈ said
  · simp [hskip]
  · simp [hskip, and_comm, eq_comm]

theorem HoldsStruct.word_at (h : HoldsStruct whole fields) {position : Nat} {field : Field}
    (hfield : fields[position]? = some field) :
    whole.columns[position]? = some field.name.word := by
  rw [h.words, List.getElem?_map, hfield]
  rfl

theorem HoldsStruct.bound_word_mem (h : HoldsStruct whole fields) :
    ∀ binding ∈ boundFields fields settings, binding.field.word ∈ whole.columns := by
  intro binding hbinding
  rcases exists_field_of_mem_boundFields hbinding with ⟨position, field, said, hfield, _, hbound⟩
  rw [(Field.binding?_eq_some_iff.mp hbound).right.left]
  exact List.mem_of_getElem? (h.word_at hfield)

theorem HoldsStruct.skipped_not_mem_places (h : HoldsStruct whole fields)
    {position : Nat} {said : List Setting} (hsaid : settings[position]? = some said)
    (hskip : .skip ∈ said) : position ∉ places (boundFields fields settings) whole := by
  intro hmem
  rcases List.mem_filterMap.mp hmem with ⟨binding, hbinding, hplace⟩
  rcases exists_field_of_mem_boundFields hbinding with
    ⟨other, field, others, hfield, hothers, hbound⟩
  rcases Field.binding?_eq_some_iff.mp hbound with ⟨hbound, hname, _⟩
  have hother := Record.position?_getElem? h.distinct (h.word_at hfield)
  rw [hname, hother] at hplace
  cases hplace
  rw [hsaid] at hothers
  cases hothers
  exact hbound hskip

theorem Field.Declares.unique {field : Field} {said other : List Setting}
    (h : field.Declares said) (hother : field.Declares other) : said = other := by
  rw [← Field.settings_eq_ok_iff] at h hother
  rw [h] at hother
  exact Except.ok.inj hother

end Fields

/-!
# One list in three places
-/

/-- A request for the bound columns, which always succeeds, is answered like one for everything: by
the values and the places of the bound fields, in their order. -/
structure AnswersAlike (bindings : List Binding) (whole : Record) : Prop where
  values : ∃ vs, valuesOf bindings whole (bindings.map Binding.column) = .ok vs ∧
    valuesOf bindings whole [] = .ok vs ∧
    vs.map some = bindings.map fun binding => (whole.field? binding.field.word).map (·.value)
  targets : ∃ positions, pointersOf bindings whole (bindings.map Binding.column) = .ok positions ∧
    pointersOf bindings whole [] = .ok positions ∧
    positions.map some = bindings.map fun binding => whole.position? binding.field.word

/-- The field at the position is as before when a row has been scanned into the value, even if this
has failed halfway, and makes no difference to any insert of the value. -/
structure LeavesAlone (bindings : List Binding) (whole : Record) (position : Nat) : Prop where
  scanned : ∀ row columns,
    (stateAfter ((Scanning.scanRowWith (pointersOf bindings) row columns).run whole)).fields[
      position]? = whole.fields[position]?
  inserted : ∀ (insert : Insert) (before after : List ValueSource) (v : Value),
    (insert.addSources
        (before ++ valuesOf bindings (whole.setValue position v) :: after)).compile =
      (insert.addSources (before ++ valuesOf bindings whole :: after)).compile

theorem answersAlike_of_nodup {bindings : List Binding} {whole : Record}
    (hdistinct : (bindings.map Binding.column).Nodup)
    (h : ∀ binding ∈ bindings, binding.field.word ∈ whole.columns) :
    AnswersAlike bindings whole := by
  have hcolumns := registered_columns h
  rw [← hcolumns] at hdistinct
  refine ⟨⟨(registered bindings whole).fieldValues, ?_, rfl, registered_fieldValues h⟩,
    ⟨places bindings whole, ?_, ?_, places_eq h⟩⟩
  · rw [← hcolumns]
    exact Record.values_columns hdistinct
  · rw [← hcolumns]
    exact pointersOf_of_targets h (Record.targets_columns hdistinct rfl)
  · apply pointersOf_of_targets h
    have hall : ((registered bindings whole).targets []) =
        .ok ((List.range _).take ((List.range _).length - 0)) := rfl
    rw [hall, Nat.sub_zero, List.take_length]

theorem leavesAlone_of_not_mem {bindings : List Binding} {whole : Record} {position : Nat}
    (h : position ∉ places bindings whole) : LeavesAlone bindings whole position where
  scanned row columns := by
    apply Scanning.fields_scanRowWith_of_not_mem
    intro positions hpositions hmem
    exact h (mem_places_of_pointersOf hpositions hmem)
  inserted insert before after v := by
    unfold valuesOf
    rw [registered_setValue h]

/-- Code is generated exactly if the settings are well formed and the columns of the fields that are
not skipped are distinct. The constant, the targets and the values in it are one list, which is that
of these fields; and the functions behave accordingly for every value of the struct. -/
theorem derived_code_binds_one_list {item : Item} {entries : List (Entry Field)}
    (hbody : item.body = .named entries) :
    ((∃ expansion, item.expand = .ok expansion) ↔
      ∃ settings, List.Forall₂ Field.Declares (entries.map Entry.value) settings ∧
        ((boundFields (entries.map Entry.value) settings).map Binding.column).Nodup) ∧
    ∀ expansion, item.expand = .ok expansion →
      (∃ settings, List.Forall₂ Field.Declares (entries.map Entry.value) settings ∧
        expansion = ⟨item, boundFields (entries.map Entry.value) settings⟩) ∧
      ((∀ entry ∈ entries, Writable entry.value.name) →
        ∃ constants functions, expansion.Registers constants functions) ∧
      ∀ whole, HoldsStruct whole (entries.map Entry.value) →
        AnswersAlike expansion.bindings whole ∧
        ∀ position field said, (entries.map Entry.value)[position]? = some field →
          field.Declares said → .skip ∈ said →
          LeavesAlone expansion.bindings whole position := by
  refine ⟨?_, ?_⟩
  · simp only [expand_eq_ok_iff hbody]
    constructor
    · intro hexists
      rcases hexists with ⟨_, settings, hdeclares, hdistinct, _⟩
      exact ⟨settings, hdeclares, hdistinct⟩
    · intro hexists
      rcases hexists with ⟨settings, hdeclares, hdistinct⟩
      exact ⟨_, settings, hdeclares, hdistinct, rfl⟩
  · intro expansion hexpand
    rcases (expand_eq_ok_iff hbody).mp hexpand with ⟨settings, hdeclares, hdistinct, rfl⟩
    refine ⟨⟨settings, hdeclares, rfl⟩, ?_, ?_⟩
    · intro hwritable
      refine ⟨_, _, registers_of_writable ?_⟩
      intro binding hbinding
      rcases exists_field_of_mem_boundFields hbinding with ⟨_, field, _, hfield, _, hbound⟩
      rcases List.mem_map.mp (List.mem_of_getElem? hfield) with ⟨entry, hentry, rfl⟩
      rw [(Field.binding?_eq_some_iff.mp hbound).right.left]
      exact hwritable entry hentry
    · intro whole hwhole
      refine ⟨answersAlike_of_nodup hdistinct hwhole.bound_word_mem, ?_⟩
      intro position field said hfield hsaid hskip
      apply leavesAlone_of_not_mem
      rcases List.getElem?_eq_some_iff.mp hfield with ⟨hlt, rfl⟩
      have hlt' : position < settings.length := hdeclares.length_eq ▸ hlt
      have hsame := (hdeclares.get hlt hlt').unique hsaid
      apply hwhole.skipped_not_mem_places (List.getElem?_eq_getElem hlt')
      rwa [← hsame] at hskip

def accountFields : List (Entry Field) :=
  let equals : Token := .punctuation '=' false
  let text (value : String) : Token := .literal (quote value) (.text value)
  let settings (tokens : Tokens) : Attribute :=
    ⟨⟨false, [⟨"pggo", false⟩]⟩, .list .parenthesis tokens⟩
  [⟨⟨[settings
          ([wordToken "column", equals, text "kind"] ++ comma ++
            [wordToken "column", equals, text "note"])],
        [], ⟨"type", true⟩, [wordToken "T"]⟩, true⟩,
    ⟨⟨[⟨⟨false, [⟨"serde", false⟩]⟩, .value [text "default"]⟩,
          settings
            ([wordToken "skip"] ++ comma ++ [wordToken "column", equals, text "id"] ++ comma)],
        [], ⟨"note", false⟩, [wordToken "String"]⟩, true⟩,
    ⟨⟨[], [wordToken "pub"], ⟨"id", false⟩, [wordToken "i64"]⟩, false⟩]

def account : Item where
  name := ⟨"Account", false⟩
  parameters := [⟨⟨false, [], [wordToken "T"], [], [wordToken "T"]⟩, false⟩]
  constraints := []
  body := .named accountFields

def accountBindings : List Binding :=
  [⟨"note", ⟨"type", true⟩⟩, ⟨"id", ⟨"id", false⟩⟩]

def accountValue : Record where
  fields :=
    [⟨"type", .required (.text "basic")⟩, ⟨"note", .required (.text "old")⟩,
      ⟨"id", .required (.int64 7)⟩]

/-- A struct with a parameter, where the last column of one field is the name of a skipped field,
which in turn has the name of another field for its column. -/
theorem account_binds_one_list :
    ∃ expansion, account.expand = .ok expansion ∧ expansion.bindings = accountBindings ∧
      (∃ constants functions, expansion.Registers constants functions) ∧
      AnswersAlike accountBindings accountValue ∧ LeavesAlone accountBindings accountValue 1 := by
  have hexpand : account.expand = .ok ⟨account, accountBindings⟩ := rfl
  have hvalue : HoldsStruct accountValue (accountFields.map Entry.value) :=
    ⟨rfl, by decide⟩
  have hbody : account.body = .named accountFields := rfl
  rcases (derived_code_binds_one_list hbody).right _ hexpand with
    ⟨_, hregisters, hanswers⟩
  rcases hanswers accountValue hvalue with ⟨hlists, hskipped⟩
  refine ⟨_, hexpand, rfl, hregisters (by decide), hlists, ?_⟩
  have hsaid : ((accountFields.map Entry.value)[1]).Declares [.skip, .column "id"] :=
    Field.settings_eq_ok_iff.mp rfl
  exact hskipped 1 _ _ rfl hsaid (by decide)

end Derive
end Rowsmith
