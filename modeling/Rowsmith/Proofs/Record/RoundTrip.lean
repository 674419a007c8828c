import Mathlib.Data.List.Perm.Basic
import Rowsmith.Proofs.Record.Binding

/-!
# Values and targets of one record

The values that a record gives for some columns, sent as a row and bound by the names of its
columns, come back into the fields they were taken from, in whatever order the row has its cells.
-/

namespace Rowsmith

/-!
# Records of one kind
-/

/-- What all records of one kind share: the columns and the types under them. -/
def Field.shape (field : Field) : String × ValueType :=
  (field.column, field.value.type)

/-- The same columns with the same types, registered in any order. -/
def Record.SameKind (a b : Record) : Prop :=
  (a.fields.map Field.shape).Perm (b.fields.map Field.shape)

/-- Scanning the octets of the value under the type gives the value back. -/
def Value.SurvivesWire (v : Value) (type : PgType) : Prop :=
  v.scan type v.octets? = .ok v

def sentRow (types : String → PgType) (columns : List String) (vs : List Value) : Row :=
  List.zipWith (fun column v => ⟨column, types column, v.octets?⟩) columns vs

def Field.cell (types : String → PgType) (field : Field) : Cell :=
  ⟨field.column, types field.column, field.value.octets?⟩

theorem sentRow_fields (types : String → PgType) (fields : List Field) :
    sentRow types (fields.map (·.column)) (fields.map (·.value)) =
      fields.map (Field.cell types) := by
  unfold sentRow
  rw [List.zipWith_map, List.zipWith_self]
  rfl

namespace Record

theorem SameKind.columns_perm {a b : Record} (h : a.SameKind b) :
    a.columns.Perm b.columns := by
  have hcolumns := List.Perm.map Prod.fst h
  rw [List.map_map, List.map_map] at hcolumns
  exact hcolumns

theorem SameKind.type_eq {a b : Record} {field other : Field} (h : a.SameKind b)
    (hdistinct : b.columns.Nodup) (hfield : field ∈ a.fields) (hother : other ∈ b.fields)
    (hcolumn : field.column = other.column) : field.value.type = other.value.type := by
  have hshape : field.shape ∈ b.fields.map Field.shape :=
    h.mem_iff.mp (List.mem_map_of_mem hfield)
  rcases List.mem_map.mp hshape with ⟨twin, htwin, heq⟩
  have hcolumns : twin.column = other.column := by
    rw [← hcolumn]
    exact congrArg Prod.fst heq
  have hsame : twin = other := by
    have hfound := field?_of_mem hdistinct htwin
    rw [hcolumns, field?_of_mem hdistinct hother] at hfound
    exact (Option.some.inj hfound).symm
  rw [← hsame]
  exact (congrArg Prod.snd heq).symm

theorem registered_of_sameKind {source target : Record} {fields : List Field}
    (hkind : target.SameKind source) (hfields : ∀ field ∈ fields, field ∈ source.fields) :
    ∀ column ∈ fields.map (·.column), column ∈ target.columns := by
  intro column hcolumn
  rcases List.mem_map.mp hcolumn with ⟨field, hfield, rfl⟩
  exact hkind.columns_perm.mem_iff.mpr (List.mem_map_of_mem (hfields field hfield))

/-!
# The row
-/

/-- Fields of a record decode, from the cells they are sent as, to their own values in the fields
that another record of the same kind has at their columns. -/
theorem decodes_sent {source target : Record} {types : String → PgType} {fields : List Field}
    (hkind : target.SameKind source) (hdistinct : source.columns.Nodup)
    (hfields : ∀ field ∈ fields, field ∈ source.fields)
    (hwire : ∀ field ∈ fields, field.value.SurvivesWire (types field.column)) :
    target.Decodes ((fields.map (·.column)).map target.positionOf)
      (fields.map (Field.cell types)) (fields.map (·.value)) := by
  induction fields with
  | nil => exact Decodes.nil
  | cons field rest ih =>
      have hrest := ih (fun f hf => hfields f (by simp [hf])) fun f hf => hwire f (by simp [hf])
      have hmem := hfields field (by simp)
      have hregistered : field.column ∈ target.columns :=
        hkind.columns_perm.mem_iff.mpr (List.mem_map_of_mem hmem)
      rcases field_at_position (position?_eq_some_positionOf hregistered) with
        ⟨other, hother, hcolumn⟩
      have htype : other.value.type = field.value.type :=
        hkind.type_eq hdistinct (List.mem_of_getElem? hother) hmem hcolumn
      have hscan : other.value.scan (types field.column) field.value.octets? =
          .ok field.value := by
        unfold Value.scan
        rw [htype]
        exact hwire field (by simp)
      exact Decodes.cons hother hscan hrest

/-!
# The record after
-/

def assignFields (target : Record) (fields : List Field) : Record :=
  target.assign (fields.map fun field => (target.positionOf field.column, field.value))

theorem zip_positions (target : Record) (fields : List Field) :
    ((fields.map (·.column)).map target.positionOf).zip (fields.map (·.value)) =
      fields.map fun field => (target.positionOf field.column, field.value) := by
  rw [List.map_map, List.zip_map']
  rfl

theorem field?_assign_of_mem {target : Record} {fields : List Field} {field : Field}
    (hnodup : (fields.map (·.column)).Nodup)
    (hregistered : ∀ column ∈ fields.map (·.column), column ∈ target.columns)
    (h : field ∈ fields) :
    (target.assignFields fields).field? field.column = some field := by
  have hcolumn : field.column ∈ fields.map (·.column) := List.mem_map_of_mem h
  have hposition := position?_eq_some_positionOf (hregistered field.column hcolumn)
  rcases field_at_position hposition with ⟨other, hother, hsame⟩
  have hpositions := nodup_positions hnodup hregistered
  rw [List.map_map] at hpositions
  unfold assignFields
  rw [field?_eq_position?, position?_congr (columns_assign _ _), hposition, Option.bind_some,
    fields_assign_of_mem (v := field.value) _ _ hother, hsame]
  · rw [List.map_map]
    exact hpositions
  · exact List.mem_map.mpr ⟨field, h, rfl⟩

theorem field?_assign_of_not_mem {target : Record} {fields : List Field} {column : String}
    (hregistered : ∀ column ∈ fields.map (·.column), column ∈ target.columns)
    (h : column ∉ fields.map (·.column)) :
    (target.assignFields fields).field? column = target.field? column := by
  unfold assignFields
  rw [field?_eq_position?, field?_eq_position?, position?_congr (columns_assign _ _)]
  cases hposition : target.position? column with
  | none => rfl
  | some position =>
      rw [Option.bind_some, Option.bind_some]
      apply fields_assign_of_not_mem
      rw [List.map_map]
      intro hmem
      rcases List.mem_map.mp hmem with ⟨field, hfield, hsame⟩
      have hcolumn : field.column ∈ fields.map (·.column) := List.mem_map_of_mem hfield
      have hposition' := position?_eq_some_positionOf (hregistered field.column hcolumn)
      have heq : target.positionOf field.column = position := hsame
      rw [heq] at hposition'
      rw [column_eq_of_position hposition hposition'] at h
      exact h hcolumn

theorem run_scanRow_sent {source target : Record} {types : String → PgType} {fields : List Field}
    (hkind : target.SameKind source) (hdistinct : source.columns.Nodup)
    (hwithheld : target.withheld = 0) (hne : fields ≠ [])
    (hnodup : (fields.map (·.column)).Nodup)
    (hfields : ∀ field ∈ fields, field ∈ source.fields)
    (hwire : ∀ field ∈ source.fields, field.value.SurvivesWire (types field.column)) :
    (Scanning.scanRow (fields.map (Field.cell types)) (fields.map (·.column))).run target =
      .ok () (target.assignFields fields) := by
  have hdecodes := decodes_sent hkind hdistinct hfields fun f hf => hwire f (hfields f hf)
  rw [Scanning.run_scanRow (by simpa using hne) hwithheld hnodup
    (registered_of_sameKind hkind hfields) hdecodes, zip_positions]
  rfl

end Record

/-- The values of the requested columns, sent under them and bound by name to a record of the same
kind, give their fields the values of the record they came from and leave all other fields alone. -/
theorem sent_values_scan_back {source target : Record} {requested : List String}
    {types : String → PgType}
    (hkind : target.SameKind source)
    (hdistinct : source.columns.Nodup)
    (hwithheld : target.withheld = 0)
    (hne : requested ≠ [])
    (hnodup : requested.Nodup)
    (hregistered : ∀ column ∈ requested, column ∈ source.columns)
    (hwire : ∀ field ∈ source.fields, field.value.SurvivesWire (types field.column)) :
    ∃ vs, source.values requested = .ok vs ∧
      ∀ row : Row, row.Perm (sentRow types requested vs) →
        ∃ after, (Scanning.scanRow row row.columns).run target = .ok () after ∧
          after.columns = target.columns ∧
          (∀ column ∈ requested, after.field? column = source.field? column) ∧
          ∀ column, column ∉ requested → after.field? column = target.field? column := by
  rcases Record.exists_requested_fields hregistered with ⟨fields, rfl, hfields, hpick⟩
  refine ⟨fields.map (·.value), ?_, ?_⟩
  · unfold Record.values
    rw [if_neg (by simpa using hne), hpick]
  intro row hperm
  rw [sentRow_fields] at hperm
  -- The cells of the row are those of the same fields in another order.
  have hcells : ∃ sent : List Field, row = sent.map (Field.cell types) ∧ sent.Perm fields :=
    (congrFun₂ (List.eq_map_comp_perm (Field.cell types)) row fields).mpr hperm
  rcases hcells with ⟨sent, rfl, hsent⟩
  have hcolumns : Row.columns (sent.map (Field.cell types)) = sent.map (·.column) := by
    unfold Row.columns
    rw [List.map_map]
    rfl
  have hsame : ∀ column, column ∈ sent.map (·.column) ↔ column ∈ fields.map (·.column) :=
    fun column => (hsent.map _).mem_iff
  have hsentFields : ∀ field ∈ sent, field ∈ source.fields :=
    fun field hfield => hfields field (hsent.mem_iff.mp hfield)
  have hsentNodup : (sent.map (·.column)).Nodup := ((hsent.map _).nodup_iff).mpr hnodup
  have hsentRegistered := Record.registered_of_sameKind hkind hsentFields
  refine ⟨target.assignFields sent, ?_, Record.columns_assign _ _, ?_, ?_⟩
  · rw [hcolumns]
    refine Record.run_scanRow_sent hkind hdistinct hwithheld ?_ hsentNodup hsentFields hwire
    intro hequal
    subst hequal
    apply hne
    rw [List.nil_perm.mp hsent]
    rfl
  · intro column hcolumn
    rcases List.mem_map.mp ((hsame column).mpr hcolumn) with ⟨field, hfield, rfl⟩
    rw [Record.field?_assign_of_mem hsentNodup hsentRegistered hfield,
      Record.field?_of_mem hdistinct (hsentFields field hfield)]
  · intro column hcolumn
    exact Record.field?_assign_of_not_mem hsentRegistered fun h => hcolumn ((hsame column).mp h)

/-- The row holds the cells of the request the other way round, one of them NULL. -/
theorem reversed_row_scans_back :
    let types (column : String) : PgType :=
      if column = "name" then .text else if column = "age" then .int2 else .int4
    let source : Record := ⟨[⟨"id", .required (.int32 7)⟩, ⟨"name", .required (.text "ann")⟩,
      ⟨"age", .absent .int16⟩], 0⟩
    let target : Record := ⟨[⟨"id", .required (.int32 1)⟩, ⟨"name", .required (.text "bob")⟩,
      ⟨"age", .present (.int16 30)⟩], 0⟩
    let row : Row := [⟨"age", .int2, none⟩, ⟨"name", .text, some [97, 110, 110]⟩]
    ∃ vs, source.values ["name", "age"] = .ok vs ∧ row.Perm (sentRow types ["name", "age"] vs) ∧
      ∃ after, (Scanning.scanRow row row.columns).run target = .ok () after ∧
        after.field? "name" = some ⟨"name", .required (.text "ann")⟩ ∧
        after.field? "age" = some ⟨"age", .absent .int16⟩ ∧
        after.field? "id" = some ⟨"id", .required (.int32 1)⟩ := by
  intro types source target row
  have hwire : ∀ field ∈ source.fields, field.value.SurvivesWire (types field.column) := by
    intro field hfield
    simp only [source, List.mem_cons, List.not_mem_nil, or_false] at hfield
    rcases hfield with rfl | rfl | rfl <;> rfl
  have hkind : target.SameKind source := List.Perm.refl _
  have hregistered : ∀ column ∈ ["name", "age"], column ∈ source.columns := by decide
  rcases sent_values_scan_back hkind (by decide) rfl (List.cons_ne_nil _ _) (by decide)
    hregistered hwire with ⟨vs, hvs, hscan⟩
  have hpicked : vs = [.required (.text "ann"), .absent .int16] := by
    cases hvs
    rfl
  have hperm : row.Perm (sentRow types ["name", "age"] vs) := by
    rw [hpicked]
    have hsent : sentRow types ["name", "age"] [.required (.text "ann"), .absent .int16] =
        [⟨"name", .text, some [97, 110, 110]⟩, ⟨"age", .int2, none⟩] := rfl
    rw [hsent]
    exact List.Perm.swap _ _ _
  rcases hscan row hperm with ⟨after, hrun, _, hrequested, hothers⟩
  exact ⟨vs, hvs, hperm, after, hrun, hrequested "name" (by decide), hrequested "age" (by decide),
    hothers "id" (by decide)⟩

end Rowsmith
