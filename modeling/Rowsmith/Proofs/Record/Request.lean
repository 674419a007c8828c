import Mathlib.Data.List.Induction
import Mathlib.Data.List.Nodup
import Rowsmith.Proofs.Basic
import Rowsmith.Record.Scan

/-!
# What a request finds

Targets and values are looked up in different ways. Both find, for each column of a request, the
first field registered under it.
-/

namespace Rowsmith

namespace Record

def columns (record : Record) : List String :=
  record.fields.map (·.column)

def positionOf (record : Record) (column : String) : Nat :=
  (record.position? column).getD 0

variable {record : Record} {column : String} {requested : List String}

/-!
# One column
-/

theorem field?_eq_position? (record : Record) (column : String) :
    record.field? column = (record.position? column).bind (record.fields[·]?) :=
  List.find?_eq_bind_findIdx?_getElem?

theorem position?_eq_none_iff :
    record.position? column = none ↔ column ∉ record.columns := by
  unfold position? columns
  rw [List.findIdx?_eq_none_iff, List.mem_map]
  constructor
  · intro h hexists
    rcases hexists with ⟨field, hfield, rfl⟩
    simpa using h field hfield
  · intro h field hfield
    rw [beq_eq_false_iff_ne]
    intro hsame
    subst hsame
    exact h ⟨field, hfield, rfl⟩

theorem position?_eq_some_positionOf (h : column ∈ record.columns) :
    record.position? column = some (record.positionOf column) := by
  cases hposition : record.position? column with
  | none => exact absurd h (position?_eq_none_iff.mp hposition)
  | some position =>
      unfold positionOf
      rw [hposition]
      rfl

theorem position?_congr {other : Record} (h : record.columns = other.columns) :
    record.position? column = other.position? column := by
  have hcolumns (record : Record) :
      record.position? column = record.columns.findIdx? (· == column) := by
    unfold columns
    rw [List.findIdx?_map]
    rfl
  rw [hcolumns, hcolumns, h]

theorem field_at_position {position : Nat} (h : record.position? column = some position) :
    ∃ field, record.fields[position]? = some field ∧ field.column = column := by
  rcases List.findIdx?_eq_some_iff_getElem.mp h with ⟨hlt, hcolumn, _⟩
  exact ⟨record.fields[position], List.getElem?_eq_getElem hlt, by simpa using hcolumn⟩

theorem column_eq_of_position {other : String} {position : Nat}
    (h : record.position? column = some position)
    (hother : record.position? other = some position) : column = other := by
  rcases field_at_position h with ⟨field, hfield, rfl⟩
  rcases field_at_position hother with ⟨field', hfield', rfl⟩
  rw [hfield] at hfield'
  rw [Option.some.inj hfield']

theorem field?_eq_none_iff : record.field? column = none ↔ column ∉ record.columns := by
  rw [← position?_eq_none_iff, field?, position?, List.find?_eq_none, List.findIdx?_eq_none_iff]
  simp

theorem mem_of_field? {field : Field} (h : record.field? column = some field) :
    field ∈ record.fields ∧ field.column = column := by
  refine ⟨List.mem_of_find?_eq_some h, ?_⟩
  have hcolumn := List.find?_some h
  simpa using hcolumn

theorem field?_of_mem {field : Field} (hdistinct : record.columns.Nodup)
    (h : field ∈ record.fields) : record.field? field.column = some field := by
  unfold columns at hdistinct
  unfold field?
  generalize record.fields = fields at hdistinct h
  induction fields with
  | nil => cases h
  | cons first rest ih =>
      rw [List.map_cons, List.nodup_cons] at hdistinct
      rcases List.mem_cons.mp h with rfl | hmem
      · rw [List.find?_cons_of_pos]
        exact beq_self_eq_true _
      · rw [List.find?_cons_of_neg]
        · exact ih hdistinct.right hmem
        · intro hsame
          apply hdistinct.left
          rw [eq_of_beq hsame]
          exact List.mem_map_of_mem hmem

/-!
# Several columns
-/

theorem pickValues_cons_eq_ok_iff {vs : List Value} {rest : List String} :
    record.pickValues (column :: rest) = .ok vs ↔
      ∃ field others, record.field? column = some field ∧ record.pickValues rest = .ok others ∧
        vs = field.value :: others := by
  rw [pickValues]
  cases hfield : record.field? column with
  | none => exact ⟨fun h => (nomatch h), fun ⟨_, _, h, _⟩ => (nomatch h)⟩
  | some field =>
      dsimp only
      rw [map_eq_ok_iff]
      constructor
      · intro hexists
        rcases hexists with ⟨others, hothers, rfl⟩
        exact ⟨field, others, rfl, hothers, rfl⟩
      · intro hexists
        rcases hexists with ⟨_, others, hsome, hothers, rfl⟩
        cases hsome
        exact ⟨others, hothers, rfl⟩

theorem pickValues_eq_ok_iff {vs : List Value} :
    record.pickValues requested = .ok vs ↔
      requested.map (fun column => (record.field? column).map (·.value)) = vs.map some := by
  induction requested generalizing vs with
  | nil => cases vs <;> simp [pickValues]
  | cons column rest ih =>
      rw [pickValues_cons_eq_ok_iff]
      constructor
      · intro hexists
        rcases hexists with ⟨field, others, hfield, hothers, rfl⟩
        rw [List.map_cons, List.map_cons, ih.mp hothers, hfield]
        rfl
      · intro hmap
        cases vs with
        | nil => cases hmap
        | cons v others =>
            rw [List.map_cons, List.map_cons, List.cons.injEq, Option.map_eq_some_iff] at hmap
            rcases hmap with ⟨⟨field, hfield, rfl⟩, hothers⟩
            exact ⟨field, others, hfield, ih.mpr hothers, rfl⟩

theorem claimTargets_cons_eq_ok_iff {claimed positions : List Nat} {column : String}
    {rest : List String} :
    record.claimTargets claimed (column :: rest) = .ok positions ↔
      ∃ position others, record.position? column = some position ∧ position ∉ claimed ∧
        record.claimTargets (position :: claimed) rest = .ok others ∧
        positions = position :: others := by
  rw [claimTargets]
  cases hposition : record.position? column with
  | none => exact ⟨fun h => (nomatch h), fun ⟨_, _, h, _⟩ => (nomatch h)⟩
  | some position =>
      dsimp only
      split
      · next htaken =>
          constructor
          · intro h
            cases h
          · intro hexists
            rcases hexists with ⟨_, _, hsome, hfree, _⟩
            cases hsome
            exact absurd htaken hfree
      · next hfree =>
          rw [map_eq_ok_iff]
          constructor
          · intro hexists
            rcases hexists with ⟨others, hothers, rfl⟩
            exact ⟨position, others, rfl, hfree, hothers, rfl⟩
          · intro hexists
            rcases hexists with ⟨_, others, hsome, _, hothers, rfl⟩
            cases hsome
            exact ⟨others, hothers, rfl⟩

theorem claimTargets_eq_ok_iff {claimed positions : List Nat} :
    record.claimTargets claimed requested = .ok positions ↔
      requested.map record.position? = positions.map some ∧ positions.Nodup ∧
        ∀ position ∈ positions, position ∉ claimed := by
  induction requested generalizing claimed positions with
  | nil =>
      cases positions <;> simp [claimTargets]
  | cons column rest ih =>
      rw [claimTargets_cons_eq_ok_iff]
      constructor
      · intro hexists
        rcases hexists with ⟨position, others, hposition, hfree, hothers, rfl⟩
        rcases ih.mp hothers with ⟨hmap, hnodup, hunclaimed⟩
        refine ⟨by simp [hposition, hmap], ?_, ?_⟩
        · rw [List.nodup_cons]
          exact ⟨fun hmem => hunclaimed position hmem (by simp), hnodup⟩
        · rw [List.forall_mem_cons]
          exact ⟨hfree, fun p hp hmem => hunclaimed p hp (by simp [hmem])⟩
      · intro hboth
        rcases hboth with ⟨hmap, hnodup, hunclaimed⟩
        cases positions with
        | nil => simp at hmap
        | cons position others =>
            rw [List.map_cons, List.map_cons, List.cons.injEq] at hmap
            rw [List.nodup_cons] at hnodup
            rw [List.forall_mem_cons] at hunclaimed
            have hothers : ∀ p ∈ others, p ∉ position :: claimed := by
              intro p hp hmem
              rcases List.mem_cons.mp hmem with rfl | hclaimed
              · exact hnodup.left hp
              · exact hunclaimed.right p hp hclaimed
            exact ⟨position, others, hmap.left, hunclaimed.left,
              ih.mpr ⟨hmap.right, hnodup.right, hothers⟩, rfl⟩

theorem nodup_positions (hnodup : requested.Nodup)
    (h : ∀ column ∈ requested, column ∈ record.columns) :
    (requested.map record.positionOf).Nodup := by
  apply List.Nodup.map_on _ hnodup
  intro a ha b hb hsame
  have hposition := position?_eq_some_positionOf (h b hb)
  rw [← hsame] at hposition
  exact column_eq_of_position (position?_eq_some_positionOf (h a ha)) hposition

theorem claimTargets_of_registered (hnodup : requested.Nodup)
    (h : ∀ column ∈ requested, column ∈ record.columns) :
    record.claimTargets [] requested = .ok (requested.map record.positionOf) := by
  rw [claimTargets_eq_ok_iff]
  have hmap : requested.map record.position? =
      (requested.map record.positionOf).map some := by
    rw [List.map_map]
    exact List.map_congr_left fun column hcolumn => position?_eq_some_positionOf (h column hcolumn)
  refine ⟨hmap, nodup_positions hnodup h, ?_⟩
  intro position _ hclaimed
  cases hclaimed

/-- Targets are handed out for distinct registered columns and for nothing else. -/
theorem claimTargets_eq_ok_iff_registered {positions : List Nat} :
    record.claimTargets [] requested = .ok positions ↔
      requested.Nodup ∧ (∀ column ∈ requested, column ∈ record.columns) ∧
        positions = requested.map record.positionOf := by
  constructor
  · intro h
    rcases claimTargets_eq_ok_iff.mp h with ⟨hpositions, hnodup, _⟩
    have hregistered : ∀ column ∈ requested, column ∈ record.columns := by
      intro column hcolumn
      have hmem : record.position? column ∈ positions.map some := by
        rw [← hpositions]
        exact List.mem_map_of_mem hcolumn
      by_contra hnone
      rw [position?_eq_none_iff.mpr hnone] at hmem
      simp at hmem
    have hrequested : requested.Nodup := by
      apply List.Nodup.of_map record.position?
      rw [hpositions]
      exact hnodup.map fun _ _ hsame => Option.some.inj hsame
    refine ⟨hrequested, hregistered, ?_⟩
    rw [claimTargets_of_registered hrequested hregistered] at h
    exact (Except.ok.inj h).symm
  · intro h
    rcases h with ⟨hnodup, hregistered, hpositions⟩
    rw [hpositions]
    exact claimTargets_of_registered hnodup hregistered

theorem exists_requested_fields (h : ∀ column ∈ requested, column ∈ record.columns) :
    ∃ fields : List Field, fields.map (·.column) = requested ∧
      (∀ field ∈ fields, field ∈ record.fields) ∧
      record.pickValues requested = .ok (fields.map (·.value)) := by
  induction requested with
  | nil => exact ⟨[], rfl, by simp, rfl⟩
  | cons column rest ih =>
      rcases ih fun c hc => h c (by simp [hc]) with ⟨fields, hcolumns, hmem, hpick⟩
      cases hfield : record.field? column with
      | none => exact absurd (h column (by simp)) (field?_eq_none_iff.mp hfield)
      | some field =>
          rcases mem_of_field? hfield with ⟨hfieldmem, rfl⟩
          refine ⟨field :: fields, by rw [List.map_cons, hcolumns], ?_, ?_⟩
          · exact List.forall_mem_cons.mpr ⟨hfieldmem, hmem⟩
          · rw [pickValues, hfield, hpick]
            rfl

/-!
# All columns
-/

theorem position?_getElem? (hdistinct : record.columns.Nodup) {position : Nat} {column : String}
    (h : record.columns[position]? = some column) : record.position? column = some position := by
  have hmem := List.mem_of_getElem? h
  have hfound := position?_eq_some_positionOf hmem
  rcases field_at_position hfound with ⟨field, hfield, hcolumn⟩
  have hat : record.columns[record.positionOf column]? = some column := by
    unfold columns
    rw [List.getElem?_map, hfield, ← hcolumn]
    rfl
  rcases List.getElem?_eq_some_iff.mp hat with ⟨hlt, hget⟩
  rcases List.getElem?_eq_some_iff.mp h with ⟨hlt', hget'⟩
  have hsame := hdistinct.getElem_inj_iff.mp (hget.trans hget'.symm)
  rw [hfound, hsame]

theorem values_columns (hdistinct : record.columns.Nodup) :
    record.values record.columns = .ok record.fieldValues := by
  unfold values
  split
  · rfl
  · rw [pickValues_eq_ok_iff]
    unfold columns fieldValues
    rw [List.map_map, List.map_map]
    apply List.map_congr_left
    intro field hfield
    show (record.field? field.column).map _ = some field.value
    rw [field?_of_mem hdistinct hfield]
    rfl

theorem targets_columns (hdistinct : record.columns.Nodup) (hwithheld : record.withheld = 0) :
    record.targets record.columns = .ok (List.range record.fields.length) := by
  have hlength : record.columns.length = record.fields.length := List.length_map _
  have hselect : record.selectTargets record.columns =
      .ok (List.range record.fields.length) := by
    unfold selectTargets
    split
    · rfl
    · rw [claimTargets_of_registered hdistinct fun _ hmem => hmem]
      refine congrArg Except.ok (List.ext_getElem? fun position => ?_)
      rw [List.getElem?_map, ← hlength]
      cases hcolumn : record.columns[position]? with
      | none =>
          rw [List.getElem?_eq_none_iff] at hcolumn
          have hpast : (List.range record.columns.length).length ≤ position := by
            rw [List.length_range]
            exact hcolumn
          rw [List.getElem?_eq_none hpast]
          rfl
      | some column =>
          have hlt := (List.getElem?_eq_some_iff.mp hcolumn).choose
          unfold positionOf
          rw [Option.map_some, position?_getElem? hdistinct hcolumn, List.getElem?_range hlt]
          rfl
  unfold targets
  rw [hselect, hwithheld, Except.map, Nat.sub_zero, List.take_length]

/-!
# Requests that are refused
-/

/-- The request is refused at its first column that has no target left, which is registered nowhere
or was requested before. -/
inductive Offends (record : Record) : List String → Failure → Prop where
  | unknown {before rest : List String} {column : String} : before.Nodup →
      (∀ other ∈ before, other ∈ record.columns) → column ∉ record.columns →
      Offends record (before ++ column :: rest) (.unknownColumn column)
  | repeated {before rest : List String} {column : String} : before.Nodup →
      (∀ other ∈ before, other ∈ record.columns) → column ∈ before →
      Offends record (before ++ column :: rest) (.duplicateColumn column)

theorem Offends.append {failure : Failure} (h : record.Offends requested failure)
    (more : List String) : record.Offends (requested ++ more) failure := by
  cases h with
  | unknown hnodup hregistered hcolumn =>
      rw [List.append_assoc, List.cons_append]
      exact Offends.unknown hnodup hregistered hcolumn
  | repeated hnodup hregistered hcolumn =>
      rw [List.append_assoc, List.cons_append]
      exact Offends.repeated hnodup hregistered hcolumn

theorem registered_or_offends (record : Record) (requested : List String) :
    (requested.Nodup ∧ ∀ column ∈ requested, column ∈ record.columns) ∨
      ∃ failure, record.Offends requested failure := by
  induction requested using List.reverseRecOn with
  | nil => exact Or.inl ⟨List.nodup_nil, by simp⟩
  | append_singleton before column ih =>
      rcases ih with ⟨hnodup, hregistered⟩ | ⟨failure, hoffends⟩
      · by_cases hunknown : column ∉ record.columns
        · exact Or.inr ⟨_, Offends.unknown hnodup hregistered hunknown⟩
        · by_cases hrepeated : column ∈ before
          · exact Or.inr ⟨_, Offends.repeated hnodup hregistered hrepeated⟩
          · have hconcat := List.Nodup.concat hrepeated hnodup
            rw [List.concat_eq_append] at hconcat
            refine Or.inl ⟨hconcat, ?_⟩
            intro other hother
            rcases List.mem_append.mp hother with hmem | hmem
            · exact hregistered other hmem
            · rw [List.mem_singleton.mp hmem]
              exact not_not.mp hunknown
      · exact Or.inr ⟨failure, hoffends.append [column]⟩

theorem claimTargets_append {claimed : List Nat} {before rest : List String}
    (hnodup : before.Nodup) (hregistered : ∀ column ∈ before, column ∈ record.columns)
    (hfree : ∀ column ∈ before, record.positionOf column ∉ claimed) :
    record.claimTargets claimed (before ++ rest) =
      (before.map record.positionOf ++ ·) <$>
        record.claimTargets ((before.map record.positionOf).reverse ++ claimed) rest := by
  induction before generalizing claimed with
  | nil => cases h : record.claimTargets claimed rest <;> simp [h, Functor.map, Except.map]
  | cons column before ih =>
      rcases List.nodup_cons.mp hnodup with ⟨hcolumn, hnodup⟩
      rcases List.forall_mem_cons.mp hregistered with ⟨hfirst, hregistered⟩
      rcases List.forall_mem_cons.mp hfree with ⟨hunclaimed, hfree⟩
      have hposition := position?_eq_some_positionOf hfirst
      -- Positions tell columns apart, so the new claim is in no later column's way.
      have hothers : ∀ other ∈ before,
          record.positionOf other ∉ record.positionOf column :: claimed := by
        intro other hother hmem
        rcases List.mem_cons.mp hmem with hsame | hclaimed
        · have hposition' := position?_eq_some_positionOf (hregistered other hother)
          rw [hsame] at hposition'
          rw [column_eq_of_position hposition hposition'] at hcolumn
          exact hcolumn hother
        · exact hfree other hother hclaimed
      rw [List.cons_append, claimTargets, hposition]
      dsimp only
      rw [if_neg hunclaimed, ih hnodup hregistered hothers, List.map_cons, List.reverse_cons,
        List.append_assoc, List.singleton_append]
      cases record.claimTargets _ rest <;> rfl

theorem claimTargets_of_offends {failure : Failure} (h : record.Offends requested failure) :
    record.claimTargets [] requested = .error failure := by
  cases h with
  | @unknown before rest column hnodup hregistered hcolumn =>
      rw [claimTargets_append hnodup hregistered fun _ _ => List.not_mem_nil, claimTargets,
        position?_eq_none_iff.mpr hcolumn]
      rfl
  | @repeated before rest column hnodup hregistered hcolumn =>
      have hclaimed : record.positionOf column ∈ (before.map record.positionOf).reverse ++ [] := by
        rw [List.append_nil, List.mem_reverse]
        exact List.mem_map_of_mem hcolumn
      rw [claimTargets_append hnodup hregistered fun _ _ => List.not_mem_nil, claimTargets,
        position?_eq_some_positionOf (hregistered column hcolumn)]
      dsimp only
      rw [if_pos hclaimed]
      rfl

/-- The failure of a request for targets is that of its first column without one. -/
theorem claimTargets_eq_error_iff {failure : Failure} :
    record.claimTargets [] requested = .error failure ↔ record.Offends requested failure := by
  constructor
  · intro h
    rcases registered_or_offends record requested with ⟨hnodup, hregistered⟩ | ⟨other, hoffends⟩
    · rw [claimTargets_of_registered hnodup hregistered] at h
      cases h
    · rw [claimTargets_of_offends hoffends] at h
      cases h
      exact hoffends
  · exact claimTargets_of_offends

/-!
# Values that are refused
-/

/-- The column is the first one of the request that is registered nowhere. -/
def Lacks (record : Record) (requested : List String) (column : String) : Prop :=
  ∃ before rest, requested = before ++ column :: rest ∧
    (∀ other ∈ before, other ∈ record.columns) ∧ column ∉ record.columns

theorem registered_or_lacks (record : Record) (requested : List String) :
    (∀ column ∈ requested, column ∈ record.columns) ∨ ∃ column, record.Lacks requested column := by
  induction requested with
  | nil => exact Or.inl fun _ hmem => absurd hmem List.not_mem_nil
  | cons first rest ih =>
      by_cases hfirst : first ∈ record.columns
      · rcases ih with hrest | ⟨column, before, others, rfl, hbefore, hcolumn⟩
        · exact Or.inl (List.forall_mem_cons.mpr ⟨hfirst, hrest⟩)
        · exact Or.inr ⟨column, first :: before, others, rfl,
            List.forall_mem_cons.mpr ⟨hfirst, hbefore⟩, hcolumn⟩
      · exact Or.inr ⟨first, [], rest, rfl, fun _ hmem => absurd hmem List.not_mem_nil, hfirst⟩

theorem values_of_registered (h : ∀ column ∈ requested, column ∈ record.columns) :
    ∃ vs, record.values requested = .ok vs := by
  unfold values
  split
  · exact ⟨_, rfl⟩
  · rcases exists_requested_fields h with ⟨fields, _, _, hpick⟩
    exact ⟨_, hpick⟩

theorem values_of_lacks (h : record.Lacks requested column) :
    record.values requested = .error (.unknownColumn column) := by
  rcases h with ⟨before, rest, rfl, hbefore, hcolumn⟩
  unfold values
  rw [if_neg (by simp)]
  induction before with
  | nil =>
      rw [List.nil_append, pickValues, field?_eq_none_iff.mpr hcolumn]
  | cons first before ih =>
      rcases List.forall_mem_cons.mp hbefore with ⟨hfirst, hothers⟩
      rw [List.cons_append, pickValues]
      cases hfield : record.field? first with
      | none => exact absurd hfirst (field?_eq_none_iff.mp hfield)
      | some field =>
          rw [ih hothers]
          rfl

theorem exists_values_iff :
    (∃ vs, record.values requested = .ok vs) ↔ ∀ column ∈ requested, column ∈ record.columns := by
  constructor
  · intro hexists
    rcases hexists with ⟨vs, hvs⟩
    rcases registered_or_lacks record requested with hregistered | ⟨column, hlacks⟩
    · exact hregistered
    · rw [values_of_lacks hlacks] at hvs
      cases hvs
  · exact values_of_registered

theorem values_eq_error_iff {failure : Failure} :
    record.values requested = .error failure ↔
      ∃ column, record.Lacks requested column ∧ failure = .unknownColumn column := by
  constructor
  · intro h
    rcases registered_or_lacks record requested with hregistered | ⟨column, hlacks⟩
    · rcases values_of_registered hregistered with ⟨vs, hvs⟩
      rw [hvs] at h
      cases h
    · rw [values_of_lacks hlacks] at h
      cases h
      exact ⟨column, hlacks, rfl⟩
  · intro hexists
    rcases hexists with ⟨column, hlacks, rfl⟩
    exact values_of_lacks hlacks

end Record

end Rowsmith
