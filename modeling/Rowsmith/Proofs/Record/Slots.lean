import Rowsmith.Proofs.Record.Failing

/-!
# Slots

Targets can also be kept in slots, one for each field under its column, from which they are taken:
a request looks for the first slot of each of its columns and empties it. A slot is empty exactly if
it is the first one of a column that was requested before, so that nothing but the request itself
decides what is found. Values are found in the same places and are never taken away.
-/

namespace Rowsmith

structure Slot where
  column : String
  target : Option Nat
  deriving DecidableEq, Repr

/-!
# Taking targets
-/

def takeTarget (column : String) : List Slot → Except Failure (Nat × List Slot)
  | [] => .error (.unknownColumn column)
  | slot :: rest =>
      if slot.column = column then
        match slot.target with
        | none => .error (.duplicateColumn column)
        | some target => .ok (target, { slot with target := none } :: rest)
      else
        (fun (target, slots) => (target, slot :: slots)) <$> takeTarget column rest

/-- The targets of the columns in their order, each taken from what the ones before have left. -/
def takeTargets : List String → List Slot → Except Failure (List Nat × List Slot)
  | [], slots => .ok ([], slots)
  | column :: rest, slots => do
      let (target, slots) ← takeTarget column slots
      let (targets, slots) ← takeTargets rest slots
      return (target :: targets, slots)

/-- No columns stand for all targets. -/
def selectFromSlots (slots : List Slot) (columns : List String) : Except Failure (List Nat) :=
  if columns.isEmpty then .ok (slots.filterMap (·.target))
  else Prod.fst <$> takeTargets columns slots

def Record.slots (record : Record) : List Slot :=
  record.fields.mapIdx fun position field => ⟨field.column, some position⟩

/-!
# Which slots are empty
-/

/-- The slots of the fields, the first of which has the given position, after the columns have been
requested. Only the first slot of a column is emptied, so the column is forgotten behind it. -/
def slotsFrom (requested : List String) (position : Nat) : List Field → List Slot
  | [] => []
  | field :: rest =>
      ⟨field.column, if field.column ∈ requested then none else some position⟩ ::
        slotsFrom (requested.filter (· ≠ field.column)) (position + 1) rest

theorem slotsFrom_nil (position : Nat) (fields : List Field) :
    slotsFrom [] position fields =
      fields.mapIdx fun index field => ⟨field.column, some (position + index)⟩ := by
  induction fields generalizing position with
  | nil => rfl
  | cons field rest ih =>
      rw [slotsFrom, List.filter_nil, ih, List.mapIdx_cons]
      simp [Nat.add_right_comm, Nat.add_assoc]

theorem Record.slots_eq (record : Record) : record.slots = slotsFrom [] 0 record.fields := by
  rw [slotsFrom_nil]
  simp [slots]

theorem filter_ne_cons {column other : String} (h : other ≠ column) (requested : List String) :
    (column :: requested).filter (· ≠ other) = column :: requested.filter (· ≠ other) :=
  List.filter_cons_of_pos (by simpa using h.symm)

theorem takeTarget_slotsFrom (column : String) (requested : List String) (position : Nat)
    (fields : List Field) :
    takeTarget column (slotsFrom requested position fields) =
      match fields.findIdx? (·.column == column) with
      | none => .error (.unknownColumn column)
      | some index =>
          if column ∈ requested then .error (.duplicateColumn column)
          else .ok (position + index, slotsFrom (column :: requested) position fields) := by
  induction fields generalizing requested position with
  | nil => rfl
  | cons field rest ih =>
      rw [slotsFrom, takeTarget, List.findIdx?_cons]
      by_cases hfirst : field.column = column
      · -- This slot is the one found. It is empty if the column was requested before.
        rw [if_pos hfirst, hfirst, beq_self_eq_true]
        by_cases hrequested : column ∈ requested
        · simp [hrequested]
        · simp [hrequested, slotsFrom, hfirst]
      · -- The slot of another column is passed over, and what is taken later leaves it as it is.
        have hkept : column ∈ requested.filter (· ≠ field.column) ↔ column ∈ requested := by
          simp [Ne.symm hfirst]
        have hslot : field.column ∈ column :: requested ↔ field.column ∈ requested := by
          simp [hfirst]
        rw [if_neg hfirst, ih, beq_false_of_ne hfirst]
        cases rest.findIdx? (·.column == column) with
        | none => rfl
        | some index =>
            simp only [hkept, slotsFrom, filter_ne_cons hfirst, hslot, Option.map_some,
              Bool.false_eq_true, if_false]
            by_cases hrequested : column ∈ requested
            · rw [if_pos hrequested, if_pos hrequested]
              rfl
            · rw [if_neg hrequested, if_neg hrequested, Nat.add_right_comm]
              rfl

/-- A slot is empty exactly if it is the first one of a column that was requested. -/
theorem getElem?_slotsFrom (requested : List String) (position : Nat) (fields : List Field)
    (index : Nat) :
    (slotsFrom requested position fields)[index]? = fields[index]?.map fun field =>
      ⟨field.column,
        if field.column ∈ requested ∧
            fields.findIdx? (·.column == field.column) = some index then none
        else some (position + index)⟩ := by
  induction fields generalizing requested position index with
  | nil => rfl
  | cons first rest ih =>
      rw [slotsFrom]
      cases index with
      | zero => simp [List.findIdx?_cons]
      | succ index =>
          rw [List.getElem?_cons_succ, List.getElem?_cons_succ, ih]
          refine Option.map_congr fun field _ => ?_
          by_cases hsame : first.column = field.column
          · simp [List.findIdx?_cons, hsame, Nat.add_right_comm, Nat.add_assoc]
          · simp [List.findIdx?_cons, hsame, Ne.symm hsame, Nat.add_right_comm, Nat.add_assoc]

/-!
# Requests of targets from slots
-/

namespace Record

variable {record : Record} {requested before : List String}

theorem takeTargets_slotsFrom {claimed : List Nat}
    (hclaimed : ∀ column position, record.position? column = some position →
      (position ∈ claimed ↔ column ∈ before)) :
    takeTargets requested (slotsFrom before 0 record.fields) =
      (fun positions => (positions, slotsFrom (requested.reverse ++ before) 0 record.fields)) <$>
        record.claimTargets claimed requested := by
  -- Positions are claimed while their slots are emptied, so the two sets stay in step.
  induction requested generalizing before claimed with
  | nil => rfl
  | cons column rest ih =>
      rw [takeTargets, takeTarget_slotsFrom, claimTargets]
      show (match record.position? column with
        | none => _
        | some index => _) >>= _ = _
      cases hposition : record.position? column with
      | none => rfl
      | some position =>
          have hmem := hclaimed column position hposition
          dsimp only
          by_cases hbefore : column ∈ before
          · rw [if_pos hbefore, if_pos (hmem.mpr hbefore)]
            rfl
          · have hnext : ∀ other place, record.position? other = some place →
                (place ∈ position :: claimed ↔ other ∈ column :: before) := by
              intro other place hplace
              rw [List.mem_cons, List.mem_cons, hclaimed other place hplace]
              apply or_congr_left
              constructor
              · intro hsame
                subst hsame
                exact column_eq_of_position hplace hposition
              · intro hsame
                subst hsame
                exact Option.some.inj (hplace.symm.trans hposition)
            rw [if_neg hbefore, if_neg (mt hmem.mp hbefore), Nat.zero_add]
            show (takeTargets rest (slotsFrom (column :: before) 0 record.fields) >>= _) = _
            rw [ih hnext, List.reverse_cons, List.append_assoc, List.singleton_append]
            cases record.claimTargets (position :: claimed) rest <;> rfl

theorem takeTargets_slots (record : Record) (requested : List String) :
    takeTargets requested record.slots =
      (fun positions => (positions, slotsFrom requested.reverse 0 record.fields)) <$>
        record.claimTargets [] requested := by
  have hnone : ∀ column position, record.position? column = some position →
      (position ∈ ([] : List Nat) ↔ column ∈ ([] : List String)) := by
    intro column position _
    simp
  rw [slots_eq, takeTargets_slotsFrom hnone, List.append_nil]

theorem filterMap_slots (record : Record) :
    record.slots.filterMap (·.target) = List.range record.fields.length := by
  unfold slots
  rw [List.mapIdx_eq_zipIdx_map, List.filterMap_map]
  show record.fields.zipIdx.filterMap (some ∘ Prod.snd) = _
  rw [List.filterMap_eq_map, List.zipIdx_map_snd, List.range_eq_range']

theorem selectFromSlots_slots (record : Record) (requested : List String) :
    selectFromSlots record.slots requested = record.selectTargets requested := by
  unfold selectFromSlots selectTargets
  split
  · rw [filterMap_slots]
  · rw [takeTargets_slots]
    cases record.claimTargets [] requested <;> rfl

theorem targets_eq_selectTargets (h : record.withheld = 0) :
    record.targets requested = record.selectTargets requested := by
  unfold targets
  rw [h]
  cases record.selectTargets requested with
  | error failure => rfl
  | ok positions => simp [Except.map]

theorem exists_targets_iff (hne : requested ≠ []) :
    (∃ positions, record.targets requested = .ok positions) ↔
      (∀ column ∈ requested, column ∈ record.columns) ∧ requested.Nodup := by
  unfold targets selectTargets
  rw [if_neg (by simpa using hne)]
  constructor
  · intro hexists
    rcases hexists with ⟨positions, htargets⟩
    cases hclaim : record.claimTargets [] requested with
    | error failure =>
        rw [hclaim] at htargets
        cases htargets
    | ok claimed =>
        rcases claimTargets_eq_ok_iff_registered.mp hclaim with ⟨hnodup, hregistered, _⟩
        exact ⟨hregistered, hnodup⟩
  · intro hboth
    rcases hboth with ⟨hregistered, hnodup⟩
    rw [claimTargets_of_registered hnodup hregistered]
    exact ⟨_, rfl⟩

/-!
# One field for each column
-/

structure FirstUnder (record : Record) (column : String) (position : Nat) (field : Field) :
    Prop where
  at_position : record.fields[position]? = some field
  column_eq : field.column = column
  first : ∀ earlier < position, ∀ other, record.fields[earlier]? = some other →
    other.column ≠ column

/-- Target by target and value by value, both belong to the first field of the column. -/
structure ResolveAlike (record : Record) (requested : List String) (positions : List Nat)
    (vs : List Value) : Prop where
  targets_length : positions.length = requested.length
  values_length : vs.length = requested.length
  same_field : ∀ (index : Nat) column, requested[index]? = some column →
    ∃ position field, positions[index]? = some position ∧ vs[index]? = some field.value ∧
      record.FirstUnder column position field

theorem FirstUnder.position?_eq {column : String} {position : Nat} {field : Field}
    (h : record.FirstUnder column position field) : record.position? column = some position := by
  rcases List.getElem?_eq_some_iff.mp h.at_position with ⟨hlt, hfield⟩
  refine List.findIdx?_eq_some_iff_getElem.mpr ⟨hlt, ?_, ?_⟩
  · rw [hfield, h.column_eq]
    exact beq_self_eq_true column
  · intro earlier hearlier
    have hother := h.first earlier hearlier _
      (List.getElem?_eq_getElem (Nat.lt_trans hearlier hlt))
    simpa using hother

theorem exists_firstUnder {column : String} {position : Nat}
    (h : record.position? column = some position) :
    ∃ field, record.FirstUnder column position field ∧ record.field? column = some field := by
  rcases field_at_position h with ⟨field, hfield, hcolumn⟩
  rcases List.findIdx?_eq_some_iff_getElem.mp h with ⟨_, _, hearlier⟩
  refine ⟨field, ⟨hfield, hcolumn, ?_⟩, ?_⟩
  · intro earlier hlt other hother hsame
    rcases List.getElem?_eq_some_iff.mp hother with ⟨_, rfl⟩
    exact hearlier earlier hlt (by simpa using hsame)
  · rw [field?_eq_position?, h]
    exact hfield

theorem takeTargets_slots_empty {positions : List Nat} {slots : List Slot}
    (h : takeTargets requested record.slots = .ok (positions, slots)) {position : Nat}
    {field : Field} (hfield : record.fields[position]? = some field) :
    ∃ target, slots[position]? = some ⟨field.column, target⟩ ∧
      (target = none ↔
        field.column ∈ requested ∧ record.FirstUnder field.column position field) := by
  have hfirst : record.fields.findIdx? (·.column == field.column) = some position ↔
      record.FirstUnder field.column position field := by
    constructor
    · intro hposition
      rcases exists_firstUnder hposition with ⟨other, hother, _⟩
      rw [hother.at_position] at hfield
      cases hfield
      exact hother
    · exact FirstUnder.position?_eq
  rw [takeTargets_slots] at h
  rcases map_eq_ok_iff.mp h with ⟨_, _, hpair⟩
  cases hpair
  rw [getElem?_slotsFrom, hfield]
  refine ⟨_, rfl, ?_⟩
  simp [hfirst]

theorem resolveAlike {positions : List Nat} {vs : List Value}
    (hpositions : record.claimTargets [] requested = .ok positions)
    (hvs : record.pickValues requested = .ok vs) : record.ResolveAlike requested positions vs := by
  rcases claimTargets_eq_ok_iff_registered.mp hpositions with ⟨_, hregistered, rfl⟩
  rw [pickValues_eq_ok_iff] at hvs
  have hlength := congrArg List.length hvs
  rw [List.length_map, List.length_map] at hlength
  refine ⟨List.length_map _, hlength.symm, ?_⟩
  intro index column hcolumn
  have hmem := hregistered column (List.mem_of_getElem? hcolumn)
  rcases exists_firstUnder (position?_eq_some_positionOf hmem) with ⟨field, hfirst, hfield⟩
  have hvalue := congrArg (·[index]?) hvs
  simp only [List.getElem?_map, hcolumn, hfield, Option.map_some] at hvalue
  refine ⟨_, field, ?_, ?_, hfirst⟩
  · rw [List.getElem?_map, hcolumn]
    rfl
  · rcases Option.map_eq_some_iff.mp hvalue.symm with ⟨v, hv, hsame⟩
    rw [hv, Option.some.inj hsame]

end Record

/-- A request is resolved alike on both sides. Without columns it gets everything in the order of
registration. Otherwise values are found for registered columns only, and targets for those of them
that are named once; what is found for a column is the first field registered under it, as a target
and as a value. A request for values is refused at its first column that nothing has, and one for
targets at its first column that nothing has or that came before. The targets are those of the slots
that the request empties, whose first slots are the ones that are empty in the end. -/
theorem targets_and_values_resolve_alike (fields : List Field) (requested : List String) :
    let record : Record := { fields }
    (selectFromSlots record.slots requested = record.targets requested ∧
      ∀ positions slots, takeTargets requested record.slots = .ok (positions, slots) →
        ∀ position field, fields[position]? = some field →
          ∃ target, slots[position]? = some ⟨field.column, target⟩ ∧
            (target = none ↔
              field.column ∈ requested ∧ record.FirstUnder field.column position field)) ∧
    (requested = [] → record.targets requested = .ok (List.range fields.length) ∧
      record.values requested = .ok (fields.map (·.value))) ∧
    (requested ≠ [] →
      ((∃ vs, record.values requested = .ok vs) ↔
        ∀ column ∈ requested, column ∈ record.columns) ∧
      ((∃ positions, record.targets requested = .ok positions) ↔
        (∀ column ∈ requested, column ∈ record.columns) ∧ requested.Nodup) ∧
      (∀ positions vs, record.targets requested = .ok positions →
        record.values requested = .ok vs → record.ResolveAlike requested positions vs) ∧
      (∀ failure, record.values requested = .error failure ↔
        ∃ column, record.Lacks requested column ∧ failure = .unknownColumn column) ∧
      ∀ failure, record.targets requested = .error failure ↔
        record.Offends requested failure) := by
  intro record
  have htargets : record.targets requested = record.selectTargets requested :=
    Record.targets_eq_selectTargets rfl
  refine ⟨⟨?_, fun _ _ htaken _ _ => Record.takeTargets_slots_empty htaken⟩, ?_, ?_⟩
  · rw [htargets]
    exact record.selectFromSlots_slots requested
  · intro hempty
    rw [htargets, hempty]
    exact ⟨rfl, rfl⟩
  · intro hne
    refine ⟨Record.exists_values_iff, Record.exists_targets_iff hne, ?_,
      fun _ => Record.values_eq_error_iff, fun _ => Record.targets_eq_error_iff hne⟩
    intro positions vs hpositions hvs
    have hnonempty : ¬ requested.isEmpty = true := by simpa using hne
    rw [htargets, Record.selectTargets, if_neg hnonempty] at hpositions
    rw [Record.values, if_neg hnonempty] at hvs
    exact Record.resolveAlike hpositions hvs

/-- Of two fields with one column the first is found on both sides. A column that is named twice
stops the request for targets, and only the unknown one behind it stops that for values. -/
theorem repeated_columns_resolve_alike :
    let v (n : Int32) := Value.required (.int32 n)
    let record : Record := { fields := [⟨"a", v 1⟩, ⟨"b", v 2⟩, ⟨"a", v 3⟩] }
    ["b", "a"] ≠ [] ∧ record.targets ["b", "a"] = .ok [1, 0] ∧
      record.values ["b", "a"] = .ok [v 2, v 1] ∧
      record.ResolveAlike ["b", "a"] [1, 0] [v 2, v 1] ∧
      ["b", "b", "c"] ≠ [] ∧ record.Offends ["b", "b", "c"] (.duplicateColumn "b") ∧
      ∃ column, record.Lacks ["b", "b", "c"] column ∧
        Failure.unknownColumn "c" = .unknownColumn column := by
  intro v record
  rcases targets_and_values_resolve_alike record.fields ["b", "a"] with ⟨_, _, hfound⟩
  rcases targets_and_values_resolve_alike record.fields ["b", "b", "c"] with ⟨_, _, hrefused⟩
  have hne : ["b", "a"] ≠ [] := List.cons_ne_nil _ _
  have hne' : ["b", "b", "c"] ≠ [] := List.cons_ne_nil _ _
  rcases hfound hne with ⟨_, _, halike, _, _⟩
  rcases hrefused hne' with ⟨_, _, _, hvalues, htargets⟩
  exact ⟨hne, rfl, rfl, halike _ _ rfl rfl, hne', (htargets _).mp rfl, (hvalues _).mp rfl⟩

end Rowsmith
