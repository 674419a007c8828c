import Mathlib.Data.List.Induction
import Mathlib.Data.List.Sort
import Rowsmith.NameMap

/-!
# Maps are what they find

A map keeps its entries in the order of their names, so two maps that find the same under every name
are the same map, however they were put together.
-/

namespace Rowsmith

/-!
# Entries
-/

theorem lookup_entry (first other : String) (b : α) (rest : List (NameEntry α)) :
    ((first, b) :: rest).lookup other = if other = first then some b else rest.lookup other := by
  rw [List.lookup_cons]
  by_cases hsame : other = first
  · rw [if_pos hsame, hsame, beq_self_eq_true]
  · rw [if_neg hsame, beq_false_of_ne hsame]

theorem lookup_insertEntry (name other : String) (a : α) (entries : List (NameEntry α)) :
    (insertEntry name a entries).lookup other =
      if other = name then some a else entries.lookup other := by
  induction entries with
  | nil =>
      rw [insertEntry, lookup_entry]
  | cons entry rest ih =>
      rcases entry with ⟨first, b⟩
      rw [insertEntry, lookup_entry]
      split
      · next hfirst =>
          rw [lookup_entry, hfirst]
          split
          · rfl
          · rfl
      · next hfirst =>
          split
          · rw [lookup_entry, lookup_entry]
          · rw [lookup_entry, ih]
            by_cases hsame : other = first
            · have hne : other ≠ name := by
                rw [hsame]
                exact hfirst
              rw [if_pos hsame, if_neg hne, if_pos hsame]
            · rw [if_neg hsame, if_neg hsame]

/-- Since no two entries have one name, every entry is the one found under its name. -/
theorem mem_iff_lookup {entries : List (NameEntry α)} (h : Ascending entries) {name : String}
    {a : α} : (name, a) ∈ entries ↔ entries.lookup name = some a := by
  induction entries with
  | nil => simp
  | cons entry rest ih =>
      rcases entry with ⟨first, b⟩
      rcases List.pairwise_cons.mp h with ⟨hbelow, hrest⟩
      rw [List.mem_cons, lookup_entry]
      by_cases hsame : name = first
      · have hlater : (name, a) ∉ rest := by
          intro hmem
          have hless := hbelow _ hmem
          rw [hsame] at hless
          exact String.lt_irrefl _ hless
        rw [if_pos hsame]
        constructor
        · intro hmem
          rcases hmem with hpair | hmem
          · cases hpair
            rfl
          · exact absurd hmem hlater
        · intro hfound
          cases hfound
          rw [hsame]
          exact Or.inl rfl
      · rw [if_neg hsame, ← ih hrest]
        simp [hsame]

/-!
# Maps
-/

namespace NameMap

@[simp] theorem find?_empty (name : String) : (empty : NameMap α).find? name = none := rfl

theorem find?_insert (map : NameMap α) (name other : String) (a : α) :
    (map.insert name a).find? other = if other = name then some a else map.find? other :=
  lookup_insertEntry name other a map.entries

theorem find?_ofList (entries : List (NameEntry α)) (name : String) :
    (ofList entries).find? name =
      (entries.filter fun entry => entry.1 = name).getLast?.map Prod.snd := by
  induction entries using List.reverseRecOn with
  | nil => rfl
  | append_singleton front entry ih =>
      have hput : ofList (front ++ [entry]) = (ofList front).insert entry.1 entry.2 :=
        List.foldl_append
      rw [hput, find?_insert, List.filter_append, ih]
      by_cases hsame : name = entry.1
      · rw [if_pos hsame, List.filter_cons_of_pos (by simp [hsame]), List.filter_nil,
          List.getLast?_concat]
        rfl
      · rw [if_neg hsame, List.filter_cons_of_neg (by simp [Ne.symm hsame]), List.filter_nil,
          List.append_nil]

theorem find?_mapEntries (map : NameMap α) (f : String → α → β) (name : String) :
    (map.mapEntries f).find? name = (map.find? name).map (f name) := by
  show (map.entries.map fun entry => (entry.1, f entry.1 entry.2)).lookup name = _
  unfold find?
  induction map.entries with
  | nil => rfl
  | cons entry rest ih =>
      rcases entry with ⟨first, a⟩
      rw [List.map_cons, lookup_entry, lookup_entry, ih]
      by_cases hsame : name = first
      · rw [if_pos hsame, if_pos hsame, hsame]
        rfl
      · rw [if_neg hsame, if_neg hsame]

theorem mem_names_iff {map : NameMap α} {name : String} :
    name ∈ map.names ↔ ∃ a, map.find? name = some a := by
  unfold names find?
  simp only [List.mem_map, Prod.exists, ← mem_iff_lookup map.ascending]
  constructor
  · intro h
    rcases h with ⟨_, a, hentry, rfl⟩
    exact ⟨a, hentry⟩
  · intro h
    rcases h with ⟨a, hentry⟩
    exact ⟨name, a, hentry, rfl⟩

theorem nodup_names (map : NameMap α) : map.names.Nodup := by
  refine List.pairwise_map.mpr (map.ascending.imp ?_)
  intro d e hless hsame
  rw [hsame] at hless
  exact String.lt_irrefl _ hless

theorem ext_find? {map other : NameMap α} (h : ∀ name, map.find? name = other.find? name) :
    map = other := by
  have hmem : ∀ entry, entry ∈ map.entries ↔ entry ∈ other.entries := by
    intro entry
    rcases entry with ⟨name, a⟩
    rw [mem_iff_lookup map.ascending, mem_iff_lookup other.ascending]
    exact Eq.congr_left (h name)
  have hnodup (map : NameMap α) : map.entries.Nodup := by
    apply map.ascending.imp
    intro d e hless hsame
    rw [hsame] at hless
    exact String.lt_irrefl _ hless
  have hperm : map.entries.Perm other.entries :=
    (List.perm_ext_iff_of_nodup (hnodup map) (hnodup other)).mpr hmem
  have hentries : map.entries = other.entries := by
    refine List.Perm.eq_of_pairwise ?_ map.ascending other.ascending hperm
    intro d e _ _ hless hgreater
    exact absurd hgreater (String.lt_asymm hless)
  cases map
  cases other
  cases hentries
  rfl

end NameMap

end Rowsmith
