import Mathlib.Data.List.Induction
import Rowsmith.Model.FieldType
import Rowsmith.Proofs.NameMap

/-!
# Which override counts

An override that the user has written is found under every spelling of its type. Where several of
them are for one type, the one under the greatest key counts, whatever else there is.
-/

namespace Rowsmith

/-!
# The last of several entries
-/

theorem getLast?_eq_some_iff_greatest {entries : List (NameEntry α)} (h : Ascending entries)
    {entry : NameEntry α} :
    entries.getLast? = some entry ↔
      entry ∈ entries ∧ ∀ other ∈ entries, other.1 ≤ entry.1 := by
  rcases List.eq_nil_or_concat' entries with rfl | ⟨front, last, rfl⟩
  · simp
  · rcases List.pairwise_append.mp h with ⟨_, _, hbelow⟩
    rw [List.getLast?_concat, Option.some_inj]
    constructor
    · intro hsame
      subst hsame
      refine ⟨by simp, ?_⟩
      intro other hother
      rcases List.mem_append.mp hother with hfront | hlast
      · exact Std.le_of_lt (hbelow other hfront last List.mem_cons_self)
      · cases List.mem_singleton.mp hlast
        exact String.le_refl _
    · intro hboth
      rcases hboth with ⟨hmem, hgreatest⟩
      rcases List.mem_append.mp hmem with hfront | hlast
      · have hless := hbelow entry hfront last List.mem_cons_self
        have hmost := hgreatest last (by simp)
        exact absurd hless (String.not_lt.mpr hmost)
      · exact (List.mem_singleton.mp hlast).symm

/-!
# Overrides as they are configured
-/

/-- The entry is the one that counts for the type name: its key is a spelling of the type, and the
greatest of those that are. -/
structure Decides (configured : NameMap String) (name : String) (entry : NameEntry String) :
    Prop where
  listed : entry ∈ configured.entries
  spells : normalTypeName entry.1 = normalTypeName name
  greatest : ∀ other ∈ configured.entries, normalTypeName other.1 = normalTypeName name →
    other.1 ≤ entry.1

def Undecided (configured : NameMap String) (name : String) : Prop :=
  ∀ entry ∈ configured.entries, normalTypeName entry.1 ≠ normalTypeName name

instance (configured : NameMap String) (name : String) : Decidable (Undecided configured name) :=
  inferInstanceAs (Decidable (∀ entry ∈ configured.entries, _))

section Insert

variable {configured : NameMap String} {name other : String} {entry : NameEntry String}
  {fieldType : String}

theorem NameMap.mem_insert_self (configured : NameMap String) (name fieldType : String) :
    (name, fieldType) ∈ (configured.insert name fieldType).entries := by
  apply (mem_iff_lookup (configured.insert name fieldType).ascending).mpr
  exact (lookup_insertEntry name name fieldType configured.entries).trans (if_pos rfl)

theorem undecided_empty (name : String) : Undecided NameMap.empty name := by
  intro _ hmem
  cases hmem

theorem Undecided.insert (h : Undecided configured name)
    (hother : normalTypeName other ≠ normalTypeName name) :
    Undecided (configured.insert other fieldType) name := by
  intro entry hentry
  rcases mem_insertEntry hentry with rfl | hmem
  · exact hother
  · exact h entry hmem

theorem Undecided.decides_insert (h : Undecided configured name) :
    Decides (configured.insert name fieldType) name (name, fieldType) where
  listed := configured.mem_insert_self name fieldType
  spells := rfl
  greatest other hother hspells := by
    rcases mem_insertEntry hother with rfl | hmem
    · exact String.le_refl _
    · exact absurd hspells (h other hmem)

theorem Decides.insert (h : Decides configured name entry)
    (hother : normalTypeName other ≠ normalTypeName name) :
    Decides (configured.insert other fieldType) name entry where
  listed := by
    have hne : entry.1 ≠ other := by
      intro hsame
      rw [← hsame] at hother
      exact hother h.spells
    apply (mem_iff_lookup (configured.insert other fieldType).ascending).mpr
    show (insertEntry other fieldType configured.entries).lookup entry.1 = _
    rw [lookup_insertEntry, if_neg hne]
    exact (mem_iff_lookup configured.ascending).mp h.listed
  spells := h.spells
  greatest later hlater hspells := by
    rcases mem_insertEntry hlater with rfl | hmem
    · exact absurd hspells hother
    · exact h.greatest later hmem hspells

end Insert

namespace Overrides

variable {configured : NameMap String} {name : String}

theorem find?_ofConfigured (configured : NameMap String) (normal : String) :
    (ofConfigured configured).find? normal =
      (configured.entries.filter fun entry => normalTypeName entry.1 = normal).getLast?.map
        Prod.snd := by
  have hofList : ofConfigured configured =
      NameMap.ofList (configured.entries.map fun entry => (normalTypeName entry.1, entry.2)) := rfl
  rw [hofList, NameMap.find?_ofList, List.filter_map, List.getLast?_map, Option.map_map]
  simp only [Function.comp_def]

/-- The entries come in the order of their keys, so the last spelling of a type is the greatest. -/
theorem getLast?_spellings_eq_some_iff {entry : NameEntry String} :
    (configured.entries.filter fun entry =>
        normalTypeName entry.1 = normalTypeName name).getLast? = some entry ↔
      Decides configured name entry := by
  have hascending : Ascending
      (configured.entries.filter fun entry => normalTypeName entry.1 = normalTypeName name) :=
    List.Pairwise.filter _ configured.ascending
  rw [getLast?_eq_some_iff_greatest hascending]
  simp only [List.mem_filter, decide_eq_true_eq, and_imp]
  constructor
  · intro h
    rcases h with ⟨⟨hlisted, hspells⟩, hgreatest⟩
    exact ⟨hlisted, hspells, hgreatest⟩
  · intro h
    exact ⟨⟨h.listed, h.spells⟩, h.greatest⟩

theorem find?_of_decides {entry : NameEntry String} (h : Decides configured name entry) :
    (ofConfigured configured).find? (normalTypeName name) = some entry.2 := by
  rw [find?_ofConfigured, getLast?_spellings_eq_some_iff.mpr h]
  rfl

theorem find?_of_undecided (h : Undecided configured name) :
    (ofConfigured configured).find? (normalTypeName name) = none := by
  have hnone : (configured.entries.filter fun entry =>
      normalTypeName entry.1 = normalTypeName name) = [] := by
    rw [List.filter_eq_nil_iff]
    intro entry hentry
    simpa using h entry hentry
  rw [find?_ofConfigured, hnone]
  rfl

theorem undecided_or_decides (configured : NameMap String) (name : String) :
    Undecided configured name ∨ ∃ entry, Decides configured name entry := by
  cases hlast : (configured.entries.filter fun entry =>
      normalTypeName entry.1 = normalTypeName name).getLast? with
  | none =>
      rw [List.getLast?_eq_none_iff, List.filter_eq_nil_iff] at hlast
      left
      intro entry hentry
      simpa using hlast entry hentry
  | some entry => exact Or.inr ⟨entry, getLast?_spellings_eq_some_iff.mp hlast⟩

end Overrides

end Rowsmith
