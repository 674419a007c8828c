/-!
# Maps from names

A map whose keys are names, kept in ascending order of the names. Names are compared by code
points, which is also the order of their octets. Of two entries under one name the later one
counts.
-/

namespace Rowsmith

abbrev NameEntry (α : Type) := String × α

def insertEntry (name : String) (a : α) : List (NameEntry α) → List (NameEntry α)
  | [] => [(name, a)]
  | (other, b) :: rest =>
      if other = name then (name, a) :: rest
      else if name < other then (name, a) :: (other, b) :: rest
      else (other, b) :: insertEntry name a rest

theorem mem_insertEntry {name : String} {a : α} {entries : List (NameEntry α)} {e : NameEntry α}
    (h : e ∈ insertEntry name a entries) : e = (name, a) ∨ e ∈ entries := by
  induction entries with
  | nil => simpa [insertEntry] using h
  | cons first rest ih =>
      obtain ⟨other, b⟩ := first
      simp only [insertEntry] at h
      split at h
      · rcases List.mem_cons.1 h with h | h <;> simp [h]
      · split at h
        · simpa using h
        · rcases List.mem_cons.1 h with h | h
          · simp [h]
          · rcases ih h with h | h <;> simp [h]

def Ascending (entries : List (NameEntry α)) : Prop :=
  entries.Pairwise fun d e => d.1 < e.1

theorem ascending_insertEntry (name : String) (a : α) {entries : List (NameEntry α)}
    (h : Ascending entries) : Ascending (insertEntry name a entries) := by
  induction entries with
  | nil => simp [insertEntry, Ascending]
  | cons first rest ih =>
      obtain ⟨other, b⟩ := first
      obtain ⟨below, tail⟩ := List.pairwise_cons.1 h
      simp only [insertEntry]
      split
      · next equal =>
          subst equal
          exact List.pairwise_cons.2 ⟨below, tail⟩
      · next different =>
          split
          · next less =>
              refine List.pairwise_cons.2 ⟨fun e he => ?_, h⟩
              rcases List.mem_cons.1 he with rfl | he
              · exact less
              · exact String.lt_trans less (below e he)
          · next notLess =>
              refine List.pairwise_cons.2 ⟨fun e he => ?_, ih tail⟩
              rcases mem_insertEntry he with rfl | he
              · exact Std.lt_of_le_of_ne (String.not_lt.1 notLess) different
              · exact below e he

structure NameMap (α : Type) where
  entries : List (NameEntry α)
  ascending : Ascending entries := by simp [Ascending]
  deriving DecidableEq

namespace NameMap

def empty : NameMap α :=
  { entries := [] }

def insert (map : NameMap α) (name : String) (a : α) : NameMap α :=
  ⟨insertEntry name a map.entries, ascending_insertEntry name a map.ascending⟩

def ofList (entries : List (NameEntry α)) : NameMap α :=
  entries.foldl (fun map entry => map.insert entry.1 entry.2) empty

def find? (map : NameMap α) (name : String) : Option α :=
  map.entries.lookup name

def contains (map : NameMap α) (name : String) : Bool :=
  (map.find? name).isSome

def names (map : NameMap α) : List String :=
  map.entries.map (·.1)

/-- Every entry changed, under its old name. -/
def mapEntries (map : NameMap α) (f : String → α → β) : NameMap β where
  entries := map.entries.map fun (name, a) => (name, f name a)
  ascending := by
    refine List.pairwise_map.2 ?_
    exact map.ascending

end NameMap

end Rowsmith
