import Rowsmith.Proofs.Catalog.StableName
import Rowsmith.Proofs.Model.ArrayType
import Rowsmith.Proofs.Text.Basic

/-!
# Spellings of types

What two spellings of a type have in common, for the type itself and for its arrays.
-/

namespace Rowsmith

open Text

/-!
# Spellings of array types

Two spellings of a type get the same field type, but arrays of the type may get different ones. A
long name is made short only where it stands alone, and a space that is left before the brackets is
kept, so that the normal names of the arrays may differ where those of the types do not; then an
override that is meant for the arrays is found under one spelling and not under the other.
-/

variable {first second : String}

theorem normalTypeName_arrayName
    (h : normalTypeName (first ++ "[]") = normalTypeName (second ++ "[]")) (depth : Nat) :
    normalTypeName (arrayName first (depth + 1)) =
      normalTypeName (arrayName second (depth + 1)) := by
  have hdeeper (name : String) : normalTypeName (name ++ "[]" ++ "[]") =
      normalTypeName (name ++ "[]") ++ "[]" := by
    have hlist := normalName_append_brackets name.toList
    unfold normalTypeName
    rw [String.toList_append, String.toList_append]
    exact (congrArg String.ofList hlist).trans String.ofList_append
  induction depth with
  | zero =>
      rw [arrayName_succ, arrayName_succ, arrayName_zero, arrayName_zero]
      exact h
  | succ depth ih =>
      rw [arrayName_succ, arrayName_succ] at ih
      rw [arrayName_succ first (depth + 1), arrayName_succ second (depth + 1), arrayName_succ,
        arrayName_succ, hdeeper, hdeeper, ih]

theorem typeOf_congr (overrides : Overrides)
    (h : normalTypeName first = normalTypeName second) :
    overrides.typeOf first = overrides.typeOf second := by
  have hnormal : normalName first.toList = normalName second.toList := String.ofList_injective h
  unfold Overrides.typeOf
  rw [hnormal]

def soleOverride (name fieldType : String) : NameMap String :=
  NameMap.empty.insert name fieldType

theorem listType_ne_textType (element : String) : listType element ≠ textType := by
  intro h
  have hfirst := congrArg (fun text : String => text.toList.head?) h
  simp [listType, textType] at hfirst

theorem typeOf_soleOverride_ne
    (h : normalTypeName (first ++ "[]") ≠ normalTypeName (second ++ "[]")) :
    (Overrides.ofConfigured (soleOverride (first ++ "[]") textType)).typeOf (first ++ "[]") ≠
      (Overrides.ofConfigured (soleOverride (first ++ "[]") textType)).typeOf (second ++ "[]") := by
  have hdecides : Decides (soleOverride (first ++ "[]") textType) (first ++ "[]") _ :=
    (undecided_empty _).decides_insert
  have hundecided : Undecided (soleOverride (first ++ "[]") textType) (second ++ "[]") :=
    (undecided_empty _).insert h
  rw [Overrides.typeOf_of_find? (Overrides.find?_of_decides hdecides),
    Overrides.typeOf_append_brackets (Overrides.find?_of_undecided hundecided)]
  exact (listType_ne_textType _).symm

/-- Two spellings of a type are alike for arrays of any depth, whatever is overridden, exactly if
the arrays themselves have one normal name; and they are alike in any case as long as no override
is meant for the arrays. -/
theorem spellings_share_arrays_iff (h : normalTypeName first = normalTypeName second) :
    ((∀ configured depth,
        (Overrides.ofConfigured configured).typeOf (arrayName first depth) =
          (Overrides.ofConfigured configured).typeOf (arrayName second depth)) ↔
      normalTypeName (first ++ "[]") = normalTypeName (second ++ "[]")) ∧
    ∀ configured depth,
      (∀ k, 1 ≤ k → k ≤ depth → Undecided configured (arrayName first k) ∧
        Undecided configured (arrayName second k)) →
      (Overrides.ofConfigured configured).typeOf (arrayName first depth) =
        (Overrides.ofConfigured configured).typeOf (arrayName second depth) := by
  refine ⟨⟨?_, ?_⟩, ?_⟩
  · intro halike
    rcases Decidable.em (normalTypeName (first ++ "[]") = normalTypeName (second ++ "[]")) with
      hsame | hne
    · exact hsame
    · have hdeep := halike (soleOverride (first ++ "[]") textType) 1
      rw [arrayName_succ, arrayName_succ, arrayName_zero, arrayName_zero] at hdeep
      exact absurd hdeep (typeOf_soleOverride_ne hne)
  · intro hsame configured depth
    cases depth with
    | zero =>
        rw [arrayName_zero, arrayName_zero]
        exact typeOf_congr _ h
    | succ depth => exact typeOf_congr _ (normalTypeName_arrayName hsame depth)
  · intro configured depth hundecided
    have hfirst := typeOf_arrayName_from first 0 depth
      fun k hlow hhigh => (hundecided k hlow (by omega)).left
    have hsecond := typeOf_arrayName_from second 0 depth
      fun k hlow hhigh => (hundecided k hlow (by omega)).right
    rw [Nat.zero_add, arrayName_zero] at hfirst hsecond
    rw [hfirst, hsecond, typeOf_congr _ h]

/-- A long name with a parameter, and its short name. -/
theorem long_name_shares_arrays_of_element :
    (Overrides.ofConfigured (soleOverride "Character  Varying" "Name")).typeOf
        "character varying(10)[][]" =
      (Overrides.ofConfigured (soleOverride "Character  Varying" "Name")).typeOf "varchar[][]" := by
  have hsame : normalTypeName "character varying(10)" = normalTypeName "varchar" := by
    decide +kernel
  apply (spellings_share_arrays_iff hsame).right (soleOverride "Character  Varying" "Name") 2
  intro k hlow hhigh
  obtain rfl | rfl : k = 1 ∨ k = 2 := by omega
  · decide +kernel
  · decide +kernel

/-- An override that is written for arrays of the short name misses arrays of the long name. -/
theorem array_override_misses_long_name :
    normalTypeName "character varying(10)" = normalTypeName "varchar" ∧
      (Overrides.ofConfigured (soleOverride "varchar[]" "Names")).typeOf "varchar[]" = "Names" ∧
      (Overrides.ofConfigured (soleOverride "varchar[]" "Names")).typeOf
        "character varying(10)[]" = "Vec<String>" := by
  have hundecided : Undecided (soleOverride "varchar[]" "Names")
      ("character varying(10)" ++ "[]") := by
    decide +kernel
  have hmissed := Overrides.find?_of_undecided hundecided
  have helement : Undecided (soleOverride "varchar[]" "Names") "character varying(10)" := by
    decide +kernel
  refine ⟨by decide +kernel, ?_, ?_⟩
  · have hdecides : Decides (soleOverride "varchar[]" "Names") "varchar[]" _ :=
      (undecided_empty _).decides_insert
    exact Overrides.typeOf_of_find? (Overrides.find?_of_decides hdecides)
  · show Overrides.typeOf _ ("character varying(10)" ++ "[]") = _
    rw [Overrides.typeOf_append_brackets hmissed, Overrides.typeOf_eq_searchStep]
    unfold Overrides.searchStep
    rw [Overrides.find?_of_undecided helement]
    decide +kernel

/-!
# The override behind a normal name

A type name and its normal form are of one type, whatever is configured. Which override counts is
told by the keys as they were written: the one whose octets are greatest among the spellings of the
type, and no other entry makes a difference.
-/

/-- Of the entries whose keys are spellings of the type, this one has the greatest key, octet by
octet. -/
structure Prevails (configured : NameMap String) (name : String) (entry : NameEntry String) :
    Prop where
  listed : entry ∈ configured.entries
  spells : normalTypeName entry.1 = normalTypeName name
  above : ∀ other ∈ configured.entries, normalTypeName other.1 = normalTypeName name →
    other = entry ∨ utf8Encode other.1 < utf8Encode entry.1

variable {configured : NameMap String} {name : String} {entry : NameEntry String}

theorem entry_ext {entries : List (NameEntry α)} (h : Ascending entries)
    {first second : NameEntry α} (hfirst : first ∈ entries) (hsecond : second ∈ entries)
    (hname : first.1 = second.1) : first = second := by
  rw [mem_iff_lookup h] at hfirst hsecond
  rw [hname, hsecond] at hfirst
  exact Prod.ext hname (Option.some.inj hfirst).symm

theorem Decides.prevails (h : Decides configured name entry) : Prevails configured name entry where
  listed := h.listed
  spells := h.spells
  above other hother hspells := by
    have hle := h.greatest other hother hspells
    by_cases hsame : other.1 = entry.1
    · exact Or.inl (entry_ext configured.ascending hother h.listed hsame)
    · exact Or.inr (utf8Encode_lt (Std.lt_of_le_of_ne hle hsame))

theorem Prevails.unique {other : NameEntry String} (h : Prevails configured name entry)
    (hother : Prevails configured name other) : other = entry := by
  rcases h.above other hother.listed hother.spells with hsame | hbelow
  · exact hsame
  · rcases hother.above entry h.listed h.spells with hsame | habove
    · exact hsame.symm
    · exact absurd habove (List.lt_asymm hbelow)

theorem exists_prevails_iff :
    (∃ entry, Prevails configured name entry) ↔
      ∃ entry ∈ configured.entries, normalTypeName entry.1 = normalTypeName name := by
  constructor
  · intro hexists
    rcases hexists with ⟨entry, h⟩
    exact ⟨entry, h.listed, h.spells⟩
  · intro hexists
    rcases hexists with ⟨entry, hlisted, hspells⟩
    rcases Overrides.undecided_or_decides configured name with hnone | ⟨other, hdecides⟩
    · exact absurd hspells (hnone entry hlisted)
    · exact ⟨other, hdecides.prevails⟩

theorem Prevails.typeOf_eq (h : Prevails configured name entry) :
    (Overrides.ofConfigured configured).typeOf name = entry.2 := by
  rcases Overrides.undecided_or_decides configured name with hnone | ⟨other, hdecides⟩
  · exact absurd h.spells (hnone entry h.listed)
  · rw [← h.unique hdecides.prevails]
    exact Overrides.typeOf_of_find? (Overrides.find?_of_decides hdecides)

/-- The normal form of a type name is what is left when groups are removed one by one, blanks are
evened out and a long name is replaced. It has no blank at an end, no two blanks together, and
nothing that closes behind anything that opens, and it is its own normal form. So a name is of the
same type as its normal form, and where some key is a spelling of it, the type is that of the
spelling whose octets are greatest, whatever else is configured. -/
theorem normal_name_decides_type (name : String) :
    let normal := normalTypeName name
    normal = String.ofList
        (shortName (collapseBlanks (removeGroups (lower (trim name.toList))))) ∧
      IsTrim normal.toList ∧ IsUngrouped normal.toList ∧ normalTypeName normal = normal ∧
      ∀ configured : NameMap String,
        (Overrides.ofConfigured configured).typeOf normal =
            (Overrides.ofConfigured configured).typeOf name ∧
          ((∃ entry, Prevails configured name entry) ↔
            ∃ entry ∈ configured.entries, normalTypeName entry.1 = normal) ∧
          ∀ entry, Prevails configured name entry →
            (Overrides.ofConfigured configured).typeOf name = entry.2 := by
  intro normal
  have hchars : normal.toList = normalName name.toList := String.toList_ofList
  refine ⟨?_, ?_, ?_, normalTypeName_normalTypeName name, fun configured => ⟨?_, ?_, ?_⟩⟩
  · rw [← normalName_eq_removeGroups]
    rfl
  · rw [hchars]
    exact isTrim_normalName _
  · rw [hchars]
    exact (isTidy_normalName _).ungrouped
  · exact typeOf_congr _ (normalTypeName_normalTypeName name)
  · exact exists_prevails_iff
  · exact fun entry h => h.typeOf_eq

/-- Three spellings of one type. What is behind a bracket that is never closed stays, and the
greatest key is the short one, since capital letters come first. -/
theorem short_key_prevails :
    let configured := NameMap.ofList
      [("varchar", "Short"), ("Character  Varying(10)", "Long"), ("VARCHAR", "Loud"),
        ("zzz", "Other")]
    let name := " VarChar (5(6) "
    normalTypeName name = "varchar" ∧ normalTypeName "Int ) (4" = "int ) (4" ∧
      Prevails configured name ("varchar", "Short") ∧
      (∃ entry ∈ configured.entries, normalTypeName entry.1 = normalTypeName name) ∧
      (Overrides.ofConfigured configured).typeOf name = "Short" := by
  intro configured name
  have hprevails : Prevails configured name ("varchar", "Short") :=
    ⟨by decide +kernel, by decide +kernel, by decide +kernel⟩
  rcases normal_name_decides_type name with ⟨_, _, _, _, hchoice⟩
  rcases hchoice configured with ⟨_, hexists, htype⟩
  exact ⟨by decide +kernel, by decide +kernel, hprevails, hexists.mp ⟨_, hprevails⟩,
    htype _ hprevails⟩

end Rowsmith
