import Rowsmith.Proofs.Catalog.NormalName
import Rowsmith.Proofs.Model.FieldType
import Rowsmith.Proofs.Model.Overrides

/-!
# Field types of arrays

An array gets the list type of its elements, at any depth, unless an override is written for an
array of some depth. What the elements get is found from what is left of the normal name, taken for
a name of its own; that always comes to an end, since the normal names get shorter.
-/

namespace Rowsmith

open Text

/-!
# Arrays and lists by their depth
-/

def copies (n : Nat) (text : String) : String :=
  String.ofList (List.replicate n text.toList).flatten

theorem copies_zero (text : String) : copies 0 text = "" := rfl

theorem copies_succ (n : Nat) (text : String) : copies (n + 1) text = text ++ copies n text := by
  unfold copies
  rw [List.replicate_succ, List.flatten_cons, String.ofList_append, String.ofList_toList]

theorem copies_succ_last (n : Nat) (text : String) :
    copies (n + 1) text = copies n text ++ text := by
  unfold copies
  rw [List.replicate_succ', List.flatten_append, List.flatten_singleton, String.ofList_append,
    String.ofList_toList]

def arrayName (name : String) (depth : Nat) : String :=
  name ++ copies depth "[]"

def nestedListType (depth : Nat) (element : String) : String :=
  copies depth "Vec<" ++ element ++ copies depth ">"

theorem arrayName_zero (name : String) : arrayName name 0 = name := by
  unfold arrayName
  rw [copies_zero, String.append_empty]

theorem arrayName_succ (name : String) (depth : Nat) :
    arrayName name (depth + 1) = arrayName name depth ++ "[]" := by
  unfold arrayName
  rw [copies_succ_last, String.append_assoc]

theorem nestedListType_zero (element : String) : nestedListType 0 element = element := by
  unfold nestedListType
  rw [copies_zero, copies_zero, String.append_empty, String.empty_append]

theorem nestedListType_succ (depth : Nat) (element : String) :
    nestedListType (depth + 1) element = listType (nestedListType depth element) := by
  unfold nestedListType listType
  rw [copies_succ depth "Vec<", copies_succ_last depth ">"]
  simp only [String.append_assoc]

/-!
# One step of the search
-/

/-- What is left of the normal name of an array once its brackets are gone. -/
def arrayBase? (name : String) : Option String :=
  (elementSpelling? (normalName name.toList)).map String.ofList

namespace Overrides

variable {overrides : Overrides} {name : String}

/-- What is done for one name, where what is left of the name of an array is given to `search`. -/
def searchStep (overrides : Overrides) (search : String → String) (name : String) : String :=
  match overrides.find? (normalTypeName name) with
  | some fieldType => fieldType
  | none =>
      match arrayBase? name with
      | some base => listType (search base)
      | none => (knownTypes.lookup (normalTypeName name)).getD textType

theorem typeOf_of_find? {fieldType : String}
    (h : overrides.find? (normalTypeName name) = some fieldType) :
    overrides.typeOf name = fieldType :=
  typeOfNormal_overridden h

theorem typeOf_append_brackets (h : overrides.find? (normalTypeName (name ++ "[]")) = none) :
    overrides.typeOf (name ++ "[]") = listType (overrides.typeOf name) := by
  have hlist : (name ++ "[]").toList = name.toList ++ brackets := String.toList_append
  unfold normalTypeName at h
  unfold typeOf
  rw [typeOfNormal_element h]
  rw [hlist]
  exact elementName?_append_brackets name.toList

theorem typeOf_eq_searchStep (overrides : Overrides) (name : String) :
    overrides.typeOf name = overrides.searchStep overrides.typeOf name := by
  have helement := elementName?_normalName name.toList
  unfold searchStep arrayBase?
  cases hfind : overrides.find? (normalTypeName name) with
  | some fieldType => exact typeOf_of_find? hfind
  | none =>
      cases hbase : elementSpelling? (normalName name.toList) with
      | none =>
          rw [hbase, Option.map_none] at helement
          exact typeOfNormal_single hfind helement
      | some base =>
          rw [hbase, Option.map_some] at helement
          have hbaseType : overrides.typeOf (String.ofList base) =
              overrides.typeOfNormal (normalName base) := by
            unfold typeOf
            rw [String.toList_ofList]
          show _ = listType (overrides.typeOf (String.ofList base))
          rw [hbaseType]
          exact typeOfNormal_element hfind helement

end Overrides

theorem wellFounded_arrayBase? : WellFounded fun base name => arrayBase? name = some base := by
  -- The normal name gets shorter, while the name itself need not: it is normalized again each time.
  apply Subrelation.wf (r := InvImage (· < ·) fun name : String => (normalName name.toList).length)
  · intro base name hbase
    rcases Option.map_eq_some_iff.mp hbase with ⟨spelling, hspelling, rfl⟩
    have helement := elementName?_normalName name.toList
    rw [hspelling, Option.map_some] at helement
    show (normalName (String.ofList spelling).toList).length < _
    rw [String.toList_ofList]
    exact length_elementName helement
  · exact InvImage.wf _ Nat.lt_wfRel.wf

/-!
# Overrides at some depth
-/

section Depth

variable {configured : NameMap String}

theorem typeOf_arrayName_from (name : String) (depth further : Nat)
    (h : ∀ k, depth < k → k ≤ depth + further → Undecided configured (arrayName name k)) :
    (Overrides.ofConfigured configured).typeOf (arrayName name (depth + further)) =
      nestedListType further
        ((Overrides.ofConfigured configured).typeOf (arrayName name depth)) := by
  induction further with
  | zero => exact (nestedListType_zero _).symm
  | succ further ih =>
      have hlast := h (depth + further + 1) (by omega) (by omega)
      have hnone := Overrides.find?_of_undecided hlast
      have hshallower := ih fun k hlow hhigh => h k hlow (by omega)
      rw [arrayName_succ] at hnone
      rw [← Nat.add_assoc, arrayName_succ, Overrides.typeOf_append_brackets hnone, hshallower,
        nestedListType_succ]

/-- The type of an array at any depth, by the greatest depth at which it is overridden; and the
search for it ends, made step by step as it is. -/
theorem array_types_follow_elements (configured : NameMap String) (name : String) (depth : Nat) :
    ((∀ k, 1 ≤ k → k ≤ depth → Undecided configured (arrayName name k)) →
      (Overrides.ofConfigured configured).typeOf (arrayName name depth) =
        nestedListType depth ((Overrides.ofConfigured configured).typeOf name)) ∧
    (∀ overridden entry, overridden ≤ depth →
      Decides configured (arrayName name overridden) entry →
      (∀ k, overridden < k → k ≤ depth → Undecided configured (arrayName name k)) →
      (Overrides.ofConfigured configured).typeOf (arrayName name depth) =
        nestedListType (depth - overridden) entry.2) ∧
    (∀ overrides : Overrides, overrides.typeOf = overrides.searchStep overrides.typeOf) ∧
    WellFounded fun base name => arrayBase? name = some base := by
  refine ⟨?_, ?_, fun overrides => funext overrides.typeOf_eq_searchStep, wellFounded_arrayBase?⟩
  · intro h
    have hlist := typeOf_arrayName_from name 0 depth fun k hlow hhigh =>
      h k hlow (by omega)
    rwa [Nat.zero_add, arrayName_zero] at hlist
  · intro overridden entry hle hdecides h
    have hlist := typeOf_arrayName_from name overridden (depth - overridden)
      fun k hlow hhigh => h k hlow (by omega)
    rw [Nat.add_sub_cancel' hle] at hlist
    rw [hlist, Overrides.typeOf_of_find? (Overrides.find?_of_decides hdecides)]

end Depth

/-- An override under a spelling of its own, for arrays two deep of a type with a parenthesis that
is never closed. -/
def moodOverrides : NameMap String :=
  .ofList [("MOOD(\t[][] ", "Moods"), ("mood()[][]", "Other")]

/-- Arrays less deep are lists of what the type itself gets, and deeper ones are lists of what the
override says. -/
theorem arrays_of_unclosed_name :
    (Overrides.ofConfigured moodOverrides).typeOf " Mood( []" =
        listType ((Overrides.ofConfigured moodOverrides).typeOf " Mood( ") ∧
      (Overrides.ofConfigured moodOverrides).typeOf " Mood( [][][][]" = "Vec<Vec<Moods>>" := by
  constructor
  · apply (array_types_follow_elements moodOverrides " Mood( " 1).left
    intro k hlow hhigh
    obtain rfl : k = 1 := by omega
    decide +kernel
  · have hdecides : Decides moodOverrides (arrayName " Mood( " 2) ("MOOD(\t[][] ", "Moods") :=
      ⟨by decide +kernel, by decide +kernel, by decide +kernel⟩
    apply (array_types_follow_elements moodOverrides " Mood( " 4).right.left 2 _ (by decide)
      hdecides
    intro k hlow hhigh
    obtain rfl | rfl : k = 3 ∨ k = 4 := by omega
    · decide +kernel
    · decide +kernel

end Rowsmith
