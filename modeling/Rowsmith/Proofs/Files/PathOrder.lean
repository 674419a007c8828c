import Mathlib.Data.List.Lex
import Mathlib.Data.Prod.Lex
import Mathlib.Data.String.Basic
import Rowsmith.Files.Writer
import Rowsmith.Proofs.Files.Location

/-!
# The order of paths

Paths are ordered by their parts as words are by their letters, so the order is total, and two paths
come both before each other only if they have the same parts. Such paths lead to the same place.
-/

namespace Rowsmith

namespace Path

/-!
# Keys
-/

def Part.text : Part → String
  | .name s => s
  | _ => ""

/-- The order of parts is that of these pairs. -/
def Part.key (p : Part) : Nat ×ₗ String :=
  toLex (p.rank, p.text)

def key (path : String) : List (Nat ×ₗ String) :=
  (parts path).map Part.key

theorem Part.key_injective : Function.Injective Part.key := by
  intro p q h
  have hpairs := toLex_inj.mp h
  rcases Prod.mk.inj hpairs with ⟨hrank, htext⟩
  cases p <;> cases q <;> simp_all [Part.rank, Part.text]

theorem Part.le_iff {p q : Part} : p.le q = true ↔ p.key ≤ q.key := by
  unfold Part.key
  rw [Prod.Lex.toLex_le_toLex]
  cases p <;> cases q <;> simp [Part.le, Part.rank, Part.text]

theorem cons_le_cons_iff {α : Type} [LinearOrder α] {a b : α} {l m : List α} :
    a :: l ≤ b :: m ↔ a < b ∨ a = b ∧ l ≤ m := by
  rw [le_iff_lt_or_eq, le_iff_lt_or_eq, List.cons_eq_cons]
  show List.Lex _ (a :: l) (b :: m) ∨ _ ↔ a < b ∨ a = b ∧ (List.Lex _ l m ∨ _)
  rw [List.cons_lex_cons_iff, or_assoc, ← and_or_left]

theorem partsLe_iff {ps qs : List Part} :
    partsLe ps qs = true ↔ ps.map Part.key ≤ qs.map Part.key := by
  induction ps generalizing qs with
  | nil =>
      have hleast : ([] : List (Nat ×ₗ String)) ≤ qs.map Part.key := by
        cases qs with
        | nil => exact le_refl _
        | cons q qs => exact le_of_lt List.Lex.nil
      simp [partsLe, hleast]
  | cons p ps ih =>
      cases qs with
      | nil => simp [partsLe]
      | cons q qs =>
          rw [List.map_cons, List.map_cons, cons_le_cons_iff, partsLe]
          split
          · next hsame => simp [hsame, ih]
          · next hdifferent =>
              have hkeys : p.key ≠ q.key := fun h => hdifferent (Part.key_injective h)
              rw [Part.le_iff, lt_iff_le_and_ne]
              simp [hkeys]

theorem le_iff {a b : String} : le a b = true ↔ key a ≤ key b :=
  partsLe_iff

theorem le_trans (a b c : String) (h : le a b = true) (h' : le b c = true) : le a c = true :=
  le_iff.mpr ((le_iff.mp h).trans (le_iff.mp h'))

theorem le_total (a b : String) : (le a b || le b a) = true := by
  rw [Bool.or_eq_true, le_iff, le_iff]
  exact LinearOrder.le_total (key a) (key b)

theorem parts_eq_of_le {a b : String} (h : le a b = true) (h' : le b a = true) :
    parts a = parts b := by
  have hkeys : key a = key b := le_antisymm (le_iff.mp h) (le_iff.mp h')
  exact List.map_injective_iff.mpr Part.key_injective hkeys

end Path

/-!
# Parts and places
-/

namespace FileSystem

def followParts : Location → List Path.Part → Location
  | here, [] => here
  | _, .root :: rest => followParts [] rest
  | here, .here :: rest => followParts here rest
  | here, .up :: rest => followParts here.dropLast rest
  | here, .name s :: rest => followParts (here ++ [s]) rest

theorem followParts_ofSteps (here : Location) (steps : List String) :
    followParts here ((steps.filter (· != ".")).map Path.Part.ofStep) = follow here steps := by
  induction steps generalizing here with
  | nil => rfl
  | cons step rest ih =>
      rw [follow]
      by_cases hdot : step = "."
      · rw [if_pos hdot, List.filter_cons_of_neg (by simp [hdot]), ih]
      · rw [if_neg hdot, List.filter_cons_of_pos (by simp [hdot]), List.map_cons,
          Path.Part.ofStep]
        split
        · exact ih here.dropLast
        · exact ih (here ++ [step])

theorem followParts_relativeParts (here : Location) (steps : List String) :
    followParts here (Path.relativeParts steps) = follow here steps := by
  unfold Path.relativeParts
  split
  · next rest =>
      rw [follow, if_pos rfl]
      exact followParts_ofSteps here rest
  · exact followParts_ofSteps here steps

theorem destination_eq_followParts (files : FileSystem) (path : String) :
    files.destination path = followParts files.current (Path.parts path) := by
  unfold destination origin Path.parts
  split
  · exact (followParts_ofSteps [] _).symm
  · exact (followParts_relativeParts files.current _).symm

theorem destination_eq_of_parts {files : FileSystem} {path other : String}
    (h : Path.parts path = Path.parts other) :
    files.destination path = files.destination other := by
  rw [destination_eq_followParts, destination_eq_followParts, h]

end FileSystem

/-!
# Plans
-/

section Plans

variable {folder : String} {generated other : List GeneratedFile}

theorem placed_perm (folder : String) (generated : List GeneratedFile) :
    (placed folder generated).Perm
      (generated.map fun file => { file with path := Path.join folder file.path }) :=
  List.mergeSort_perm _ _

theorem placed_sorted (folder : String) (generated : List GeneratedFile) :
    (placed folder generated).Pairwise fun file later => Path.le file.path later.path = true := by
  unfold placed
  refine List.pairwise_mergeSort ?_ ?_ _
  · intro a b c
    exact Path.le_trans a.path b.path c.path
  · intro a b
    exact Path.le_total a.path b.path

theorem placed_eq_of_perm (h : other.Perm generated) {files : FileSystem}
    (hplaces : ∀ file ∈ placed folder generated, ∀ later ∈ placed folder generated,
      files.destination file.path = files.destination later.path → file = later) :
    placed folder other = placed folder generated := by
  have hperm : (placed folder other).Perm (placed folder generated) :=
    (placed_perm folder other).trans ((h.map _).trans (placed_perm folder generated).symm)
  refine List.Perm.eq_of_pairwise ?_ (placed_sorted folder other) (placed_sorted folder generated)
    hperm
  intro file later hfile hlater hle hge
  exact hplaces file (hperm.mem_iff.mp hfile) later hlater
    (FileSystem.destination_eq_of_parts (Path.parts_eq_of_le hle hge))

end Plans

end Rowsmith
