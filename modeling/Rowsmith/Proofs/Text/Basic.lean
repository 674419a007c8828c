import Mathlib.Data.String.Basic
import Rowsmith.Text.Basic

/-!
# Pieces and octets of texts

How a text falls into pieces and lines, and how its octets compare.
-/

namespace Rowsmith

open Text

/-!
# Pieces of a text

A text is cut before and after a separator on its own, and a text of lines is cut into its lines.
-/

namespace Text

theorem piecesFrom_append (separator : Char) (piece before rest : List Char) :
    piecesFrom separator piece (before ++ separator :: rest) =
      piecesFrom separator piece before ++ pieces separator rest := by
  induction before generalizing piece with
  | nil =>
      show piecesFrom separator piece (separator :: rest) = [piece.reverse] ++ _
      rw [piecesFrom, if_pos rfl]
      rfl
  | cons c before ih =>
      rw [List.cons_append, piecesFrom, piecesFrom]
      split
      · rw [ih]
        rfl
      · exact ih (c :: piece)

theorem piecesFrom_of_not_mem {separator : Char} {cs : List Char} (h : separator ∉ cs)
    (piece : List Char) : piecesFrom separator piece cs = [piece.reverse ++ cs] := by
  induction cs generalizing piece with
  | nil => rw [piecesFrom, List.append_nil]
  | cons c rest ih =>
      rcases List.ne_and_not_mem_of_not_mem_cons h with ⟨hne, hrest⟩
      rw [piecesFrom, if_neg (Ne.symm hne), ih hrest, List.reverse_cons, List.append_assoc]
      rfl

end Text

/-!
## Lines
-/

theorem toList_line (s : String) : (line s).toList = s.toList ++ ['\n'] := by
  rw [line, String.toList_append]
  rfl

theorem toList_lines (ss : List String) :
    (lines ss).toList = ss.flatMap fun s => (line s).toList := by
  simp [lines, List.flatMap_map]

theorem pieces_lines {ss : List String} (h : ∀ s ∈ ss, '\n' ∉ s.toList) :
    pieces '\n' (lines ss).toList = ss.map String.toList ++ [[]] := by
  induction ss with
  | nil => rfl
  | cons s rest ih =>
      rcases List.forall_mem_cons.mp h with ⟨hs, hrest⟩
      have hcut : (lines (s :: rest)).toList = s.toList ++ '\n' :: (lines rest).toList := by
        simp [lines, line]
      rw [hcut, pieces, piecesFrom_append, piecesFrom_of_not_mem hs, ih hrest]
      rfl

/-!
# The order of octets

Texts are compared by code points. The octets that spell a text are in the same order: those of a
greater character begin with a greater octet, or with the same one and go on greater.
-/

/-- The octets of a code point, one form for every count of them. -/
inductive Octets (n : Nat) : Bytes → Prop where
  | one (h : n < 0x80) : Octets n [.ofNat n]
  | two (hleast : 0x80 ≤ n) (h : n < 0x800) :
      Octets n [.ofNat (n / 64 + 192), .ofNat (n % 64 + 128)]
  | three (hleast : 0x800 ≤ n) (h : n < 0x10000) :
      Octets n [.ofNat (n / 4096 + 224), .ofNat (n / 64 % 64 + 128), .ofNat (n % 64 + 128)]
  | four (hleast : 0x10000 ≤ n) (h : n < 0x110000) :
      Octets n [.ofNat (n / 262144 + 240), .ofNat (n / 4096 % 64 + 128),
        .ofNat (n / 64 % 64 + 128), .ofNat (n % 64 + 128)]

theorem octets_encode (c : Char) : Octets c.val.toNat (String.utf8EncodeChar c) := by
  have hvalid : c.val.toNat < 0x110000 := by
    have h := c.valid
    simp only [UInt32.isValidChar, Nat.isValidChar] at h
    omega
  unfold String.utf8EncodeChar
  dsimp only
  generalize c.val.toNat = n at hvalid
  split
  · exact Octets.one (by omega)
  · split
    · rw [show n / 64 % 32 = n / 64 by omega]
      exact Octets.two (by omega) (by omega)
    · split
      · rw [show n / 4096 % 16 = n / 4096 by omega]
        exact Octets.three (by omega) (by omega)
      · rw [show n / 262144 % 8 = n / 262144 by omega]
        exact Octets.four (by omega) hvalid

theorem octet_cons_lt_iff {m n : Nat} (hm : m < 256) (hn : n < 256) {u v : Bytes} :
    UInt8.ofNat m :: u < UInt8.ofNat n :: v ↔ m < n ∨ m = n ∧ u < v := by
  rw [List.cons_lt_cons_iff, UInt8.lt_iff_toNat_lt, ← UInt8.toNat_inj, UInt8.toNat_ofNat',
    UInt8.toNat_ofNat', Nat.mod_eq_of_lt hm, Nat.mod_eq_of_lt hn]

theorem octets_lt {m n : Nat} {s t : Bytes} (hs : Octets m s) (ht : Octets n t) (h : m < n)
    (u v : Bytes) : s ++ u < t ++ v := by
  -- The difference shows before the octets of either character end, whichever lengths they have.
  cases hs <;> cases ht
  all_goals simp (disch := omega) only [List.cons_append, List.nil_append, octet_cons_lt_iff]
  all_goals omega

theorem octets_pos {n : Nat} {s : Bytes} (hs : Octets n s) (u : Bytes) : [] < s ++ u := by
  cases hs
  all_goals exact List.Lex.nil

theorem flatMap_encode_lt {cs ds : List Char} (h : cs < ds) :
    cs.flatMap String.utf8EncodeChar < ds.flatMap String.utf8EncodeChar := by
  induction h with
  | @nil d ds => exact octets_pos (octets_encode d) _
  | @rel c cs d ds hless => exact octets_lt (octets_encode c) (octets_encode d) hless _ _
  | @cons c cs ds _ ih => exact List.append_left_lt ih

/-- The order of texts is that of their octets. -/
theorem utf8Encode_lt {s t : String} (h : s < t) : utf8Encode s < utf8Encode t :=
  flatMap_encode_lt (String.lt_iff_toList_lt.mp h)

end Rowsmith
