import Rowsmith.Proofs.Text.Basic
import Rowsmith.Text.Basic

/-!
# What is left of a text that is cut

The search for the end of a cut goes back over octets, and what it must not do is stop inside a
character. That shows in the octets themselves: those inside a character are of a kind that begins
none. The place found is the last boundary within the budget, so the cut is the longest beginning of
the text that fits.
-/

namespace Rowsmith
namespace Text

variable {s : String} {offset budget : Nat}

/-!
# Boundaries
-/

/-- The text can be taken apart at the offset, so no character reaches across it. -/
def IsBoundary (s : String) (offset : Nat) : Prop :=
  ∃ front rest, s = front ++ rest ∧ front.utf8ByteSize = offset

theorem isBoundary_iff_isValid :
    IsBoundary s offset ↔ String.Pos.Raw.IsValid s ⟨offset⟩ := by
  rw [String.Pos.Raw.isValid_iff_exists_append]
  constructor
  · intro hexists
    rcases hexists with ⟨front, rest, hsplit, rfl⟩
    exact ⟨front, rest, hsplit, rfl⟩
  · intro hexists
    rcases hexists with ⟨front, rest, hsplit, hoffset⟩
    exact ⟨front, rest, hsplit, (congrArg String.Pos.Raw.byteIdx hoffset).symm⟩

/-- An octet that goes on with a character. -/
def Continues (octet : UInt8) : Prop :=
  0x80 ≤ octet ∧ octet < 0xC0

instance (octet : UInt8) : Decidable (Continues octet) :=
  inferInstanceAs (Decidable (_ ∧ _))

theorem octet_lt_of_octets {n : Nat} {octets : Bytes} (h : Octets n octets) :
    ∀ octet ∈ octets, octet.toNat < 0xF8 := by
  cases h
  all_goals
    simp only [List.forall_mem_cons, UInt8.toNat_ofNat', List.not_mem_nil, false_imp_iff,
      implies_true, and_true]
    omega

theorem octet_lt_of_mem_utf8Encode {octet : UInt8} (h : octet ∈ utf8Encode s) :
    octet.toNat < 0xF8 := by
  rcases List.mem_flatMap.mp h with ⟨c, _, hoctet⟩
  exact octet_lt_of_octets (octets_encode c) octet hoctet

theorem isUTF8FirstByte_iff {octet : UInt8} (h : octet.toNat < 0xF8) :
    octet.IsUTF8FirstByte ↔ ¬ Continues octet := by
  have hall : ∀ n < 0xF8, (UInt8.ofNat n).IsUTF8FirstByte ↔ ¬ Continues (UInt8.ofNat n) := by
    decide +kernel
  have hoctet := hall octet.toNat h
  rwa [UInt8.ofNat_toNat] at hoctet

theorem utf8Encode_eq_toByteArray (s : String) : utf8Encode s = s.toByteArray.data.toList := by
  rcases String.exists_eq_ofList s with ⟨cs, rfl⟩
  unfold utf8Encode
  rw [String.toByteArray_ofList, List.utf8Encode, List.toList_data_toByteArray,
    String.toList_ofList]

/-- Every offset is a boundary but those of the octets that go on with a character, and those beyond
the end. -/
theorem isBoundary_iff_octet :
    IsBoundary s offset ↔ offset = s.utf8ByteSize ∨
      ∃ octet, (utf8Encode s)[offset]? = some octet ∧ ¬ Continues octet := by
  rw [isBoundary_iff_isValid, String.Pos.Raw.isValid_iff_isUTF8FirstByte,
    String.Pos.Raw.ext_iff, String.byteIdx_rawEndPos]
  apply or_congr_right
  have hoctet (octet : UInt8) : (utf8Encode s)[offset]? = some octet ↔
      ∃ h : (⟨offset⟩ : String.Pos.Raw) < s.rawEndPos, s.getUTF8Byte ⟨offset⟩ h = octet := by
    rw [utf8Encode_eq_toByteArray, Array.getElem?_toList, Array.getElem?_eq_some_iff]
    exact Iff.rfl
  constructor
  · intro hboth
    rcases hboth with ⟨hlt, hfirst⟩
    have hfound := (hoctet _).mpr ⟨hlt, rfl⟩
    have hmem := octet_lt_of_mem_utf8Encode (List.mem_of_getElem? hfound)
    exact ⟨_, hfound, (isUTF8FirstByte_iff hmem).mp hfirst⟩
  · intro hexists
    rcases hexists with ⟨octet, hfound, hstart⟩
    have hmem := octet_lt_of_mem_utf8Encode (List.mem_of_getElem? hfound)
    rcases (hoctet octet).mp hfound with ⟨hlt, rfl⟩
    exact ⟨hlt, (isUTF8FirstByte_iff hmem).mpr hstart⟩

/-!
# The search for a boundary
-/

theorem boundaryBefore_le (s : String) (offset : Nat) : boundaryBefore s offset ≤ offset := by
  induction offset with
  | zero => exact Nat.le_refl 0
  | succ offset ih =>
      rw [boundaryBefore]
      split
      · exact Nat.le_refl _
      · exact Nat.le_succ_of_le ih

theorem IsBoundary.le_boundaryBefore {place : Nat} (h : IsBoundary s place) (hle : place ≤ offset) :
    place ≤ boundaryBefore s offset := by
  induction offset with
  | zero => exact hle
  | succ offset ih =>
      rw [boundaryBefore]
      split
      · exact hle
      · next hinside =>
          have hne : place ≠ offset + 1 := by
            intro hsame
            rw [isBoundary_iff_isValid, hsame, ← String.Pos.Raw.isValid_eq_true_iff] at h
            exact hinside h
          exact ih (by omega)

/-!
# The cut
-/

theorem cut_of_fits (h : s.utf8ByteSize ≤ budget) : cut budget s = s :=
  if_pos h

theorem exists_rest_of_cut (budget : Nat) (s : String) : ∃ rest, s = cut budget s ++ rest := by
  unfold cut
  split
  · exact ⟨"", String.append_empty.symm⟩
  · exact ⟨_, (String.Pos.splits _).eq_append⟩

theorem utf8ByteSize_cut_of_lt (h : budget < s.utf8ByteSize) :
    (cut budget s).utf8ByteSize = boundaryBefore s budget := by
  unfold cut
  rw [if_neg (Nat.not_le.mpr h), String.Slice.utf8ByteSize_copy, String.utf8ByteSize_sliceTo]

theorem utf8ByteSize_cut_le (budget : Nat) (s : String) : (cut budget s).utf8ByteSize ≤ budget := by
  rcases Nat.lt_or_ge budget s.utf8ByteSize with hlong | hfits
  · rw [utf8ByteSize_cut_of_lt hlong]
    exact boundaryBefore_le s budget
  · rw [cut_of_fits hfits]
    exact hfits

theorem isBoundary_cut (budget : Nat) (s : String) :
    IsBoundary s (cut budget s).utf8ByteSize := by
  rcases exists_rest_of_cut budget s with ⟨rest, hsplit⟩
  exact ⟨_, rest, hsplit, rfl⟩

theorem exists_rest_of_le {front rest front' rest' : String} (hsplit : s = front ++ rest)
    (hsplit' : s = front' ++ rest') (hle : front.utf8ByteSize ≤ front'.utf8ByteSize) :
    ∃ more, front' = front ++ more := by
  have hplace (front rest : String) (h : s = front ++ rest) :
      String.Pos.Raw.IsValid s front.rawEndPos :=
    String.Pos.Raw.isValid_iff_exists_append.mpr ⟨front, rest, h, rfl⟩
  have hat (front rest : String) (h : s = front ++ rest) :
      (s.pos front.rawEndPos (hplace front rest h)).Splits front rest :=
    ⟨h, rfl⟩
  rcases ((hat front rest hsplit).le_iff_exists_eq_append (hat front' rest' hsplit')).mp hle with
    ⟨more, hmore, _⟩
  exact ⟨more, hmore⟩

theorem IsBoundary.le_cut {place : Nat} (h : IsBoundary s place) (hle : place ≤ budget) :
    place ≤ (cut budget s).utf8ByteSize := by
  rcases Nat.lt_or_ge budget s.utf8ByteSize with hlong | hfits
  · rw [utf8ByteSize_cut_of_lt hlong]
    exact h.le_boundaryBefore hle
  · rw [cut_of_fits hfits]
    exact (isBoundary_iff_isValid.mp h).le_utf8ByteSize

theorem exists_next_boundary (h : IsBoundary s offset) (hlt : offset < s.utf8ByteSize) :
    ∃ next, IsBoundary s next ∧ offset < next ∧ next ≤ offset + 4 := by
  rcases h with ⟨front, rest, hsplit, hsize⟩
  rcases String.exists_eq_ofList rest with ⟨cs, rfl⟩
  cases cs with
  | nil =>
      rw [String.ofList_nil, String.append_empty] at hsplit
      rw [hsplit, hsize] at hlt
      exact absurd hlt (Nat.lt_irrefl _)
  | cons c cs =>
      refine ⟨offset + c.utf8Size, ?_, ?_, ?_⟩
      · refine ⟨front ++ String.singleton c, String.ofList cs, ?_, ?_⟩
        · rw [hsplit, String.ofList_cons, String.append_assoc]
        · rw [String.utf8ByteSize_append, String.utf8ByteSize_singleton, hsize]
      · exact Nat.lt_add_of_pos_right c.utf8Size_pos
      · exact Nat.add_le_add_left c.utf8Size_le_four offset

/-- The cut of a text is its longest beginning that fits into the budget: all of the text exactly if
it fits, and otherwise what is before the boundary where the search stops, which is never more than
three octets short of the budget. -/
theorem cut_is_longest_beginning_that_fits (budget : Nat) (s : String) :
    (∃ rest, s = cut budget s ++ rest) ∧
    (cut budget s).utf8ByteSize ≤ budget ∧
    ((cut budget s).utf8ByteSize = s.utf8ByteSize ∨
      ∃ octet, (utf8Encode s)[(cut budget s).utf8ByteSize]? = some octet ∧ ¬ Continues octet) ∧
    (cut budget s = s ↔ s.utf8ByteSize ≤ budget) ∧
    (∀ front rest, s = front ++ rest → front.utf8ByteSize ≤ budget →
      ∃ more, cut budget s = front ++ more) ∧
    (budget < s.utf8ByteSize →
      (cut budget s).utf8ByteSize = boundaryBefore s budget ∧
        budget < (cut budget s).utf8ByteSize + 4) := by
  refine ⟨exists_rest_of_cut budget s, utf8ByteSize_cut_le budget s,
    isBoundary_iff_octet.mp (isBoundary_cut budget s), ?_, ?_, ?_⟩
  · constructor
    · intro hwhole
      have hle := utf8ByteSize_cut_le budget s
      rwa [hwhole] at hle
    · exact cut_of_fits
  · intro front rest hsplit hle
    rcases exists_rest_of_cut budget s with ⟨rest', hsplit'⟩
    have hboundary : IsBoundary s front.utf8ByteSize := ⟨front, rest, hsplit, rfl⟩
    exact exists_rest_of_le hsplit hsplit' (hboundary.le_cut hle)
  · intro hlong
    refine ⟨utf8ByteSize_cut_of_lt hlong, ?_⟩
    have hle := utf8ByteSize_cut_le budget s
    rcases exists_next_boundary (isBoundary_cut budget s) (by omega) with
      ⟨next, hnext, hafter, hnear⟩
    -- The next boundary does not fit any more, since the cut would reach it.
    have hbeyond : budget < next := by
      by_contra hfits
      have hreached := hnext.le_cut (Nat.not_lt.mp hfits)
      omega
    omega

/-- The budget ends inside the third character, and three octets are lost. -/
theorem cut_inside_wide_letter :
    (∃ rest, "é€𝄞" = cut 8 "é€𝄞" ++ rest) ∧ 8 < "é€𝄞".utf8ByteSize ∧
      (cut 8 "é€𝄞").utf8ByteSize = boundaryBefore "é€𝄞" 8 ∧ boundaryBefore "é€𝄞" 8 = 5 ∧
      8 < (cut 8 "é€𝄞").utf8ByteSize + 4 ∧ ∃ more, cut 8 "é€𝄞" = "é€" ++ more := by
  rcases cut_is_longest_beginning_that_fits 8 "é€𝄞" with
    ⟨hrest, _, _, _, hlongest, hsearch⟩
  have hlong : 8 < "é€𝄞".utf8ByteSize := by decide
  rcases hsearch hlong with ⟨hsize, hnear⟩
  exact ⟨hrest, hlong, hsize, by decide +kernel, hnear, hlongest "é€" "𝄞" rfl (by decide)⟩

end Text
end Rowsmith
