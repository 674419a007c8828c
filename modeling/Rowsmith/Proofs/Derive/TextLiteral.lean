import Rowsmith.Derive.Lexer

/-!
# Quoted texts are read back

Both ways of quoting a text give a literal that is read as that text. Either of them spells one
character after the other, so it is enough to look at the spelling of one character.
-/

namespace Rowsmith
namespace Derive

open Text

/-!
# Codes in braces
-/

theorem digitChar_hex : ∀ d < 16, d.digitChar ≠ '\x7d' ∧ d.digitChar ≠ '_' ∧
    d.digitChar ≠ '"' ∧ d.digitChar ≠ '\\' ∧ d.digitChar ≠ '\r' ∧
    hexValue d.digitChar = some d := by
  decide

theorem unescapeFrom_digit {rules : EscapeRules} {value digits d : Nat} {rest : List Char}
    (hd : d < 16) (hdigits : digits < 6) :
    unescapeFrom rules (.code value digits) (d.digitChar :: rest) =
      unescapeFrom rules (.code (16 * value + d) (digits + 1)) rest := by
  rcases digitChar_hex d hd with ⟨hbrace, hgap, _, _, _, hvalue⟩
  rw [unescapeFrom, if_neg hbrace, if_neg fun h => hgap h.left, hvalue]
  exact if_pos hdigits

theorem unescapeFrom_hexDigits {rules : EscapeRules} (n : Nat) (rest : List Char)
    (hlength : (hexDigits n).length ≤ 6) :
    unescapeFrom rules (.code 0 0) (hexDigits n ++ rest) =
      unescapeFrom rules (.code n (hexDigits n).length) rest := by
  induction n using Nat.strongRecOn generalizing rest with
  | ind n ih =>
      unfold hexDigits at ih hlength ⊢
      by_cases hsmall : n < 16
      · rw [Nat.toDigits_of_lt_base hsmall]
        show unescapeFrom rules (.code 0 0) (n.digitChar :: rest) = _
        rw [unescapeFrom_digit hsmall (by decide), Nat.mul_zero, Nat.zero_add]
        rfl
      · have hdigits := Nat.toDigits_of_base_le (by decide : 1 < 16) (Nat.le_of_not_lt hsmall)
        rw [hdigits, List.length_append, List.length_singleton] at hlength
        rw [hdigits, List.append_assoc, ih (n / 16) (by omega) _ (by omega),
          List.singleton_append, unescapeFrom_digit (Nat.mod_lt n (by decide)) (by omega),
          Nat.div_add_mod, List.length_append, List.length_singleton]

theorem mem_hexDigits {c : Char} (n : Nat) (h : c ∈ hexDigits n) :
    c ≠ '"' ∧ c ≠ '\\' ∧ c ≠ '\r' := by
  induction n using Nat.strongRecOn with
  | ind n ih =>
      unfold hexDigits at ih h
      by_cases hsmall : n < 16
      · rw [Nat.toDigits_of_lt_base hsmall] at h
        rcases List.mem_singleton.mp h with rfl
        rcases digitChar_hex n hsmall with ⟨_, _, hquote, hbackslash, hreturn, _⟩
        exact ⟨hquote, hbackslash, hreturn⟩
      · rw [Nat.toDigits_of_base_le (by decide : 1 < 16) (Nat.le_of_not_lt hsmall)] at h
        rcases List.mem_append.mp h with hfront | hlast
        · exact ih (n / 16) (by omega) hfront
        · rcases List.mem_singleton.mp hlast with rfl
          rcases digitChar_hex (n % 16) (Nat.mod_lt n (by decide)) with
            ⟨_, _, hquote, hbackslash, hreturn, _⟩
          exact ⟨hquote, hbackslash, hreturn⟩

theorem length_hexDigits_toNat (c : Char) : (hexDigits c.toNat).length ≤ 6 := by
  unfold hexDigits
  rw [Nat.length_toDigits_le_iff (by decide) (by decide)]
  have hvalid := c.valid
  simp only [UInt32.isValidChar, Nat.isValidChar] at hvalid
  show c.val.toNat < _
  omega

theorem charOfCode_toNat (c : Char) : charOfCode c.toNat = some c := by
  unfold charOfCode
  exact dif_pos c.valid

/-!
# Spelling a text
-/

structure SpellsText (piece cs : List Char) : Prop where
  closed : ∀ rest, escapedText false (piece ++ rest) =
    (escapedText false rest).map fun (text, after) => (piece ++ text, after)
  no_return : '\r' ∉ piece
  read : ∀ rest, unescapeFrom textEscapes .plain (piece ++ rest) =
    (cs ++ ·) <$> unescapeFrom textEscapes .plain rest

theorem escapedText_plain {cs : List Char} (h : ∀ c ∈ cs, c ≠ '"' ∧ c ≠ '\\') (rest : List Char) :
    escapedText false (cs ++ rest) =
      (escapedText false rest).map fun (text, after) => (cs ++ text, after) := by
  induction cs with
  | nil =>
      show escapedText false rest = _
      cases escapedText false rest with
      | none => rfl
      | some result => rfl
  | cons c more ih =>
      rcases h c (by simp) with ⟨hquote, hbackslash⟩
      rw [List.cons_append, escapedText, if_neg hquote, decide_eq_false hbackslash,
        ih fun d hd => h d (by simp [hd]), Option.map_map]
      rfl

theorem escapedText_backslash {c : Char} {cs : List Char}
    (h : ∀ d ∈ cs, d ≠ '"' ∧ d ≠ '\\') (rest : List Char) :
    escapedText false ('\\' :: c :: (cs ++ rest)) =
      (escapedText false rest).map fun (text, after) => ('\\' :: c :: (cs ++ text), after) := by
  rw [escapedText, if_neg (by decide), decide_eq_true rfl, escapedText, escapedText_plain h,
    Option.map_map, Option.map_map]
  rfl

namespace SpellsText

theorem nil : SpellsText [] [] := by
  constructor
  · exact escapedText_plain (by simp)
  · simp
  · intro rest
    simp

theorem append {s t cs ds : List Char} (hs : SpellsText s cs) (ht : SpellsText t ds) :
    SpellsText (s ++ t) (cs ++ ds) := by
  constructor
  · intro rest
    rw [List.append_assoc, hs.closed, ht.closed, Option.map_map]
    cases escapedText false rest with
    | none => rfl
    | some result => simp
  · rw [List.mem_append, not_or]
    exact ⟨hs.no_return, ht.no_return⟩
  · intro rest
    rw [List.append_assoc, hs.read, ht.read]
    cases unescapeFrom textEscapes .plain rest with
    | none => rfl
    | some result => simp

theorem short {letter c : Char} (hx : letter ≠ 'x') (hu : letter ≠ 'u')
    (hbreak : ¬(letter = '\n' ∨ letter = '\r')) (hc : shortEscape letter = some c)
    (hcode : c.toNat < 0x80) : SpellsText ['\\', letter] [c] := by
  constructor
  · exact escapedText_backslash (List.forall_mem_nil _)
  · intro hmem
    rcases List.mem_cons.mp hmem with h | h
    · cases h
    · exact hbreak (Or.inr (List.mem_singleton.mp h).symm)
  · intro rest
    show unescapeFrom textEscapes .plain ('\\' :: letter :: rest) = _
    rw [unescapeFrom, if_pos rfl, unescapeFrom, if_neg hx, if_neg hu, if_neg hbreak, hc]
    simp [textEscapes, hcode]

theorem plain {c : Char} (hquote : c ≠ '"') (hbackslash : c ≠ '\\') (hreturn : c ≠ '\r') :
    SpellsText [c] [c] := by
  constructor
  · exact escapedText_plain (by simpa using ⟨hquote, hbackslash⟩)
  · simpa using hreturn.symm
  · intro rest
    rw [List.singleton_append, unescapeFrom, if_neg hbackslash]
    simp [hquote, textEscapes]

theorem codePoint (c : Char) : SpellsText (codePointEscape c) [c] := by
  have hdigits : ∀ d ∈ '\x7b' :: (hexDigits c.toNat ++ ['\x7d']),
      d ≠ '"' ∧ d ≠ '\\' ∧ d ≠ '\r' := by
    intro d hd
    rcases List.mem_cons.mp hd with rfl | hd
    · decide
    · rcases List.mem_append.mp hd with hd | hd
      · exact mem_hexDigits _ hd
      · rcases List.mem_singleton.mp hd with rfl
        decide
  have hpiece : codePointEscape c = '\\' :: 'u' :: '\x7b' :: (hexDigits c.toNat ++ ['\x7d']) := by
    simp [codePointEscape]
  rw [hpiece]
  constructor
  · exact escapedText_backslash fun d hd => ⟨(hdigits d hd).left, (hdigits d hd).right.left⟩
  · intro hmem
    rcases List.mem_cons.mp hmem with h | hmem
    · cases h
    · rcases List.mem_cons.mp hmem with h | hmem
      · cases h
      · exact (hdigits '\r' hmem).right.right rfl
  · intro rest
    show unescapeFrom textEscapes .plain
      ('\\' :: 'u' :: '\x7b' :: (hexDigits c.toNat ++ ['\x7d'] ++ rest)) = _
    -- The digits are read up to the closing brace, and there is one at least.
    have hpositive : (hexDigits c.toNat).length ≠ 0 :=
      fun h => Nat.toDigits_ne_nil (List.length_eq_zero_iff.mp h)
    rw [unescapeFrom, if_pos rfl, unescapeFrom, if_neg (by decide), if_pos rfl, unescapeFrom,
      if_pos rfl, List.append_assoc, unescapeFrom_hexDigits _ _ (length_hexDigits_toNat c),
      List.singleton_append, unescapeFrom, if_pos rfl, if_neg hpositive, charOfCode_toNat]
    rfl

theorem escapeChar (c : Char) : SpellsText (Text.escapeChar c) [c] := by
  unfold Text.escapeChar
  split
  · exact short (by decide) (by decide) (by decide) rfl (by decide)
  · exact short (by decide) (by decide) (by decide) rfl (by decide)
  · exact short (by decide) (by decide) (by decide) rfl (by decide)
  · exact short (by decide) (by decide) (by decide) rfl (by decide)
  · exact short (by decide) (by decide) (by decide) rfl (by decide)
  · exact short (by decide) (by decide) (by decide) rfl (by decide)
  · next hreturn _ hbackslash hquote =>
      split
      · exact codePoint c
      · exact plain hquote hbackslash hreturn

theorem zero : SpellsText ['\\', 'x', '0', '0'] ['\x00'] := by
  constructor
  · exact escapedText_backslash (by simp : ∀ d ∈ ['0', '0'], d ≠ '"' ∧ d ≠ '\\')
  · decide
  · intro rest
    rfl

theorem escape (cs : List Char) : SpellsText (Text.escape cs) cs := by
  induction cs with
  | nil => exact nil
  | cons c rest ih => exact (escapeChar c).append ih

theorem escapeToken (cs : List Char) : SpellsText (Text.escapeToken cs) cs := by
  fun_induction Text.escapeToken cs with
  | case1 => exact nil
  | case2 next rest ih =>
      split
      · exact zero.append ih
      · exact (short (by decide) (by decide) (by decide) rfl (by decide)).append ih
  | case3 c rest h ih => exact (escapeChar c).append ih

end SpellsText

/-!
# Reading the literal
-/

theorem returnsAtLineEnds_of_not_mem {cs : List Char} (h : '\r' ∉ cs) :
    returnsAtLineEnds cs = true := by
  fun_induction returnsAtLineEnds cs with
  | case1 rest ih => simp at h
  | case2 rest hne => simp at h
  | case3 c rest hbreak hreturn ih => exact ih fun hmem => h (by simp [hmem])
  | case4 => rfl

theorem singleLineBreaks_of_not_mem {cs : List Char} (h : '\r' ∉ cs) :
    singleLineBreaks cs = cs := by
  fun_induction singleLineBreaks cs with
  | case1 rest ih => simp at h
  | case2 c rest hbreak ih => rw [ih fun hmem => h (by simp [hmem])]
  | case3 => rfl

namespace SpellsText

variable {piece cs : List Char}

theorem escapedText_quote (h : SpellsText piece cs) (rest : List Char) :
    escapedText false (piece ++ '"' :: rest) = some (piece, rest) := by
  rw [h.closed, escapedText, if_pos rfl]
  simp

theorem escapedContent? (h : SpellsText piece cs) (rest : List Char) :
    escapedContent? textEscapes (piece ++ '"' :: rest) = some (cs, dropSuffix rest) := by
  have hread : unescapeFrom textEscapes .plain piece = some cs := by
    have hnothing := h.read []
    rw [List.append_nil, unescapeFrom] at hnothing
    simpa using hnothing
  unfold Derive.escapedContent?
  rw [h.escapedText_quote]
  simp only [Option.bind_eq_bind, Option.bind_some, returnsAtLineEnds_of_not_mem h.no_return,
    singleLineBreaks_of_not_mem h.no_return, hread, if_true]
  rfl

theorem textLiteral? (h : SpellsText piece cs) (rest : List Char) :
    textLiteral? ('"' :: (piece ++ '"' :: rest)) =
      some (.text (String.ofList cs), dropSuffix rest) := by
  show (Derive.escapedContent? textEscapes (piece ++ '"' :: rest)).map _ = _
  rw [h.escapedContent? rest]
  rfl

end SpellsText

theorem textLiteral?_quote (s : String) (rest : List Char) :
    textLiteral? ((quote s).toList ++ rest) = some (.text s, dropSuffix rest) := by
  have h := (SpellsText.escape s.toList).textLiteral? rest
  simpa [quote] using h

theorem textLiteral?_quoteToken (s : String) (rest : List Char) :
    textLiteral? ((quoteToken s).toList ++ rest) = some (.text s, dropSuffix rest) := by
  have h := (SpellsText.escapeToken s.toList).textLiteral? rest
  simpa [quoteToken] using h

end Derive
end Rowsmith
