import Rowsmith.Model.Render
import Rowsmith.Proofs.Derive.TextLiteral
import Rowsmith.Proofs.Model.Identifier

/-!
# What remains of a source text

A source text without the contents of its literals and without its documentation. The pieces of a
generated file are taken one by one: what stands between quotes goes, whatever it is, and so does a
comment, up to the end of its line.
-/

namespace Rowsmith

open Text Derive

/-!
# Reading over literals and comments
-/

inductive Place where
  | code
  | literal
  | backslash
  | comment
  deriving DecidableEq

def Place.isQuoted : Place → Bool
  | .literal | .backslash => true
  | .code | .comment => false

def opensComment (cs : List Char) : Bool :=
  "///".toList.isPrefixOf cs

/-- The quotes of a literal are kept, and so is the end of the line after a comment. -/
def bareFrom : Place → List Char → List Char
  | _, [] => []
  | .code, c :: rest =>
      if opensComment (c :: rest) then bareFrom .comment rest
      else c :: bareFrom (if c = '"' then .literal else .code) rest
  | .literal, c :: rest =>
      if c = '"' then c :: bareFrom .code rest
      else bareFrom (if c = '\\' then .backslash else .literal) rest
  | .backslash, _ :: rest => bareFrom .literal rest
  | .comment, c :: rest =>
      if c = '\n' then c :: bareFrom .code rest else bareFrom .comment rest

/-- The text without what its literals contain and without its documentation. -/
def bareText (source : String) : String :=
  String.ofList (bareFrom .code source.toList)

/-!
# Pieces of a text
-/

/-- In code, the first text is read over and leaves the second one. -/
def Strips (text bare : String) : Prop :=
  ∀ rest, bareFrom .code (text.toList ++ rest) = bare.toList ++ bareFrom .code rest

def isPlainCode (cs : List Char) : Bool :=
  cs.all fun c => c != '"' && c != '/'

theorem opensComment_cons {c : Char} (h : c ≠ '/') (rest : List Char) :
    opensComment (c :: rest) = false := by
  show ('/' == c && _) = false
  rw [beq_eq_false_iff_ne.mpr h.symm, Bool.false_and]

theorem bareFrom_plain {cs : List Char} (h : isPlainCode cs = true) (rest : List Char) :
    bareFrom .code (cs ++ rest) = cs ++ bareFrom .code rest := by
  induction cs with
  | nil => rfl
  | cons c cs ih =>
      simp only [isPlainCode, List.all_cons, Bool.and_eq_true, bne_iff_ne] at h
      rw [List.cons_append, bareFrom, opensComment_cons h.left.right, if_neg h.left.left]
      exact congrArg (c :: ·) (ih h.right)

theorem bareFrom_escapedText {cs content after : List Char} {escaped : Bool}
    (h : escapedText escaped cs = some (content, after)) :
    bareFrom (if escaped then .backslash else .literal) cs = '"' :: bareFrom .code after := by
  induction escaped, cs using escapedText.induct generalizing content with
  | case1 => cases h
  | case2 c rest ih =>
      rw [escapedText] at h
      rcases Option.map_eq_some_iff.mp h with ⟨inner, hinner, hpair⟩
      cases hpair
      exact ih hinner
  | case3 rest =>
      rw [escapedText, if_pos rfl] at h
      cases h
      rfl
  | case4 c rest hquote ih =>
      rw [escapedText, if_neg hquote] at h
      rcases Option.map_eq_some_iff.mp h with ⟨inner, hinner, hpair⟩
      cases hpair
      show bareFrom .literal (c :: rest) = _
      rw [bareFrom, if_neg hquote, ← ih hinner]
      simp only [decide_eq_true_eq]

theorem bareFrom_comment {cs rest : List Char} (h : '\n' ∉ cs) :
    bareFrom .comment (cs ++ '\n' :: rest) = '\n' :: bareFrom .code rest := by
  induction cs with
  | nil => rfl
  | cons c cs ih =>
      have hc : c ≠ '\n' := fun hc => h (hc ▸ List.mem_cons_self)
      rw [List.cons_append, bareFrom, if_neg hc]
      exact ih fun hmem => h (List.mem_cons_of_mem c hmem)

namespace Strips

theorem append {s t bare bare' : String} (hs : Strips s bare) (ht : Strips t bare') :
    Strips (s ++ t) (bare ++ bare') := by
  intro rest
  rw [String.toList_append, String.toList_append, List.append_assoc, hs, ht, List.append_assoc]

theorem plain {s : String} (h : isPlainCode s.toList = true) : Strips s s :=
  bareFrom_plain h

theorem quote (s : String) : Strips (Text.quote s) "\"\"" := by
  intro rest
  have hclosed : escapedText false (escape s.toList ++ '"' :: rest) =
      some (escape s.toList, rest) := (SpellsText.escape s.toList).escapedText_quote rest
  have hliteral : bareFrom .literal (escape s.toList ++ '"' :: rest) = '"' :: bareFrom .code rest :=
    bareFrom_escapedText hclosed
  have htext : (Text.quote s).toList ++ rest = '"' :: (escape s.toList ++ '"' :: rest) := by
    simp [Text.quote]
  have hno : opensComment ('"' :: (escape s.toList ++ '"' :: rest)) = false := rfl
  rw [htext, bareFrom, hno, if_pos rfl, hliteral]
  rfl

theorem line {s bare : String} (h : Strips s bare) : Strips (Text.line s) (Text.line bare) :=
  h.append (plain rfl)

theorem lines {texts bares : List String}
    (h : List.Forall₂ (fun text bare => Strips (Text.line text) (Text.line bare)) texts bares) :
    Strips (Text.lines texts) (Text.lines bares) := by
  induction h with
  | nil => exact fun rest => rfl
  | cons hfirst hothers ih =>
      have hall := hfirst.append ih
      unfold Text.lines at hall ⊢
      rw [List.map_cons, List.map_cons, String.join_cons, String.join_cons]
      exact hall

end Strips

/-!
# Documentation
-/

theorem bareFrom_documentation {cs : List Char} (h : '\n' ∉ cs) (rest : List Char) :
    bareFrom .code ("/// ".toList ++ (cs ++ '\n' :: rest)) = '\n' :: bareFrom .code rest := by
  have hno : '\n' ∉ "// ".toList ++ cs := by
    rw [List.mem_append, not_or]
    exact ⟨by decide, h⟩
  show bareFrom .comment ("// ".toList ++ (cs ++ '\n' :: rest)) = _
  rw [← List.append_assoc]
  exact bareFrom_comment hno

theorem strips_documentation {text : String} (h : '\n' ∉ text.toList) :
    Strips (line ("/// " ++ text)) blankLine := by
  intro rest
  have htext : (line ("/// " ++ text)).toList ++ rest =
      "/// ".toList ++ (text.toList ++ '\n' :: rest) := by
    simp [line]
  rw [htext]
  exact bareFrom_documentation h rest

theorem bareFrom_cons (place : Place) (c : Char) (cs : List Char) :
    ∃ next, bareFrom place (c :: cs) = bareFrom next cs ∧
        (next.isQuoted = true → place.isQuoted = true) ∨
      bareFrom place (c :: cs) = c :: bareFrom next cs ∧
        (next.isQuoted = true → place.isQuoted = true ∨ c = '"') := by
  cases place with
  | code =>
      rw [bareFrom]
      split
      · exact ⟨.comment, Or.inl ⟨rfl, id⟩⟩
      · refine ⟨_, Or.inr ⟨rfl, ?_⟩⟩
        intro hnext
        by_cases hc : c = '"'
        · exact Or.inr hc
        · rw [if_neg hc] at hnext
          cases hnext
  | literal =>
      rw [bareFrom]
      split
      · exact ⟨.code, Or.inr ⟨rfl, fun _ => Or.inl rfl⟩⟩
      · exact ⟨_, Or.inl ⟨rfl, fun _ => rfl⟩⟩
  | backslash => exact ⟨.literal, Or.inl ⟨rfl, fun _ => rfl⟩⟩
  | comment =>
      rw [bareFrom]
      split
      · exact ⟨.code, Or.inr ⟨rfl, Or.inl⟩⟩
      · exact ⟨.comment, Or.inl ⟨rfl, id⟩⟩

/-- Before the end of a line a reader shows some of the characters. If a literal is open by then,
its opening quote is among them. -/
theorem bareFrom_lineEnd (place : Place) (cs code : List Char) :
    ∃ shown after, bareFrom place (cs ++ '\n' :: code) = shown ++ bareFrom after ('\n' :: code) ∧
      shown.Sublist cs ∧
      (after.isQuoted = true → place.isQuoted = true ∨ '"' ∈ shown) := by
  -- One character is shown or not, and only one that is shown can open a literal.
  induction cs generalizing place with
  | nil => exact ⟨[], place, rfl, List.Sublist.refl [], Or.inl⟩
  | cons c cs ih =>
      rcases bareFrom_cons place c (cs ++ '\n' :: code) with
        ⟨next, ⟨hstep, hopen⟩ | ⟨hstep, hopen⟩⟩
      · rcases ih next with ⟨shown, after, htext, hsub, hquoted⟩
        refine ⟨shown, after, hstep.trans htext, hsub.cons c, ?_⟩
        intro hafter
        rcases hquoted hafter with hnext | hmem
        · exact Or.inl (hopen hnext)
        · exact Or.inr hmem
      · rcases ih next with ⟨shown, after, htext, hsub, hquoted⟩
        refine ⟨c :: shown, after, hstep.trans (congrArg (c :: ·) htext), hsub.cons_cons c, ?_⟩
        intro hafter
        rcases hquoted hafter with hnext | hmem
        · rcases hopen hnext with hplace | hc
          · exact Or.inl hplace
          · rw [hc]
            exact Or.inr List.mem_cons_self
        · exact Or.inr (List.mem_cons_of_mem c hmem)

/-- Code of which the part before its first literal has more letters and digits than the text does
not look the same when the text comes before it on a line of its own. -/
theorem bareFrom_line_ne {cs code front back : List Char}
    (hcode : bareFrom .code code = front ++ back) (hfront : '"' ∉ front)
    (hcount : cs.countP isAsciiAlphanumeric < front.countP isAsciiAlphanumeric) :
    bareFrom .code (cs ++ '\n' :: code) ≠ bareFrom .code code := by
  intro hsame
  rcases bareFrom_lineEnd .code cs code with ⟨shown, after, htext, hsub, hquoted⟩
  rw [htext] at hsame
  cases hafter : after.isQuoted with
  | false =>
      have hline : bareFrom after ('\n' :: code) = '\n' :: bareFrom .code code := by
        cases after with
        | code => rfl
        | comment => rfl
        | literal => cases hafter
        | backslash => cases hafter
      have hlength := congrArg List.length hsame
      rw [hline, List.length_append, List.length_cons] at hlength
      omega
  | true =>
      have hquote : '"' ∈ shown := by
        rcases hquoted hafter with hno | hmem
        · cases hno
        · exact hmem
      rw [hcode] at hsame
      rcases List.append_eq_append_iff.mp hsame with ⟨more, hmore, _⟩ | ⟨more, hmore, _⟩
      · exact hfront (hmore ▸ List.mem_append_left more hquote)
      · have hshown : front.countP isAsciiAlphanumeric ≤ shown.countP isAsciiAlphanumeric := by
          rw [hmore, List.countP_append]
          exact Nat.le_add_right _ _
        have hless := hsub.countP_le (p := isAsciiAlphanumeric)
        omega

theorem strips_header : Strips header header :=
  fun _ => rfl

theorem bareText_documented {text code shown : String} (htext : '\n' ∉ text.toList)
    (hcode : Strips code shown) :
    bareText (header ++ line ("/// " ++ text) ++ code) = header ++ blankLine ++ shown := by
  have hall := ((strips_header.append (strips_documentation htext)).append hcode) []
  unfold bareText
  rw [List.append_nil] at hall
  rw [hall, bareFrom, List.append_nil, String.ofList_toList]

theorem bareText_documented_iff {before table after code front back : String}
    (hbefore : '\n' ∉ before.toList) (hafter : '\n' ∉ after.toList)
    (hcode : Strips code (front ++ back)) (hfront : '"' ∉ front.toList)
    (hcount : (table ++ after).toList.countP isAsciiAlphanumeric <
      front.toList.countP isAsciiAlphanumeric) :
    bareText (header ++ line ("/// " ++ (before ++ table ++ after)) ++ code) =
      header ++ blankLine ++ (front ++ back) ↔ '\n' ∉ table.toList := by
  have hbare : bareFrom .code code.toList = front.toList ++ back.toList := by
    have hall := hcode []
    rwa [List.append_nil, String.toList_append, bareFrom, List.append_nil] at hall
  constructor
  · intro hsame hmem
    rcases List.eq_append_cons_of_mem hmem with ⟨first, rest, hsplit, hfirst⟩
    have hopen : '\n' ∉ before.toList ++ first := by
      rw [List.mem_append, not_or]
      exact ⟨hbefore, hfirst⟩
    have htext : (header ++ line ("/// " ++ (before ++ table ++ after)) ++ code).toList =
        header.toList ++ ("/// ".toList ++ ((before.toList ++ first) ++
          '\n' :: ((rest ++ after.toList) ++ '\n' :: code.toList))) := by
      simp [line, hsplit]
    have hgoal : (header ++ blankLine ++ (front ++ back)).toList =
        header.toList ++ '\n' :: bareFrom .code code.toList := by
      rw [hbare]
      simp [blankLine, line]
    have hless : (rest ++ after.toList).countP isAsciiAlphanumeric <
        front.toList.countP isAsciiAlphanumeric := by
      apply Nat.lt_of_le_of_lt _ hcount
      rw [String.toList_append, hsplit]
      simp only [List.countP_append, List.countP_cons]
      omega
    -- Behind the line break the name is code, with too few letters to show what the front shows.
    apply bareFrom_line_ne hbare hfront hless
    have hchars := congrArg String.toList hsame
    unfold bareText at hchars
    rw [String.toList_ofList, htext, strips_header, bareFrom_documentation hopen, hgoal] at hchars
    exact (List.cons.inj (List.append_cancel_left hchars)).right
  · intro hline
    apply bareText_documented _ hcode
    simp only [String.toList_append, List.mem_append, not_or]
    exact ⟨⟨hbefore, hline⟩, hafter⟩

end Rowsmith
