import Rowsmith.Proofs.Derive.Reading

/-!
# Reading paths as types

A path of names, the last of which may have one argument, is read as a type before a comma, before
the bracket that closes generic arguments, and at the end.
-/

namespace Rowsmith
namespace Derive

/-!
# Names and ends
-/

inductive EndsType : Tokens → Prop where
  | finish : EndsType []
  | comma (joint : Bool) (rest : Tokens) : EndsType (.punctuation ',' joint :: rest)
  | closing (joint : Bool) (rest : Tokens) : EndsType (.punctuation '>' joint :: rest)

theorem beginsWithOneOf_of_isName {name : Identifier} (h : isName name = true) {words : List String}
    (hwords : ∀ word ∈ words, word ∈ reserved) (ts : Tokens) :
    beginsWithOneOf words (.identifier name :: ts) = false := by
  unfold beginsWithOneOf
  rw [List.any_eq_false]
  intro word hword hbegins
  simp only [beginsWithWord, Bool.and_eq_true, Bool.not_eq_true', decide_eq_true_eq] at hbegins
  rcases hbegins with ⟨hraw, rfl⟩
  unfold isName at h
  rw [hraw, Bool.false_or, Bool.not_eq_true', ← Bool.not_eq_true, List.contains_iff_mem] at h
  exact h (hwords name.word hword)

theorem beginsWithWord_of_isName {name : Identifier} (h : isName name = true) {word : String}
    (hword : word ∈ reserved) (ts : Tokens) :
    beginsWithWord word (.identifier name :: ts) = false := by
  have hone := beginsWithOneOf_of_isName h (List.forall_mem_singleton.mpr hword) ts
  simpa [beginsWithOneOf] using hone

theorem beginsWithName_of_isName {name : Identifier} (h : isName name = true) (ts : Tokens) :
    beginsWithName (.identifier name :: ts) = true := h

theorem beginsPathName_of_isName {name : Identifier} (h : isName name = true) (ts : Tokens) :
    beginsPathName (.identifier name :: ts) = true := by
  unfold beginsPathName
  rw [beginsWithName_of_isName h]
  rfl

def FollowsPlainName (ts : Tokens) : Prop :=
  (begins "::" ts && begins "<" (ts.drop 2)) = false ∧ beginsAngle ts = false

theorem EndsType.followsPlainName {ts : Tokens} (h : EndsType ts) : FollowsPlainName ts := by
  cases h with
  | finish => exact ⟨rfl, rfl⟩
  | comma joint rest => exact ⟨rfl, rfl⟩
  | closing joint rest => exact ⟨rfl, rfl⟩

namespace Reader

variable (read : PhraseReader)

/-!
# Segments
-/

theorem run_segment_plain {name : Identifier} {ts : Tokens} (hname : isName name = true)
    (hts : FollowsPlainName ts) :
    (segment read false).run (.identifier name :: ts) = some (.ofName name, ts) := by
  have hself := beginsWithWord_of_isName hname (by decide : "Self" ∈ reserved) ts
  have hkeywords := beginsWithOneOf_of_isName hname
    (by decide : ∀ word ∈ ["super", "self", "crate", "try"], word ∈ reserved) ts
  unfold segment
  rw [run_bind (run_sees _), hkeywords, if_neg Bool.false_ne_true, run_bind (run_sees _), hself,
    if_neg Bool.false_ne_true, run_bind (run_name hname), run_bind run_get]
  dsimp only
  rw [hts.left, hts.right]
  rfl

def laterNames (names : List Identifier) : Tokens :=
  names.flatMap fun name => separator ++ [.identifier name]

theorem laterNames_cons (name : Identifier) (names : List Identifier) (ts : Tokens) :
    laterNames (name :: names) ++ ts =
      .punctuation ':' true :: .punctuation ':' false :: .identifier name ::
        (laterNames names ++ ts) := rfl

theorem length_laterNames (names : List Identifier) :
    (laterNames names).length = names.length + 2 * names.length := by
  induction names with
  | nil => rfl
  | cons name names ih =>
      show (separator ++ [Token.identifier name] ++ laterNames names).length = _
      rw [List.length_append, ih, List.length_cons]
      show 3 + _ = _
      omega

theorem followsPlainName_laterNames (names : List Identifier) {ts : Tokens}
    (h : FollowsPlainName ts) : FollowsPlainName (laterNames names ++ ts) := by
  cases names with
  | nil => exact h
  | cons name names => exact ⟨rfl, rfl⟩

theorem run_laterNames {names : List Identifier} {ts rest : Tokens} {bound : Nat}
    {others : List PathTokens} (hnames : ∀ name ∈ names, isName name = true)
    (hplain : FollowsPlainName ts)
    (hothers : (manyWithin continuesPath (laterSegment read false) bound).run ts =
      some (others, rest)) :
    (manyWithin continuesPath (laterSegment read false) (names.length + bound)).run
      (laterNames names ++ ts) = some (names.map PathTokens.ofName ++ others, rest) := by
  induction names with
  | nil =>
      rw [List.length_nil, Nat.zero_add]
      exact hothers
  | cons name names ih =>
      have hname := hnames name (by simp)
      have hmore := ih fun n hn => hnames n (by simp [hn])
      have hsegment : (laterSegment read false).run (laterNames (name :: names) ++ ts) =
          some (.ofName name, laterNames names ++ ts) := by
        unfold laterSegment
        rw [laterNames_cons, run_bind (run_sign rfl)]
        exact run_segment_plain read hname (followsPlainName_laterNames names hplain)
      rw [List.length_cons, Nat.succ_add]
      exact run_many_cons rfl hsegment hmore

/-!
# Paths
-/

theorem continuesPath_of_endsType {ts : Tokens} (h : EndsType ts) : continuesPath ts = false := by
  cases h with
  | finish => rfl
  | comma joint rest => rfl
  | closing joint rest => rfl

def joined (first : PathTokens) (others : List PathTokens) : PathTokens :=
  let path := others.foldl PathTokens.after first
  { path with
    trunk := [] ++ path.trunk
    isSingle := path.isSingle && true }

theorem run_simplePath {name : Identifier} {us ts rest : Tokens} {first : PathTokens}
    {others : List PathTokens}
    (hfirst : (segment read false).run (.identifier name :: us) = some (first, ts))
    (hothers : (manyWithin continuesPath (laterSegment read false) (ts.length + 1)).run ts =
      some (others, rest)) :
    (simplePath read false).run (.identifier name :: us) = some (joined first others, rest) := by
  have hroot : begins "::" (.identifier name :: us) = false := rfl
  unfold simplePath
  rw [run_bind (run_maybeSign_of_not hroot), run_bind hfirst, run_bind (run_many hothers)]
  rfl

theorem isQualified_joined (first : PathTokens) (others : List PathTokens) :
    (joined first others).isQualified = first.isQualified := by
  show (others.foldl PathTokens.after first).isQualified = _
  induction others generalizing first with
  | nil => rfl
  | cons other others ih =>
      rw [List.foldl_cons, ih]
      rfl

theorem run_plainPath {name : Identifier} {names : List Identifier} {rest : Tokens}
    (hname : isName name = true) (hnames : ∀ n ∈ names, isName n = true)
    (hrest : EndsType rest) :
    (simplePath read false).run (.identifier name :: (laterNames names ++ rest)) =
      some (joined (.ofName name) (names.map PathTokens.ofName), rest) := by
  have hplain := hrest.followsPlainName
  have hfirst := run_segment_plain read hname (followsPlainName_laterNames names hplain)
  refine run_simplePath read hfirst ?_
  have hend := run_many_nil (laterSegment read false) (2 * names.length + rest.length)
    (continuesPath_of_endsType hrest)
  have hothers := run_laterNames read hnames hplain hend
  have hbound : (laterNames names ++ rest).length + 1 =
      names.length + (2 * names.length + rest.length + 1) := by
    rw [List.length_append, length_laterNames]
    omega
  rw [hbound, hothers, List.append_nil]

theorem run_genericPath {name last : Identifier} {names : List Identifier}
    {us rest : Tokens} {generic : PathTokens}
    (hname : isName name = true) (hnames : ∀ n ∈ names, isName n = true)
    (hlast : (segment read false).run (.identifier last :: us) = some (generic, rest))
    (hrest : EndsType rest) :
    (simplePath read false).run
      (.identifier name :: (laterNames names ++ (laterNames [last] ++ us))) =
        some (joined (.ofName name) (names.map PathTokens.ofName ++ [generic]), rest) := by
  have hplain : FollowsPlainName (laterNames [last] ++ us) := ⟨rfl, rfl⟩
  have hfirst := run_segment_plain read hname (followsPlainName_laterNames names hplain)
  refine run_simplePath read hfirst ?_
  have hsegment : (laterSegment read false).run (laterNames [last] ++ us) =
      some (generic, rest) := by
    unfold laterSegment
    rw [laterNames_cons, run_bind (run_sign rfl)]
    exact hlast
  have hend := run_many_nil (laterSegment read false) (2 * names.length + us.length + 2)
    (continuesPath_of_endsType hrest)
  have hmore : continuesPath (laterNames [last] ++ us) = true := rfl
  have hlater := run_many_cons hmore hsegment hend
  have hothers := run_laterNames read hnames hplain hlater
  have hbound : (laterNames names ++ (laterNames [last] ++ us)).length + 1 =
      names.length + (2 * names.length + us.length + 2 + 1 + 1) := by
    rw [List.length_append, List.length_append, length_laterNames, length_laterNames,
      List.length_singleton]
    omega
  rw [hbound, hothers]

theorem run_genericName {last : Identifier} {us rest : Tokens} {generic : PathTokens}
    (hlast : (segment read false).run (.identifier last :: us) = some (generic, rest))
    (hrest : EndsType rest) :
    (simplePath read false).run (.identifier last :: us) = some (joined generic [], rest) :=
  run_simplePath read hlast (run_many_nil _ rest.length (continuesPath_of_endsType hrest))

/-!
# Types
-/

theorem run_typeTokens {name : Identifier} {us rest : Tokens} {path : PathTokens} (plus : Bool)
    (hname : isName name = true) (hsign : begins "#" us = false) (hrest : EndsType rest)
    (hpath : (simplePath read false).run (.identifier name :: us) = some (path, rest))
    (hqualified : path.isQualified = false) :
    (typeTokens read plus).run (.identifier name :: us) =
      some (⟨path.tokens, .path path.isSingle⟩, rest) := by
  have hbinder : (maybeBinder read).run (.identifier name :: us) =
      some ([], .identifier name :: us) :=
    run_optional_of_not (beginsWithWord_of_isName hname (by decide : "for" ∈ reserved) us)
  have hfunction : beginsFunctionType (.identifier name :: us) = false :=
    beginsWithOneOf_of_isName hname (by decide : ∀ word ∈ ["fn", "unsafe", "extern"],
      word ∈ reserved) us
  have hbuiltIn : beginsBuiltIn (.identifier name :: us) = false := by
    unfold beginsBuiltIn
    rw [List.drop_one, List.tail_cons, hsign, Bool.and_false]
  have hbegins : beginsPath (.identifier name :: us) = true := by
    unfold beginsPath
    rw [beginsPathName_of_isName hname]
    rfl
  have hmacro : beginsMacroCall rest = false := by
    cases hrest <;> rfl
  have hplus : begins "+" rest = false := by
    cases hrest <;> rfl
  have hread : (Reader.path read false).run (.identifier name :: us) = some (path, rest) := by
    unfold Reader.path
    rw [run_bind (run_sees _)]
    exact hpath
  have htype : (pathType read plus []).run (.identifier name :: us) =
      some (⟨path.tokens, .path path.isSingle⟩, rest) := by
    unfold pathType
    rw [run_bind hread, hqualified, if_neg Bool.false_ne_true, run_bind run_get, hmacro,
      Bool.and_false, if_neg Bool.false_ne_true]
    dsimp only
    rw [run_bind run_get, hplus, Bool.and_false]
    rfl
  unfold typeTokens
  rw [run_bind hbinder, run_bind run_get, hfunction, if_neg Bool.false_ne_true, hbuiltIn, hbegins]
  exact htype

/-!
# Arguments
-/

def genericSegment (name : Identifier) (type : Tokens) : PathTokens where
  trunk := [.identifier name]
  arguments := angleTokens [⟨⟨false, type⟩, false⟩]
  isBare := false
  isPlain := false
  isSingle := true
  isQualified := false

theorem run_arguments {joint closing : Bool} {us rest type : Tokens}
    (hfirst : begins ">" us = false)
    (hargument : (argument read).run us = some (⟨false, type⟩, .punctuation '>' closing :: rest)) :
    (arguments read).run (.punctuation '<' joint :: us) =
      some ([⟨⟨false, type⟩, false⟩], rest) := by
  have hopening : begins "<" (.punctuation '<' joint :: us) = true := rfl
  have hclosing : begins ">" (.punctuation '>' closing :: rest) = true := rfl
  have hlist : (separated (begins ">") "," (argument read)).run us =
      some ([⟨⟨false, type⟩, false⟩], .punctuation '>' closing :: rest) :=
    run_separated (run_separated_last us.length hfirst hargument rfl)
  unfold arguments
  rw [run_bind (run_sign hopening)]
  show StateT.run (_ >>= _) us = _
  rw [run_bind hlist, run_bind (run_sign hclosing)]
  rfl

theorem run_genericSegment {name : Identifier} {joint closing : Bool} {us rest type : Tokens}
    (hname : isName name = true)
    (hopening : beginsAngle (.punctuation '<' joint :: us) = true)
    (hfirst : begins ">" us = false)
    (hargument : (argument read).run us = some (⟨false, type⟩, .punctuation '>' closing :: rest)) :
    (segment read false).run (.identifier name :: .punctuation '<' joint :: us) =
      some (genericSegment name type, rest) := by
  have hself := beginsWithWord_of_isName hname (by decide : "Self" ∈ reserved)
    (.punctuation '<' joint :: us)
  have hkeywords := beginsWithOneOf_of_isName hname
    (by decide : ∀ word ∈ ["super", "self", "crate", "try"], word ∈ reserved)
    (.punctuation '<' joint :: us)
  have hcolons : (maybeSign "::").run (.punctuation '<' joint :: us) =
      some ([], .punctuation '<' joint :: us) := run_maybeSign_of_not rfl
  unfold segment
  rw [run_bind (run_sees _), hkeywords, if_neg Bool.false_ne_true, run_bind (run_sees _), hself,
    if_neg Bool.false_ne_true, run_bind (run_name hname), run_bind run_get, hopening]
  show StateT.run (_ >>= _) (.punctuation '<' joint :: us) = _
  rw [run_bind hcolons, run_bind (run_arguments read hfirst hargument)]
  rfl

theorem run_argument {name : Identifier} {closing : Bool} {us rest : Tokens} {path : PathTokens}
    (hname : isName name = true)
    (htype : (read (.type true)).run (.identifier name :: us) =
      some (⟨path.tokens, .path path.isSingle⟩, .punctuation '>' closing :: rest)) :
    (argument read).run (.identifier name :: us) =
      some (⟨false, path.tokens⟩, .punctuation '>' closing :: rest) := by
  have hlifetime : beginsLifetimeArgument (.identifier name :: us) = false := rfl
  have hconstant : beginsConstant (.identifier name :: us) = false := by
    unfold beginsConstant beginsWithLiteral
    dsimp only
    rw [beginsWithOneOf_of_isName hname (by decide : ∀ word ∈ ["true", "false"], word ∈ reserved)]
    rfl
  have hassociation : (association read).run (.punctuation '>' closing :: rest) =
      some ([], .punctuation '>' closing :: rest) := rfl
  unfold argument
  rw [run_bind (run_sees _), hlifetime, if_neg Bool.false_ne_true, run_bind (run_sees _), hconstant,
    if_neg Bool.false_ne_true, run_bind htype]
  cases path.isSingle with
  | false => rfl
  | true =>
      show StateT.run (_ >>= _) _ = _
      rw [run_bind hassociation, List.append_nil]
      rfl

end Reader

end Derive
end Rowsmith
