import Rowsmith.Derive.Grammar

/-!
# Running readers

What each of the basic readers gives, one lemma for a reader. A reader made of others is run by
running the first of them and going on with what it gives.
-/

namespace Rowsmith
namespace Derive

variable {α β : Type} {ts us vs : Tokens}

/-!
# One after the other
-/

theorem run_bind {x : Reader α} {f : α → Reader β} {a : α} (h : x.run ts = some (a, us)) :
    (x >>= f).run ts = (f a).run us := by
  rw [StateT.run_bind, h]
  rfl

theorem run_get : (get : Reader Tokens).run ts = some (ts, ts) := rfl

namespace Reader

theorem run_sees (kind : Tokens → Bool) : (sees kind).run ts = some (kind ts, ts) := rfl

/-!
# Taking tokens
-/

theorem run_sign {text : String} (h : begins text ts = true) :
    (sign text).run ts = some (signTokens text.toList, ts.drop text.length) := by
  unfold sign
  rw [run_bind run_get, h]
  rfl

theorem run_identifier (name : Identifier) :
    identifier.run (.identifier name :: ts) = some (name, ts) := rfl

theorem run_name {name : Identifier} (h : isName name = true) :
    Reader.name.run (.identifier name :: ts) = some (name, ts) := by
  unfold Reader.name
  rw [run_bind (run_identifier name), h]
  rfl

theorem run_group (delimiter : Delimiter) (inner : Tokens) :
    (group delimiter).run (.group delimiter inner :: ts) = some (inner, ts) := by
  unfold group
  rw [run_bind run_get]
  dsimp only
  rw [if_pos rfl]
  rfl

/-!
# Putting readers together
-/

theorem run_optional_of_not {kind : Tokens → Bool} {reader : Reader Tokens}
    (h : kind ts = false) : (optional kind reader).run ts = some ([], ts) := by
  unfold optional
  rw [run_bind (run_sees _), h]
  rfl

theorem run_maybeSign_of_not {text : String} (h : begins text ts = false) :
    (maybeSign text).run ts = some ([], ts) :=
  run_optional_of_not h

theorem run_all {reader : Reader α} {a : α} (h : reader.run us = some (a, [])) :
    (all us reader).run ts = some (a, ts) := by
  unfold all
  rw [h]
  rfl

theorem run_many_nil {more : Tokens → Bool} (reader : Reader α) (bound : Nat)
    (h : more ts = false) : (manyWithin more reader (bound + 1)).run ts = some ([], ts) := by
  rw [manyWithin, run_bind (run_sees _), h]
  rfl

theorem run_many_cons {more : Tokens → Bool} {reader : Reader α} {bound : Nat} {a : α}
    {others : List α} (hmore : more ts = true) (ha : reader.run ts = some (a, us))
    (hothers : (manyWithin more reader bound).run us = some (others, vs)) :
    (manyWithin more reader (bound + 1)).run ts = some (a :: others, vs) := by
  rw [manyWithin, run_bind (run_sees _), hmore, if_pos rfl, run_bind ha, run_bind hothers]
  rfl

theorem run_many {more : Tokens → Bool} {reader : Reader α} {all : List α}
    (h : (manyWithin more reader (ts.length + 1)).run ts = some (all, us)) :
    (many more reader).run ts = some (all, us) := by
  unfold many
  rw [run_bind run_get, h]

theorem run_separated_nil {stop : Tokens → Bool} {between : String} {reader : Reader α}
    (bound : Nat) (h : stop ts = true) :
    (separatedWithin stop between reader (bound + 1)).run ts = some ([], ts) := by
  rw [separatedWithin, run_bind (run_sees _), h]
  rfl

theorem run_separated_last {stop : Tokens → Bool} {between : String} {reader : Reader α}
    {a : α} (bound : Nat) (hstop : stop ts = false) (ha : reader.run ts = some (a, us))
    (hend : begins between us = false) :
    (separatedWithin stop between reader (bound + 1)).run ts = some ([⟨a, false⟩], us) := by
  rw [separatedWithin, run_bind (run_sees _), hstop, if_neg Bool.false_ne_true, run_bind ha,
    run_bind (run_sees _), hend]
  rfl

theorem run_separated_cons {stop : Tokens → Bool} {between : String} {reader : Reader α}
    {bound : Nat} {a : α} {others : List (Entry α)} (hstop : stop ts = false)
    (ha : reader.run ts = some (a, us)) (hsign : begins between us = true)
    (hothers : (separatedWithin stop between reader bound).run (us.drop between.length) =
      some (others, vs)) :
    (separatedWithin stop between reader (bound + 1)).run ts = some (⟨a, true⟩ :: others, vs) := by
  rw [separatedWithin, run_bind (run_sees _), hstop, if_neg Bool.false_ne_true, run_bind ha,
    run_bind (run_sees _), hsign, if_pos rfl, run_bind (run_sign hsign), run_bind hothers]
  rfl

theorem run_separated {stop : Tokens → Bool} {between : String} {reader : Reader α}
    {all : List (Entry α)}
    (h : (separatedWithin stop between reader (ts.length + 1)).run ts = some (all, us)) :
    (separated stop between reader).run ts = some (all, us) := by
  unfold separated
  rw [run_bind run_get, h]

/-!
# Lists of things

Each thing takes a token at least, so the bound that a reader sets itself suffices for all of them.
-/

section Members

variable {members : List β} {source : β → Tokens} {value : β → α} {reader : Reader α}

theorem length_le_length_flatMap (hsource : ∀ b ∈ members, source b ≠ []) :
    members.length ≤ (members.flatMap source).length := by
  induction members with
  | nil => exact Nat.zero_le _
  | cons b members ih =>
      rcases List.forall_mem_cons.mp hsource with ⟨hfirst, hothers⟩
      have hmore := ih hothers
      have hpositive := List.length_pos_iff.mpr hfirst
      rw [List.flatMap_cons, List.length_append, List.length_cons]
      omega

theorem run_manyWithin_members {more : Tokens → Bool} {rest : Tokens}
    (hmore : ∀ b ∈ members, ∀ rest, more (source b ++ rest) = true)
    (hread : ∀ b ∈ members, ∀ rest, reader.run (source b ++ rest) = some (value b, rest))
    (hend : more rest = false) (bound : Nat) :
    (manyWithin more reader (members.length + (bound + 1))).run (members.flatMap source ++ rest) =
      some (members.map value, rest) := by
  induction members with
  | nil =>
      rw [List.length_nil, Nat.zero_add]
      exact run_many_nil _ bound hend
  | cons b members ih =>
      rcases List.forall_mem_cons.mp hmore with ⟨hfirst, hmore⟩
      rcases List.forall_mem_cons.mp hread with ⟨hvalue, hread⟩
      rw [List.flatMap_cons, List.append_assoc, List.length_cons, Nat.succ_add]
      exact run_many_cons (hfirst _) (hvalue _) (ih hmore hread)

theorem run_many_members {more : Tokens → Bool} {rest : Tokens}
    (hsource : ∀ b ∈ members, source b ≠ [])
    (hmore : ∀ b ∈ members, ∀ rest, more (source b ++ rest) = true)
    (hread : ∀ b ∈ members, ∀ rest, reader.run (source b ++ rest) = some (value b, rest))
    (hend : more rest = false) :
    (many more reader).run (members.flatMap source ++ rest) =
      some (members.map value, rest) := by
  have hlength := length_le_length_flatMap hsource
  have hall := run_manyWithin_members hmore hread hend
    ((members.flatMap source).length + rest.length - members.length)
  rw [← Nat.add_assoc, Nat.add_sub_cancel' (by omega), ← List.length_append] at hall
  exact run_many hall

theorem run_separatedWithin_members
    (hread : ∀ b ∈ members, ∀ rest, reader.run (source b ++ .punctuation ',' false :: rest) =
      some (value b, .punctuation ',' false :: rest)) (bound : Nat) :
    (separatedWithin List.isEmpty "," reader (members.length + (bound + 1))).run
        (members.flatMap fun b => source b ++ [.punctuation ',' false]) =
      some (members.map fun b => ⟨value b, true⟩, []) := by
  induction members with
  | nil =>
      rw [List.length_nil, Nat.zero_add]
      exact run_separated_nil bound rfl
  | cons b members ih =>
      rcases List.forall_mem_cons.mp hread with ⟨hvalue, hread⟩
      have hstop : List.isEmpty (source b ++ .punctuation ',' false ::
          (members.flatMap fun b => source b ++ [.punctuation ',' false])) = false := by
        cases source b <;> rfl
      rw [List.flatMap_cons, List.append_assoc, List.length_cons, Nat.succ_add]
      exact run_separated_cons hstop (hvalue _) rfl (ih hread)

theorem run_separated_members
    (hread : ∀ b ∈ members, ∀ rest, reader.run (source b ++ .punctuation ',' false :: rest) =
      some (value b, .punctuation ',' false :: rest)) :
    (separated List.isEmpty "," reader).run
        (members.flatMap fun b => source b ++ [.punctuation ',' false]) =
      some (members.map fun b => ⟨value b, true⟩, []) := by
  have hlength : members.length ≤
      (members.flatMap fun b => source b ++ [Token.punctuation ',' false]).length :=
    length_le_length_flatMap (by simp)
  have hall := run_separatedWithin_members hread
    ((members.flatMap fun b => source b ++ [.punctuation ',' false]).length - members.length)
  rw [← Nat.add_assoc, Nat.add_sub_cancel' hlength] at hall
  exact run_separated hall

end Members

end Reader

end Derive
end Rowsmith
