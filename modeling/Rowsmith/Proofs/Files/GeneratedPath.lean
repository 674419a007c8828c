import Rowsmith.Files.Writer
import Rowsmith.Proofs.Files.Location
import Rowsmith.Proofs.Model.FileList
import Rowsmith.Proofs.Text.Basic

/-!
# Places of generated files

A generated file lies below its folder, whatever the folder is called and wherever it is. Different
paths lead to different places there, and none leads to where any file is drafted.
-/

namespace Rowsmith

open Text

/-!
# Cutting a text
-/

namespace Text

theorem exists_last {c : Char} {cs : List Char} (h : c ∈ cs) :
    ∃ before after, cs = before ++ c :: after ∧ c ∉ after := by
  rcases List.eq_append_cons_of_mem (List.mem_reverse.mpr h) with ⟨after, before, hsplit, hlast⟩
  refine ⟨before.reverse, after.reverse, ?_, by simpa using hlast⟩
  rw [← List.reverse_reverse cs, hsplit]
  simp

end Text

/-!
# Joined paths
-/

namespace Path

theorem steps_slash (before rest : String) :
    steps (before ++ "/" ++ rest) = steps before ++ steps rest := by
  have htext : (before ++ "/" ++ rest).toList = before.toList ++ '/' :: rest.toList := by simp
  unfold steps
  rw [htext, pieces, piecesFrom_append, List.filter_append, List.map_append]
  rfl

theorem steps_name {name : String} (hne : name ≠ "") (hslash : '/' ∉ name.toList) :
    steps name = [name] := by
  have hnil : name.toList ≠ [] := fun h => hne (String.toList_inj.mp h)
  unfold steps
  rw [pieces, piecesFrom_of_not_mem hslash]
  simp [hnil]

theorem bne_of_not_mem {c : Char} {cs : List Char} (h : c ∉ cs) :
    ∀ d ∈ cs.reverse, (d != c) = true := by
  intro d hd
  rw [bne_iff_ne]
  intro hsame
  subst hsame
  exact h (List.mem_reverse.mp hd)

def IsFront (before : List Char) : Prop :=
  before = [] ∨ ∃ folder, before = folder ++ ['/']

def front (base : String) : String :=
  if base.isEmpty || endsInSlash base then base else base ++ "/"

theorem isFront_front (base : String) : IsFront (front base).toList := by
  unfold front
  split
  · next hend =>
      rcases Bool.or_eq_true_iff.mp hend with hempty | hslash
      · rw [String.isEmpty_iff.mp hempty]
        exact Or.inl rfl
      · exact Or.inr (List.getLast?_eq_some_iff.mp (by simpa [endsInSlash] using hslash))
  · exact Or.inr ⟨base.toList, by simp⟩

theorem join_relative {path : String} (h : isAbsolute path = false) (base : String) :
    join base path = front base ++ path := by
  unfold join front
  rw [if_neg (by simp [h])]
  split
  · rfl
  · rfl

theorem steps_front_append (base path : String) :
    steps (front base ++ path) = steps base ++ steps path := by
  unfold front
  split
  · next hend =>
      rcases Bool.or_eq_true_iff.mp hend with hempty | hslash
      · rw [String.isEmpty_iff.mp hempty, String.empty_append]
        rfl
      · rcases List.getLast?_eq_some_iff.mp (by simpa [endsInSlash] using hslash) with
          ⟨before, hbase⟩
        have hsplit : base = String.ofList before ++ "/" := by
          rw [← String.toList_inj, hbase]
          simp
        have hsteps : steps base = steps (String.ofList before) := by
          rw [hsplit, ← String.append_empty (s := String.ofList before ++ "/"), steps_slash]
          exact List.append_nil _
        rw [hsteps, ← steps_slash, ← hsplit]
  · exact steps_slash base path

theorem isAbsolute_front_append {path : String} (h : isAbsolute path = false) (base : String) :
    isAbsolute (front base ++ path) = isAbsolute base := by
  unfold front
  by_cases hempty : base = ""
  · rw [hempty]
    exact h
  · have hnil : base.toList ≠ [] := fun hnil => hempty (String.toList_inj.mp hnil)
    unfold isAbsolute
    split
    · rw [String.toList_append, List.head?_append_of_ne_nil _ hnil]
    · rw [String.append_assoc, String.toList_append, List.head?_append_of_ne_nil _ hnil]

/-!
# Drafts
-/

theorem dropTail_cons {c : Char} {rest : List Char} (hc : c ≠ '/')
    (hnext : c = '.' → rest.head? ≠ some '/') : dropTail (c :: rest) = c :: rest := by
  cases rest with
  | nil =>
      unfold dropTail
      split
      · next hsame => exact absurd (List.cons.inj hsame).left hc
      · next hsame => cases (List.cons.inj hsame).right
      · rfl
  | cons d others =>
      unfold dropTail
      split
      · next hsame => exact absurd (List.cons.inj hsame).left hc
      · next hsame =>
          have hdot := (List.cons.inj hsame).left
          have hslash := (List.cons.inj (List.cons.inj hsame).right).left
          exact absurd (by rw [hslash]; rfl) (hnext hdot)
      · rfl

theorem splitLast_name {before last : List Char} (hbefore : IsFront before)
    (hlast : '/' ∉ last)
    (htail : dropTail (last.reverse ++ before.reverse) = last.reverse ++ before.reverse) :
    splitLast (before ++ last) = (before, last) := by
  have hall := bne_of_not_mem hlast
  have hdrop : before.reverse.dropWhile (· != '/') = before.reverse := by
    rcases hbefore with rfl | ⟨folder, rfl⟩
    · rfl
    · rw [List.reverse_append]
      rfl
  have htake : before.reverse.takeWhile (· != '/') = [] := by
    rcases hbefore with rfl | ⟨folder, rfl⟩
    · rfl
    · rw [List.reverse_append]
      rfl
  unfold splitLast
  dsimp only
  rw [List.reverse_append, htail, List.dropWhile_append_of_pos hall,
    List.takeWhile_append_of_pos hall, hdrop, htake]
  simp

theorem splitExtension?_name {stem extension : List Char} (hstem : stem ≠ [])
    (hextension : '.' ∉ extension) :
    splitExtension? (stem ++ '.' :: extension) = some (stem, extension) := by
  have hall := bne_of_not_mem hextension
  have hreverse : (stem ++ '.' :: extension).reverse =
      extension.reverse ++ '.' :: stem.reverse := by simp
  unfold splitExtension?
  dsimp only
  rw [hreverse, List.dropWhile_append_of_pos hall, List.takeWhile_append_of_pos hall]
  simp [hstem]

theorem splitExtension?_of_hidden {extension : List Char} (hextension : '.' ∉ extension) :
    splitExtension? ('.' :: extension) = none := by
  have hall := bne_of_not_mem hextension
  unfold splitExtension?
  dsimp only
  rw [List.reverse_cons, List.dropWhile_append_of_pos hall]
  rfl

theorem splitExtension?_of_not_mem {name : List Char} (h : '.' ∉ name) :
    splitExtension? name = none := by
  have hall := bne_of_not_mem h
  unfold splitExtension?
  dsimp only
  rw [← List.append_nil name.reverse, List.dropWhile_append_of_pos hall]
  rfl

theorem splitExtension?_cases (name : List Char) :
    splitExtension? name = none ∨
      ∃ stem extension, stem ≠ [] ∧ '.' ∉ extension ∧ name = stem ++ '.' :: extension := by
  by_cases hdot : '.' ∈ name
  · rcases Text.exists_last hdot with ⟨stem, extension, rfl, hextension⟩
    by_cases hstem : stem = []
    · rw [hstem]
      exact Or.inl (splitExtension?_of_hidden hextension)
    · exact Or.inr ⟨stem, extension, hstem, hextension, rfl⟩
  · exact Or.inl (splitExtension?_of_not_mem hdot)

structure IsName (name : List Char) : Prop where
  slash : '/' ∉ name
  nonempty : name ≠ []
  here : name ≠ ['.']
  up : name ≠ ['.', '.']

section Drafts

variable {before name : List Char} (hbefore : IsFront before)

include hbefore

theorem splitName?_name (hname : IsName name) :
    splitName? (String.ofList (before ++ name)) = some (before, name) := by
  have htail : dropTail (name.reverse ++ before.reverse) = name.reverse ++ before.reverse := by
    rcases List.eq_nil_or_concat name with hnil | ⟨others, c, hlast⟩
    · exact absurd hnil hname.nonempty
    · rw [List.concat_eq_append] at hlast
      have hslash := hname.slash
      rw [hlast] at hslash ⊢
      rw [List.reverse_append, List.reverse_singleton, List.singleton_append, List.cons_append]
      apply dropTail_cons
      · intro hc
        exact hslash (by simp [hc])
      · intro hc
        have hothers : others.reverse ≠ [] := by
          intro hnil
          rw [List.reverse_eq_nil_iff.mp hnil, hc] at hlast
          exact hname.here hlast
        rw [List.head?_append_of_ne_nil _ hothers]
        intro hhead
        exact hslash (List.mem_append_left _ (List.mem_reverse.mp (List.mem_of_mem_head? hhead)))
  unfold splitName?
  rw [String.toList_ofList, splitLast_name hbefore hname.slash htail]
  dsimp only
  rw [if_neg (by simp [hname.nonempty, hname.here, hname.up])]

theorem extension?_name (hname : IsName name) :
    extension? (String.ofList (before ++ name)) = (splitExtension? name).map (·.2) := by
  unfold extension?
  rw [splitName?_name hbefore hname]
  show (splitExtension? name >>= fun split => some split.2) = _
  cases splitExtension? name with
  | none => rfl
  | some split => rfl

theorem setExtension_name (hname : IsName name) {extension : List Char} (hne : extension ≠ []) :
    setExtension (before ++ name) extension =
      before ++ ((splitExtension? name).elim name (·.1) ++ '.' :: extension) := by
  unfold setExtension
  rw [splitName?_name hbefore hname]
  simp [hne]

theorem withExtension_dotted {stem extension : List Char}
    (hname : IsName (stem ++ '.' :: extension)) (hstem : stem ≠ []) (hextension : '.' ∉ extension)
    (other : List Char) :
    withExtension (String.ofList (before ++ (stem ++ '.' :: extension))) other =
      String.ofList (setExtension (before ++ (stem ++ ['.'])) other) := by
  have hcut : before ++ (stem ++ '.' :: extension) =
      (before ++ (stem ++ ['.'])) ++ extension := by simp
  unfold withExtension
  rw [extension?_name hbefore hname, splitExtension?_name hstem hextension]
  dsimp only [Option.map_some, Option.getD_some]
  rw [hcut, String.toList_ofList, String.length_ofList, List.length_append, Nat.add_sub_cancel,
    List.take_left]

theorem temporary_name (hname : IsName name)
    (hdots : ∀ extension, '.' ∉ extension → name ≠ '.' :: '.' :: extension) :
    temporary (String.ofList (before ++ name)) =
      String.ofList (before ++ (name ++ ".tmp".toList)) := by
  unfold temporary
  rcases splitExtension?_cases name with hnone | ⟨stem, extension, hstem, hextension, rfl⟩
  · rw [extension?_name hbefore hname, hnone]
    dsimp only [Option.map_none]
    unfold withExtension
    rw [extension?_name hbefore hname, hnone]
    dsimp only [Option.map_none, Option.getD_none, List.length_nil]
    rw [Nat.sub_zero, String.toList_ofList, String.length_ofList, List.take_length,
      setExtension_name hbefore hname (by decide), hnone]
    rfl
  · -- What stands before the extension is a name itself, its dot included, unless it is a dot.
    have hcut : IsName (stem ++ ['.']) := by
      constructor
      · intro hmem
        apply hname.slash
        rcases List.mem_append.mp hmem with hstem | hdot
        · exact List.mem_append_left _ hstem
        · cases List.mem_singleton.mp hdot
      · simp
      · simpa using hstem
      · intro hup
        have hsingle : stem = ['.'] := List.append_cancel_right hup
        exact hdots extension hextension (by rw [hsingle]; rfl)
    rw [extension?_name hbefore hname, splitExtension?_name hstem hextension]
    dsimp only [Option.map_some]
    rw [withExtension_dotted hbefore hname hstem hextension,
      setExtension_name hbefore hcut (by simp), splitExtension?_name hstem (by simp)]
    simp

/-- The draft of a file whose name is two dots and an extension would be the folder above. -/
theorem temporary_dots {extension : List Char} (hname : IsName ('.' :: '.' :: extension))
    (hextension : '.' ∉ extension) :
    temporary (String.ofList (before ++ '.' :: '.' :: extension)) =
      String.ofList (before ++ ['.', '.']) := by
  have hsplit := @splitExtension?_name ['.'] extension (by simp) hextension
  unfold temporary
  rw [extension?_name hbefore hname]
  rw [show '.' :: '.' :: extension = ['.'] ++ '.' :: extension from rfl] at hname ⊢
  rw [hsplit]
  dsimp only [Option.map_some]
  rw [withExtension_dotted hbefore hname (by simp) hextension]
  unfold setExtension splitName?
  rw [String.toList_ofList, splitLast_name hbefore (by decide)]
  · rfl
  · apply dropTail_cons (by decide)
    intro _
    simp

end Drafts

theorem temporary_source {before stem : String} (hbefore : IsFront before.toList)
    (hstem : stem.toList ≠ []) (hslash : '/' ∉ stem.toList) (hdot : '.' ∉ stem.toList) :
    temporary (before ++ (stem ++ ".rs")) = before ++ (stem ++ ".rs.tmp") := by
  have hfirst : ∀ rest, stem.toList ++ ".rs".toList ≠ '.' :: rest := by
    intro rest hsame
    cases hchars : stem.toList with
    | nil => exact hstem hchars
    | cons c others =>
        rw [hchars] at hsame hdot
        rw [(List.cons.inj hsame).left] at hdot
        exact hdot (by simp)
  have hname : IsName (stem.toList ++ ".rs".toList) := by
    constructor
    · simp [hslash]
    · simp
    · exact hfirst _
    · exact hfirst _
  have hdraft := temporary_name hbefore hname fun _ _ => hfirst _
  have htext (ending : String) : before ++ (stem ++ ending) =
      String.ofList (before.toList ++ (stem.toList ++ ending.toList)) := by simp
  rw [htext, htext, hdraft, List.append_assoc]
  rfl

end Path

theorem FileSystem.destination_join {files : FileSystem} {path : String}
    (h : Path.isAbsolute path = false) (base : String) :
    files.destination (Path.join base path) =
      follow (files.destination base) (Path.steps path) := by
  rw [Path.join_relative h]
  unfold destination origin
  rw [Path.isAbsolute_front_append h, Path.steps_front_append, follow_append]

/-!
# Source files
-/

def IsSourcePath (path : String) : Prop :=
  ∃ stem, IsAsciiWord stem.toList ∧ path ∈ sourcePaths stem

theorem not_mem_of_isAsciiWord {word : List Char} (h : IsAsciiWord word) {c : Char}
    (hc : isWordChar c = false) : c ∉ word := by
  intro hmem
  rw [h.parts c hmem] at hc
  cases hc

theorem steps_sourceName {stem ending : String} (hstem : IsAsciiWord stem.toList)
    (hending : '/' ∉ ending.toList) :
    Path.steps (stem ++ ".rs" ++ ending) = [stem ++ ".rs" ++ ending] := by
  have hslash : '/' ∉ (stem ++ ".rs" ++ ending).toList := by
    simp only [String.toList_append, List.mem_append, not_or]
    exact ⟨⟨not_mem_of_isAsciiWord hstem (by decide), by decide⟩, hending⟩
  apply Path.steps_name _ hslash
  intro hempty
  have hlength := congrArg String.length hempty
  simp [String.length_append] at hlength

theorem isAbsolute_sourceName {stem : String} (hstem : IsAsciiWord stem.toList) (ending : String) :
    Path.isAbsolute (stem ++ ending) = false := by
  rcases hstem.first with ⟨c, rest, hfirst, _⟩
  have hc : c ≠ '/' := by
    intro hsame
    subst hsame
    exact not_mem_of_isAsciiWord hstem (c := '/') (by decide) (by rw [hfirst]; simp)
  unfold Path.isAbsolute
  rw [String.toList_append, hfirst]
  simpa using hc

theorem sourceName_ne_dots {stem ending : String} :
    stem ++ ".rs" ++ ending ≠ "." ∧ stem ++ ".rs" ++ ending ≠ ".." := by
  constructor
  all_goals
    intro hsame
    have hlength := congrArg String.length hsame
    simp only [String.length_append] at hlength
    have hextension : ".rs".length = 3 := rfl
    have hdots : ".".length = 1 ∧ "..".length = 2 := ⟨rfl, rfl⟩
    omega

section Source

variable {path : String} (hpath : IsSourcePath path)

include hpath

theorem steps_sourcePath (ending : String) (hending : '/' ∉ ending.toList) :
    Path.isAbsolute (path ++ ending) = false ∧
      path ++ ending = "/".intercalate (Path.steps (path ++ ending)) ∧
      ∀ name ∈ Path.steps (path ++ ending), name ≠ "." ∧ name ≠ ".." := by
  rcases hpath with ⟨stem, hstem, hpath⟩
  have hname := steps_sourceName hstem hending
  rcases List.mem_pair.mp hpath with rfl | rfl
  · refine ⟨?_, ?_, ?_⟩
    · rw [String.append_assoc]
      exact isAbsolute_sourceName hstem _
    · rw [hname]
      simp
    · rw [hname]
      simpa using sourceName_ne_dots
  · have hparts : "schema/" ++ stem ++ ".rs" ++ ending =
        "schema" ++ "/" ++ (stem ++ ".rs" ++ ending) := by
      rw [← String.toList_inj]
      simp
    have hsteps : Path.steps ("schema/" ++ stem ++ ".rs" ++ ending) =
        ["schema", stem ++ ".rs" ++ ending] := by
      rw [hparts, Path.steps_slash, hname, Path.steps_name (by decide) (by decide)]
      rfl
    refine ⟨?_, ?_, ?_⟩
    · rw [hparts]
      unfold Path.isAbsolute
      simp
    · rw [hsteps, hparts]
      simp
    · rw [hsteps]
      simpa using sourceName_ne_dots

theorem destination_sourcePath (ending : String) (hending : '/' ∉ ending.toList)
    (files : FileSystem) (folder : String) :
    files.destination (Path.join folder (path ++ ending)) =
      files.destination folder ++ Path.steps (path ++ ending) := by
  rcases steps_sourcePath hpath ending hending with ⟨hrelative, _, hnames⟩
  rw [FileSystem.destination_join hrelative, FileSystem.follow_names hnames]

theorem temporary_sourcePath (folder : String) :
    Path.temporary (Path.join folder path) = Path.join folder (path ++ ".tmp") := by
  have hplain := (steps_sourcePath hpath "" (by decide)).left
  have hdraft := (steps_sourcePath hpath ".tmp" (by decide)).left
  rw [String.append_empty] at hplain
  rw [Path.join_relative hplain, Path.join_relative hdraft]
  rcases hpath with ⟨stem, hstem, hpath⟩
  have hne : stem.toList ≠ [] := by
    rcases hstem.first with ⟨c, rest, hfirst, _⟩
    rw [hfirst]
    simp
  have hslash : '/' ∉ stem.toList := not_mem_of_isAsciiWord hstem (by decide)
  have hdot : '.' ∉ stem.toList := not_mem_of_isAsciiWord hstem (by decide)
  rcases List.mem_pair.mp hpath with rfl | rfl
  · rw [String.append_assoc]
    exact Path.temporary_source (Path.isFront_front folder) hne hslash hdot
  · have hbelow : Path.IsFront (Path.front folder ++ "schema/").toList := by
      refine Or.inr ⟨(Path.front folder).toList ++ "schema".toList, ?_⟩
      simp
    have hsource := Path.temporary_source hbelow hne hslash hdot
    simp only [String.append_assoc] at hsource ⊢
    exact hsource

end Source

variable {path other : String}

theorem destination_source_inj (hpath : IsSourcePath path) (hother : IsSourcePath other)
    {files : FileSystem} {folder : String}
    (h : files.destination (Path.join folder path) = files.destination (Path.join folder other)) :
    path = other := by
  have hplace := destination_sourcePath hpath "" (by decide) files folder
  have hplace' := destination_sourcePath hother "" (by decide) files folder
  have hspelled := (steps_sourcePath hpath "" (by decide)).right.left
  have hspelled' := (steps_sourcePath hother "" (by decide)).right.left
  simp only [String.append_empty] at hplace hplace' hspelled hspelled'
  rw [hplace, hplace'] at h
  rw [hspelled, hspelled', List.append_cancel_left h]

theorem destination_source_ne_draft (hpath : IsSourcePath path) (hother : IsSourcePath other)
    (files : FileSystem) (folder : String) :
    files.destination (Path.join folder path) ≠
      files.destination (Path.temporary (Path.join folder other)) := by
  intro h
  have hplace := destination_sourcePath hpath "" (by decide) files folder
  have hspelled := (steps_sourcePath hpath "" (by decide)).right.left
  have hspelled' := (steps_sourcePath hother ".tmp" (by decide)).right.left
  rw [String.append_empty] at hplace hspelled
  rw [temporary_sourcePath hother, destination_sourcePath hother ".tmp" (by decide), hplace] at h
  have hsame : path = other ++ ".tmp" := by
    rw [hspelled, hspelled', List.append_cancel_left h]
  have hend : path.toList.getLast? = some 's' := by
    rcases hpath with ⟨stem, _, hpath⟩
    rcases List.mem_pair.mp hpath with rfl | rfl
    · rw [String.toList_append, List.getLast?_append]
      rfl
    · rw [String.toList_append, List.getLast?_append]
      rfl
  rw [hsame] at hend
  simp at hend

end Rowsmith
