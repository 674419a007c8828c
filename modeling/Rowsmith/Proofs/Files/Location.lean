import Rowsmith.Files.FileSystem
import Rowsmith.Proofs.Basic

/-!
# Where paths lead

Whether a path can be followed depends on the folders on its way, but where it leads does not: the
steps alone tell. What is at a path can therefore be told from one location.
-/

namespace Rowsmith
namespace FileSystem

/-!
# Nodes
-/

@[simp] theorem current_put (files : FileSystem) (location : Location) (node : Node) :
    (files.put location node).current = files.current := rfl

@[simp] theorem current_drop (files : FileSystem) (location : Location) :
    (files.drop location).current = files.current := rfl

theorem node?_nil (files : FileSystem) : files.node? [] = some .folder := rfl

theorem node?_of_ne_nil {files : FileSystem} {location : Location} (h : location ≠ []) :
    files.node? location = files.entries.lookup location := by
  unfold node?
  rw [if_neg (by simpa using h)]

theorem lookup_filter_ne {entries : List (Location × Node)} {location other : Location}
    (h : location ≠ other) :
    (entries.filter (·.1 != other)).lookup location = entries.lookup location := by
  induction entries with
  | nil => rfl
  | cons entry rest ih =>
      rcases entry with ⟨place, node⟩
      by_cases hplace : place = other
      · have hkey : (location == place) = false := by
          rw [hplace]
          exact beq_false_of_ne h
        rw [List.filter_cons_of_neg (by simp [hplace]), ih, List.lookup_cons, hkey]
      · rw [List.filter_cons_of_pos (by simp [hplace]), List.lookup_cons, List.lookup_cons, ih]

theorem node?_put_self (files : FileSystem) {location : Location} (node : Node)
    (h : location ≠ []) : (files.put location node).node? location = some node := by
  rw [node?_of_ne_nil h]
  unfold put
  rw [List.lookup_cons_self]

theorem node?_put_of_ne (files : FileSystem) {location other : Location} (node : Node)
    (h : location ≠ other) : (files.put other node).node? location = files.node? location := by
  by_cases hnil : location = []
  · rw [hnil, node?_nil, node?_nil]
  · rw [node?_of_ne_nil hnil, node?_of_ne_nil hnil]
    unfold put
    rw [List.lookup_cons, beq_false_of_ne h, lookup_filter_ne h]

theorem node?_drop_self (files : FileSystem) {location : Location} (h : location ≠ []) :
    (files.drop location).node? location = none := by
  rw [node?_of_ne_nil h]
  unfold drop
  rw [List.lookup_eq_none_iff]
  intro entry hentry
  have hne : entry.1 ≠ location := by simpa using (List.mem_filter.mp hentry).right
  exact bne_iff_ne.mpr (Ne.symm hne)

theorem node?_drop_of_ne (files : FileSystem) {location other : Location}
    (h : location ≠ other) : (files.drop other).node? location = files.node? location := by
  by_cases hnil : location = []
  · rw [hnil, node?_nil, node?_nil]
  · rw [node?_of_ne_nil hnil, node?_of_ne_nil hnil]
    exact lookup_filter_ne h

/-!
# Steps
-/

def follow : Location → List String → Location
  | here, [] => here
  | here, step :: rest =>
      if step = "." then follow here rest
      else if step = ".." then follow here.dropLast rest
      else follow (here ++ [step]) rest

def origin (files : FileSystem) (path : String) : Location :=
  if Path.isAbsolute path then [] else files.current

def destination (files : FileSystem) (path : String) : Location :=
  follow (files.origin path) (Path.steps path)

theorem follow_append (here : Location) (first second : List String) :
    follow here (first ++ second) = follow (follow here first) second := by
  induction first generalizing here with
  | nil => rfl
  | cons step rest ih =>
      rw [List.cons_append, follow, follow]
      split
      · exact ih here
      · split
        · exact ih here.dropLast
        · exact ih (here ++ [step])

theorem follow_names {names : List String} (h : ∀ name ∈ names, name ≠ "." ∧ name ≠ "..")
    (here : Location) : follow here names = here ++ names := by
  induction names generalizing here with
  | nil => rw [follow, List.append_nil]
  | cons name rest ih =>
      have hname := h name (by simp)
      rw [follow, if_neg hname.left, if_neg hname.right,
        ih (fun other hother => h other (List.mem_cons_of_mem name hother)), List.append_assoc]
      rfl

variable {files : FileSystem} {here location : Location} {path : String}

theorem walk_cons_eq_ok_iff {step : String} {rest : List String} :
    files.walk here (step :: rest) = .ok location ↔
      files.node? here = some .folder ∧ step.utf8ByteSize ≤ nameLimit ∧
        files.walk (follow here [step]) rest = .ok location := by
  rw [walk]
  unfold follow follow
  split
  · next hnode => simp [hnode]
  · next hnode => simp [hnode]
  · next hnode =>
      rw [hnode]
      by_cases hlong : nameLimit < step.utf8ByteSize
      · rw [if_pos hlong]
        simp [Nat.not_le.mpr hlong]
      · rw [if_neg hlong]
        simp only [Nat.le_of_not_lt hlong, true_and]
        split
        · rfl
        · split <;> rfl

theorem walk_eq_ok {steps : List String} (h : files.walk here steps = .ok location) :
    location = follow here steps := by
  induction steps generalizing here with
  | nil =>
      cases h
      rfl
  | cons step rest ih =>
      have hrest := (walk_cons_eq_ok_iff.mp h).right.right
      rw [ih hrest, ← follow_append]
      rfl

theorem walk_append (here : Location) (first second : List String) :
    files.walk here (first ++ second) =
      files.walk here first >>= fun middle => files.walk middle second := by
  induction first generalizing here with
  | nil => rfl
  | cons step rest ih =>
      rw [List.cons_append, walk, walk]
      split
      · rfl
      · rfl
      · split
        · rfl
        · split
          · exact ih here
          · split
            · exact ih here.dropLast
            · exact ih (here ++ [step])

/-!
# Paths
-/

theorem start_eq_ok (h : files.start path = .ok location) : location = files.origin path := by
  unfold start at h
  unfold origin
  split at h
  · cases h
  · split at h
    · cases h
    · split at h
      · cases h
      · split at h
        · next habsolute =>
            cases h
            rw [if_pos habsolute]
        · next habsolute =>
            cases h
            rw [if_neg habsolute]

theorem locate_eq_ok_iff :
    files.locate path = .ok location ↔
      files.start path = .ok (files.origin path) ∧
        files.walk (files.origin path) (Path.steps path) = .ok location := by
  unfold locate
  rw [bind_eq_ok_iff]
  constructor
  · intro hexists
    rcases hexists with ⟨start, hstart, hwalk⟩
    cases start_eq_ok hstart
    exact ⟨hstart, hwalk⟩
  · intro hboth
    rcases hboth with ⟨hstart, hwalk⟩
    exact ⟨_, hstart, hwalk⟩

theorem locate_eq_ok (h : files.locate path = .ok location) :
    location = files.destination path :=
  walk_eq_ok (locate_eq_ok_iff.mp h).right

theorem place?_eq_named_iff :
    files.place? path = .ok (.named location) ↔
      files.locate path = .ok location ∧
        ∃ above last, Path.steps path = above ++ [last] ∧ last ≠ "." ∧ last ≠ ".." := by
  unfold place?
  rw [bind_eq_ok_iff, locate_eq_ok_iff]
  dsimp only
  cases hlast : (Path.steps path).getLast? with
  | none =>
      have hsteps := List.getLast?_eq_none_iff.mp hlast
      constructor
      · intro hexists
        rcases hexists with ⟨start, _, h⟩
        cases h
      · intro hexists
        rcases hexists with ⟨_, above, last, h, _⟩
        rw [hsteps] at h
        simp at h
  | some last =>
      rcases List.getLast?_eq_some_iff.mp hlast with ⟨above, hsteps⟩
      simp only [hsteps, List.dropLast_concat, walk_append, bind_eq_ok_iff]
      constructor
      · intro hexists
        rcases hexists with ⟨start, hstart, folder, hfolder, place, hplace, h⟩
        cases start_eq_ok hstart
        split at h
        · cases h
        · next hname =>
            cases h
            exact ⟨⟨hstart, folder, hfolder, hplace⟩, above, last, rfl, not_or.mp hname⟩
      · intro hboth
        rcases hboth with ⟨⟨hstart, folder, hfolder, hplace⟩, others, other, hsame, hname⟩
        have hlasts : last = other := (List.append_inj' hsame rfl).right |> List.cons.inj |>.left
        refine ⟨_, hstart, folder, hfolder, location, hplace, ?_⟩
        rw [hlasts, if_neg (not_or.mpr hname)]
        rfl

theorem place?_eq_destination (h : files.place? path = .ok (.named location)) :
    location = files.destination path :=
  locate_eq_ok (place?_eq_named_iff.mp h).left

theorem ne_nil_of_place? (h : files.place? path = .ok (.named location)) : location ≠ [] := by
  rcases place?_eq_named_iff.mp h with ⟨hlocate, above, last, hsteps, hname⟩
  rw [locate_eq_ok hlocate, destination, hsteps, follow_append, follow_names]
  · simp
  · simpa using hname

theorem at?_eq_ok_iff {node : Node} :
    files.at? path = .ok node ↔
      ∃ location, files.locate path = .ok location ∧ files.node? location = some node ∧
        (node ≠ .folder → Path.endsInSlash path = false) := by
  unfold at?
  rw [bind_eq_ok_iff]
  constructor
  · intro hexists
    rcases hexists with ⟨location, hlocation, h⟩
    refine ⟨location, hlocation, ?_⟩
    split at h
    · cases h
    · next content hnode =>
        split at h
        · cases h
        · next hslash =>
            cases h
            exact ⟨hnode, fun _ => by simpa using hslash⟩
    · next hnode =>
        cases h
        exact ⟨hnode, fun hne => absurd rfl hne⟩
  · intro hexists
    rcases hexists with ⟨location, hlocation, hnode, hslash⟩
    refine ⟨location, hlocation, ?_⟩
    rw [hnode]
    cases node with
    | folder => rfl
    | file content =>
        dsimp only
        rw [hslash (by simp)]
        rfl

theorem readText_eq_ok_iff {s : String} :
    files.readText path = .ok s ↔
      ∃ location, files.locate path = .ok location ∧
        files.node? location = some (.file (.text s)) ∧ Path.endsInSlash path = false := by
  unfold readText
  constructor
  · intro h
    split at h
    · cases h
    · cases h
    · cases h
    · next hnode =>
        cases h
        rcases at?_eq_ok_iff.mp hnode with ⟨location, hlocation, hfile, hslash⟩
        exact ⟨location, hlocation, hfile, hslash (by simp)⟩
  · intro hexists
    rcases hexists with ⟨location, hlocation, hfile, hslash⟩
    rw [at?_eq_ok_iff.mpr ⟨location, hlocation, hfile, fun _ => hslash⟩]

end FileSystem
end Rowsmith
