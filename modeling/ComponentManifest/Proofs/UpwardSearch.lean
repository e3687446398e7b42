import ComponentManifest.Proofs.TreeChanges
import ComponentManifest.Project.Load
import Mathlib.Data.List.Infix

/-!
# Searching upward

A search from a directory upward looks at the directory itself and then at every directory above it,
so that it finds the nearest file of a name. On names, the directories passed are the prefixes of
the way to the start, the longest first.

1. `Nearest` and `FirstMet`: the file that lies nearest, said of names.
2. The directories that are passed.
3. One directory, and what is left to those above it.
4. `findUp_eq_some_iff` and `findUp_eq_none_iff`: what a search finds.
-/

namespace ComponentManifest

open ComponentManifest.Path (Plain rooted)

variable {w : Workspace} {b : Bool} {ss ds names : List Text} {name file x y : Text}

/-! ## The nearest file -/

/-- Of the directories on the way `ss` from a root, the one that `above` leads to is the last with a
file of the name. -/
def Workspace.Nearest (w : Workspace) (b : Bool) (name : Text) (ss above : List Text) : Prop :=
  above <+: ss ∧ w.isFile (rooted b (above ++ [name])) = true ∧
    ∀ d, d <+: ss → above.length < d.length → w.isFile (rooted b (d ++ [name])) = false

/-- On the way `ss` from a root, `x` in the directory that `ds` leads to is the first file that a
search meets: it is one of the names, those before it are no files there, and no directory further
down on the way has a file of any of the names. -/
structure Workspace.FirstMet (w : Workspace) (b : Bool) (ss names ds : List Text) (x : Text) :
    Prop where
  way : ds <+: ss
  isFile : w.isFile (rooted b (ds ++ [x])) = true
  earlier : ∃ pre post, names = pre ++ x :: post ∧
    ∀ y ∈ pre, w.isFile (rooted b (ds ++ [y])) = false
  nearer : ∀ d, d <+: ss → ds.length < d.length →
    ∀ y ∈ names, w.isFile (rooted b (d ++ [y])) = false

/-! ## The directories passed -/

theorem dirname_root : Path.dirname (rooted b []) = rooted b [] := by cases b <;> rfl

theorem rooted_ne_concat (hs : Plain (ss ++ [x])) : rooted b ss ≠ rooted b (ss ++ [x]) := by
  intro he
  have hlen := congrArg List.length (Path.rooted_injective hs.left hs he)
  simp at hlen

theorem ancestorsWithin_rooted {n : Nat} (hs : Plain ss) (hn : ss.length < n) :
    ancestorsWithin n (rooted b ss) = ss.inits.reverse.map (rooted b) := by
  induction ss using List.reverseRecOn generalizing n with
  | nil =>
    obtain ⟨n, rfl⟩ := Nat.exists_eq_add_one_of_ne_zero (by omega : n ≠ 0)
    show rooted b [] :: (if Path.dirname (rooted b []) = rooted b [] then [] else _) = _
    rw [if_pos dirname_root]
    rfl
  | append_singleton ss x ih =>
    obtain ⟨n, rfl⟩ := Nat.exists_eq_add_one_of_ne_zero (by omega : n ≠ 0)
    have hd : Path.dirname (rooted b (ss ++ [x])) = rooted b ss :=
      Path.dirname_rooted hs.left hs.right
    have hlen : ss.length < n := by simpa using hn
    show rooted b (ss ++ [x]) :: (if Path.dirname (rooted b (ss ++ [x])) = _ then [] else
      ancestorsWithin n (Path.dirname (rooted b (ss ++ [x])))) = _
    rw [hd, if_neg (rooted_ne_concat hs), ih hs.left hlen, List.inits_append]
    simp

/-- The directories passed are the prefixes of the way, the longest first. -/
theorem ancestors_rooted (hs : Plain ss) :
    ancestors (rooted b ss) = ss.inits.reverse.map (rooted b) :=
  ancestorsWithin_rooted hs (Nat.lt_succ_of_le (Path.length_le_rooted hs))

/-! ## One directory -/

/-- The first of the names that is a file in the directory. -/
def Workspace.fileIn? (w : Workspace) (names : List Text) (dir : Text) : Option Text :=
  (names.map (Path.join dir)).find? w.isFile

theorem fileIn?_rooted (hs : Plain ss) (hn : ∀ x ∈ names, Plain [x]) :
    w.fileIn? names (rooted b ss) = (names.map fun x => rooted b (ss ++ [x])).find? w.isFile :=
  congrArg (List.find? w.isFile)
    (List.map_congr_left fun x hx => Path.join_rooted_name hs (hn x hx))

theorem fileIn?_eq_none_iff (hs : Plain ss) (hn : ∀ x ∈ names, Plain [x]) :
    w.fileIn? names (rooted b ss) = none ↔
      ∀ x ∈ names, w.isFile (rooted b (ss ++ [x])) = false := by
  rw [fileIn?_rooted hs hn, List.find?_eq_none]
  simp

theorem fileIn?_eq_some_iff (hs : Plain ss) (hn : ∀ x ∈ names, Plain [x]) :
    w.fileIn? names (rooted b ss) = some file ↔
      ∃ pre x post, names = pre ++ x :: post ∧ file = rooted b (ss ++ [x]) ∧
        w.isFile file = true ∧ ∀ y ∈ pre, w.isFile (rooted b (ss ++ [y])) = false := by
  rw [fileIn?_rooted hs hn, List.find?_eq_some_iff_append]
  constructor
  · rintro ⟨hf, as, bs, has, hno⟩
    obtain ⟨pre, rest, rfl, rfl, hrest⟩ := List.map_eq_append_iff.1 has
    obtain ⟨x, post, rfl, rfl, -⟩ := List.map_eq_cons_iff.1 hrest
    exact ⟨pre, x, post, rfl, rfl, hf, fun y hy => by simpa using hno _ (List.mem_map_of_mem hy)⟩
  · rintro ⟨pre, x, post, rfl, rfl, hf, hno⟩
    refine ⟨hf, _, _, List.map_append, fun p hp => ?_⟩
    obtain ⟨y, hy, rfl⟩ := List.mem_map.1 hp
    simp [hno y hy]

theorem fileIn?_congr {w' : Workspace} (hs : Plain ss) (hn : Plain [name])
    (h : w.isFile (rooted b (ss ++ [name])) = w'.isFile (rooted b (ss ++ [name]))) :
    w.fileIn? [name] (rooted b ss) = w'.fileIn? [name] (rooted b ss) := by
  rw [fileIn?_rooted hs (List.forall_mem_singleton.2 hn),
    fileIn?_rooted hs (List.forall_mem_singleton.2 hn), List.map_singleton, List.find?_singleton,
    List.find?_singleton, h]

theorem findUp_eq_findSome? (hs : Plain ss) :
    findUp w names (rooted b ss) =
      ss.inits.reverse.findSome? fun d => w.fileIn? names (rooted b d) := by
  unfold findUp
  rw [Workspace.absolute_rooted hs, ancestors_rooted hs, List.findSome?_map]
  rfl

/-- A search depends on its start only through the absolute path. -/
theorem findUp_of_absolute {start : Text} (hs : Plain ss) (h : w.absolute start = rooted b ss) :
    findUp w names start = findUp w names (rooted b ss) := by
  unfold findUp
  rw [h, Workspace.absolute_rooted hs]

theorem findUp_rooted_nil : findUp w names (rooted b []) = w.fileIn? names (rooted b []) := by
  rw [findUp_eq_findSome? Path.plain_nil]
  exact List.findSome?_singleton

/-- What one round does: it looks into the directory and leaves the rest to the one above. -/
theorem findUp_rooted_concat (hs : Plain (ss ++ [x])) :
    findUp w names (rooted b (ss ++ [x])) =
      (w.fileIn? names (rooted b (ss ++ [x]))).or (findUp w names (rooted b ss)) := by
  have hi : (List.map (fun l => ss ++ l) (List.inits [x]).tail) = [ss ++ [x]] := rfl
  rw [findUp_eq_findSome? hs, findUp_eq_findSome? hs.left, List.inits_append, hi, List.reverse_append,
    List.reverse_singleton, List.singleton_append, List.findSome?_cons]
  cases w.fileIn? names (rooted b (ss ++ [x])) <;> rfl

/-! ## What is found -/

theorem firstMet_concat_iff (hne : ds <+: ss) :
    w.FirstMet b (ss ++ [x]) names ds y ↔
      (∀ z ∈ names, w.isFile (rooted b (ss ++ [x] ++ [z])) = false) ∧
        w.FirstMet b ss names ds y := by
  have hlen := hne.length_le
  constructor
  · rintro ⟨-, hf, he, hno⟩
    refine ⟨hno _ List.prefix_rfl (by simp; omega), hne, hf, he, fun d hd => ?_⟩
    exact hno d (hd.trans (List.prefix_append ss [x]))
  · rintro ⟨hlow, -, hf, he, hno⟩
    refine ⟨hne.trans (List.prefix_append ss [x]), hf, he, fun d hd hlt => ?_⟩
    rcases List.prefix_concat_iff.1 hd with rfl | hd
    · exact hlow
    · exact hno d hd hlt

/-- In its own directory the first file is the first of the names. -/
theorem firstMet_self_iff (hs : Plain ss) (hn : ∀ x ∈ names, Plain [x]) :
    (∃ x, w.FirstMet b ss names ss x ∧ file = rooted b (ss ++ [x])) ↔
      w.fileIn? names (rooted b ss) = some file := by
  rw [fileIn?_eq_some_iff hs hn]
  constructor
  · rintro ⟨x, ⟨-, hf, ⟨pre, post, hnames, hno⟩, -⟩, rfl⟩
    exact ⟨pre, x, post, hnames, rfl, hf, hno⟩
  · rintro ⟨pre, x, post, hnames, rfl, hf, hno⟩
    exact ⟨x, ⟨List.prefix_rfl, hf, ⟨pre, post, hnames, hno⟩,
      fun d hd hlt => absurd hd.length_le (Nat.not_le.2 hlt)⟩, rfl⟩

/-- What a search finds is the first file that it meets. -/
theorem findUp_eq_some_iff (hs : Plain ss) (hn : ∀ x ∈ names, Plain [x]) :
    findUp w names (rooted b ss) = some file ↔
      ∃ ds x, w.FirstMet b ss names ds x ∧ file = rooted b (ds ++ [x]) := by
  induction ss using List.reverseRecOn with
  | nil =>
    rw [findUp_rooted_nil, ← firstMet_self_iff hs hn]
    refine ⟨fun ⟨x, h⟩ => ⟨[], x, h⟩, fun ⟨ds, x, h⟩ => ⟨x, ?_⟩⟩
    obtain rfl := List.prefix_nil.1 h.1.way
    exact h
  | append_singleton ss z ih =>
    rw [findUp_rooted_concat hs, Option.or_eq_some_iff, ← firstMet_self_iff hs hn,
      fileIn?_eq_none_iff hs hn, ih hs.left]
    constructor
    · rintro (⟨x, h⟩ | ⟨hlow, ds, x, hmet, rfl⟩)
      · exact ⟨_, x, h⟩
      · exact ⟨ds, x, (firstMet_concat_iff hmet.way).2 ⟨hlow, hmet⟩, rfl⟩
    · rintro ⟨ds, x, hmet, rfl⟩
      rcases List.prefix_concat_iff.1 hmet.way with rfl | hway
      · exact Or.inl ⟨x, hmet, rfl⟩
      · obtain ⟨hlow, hmet⟩ := (firstMet_concat_iff hway).1 hmet
        exact Or.inr ⟨hlow, ds, x, hmet, rfl⟩

theorem findUp_eq_none_iff (hs : Plain ss) (hn : ∀ x ∈ names, Plain [x]) :
    findUp w names (rooted b ss) = none ↔
      ∀ d, d <+: ss → ∀ x ∈ names, w.isFile (rooted b (d ++ [x])) = false := by
  rw [findUp_eq_findSome? hs, List.findSome?_eq_none_iff]
  simp only [List.mem_reverse, List.mem_inits]
  refine forall_congr' fun d => forall_congr' fun hd => fileIn?_eq_none_iff ?_ hn
  obtain ⟨rest, rfl⟩ := hd
  exact hs.left

theorem nearest_of_findUp (hs : Plain ss) (hn : Plain [name])
    (h : findUp w [name] (rooted b ss) = some file) :
    ∃ above, w.Nearest b name ss above ∧ file = rooted b (above ++ [name]) := by
  obtain ⟨above, x, ⟨hway, hf, ⟨pre, post, hnames, -⟩, hno⟩, rfl⟩ :=
    (findUp_eq_some_iff hs (List.forall_mem_singleton.2 hn)).1 h
  obtain rfl : x = name := by
    have hx : x ∈ [name] := hnames ▸ List.mem_append_right pre List.mem_cons_self
    exact List.mem_singleton.1 hx
  exact ⟨above, ⟨hway, hf, fun d hd hlt => hno d hd hlt x (List.mem_singleton_self x)⟩, rfl⟩

theorem findUp_of_nearest {above : List Text} (hs : Plain ss) (hn : Plain [name])
    (h : w.Nearest b name ss above) :
    findUp w [name] (rooted b ss) = some (rooted b (above ++ [name])) :=
  (findUp_eq_some_iff hs (List.forall_mem_singleton.2 hn)).2
    ⟨above, name, ⟨h.1, h.2.1, ⟨[], [], rfl, List.forall_mem_nil _⟩, fun d hd hlt =>
      List.forall_mem_singleton.2 (h.2.2 d hd hlt)⟩, rfl⟩

/-- A search depends on nothing but which of the files it asks for exist. -/
theorem findUp_congr {w' : Workspace} (hs : Plain ss) (hn : Plain [name])
    (h : ∀ d, d <+: ss → w.isFile (rooted b (d ++ [name])) = w'.isFile (rooted b (d ++ [name]))) :
    findUp w [name] (rooted b ss) = findUp w' [name] (rooted b ss) := by
  induction ss using List.reverseRecOn with
  | nil =>
    rw [findUp_rooted_nil, findUp_rooted_nil, fileIn?_congr hs hn (h [] List.nil_prefix)]
  | append_singleton ss x ih =>
    rw [findUp_rooted_concat hs, findUp_rooted_concat hs, fileIn?_congr hs hn (h _ List.prefix_rfl),
      ih hs.left fun d hd => h d (hd.trans (List.prefix_append ss [x]))]

end ComponentManifest
