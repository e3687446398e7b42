import ComponentManifest.Files.Path
import ComponentManifest.Text.Utf8

/-!
# File trees

A file tree is a finite map from locations to entries. The root is a directory; every other entry
lies in a directory and has a proper name, and no location has two entries. These three facts are
part of the type, and the operations keep them.

1. Names, locations and entries.
2. The tree and looking up a location.
3. `put` and `remove`.
-/

namespace ComponentManifest

/-! ## Names, locations and entries -/

/-- A name that a directory can hold. -/
def ValidName (n : Text) : Prop :=
  n ≠ [] ∧ '/' ∉ n ∧ Path.isUsable n = true ∧ n ≠ ['.'] ∧ n ≠ ['.', '.']

instance (n : Text) : Decidable (ValidName n) :=
  inferInstanceAs (Decidable (_ ∧ _ ∧ _ ∧ _ ∧ _))

/-- The names that lead from the root to an entry. -/
abbrev Location := List Text

/-- The absolute path of a location. -/
def Location.path (l : Location) : Text := '/' :: Text.joinWith ['/'] l

/-- What a location holds. -/
inductive Entry where
  | dir
  | file (content : Bytes)
  | link (target : Text)
  deriving DecidableEq, Repr

/-! ## The tree -/

/-- The entry of a location in a list of entries; the root is a directory. -/
def entryIn (es : List (Location × Entry)) (l : Location) : Option Entry :=
  if l = [] then some .dir else es.lookup l

/-- A finite map from locations to entries. -/
structure Tree where
  entries : List (Location × Entry)
  /-- Names are proper, and the root is not listed. -/
  named : ∀ e ∈ entries, e.1 ≠ [] ∧ ∀ n ∈ e.1, ValidName n
  /-- Every entry lies in a directory. -/
  closed : ∀ e ∈ entries, entryIn entries e.1.dropLast = some .dir
  /-- No location is listed twice. -/
  distinct : (entries.map (·.1)).Nodup

namespace Tree

/-- The tree that has only the root. -/
def empty : Tree :=
  ⟨[], fun _ h => absurd h List.not_mem_nil, fun _ h => absurd h List.not_mem_nil, List.nodup_nil⟩

instance : Inhabited Tree := ⟨empty⟩

/-- What a location holds, if anything. -/
def entry? (t : Tree) (l : Location) : Option Entry := entryIn t.entries l

@[simp] theorem entry?_root (t : Tree) : t.entry? [] = some .dir := rfl

/-- The names in a directory. -/
def children (t : Tree) (l : Location) : List Text :=
  t.entries.filterMap fun e => if e.1.dropLast = l then e.1.getLast? else none

/-! ## Changing one location -/

theorem lookup_cons_ite {k : Location} {e : Location × Entry} {es : List (Location × Entry)} :
    (e :: es).lookup k = if k = e.1 then some e.2 else es.lookup k := by
  rw [List.lookup_cons]
  by_cases h : k = e.1
  · simp [h]
  · rw [if_neg h, beq_eq_false_iff_ne.2 h]

theorem lookup_filter_of_pos {es : List (Location × Entry)} {p : Location → Bool} {l : Location}
    (h : p l = true) : (es.filter fun e => p e.1).lookup l = es.lookup l := by
  induction es with
  | nil => rfl
  | cons e es ih =>
    rw [List.filter_cons, lookup_cons_ite]
    split
    · rw [lookup_cons_ite, ih]
    · next hp =>
      have hl : l ≠ e.1 := fun he => hp (he ▸ h)
      rw [if_neg hl, ih]

theorem dropLast_ne_self {l : Location} (h : l ≠ []) : l.dropLast ≠ l := fun he => by
  have := congrArg List.length he
  have := List.length_pos_iff.2 h
  simp at *
  omega

/-- The entries without those of a location. -/
def without (es : List (Location × Entry)) (l : Location) : List (Location × Entry) :=
  es.filter fun e => e.1 ≠ l

theorem lookup_without_of_ne {es : List (Location × Entry)} {l k : Location} (h : k ≠ l) :
    (without es l).lookup k = es.lookup k :=
  lookup_filter_of_pos (p := fun x => x ≠ l) (by simpa using h)

theorem lookup_append_of_ne {es : List (Location × Entry)} {l k : Location} {e : Entry}
    (h : k ≠ l) : (es ++ [(l, e)]).lookup k = es.lookup k := by
  induction es with
  | nil => rw [List.nil_append, lookup_cons_ite, if_neg h]
  | cons x xs ih => rw [List.cons_append, lookup_cons_ite, lookup_cons_ite, ih]

theorem entryIn_put_of_ne {es : List (Location × Entry)} {l k : Location} {e : Entry}
    (h : k ≠ l) : entryIn (without es l ++ [(l, e)]) k = entryIn es k := by
  unfold entryIn
  rw [lookup_append_of_ne h, lookup_without_of_ne h]

/-- May a location take a new entry? It has a proper name, its parent is a directory, and it is
not a directory itself. -/
def Accepts (t : Tree) (l : Location) : Prop :=
  l ≠ [] ∧ (∀ n ∈ l, ValidName n) ∧ t.entry? l.dropLast = some .dir ∧ t.entry? l ≠ some .dir

instance (t : Tree) (l : Location) : Decidable (t.Accepts l) :=
  inferInstanceAs (Decidable (_ ∧ _ ∧ _ ∧ _))

/-- Puts an entry at a location, in place of the file or link that is there. A location that does
not accept an entry is left as it is. -/
def put (t : Tree) (l : Location) (e : Entry) : Tree :=
  if h : t.Accepts l then
    { entries := without t.entries l ++ [(l, e)]
      named := by
        intro x hx
        rcases List.mem_append.1 hx with hx | hx
        · exact t.named x ((List.mem_filter.1 hx).1)
        · rw [List.mem_singleton.1 hx]; exact ⟨h.1, h.2.1⟩
      closed := by
        intro x hx
        rcases List.mem_append.1 hx with hx | hx
        · have hc := t.closed x ((List.mem_filter.1 hx).1)
          by_cases hl : x.1.dropLast = l
          · rw [hl] at hc
            exact absurd hc h.2.2.2
          · rw [entryIn_put_of_ne hl]; exact hc
        · rw [List.mem_singleton.1 hx, entryIn_put_of_ne (dropLast_ne_self h.1)]
          exact h.2.2.1
      distinct := by
        rw [List.map_append, List.nodup_append]
        refine ⟨(List.Nodup.sublist (List.filter_sublist.map _) t.distinct), by simp, ?_⟩
        intro a ha b hb
        obtain ⟨x, hx, rfl⟩ := List.mem_map.1 ha
        have hne : x.1 ≠ l := by simpa [without] using (List.mem_filter.1 hx).2
        rw [List.mem_singleton.1 hb]
        exact hne }
  else t

/-- Removes a location with all that lies below it. The root stays. -/
def remove (t : Tree) (l : Location) : Tree :=
  { entries := t.entries.filter fun e => !l.isPrefixOf e.1
    named := fun x hx => t.named x ((List.mem_filter.1 hx).1)
    closed := by
      intro x hx
      have hm := (List.mem_filter.1 hx).1
      have hp : l.isPrefixOf x.1 = false := by simpa using (List.mem_filter.1 hx).2
      have hd : (!l.isPrefixOf x.1.dropLast) = true := by
        by_cases hq : l.isPrefixOf x.1.dropLast = true
        · have := (List.isPrefixOf_iff_prefix.1 hq).trans (List.dropLast_prefix x.1)
          rw [List.isPrefixOf_iff_prefix.2 this] at hp
          cases hp
        · rw [Bool.not_eq_true _ |>.mp hq]; rfl
      have hc := t.closed x hm
      unfold entryIn at hc ⊢
      split
      · rfl
      · next hne =>
        rw [if_neg hne] at hc
        rw [lookup_filter_of_pos (p := fun k => !l.isPrefixOf k) hd]
        exact hc
    distinct := List.Nodup.sublist (List.filter_sublist.map _) t.distinct }

end Tree

end ComponentManifest
