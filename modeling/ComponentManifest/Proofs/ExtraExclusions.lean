import ComponentManifest.Proofs.ExcludedNames

/-!
# More excluded names

A filter can be given more names to exclude, and a name may be any text. The line of one that begins
with `!` takes back what earlier lines excluded. But the lines stand in the order of their names,
and the names that are always excluded begin with characters above that mark, so they come after
every name that begins with it. Hence more names can only exclude more, whoever reads the lines.

1. `AboveMark`: what the first character of a name decides.
2. `exists_linesOf_of_aboveMark`: what comes after the line of a name above the mark.
3. `isExcluded_of_make`: more names exclude whatever is excluded without them.
4. `ListsLess`, listings of filters that exclude more.
5. `more_names_exclude_more`.
-/

namespace ComponentManifest

namespace SourceFilter

variable {r : RuleReader} {f g : SourceFilter} {more exts exts' names : List Text} {n m p : Text}

/-! ## Names and their lines -/

/-- The name begins with a character above the exclamation mark. -/
def AboveMark : Text → Prop
  | [] => False
  | c :: _ => '!' < c

instance : ∀ n, Decidable (AboveMark n)
  | [] => inferInstanceAs (Decidable False)
  | c :: _ => inferInstanceAs (Decidable ('!' < c))

theorem AboveMark.of_lt (hn : AboveMark n) (h : n < m) : AboveMark m := by
  rcases n with _ | ⟨c, cs⟩
  · cases hn
  rcases m with _ | ⟨d, ds⟩
  · exact absurd h (List.not_lt_nil _)
  show '!' < d
  rcases List.cons_lt_cons_iff.1 h with hd | ⟨rfl, -⟩
  · exact Char.lt_trans hn hd
  · exact hn

theorem AboveMark.head?_line (hn : AboveMark n) : (n ++ ['/']).head? ≠ some '!' := by
  rcases n with _ | ⟨c, cs⟩
  · cases hn
  have hne : c ≠ '!' := fun he => Char.lt_irrefl c (he ▸ hn)
  simpa using hne

theorem linesOf_append_cons (early late : List Text) :
    linesOf (early ++ n :: late) = linesOf early ++ (n ++ ['/']) :: linesOf late := by
  unfold linesOf
  rw [List.map_append, List.map_cons]

/-- In an ascending list, nothing is taken back after the line of a name above the mark. -/
theorem exists_linesOf_of_aboveMark (hsorted : Ascending names) (hn : n ∈ names)
    (hg : AboveMark n) : ∃ early late, linesOf names = early ++ (n ++ ['/']) :: late ∧
      ∀ line ∈ late, line.head? ≠ some '!' := by
  obtain ⟨early, late, rfl⟩ := List.append_of_mem hn
  obtain ⟨hbelow, -⟩ := List.pairwise_cons.1 (List.pairwise_append.1 hsorted).2.1
  refine ⟨linesOf early, linesOf late, linesOf_append_cons early late, fun line hline => ?_⟩
  obtain ⟨m, hm, rfl⟩ := List.mem_map.1 hline
  exact (hg.of_lt (hbelow m hm)).head?_line

/-! ## Lines of a filter -/

theorem aboveMark_alwaysExcluded : ∀ n ∈ alwaysExcluded, AboveMark n := by decide

theorem exists_make (hr : r.Lawful) (exts : List Text) : ∃ g, make r [] exts = .ok g := by
  have hnames : ∀ n ∈ sortDistinct (alwaysExcluded ++ []), PlainName n := fun n hn =>
    plainName_alwaysExcluded n (by simpa using hn)
  obtain ⟨test, htest⟩ := hr.reads hnames
  exact ⟨⟨_, _, test⟩, make_eq_ok_iff.2 ⟨rfl, htest, rfl⟩⟩

/-- Whatever other names there are, nothing is taken back after the line of a name that is always
excluded. -/
theorem exists_linesOf_of_alwaysExcluded (h : make r more exts = .ok f) (hn : n ∈ alwaysExcluded) :
    ∃ early late, linesOf f.excluded = early ++ (n ++ ['/']) :: late ∧
      ∀ line ∈ late, line.head? ≠ some '!' := by
  rw [(make_eq_ok_iff.1 h).1]
  exact exists_linesOf_of_aboveMark (ascending_sortDistinct _)
    (mem_sortDistinct.2 (List.mem_append_left more hn)) (aboveMark_alwaysExcluded n hn)

theorem isExcluded_of_make (hr : r.Lawful) (hf : make r more exts = .ok f)
    (hg : make r [] exts' = .ok g) (hp : g.isExcluded p = true) : f.isExcluded p = true := by
  unfold isExcluded at hp ⊢
  obtain ⟨line, hline, hv⟩ := hr.exists_verdict (make_eq_ok_iff.1 hg).2.1 hp
  obtain ⟨n, hn, rfl⟩ := List.mem_map.1 hline
  obtain ⟨early, late, hlines, hlate⟩ := exists_linesOf_of_alwaysExcluded hf
    (((mem_excluded hg).1 hn).resolve_right List.not_mem_nil)
  exact hr.excludes_of_verdict (hlines ▸ (make_eq_ok_iff.1 hf).2.1) hv hlate

/-! ## Listings -/

/-- Two listings that fail alike, or of which the first has no file that the second has not. -/
inductive ListsLess : Except Fault (List Text) → Except Fault (List Text) → Prop
  | fails (e : Fault) : ListsLess (.error e) (.error e)
  | lists {files files' : List Text} (h : files ⊆ files') : ListsLess (.ok files) (.ok files')

section

variable {xs xs' ys ys' : Except Fault (List Text)}

theorem ListsLess.append (hx : ListsLess xs xs') (hy : ListsLess ys ys') :
    ListsLess (do return (← xs) ++ (← ys)) (do return (← xs') ++ (← ys')) := by
  cases hx with
  | fails e => exact .fails e
  | lists hx =>
    cases hy with
    | fails e => exact .fails e
    | lists hy => exact .lists (List.append_subset.2 ⟨List.subset_append_of_subset_left _ hx,
        List.subset_append_of_subset_right _ hy⟩)

theorem ListsLess.sorted (hx : ListsLess xs xs') :
    ListsLess (do return sortDistinct (← xs)) (do return sortDistinct (← xs')) := by
  cases hx with
  | fails e => exact .fails e
  | lists hx => exact .lists fun q hq => mem_sortDistinct.2 (hx (mem_sortDistinct.1 hq))

end

section

variable (hexts : f.extensions = g.extensions)
  (hmore : ∀ p, g.isExcluded p = true → f.isExcluded p = true)

include hmore in
theorem listsLess_listExtension (w : Workspace) (base pattern e : Text) :
    ListsLess (f.listExtension w base pattern e) (g.listExtension w base pattern e) := by
  unfold listExtension
  cases w.glob base (pattern ++ '.' :: e) with
  | error e => exact .fails e
  | ok paths =>
    refine .lists fun q hq => ?_
    simp only [List.mem_map, List.mem_filter, Bool.not_eq_true', ← Bool.not_eq_true] at hq ⊢
    obtain ⟨_, ⟨⟨p, ⟨hp, hkept⟩, rfl⟩, hfile⟩, rfl⟩ := hq
    exact ⟨_, ⟨⟨p, ⟨hp, mt (hmore p) hkept⟩, rfl⟩, hfile⟩, rfl⟩

include hexts hmore in
/-- A filter that knows the same extensions and excludes more lists less. -/
theorem listsLess_list (w : Workspace) (base pattern : Text) :
    ListsLess (f.list w base pattern) (g.list w base pattern) := by
  have heach : ∀ exts, ListsLess (f.listEach w (w.absolute base) pattern exts)
      (g.listEach w (w.absolute base) pattern exts) := by
    intro exts
    induction exts with
    | nil => exact .lists (List.Subset.refl [])
    | cons e exts ih => exact (listsLess_listExtension hmore w _ pattern e).append ih
  unfold list
  rw [hexts]
  exact (heach g.extensions).sorted

end

/-- Whatever texts are given as more names to exclude, a filter made with them excludes every path
that is excluded without them, and lists no file that is not listed without them. -/
theorem more_names_exclude_more {r : RuleReader} (hr : r.Lawful) (h : make r more exts = .ok f) :
    (∀ n ∈ alwaysExcluded, ∃ early late, linesOf f.excluded = early ++ (n ++ ['/']) :: late ∧
      ∀ line ∈ late, line.head? ≠ some '!') ∧
    (∀ exts' g, make r [] exts' = .ok g → ∀ p, g.isExcluded p = true → f.isExcluded p = true) ∧
    ∃ g, make r [] exts = .ok g ∧
      ∀ w base pattern, ListsLess (f.list w base pattern) (g.list w base pattern) := by
  obtain ⟨g, hg⟩ := exists_make hr exts
  refine ⟨fun n hn => exists_linesOf_of_alwaysExcluded h hn,
    fun exts' g' hg' p => isExcluded_of_make hr h hg', g, hg, ?_⟩
  refine listsLess_list ?_ fun p => isExcluded_of_make hr h hg
  rw [(make_eq_ok_iff.1 h).2.2, (make_eq_ok_iff.1 hg).2.2]

/-- Three names that take back what is in `dist`, a comment, and the name of a directory. -/
def meddlingNames : List Text := ["!dist", "!**", "!", "#dist", "b"].map Text.ofString

/-- The filter with these names. -/
def meddlingFilter : SourceFilter :=
  match make Exclusion.gitignore meddlingNames [] with
  | .ok f => f
  | .error _ => standard

theorem more_names_exclude_more_meddling :
    make Exclusion.gitignore meddlingNames [] = .ok meddlingFilter ∧
      Exclusion.gitignore.verdict "!dist/".toList "dist/x.ts".toList = some false ∧
      "!dist".toList ∈ meddlingFilter.excluded ∧
      meddlingFilter.isExcluded "dist/x.ts".toList = true ∧
      standard.list distProject "/p".toList "**/*".toList = .ok ["/p/a/b/index.ts".toList] ∧
      ∃ files, meddlingFilter.list distProject "/p".toList "**/*".toList = .ok files ∧
        files ⊆ ["/p/a/b/index.ts".toList] := by
  have hmake : make Exclusion.gitignore meddlingNames [] = .ok meddlingFilter := rfl
  have hlist : standard.list distProject "/p".toList "**/*".toList =
      .ok ["/p/a/b/index.ts".toList] := by decide +kernel
  obtain ⟨-, hexcluded, g, hg, hless⟩ := more_names_exclude_more Exclusion.gitignore_lawful hmake
  obtain rfl : standard = g := Except.ok.inj (make_standard.symm.trans hg)
  refine ⟨hmake, by decide +kernel, by decide +kernel,
    hexcluded [] standard make_standard _ (by decide +kernel), hlist, ?_⟩
  have hfiles := hless distProject "/p".toList "**/*".toList
  rw [hlist] at hfiles
  cases hfiles with
  | lists hsub => exact ⟨_, rfl, hsub⟩

end SourceFilter

end ComponentManifest
