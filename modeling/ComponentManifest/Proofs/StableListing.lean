import ComponentManifest.Proofs.LinkFree

/-!
# Listings that do not change

What a pattern without steps up lists is decided by the files alone. In a tree without links, a path
that the pattern stands for in another tree is one of this tree too, as soon as there is a file at
its end: all that the pattern asks for on the way follows.

1. A pattern that ends in plain characters matches only names that end in them.
2. How deep a tree is, and what is listed below a directory.
3. Paths of one tree that lead to files of another.
4. `list_of_sameFiles`: a listing depends only on the files that it can find.
-/

namespace ComponentManifest

/-! ## Patterns with a plain end -/

namespace Glob

variable {cs lit t n : Text} {ts : List Token} {skip : Nat}

/-- Characters that stand for themselves wherever they end a pattern: none closes a bracket, and the
first is no exclamation mark. -/
def Inert (lit : Text) : Prop := Literal lit ∧ ']' ∉ lit ∧ lit.head? ≠ some '!'

instance (lit : Text) : Decidable (Inert lit) := inferInstanceAs (Decidable (_ ∧ _ ∧ _))

theorem head?_append_beq {c : Char} (h : lit.head? ≠ some c) (cs : Text) :
    ((cs ++ lit).head? == some c) = (cs.head? == some c) := by
  cases cs with
  | nil => simpa using h
  | cons d ds => rfl

/-- How much of a bracket expression cannot close it. -/
def bracketLead (t : Text) : Nat :=
  let mark := if t.head? == some '!' then 1 else 0
  if (t.drop mark).head? == some ']' then mark + 1 else mark

theorem bracketLead_le (cs : Text) : bracketLead cs ≤ cs.length := by
  rcases cs with _ | ⟨c, _ | ⟨d, ds⟩⟩
  · decide
  · unfold bracketLead
    by_cases hc : c = '!'
    · subst hc
      simp
    · by_cases hd : c = ']' <;> simp [hc, hd]
  · unfold bracketLead
    dsimp only
    split <;> split <;> simp

theorem bracketLead_append (hi : Inert lit) (cs : Text) :
    bracketLead (cs ++ lit) = bracketLead cs := by
  obtain ⟨-, hclose, hmark⟩ := hi
  have hclose' : lit.head? ≠ some ']' := fun h => hclose (List.mem_of_head? h)
  unfold bracketLead
  rw [head?_append_beq hmark]
  dsimp only
  have hle : (if cs.head? == some '!' then 1 else 0) ≤ cs.length := by
    cases cs with
    | nil => decide
    | cons c cs => split <;> simp
  rw [List.drop_append_of_le_length hle, head?_append_beq hclose']

theorem bracketBody?_eq (t : Text) :
    bracketBody? t =
      if ((t.drop (bracketLead t)).takeWhile (· != ']')).length < (t.drop (bracketLead t)).length
      then some (t.take (bracketLead t) ++ (t.drop (bracketLead t)).takeWhile (· != ']'))
      else none := rfl

/-- Nothing in the end of a pattern closes a bracket before it. -/
theorem bracketBody?_append (hi : Inert lit) (cs : Text) :
    bracketBody? (cs ++ lit) = bracketBody? cs := by
  have hle := bracketLead_le cs
  rw [bracketBody?_eq, bracketBody?_eq, bracketLead_append hi, List.drop_append_of_le_length hle,
    List.take_append_of_le_length hle, List.takeWhile_append]
  generalize cs.drop (bracketLead cs) = rest
  have hlit : lit.takeWhile (· != ']') = lit := by
    rw [List.takeWhile_eq_self_iff]
    intro c hc
    rw [bne_iff_ne]
    rintro rfl
    exact hi.2.1 hc
  have hshort := (List.takeWhile_sublist (fun c => c != ']') (l := rest)).length_le
  rw [hlit]
  split
  · next hall => simp [hall]
  · next hpart =>
    rw [if_pos (by simp; omega), if_pos (by omega)]

theorem length_of_bracketBody? {body : Text} (h : bracketBody? cs = some body) :
    body.length < cs.length := by
  have hle := bracketLead_le cs
  rw [bracketBody?_eq] at h
  split at h
  · next hlt =>
    rw [List.length_drop] at hlt
    rw [← Option.some.inj h, List.length_append, List.length_take]
    omega
  · cases h

/-- The end of the pattern is read character by character. -/
theorem tokensFrom_append (hi : Inert lit) (hskip : skip ≤ cs.length) :
    tokensFrom skip (cs ++ lit) = tokensFrom skip cs ++ lit.map fun c => .one (.single c) := by
  induction cs generalizing skip with
  | nil =>
    obtain rfl : skip = 0 := Nat.le_zero.1 hskip
    exact tokensFrom_literal hi.1
  | cons c cs ih =>
    rw [List.cons_append]
    unfold tokensFrom
    rcases skip with _ | skip
    · dsimp only
      split
      · rw [ih (Nat.zero_le _)]; rfl
      split
      · rw [ih (Nat.zero_le _)]; rfl
      split
      · rw [bracketBody?_append hi]
        split
        · next body hb =>
          rw [ih (length_of_bracketBody? hb)]
          rfl
        · rw [ih (Nat.zero_le _)]; rfl
      · rw [ih (Nat.zero_le _)]; rfl
    · exact ih (Nat.le_of_succ_le_succ hskip)

theorem suffix_of_accepts (h : accepts (ts ++ lit.map fun c => .one (.single c)) t = true) :
    lit <:+ t := by
  induction ts generalizing t with
  | nil => exact (accepts_literal.1 h) ▸ List.suffix_rfl
  | cons token ts ih =>
    cases token with
    | many =>
      obtain ⟨u, hu, ha⟩ := accepts_many.1 h
      exact (ih ha).trans hu
    | one s =>
      rcases t with _ | ⟨c, cs⟩
      · cases h
      · have ha := (Bool.and_eq_true_iff.1 (show (s.contains c &&
          accepts (ts ++ lit.map fun c => .one (.single c)) cs) = true from h)).2
        exact (ih ha).trans (List.suffix_cons c cs)

theorem suffix_of_matchesName (hi : Inert lit) (h : matchesName (cs ++ lit) n = true) :
    lit <:+ n := by
  unfold matchesName tokens at h
  rw [tokensFrom_append hi (Nat.zero_le _)] at h
  exact suffix_of_accepts h

/-- An end of a pattern that stands for itself and belongs to the last segment. -/
def PlainEnd (lit : Text) : Prop := Inert lit ∧ '/' ∉ lit ∧ lit ≠ []

instance (lit : Text) : Decidable (PlainEnd lit) := inferInstanceAs (Decidable (_ ∧ _ ∧ _))

theorem PlainEnd.ne_anyDepth (h : PlainEnd lit) (cs : Text) : cs ++ lit ≠ Workspace.anyDepth := by
  obtain ⟨⟨hlit, -⟩, -, hne⟩ := h
  obtain ⟨init, c, rfl⟩ := List.eq_nil_or_concat lit |>.resolve_left hne
  rw [List.concat_eq_append] at hlit ⊢
  intro he
  have hc : c ∈ init ++ [c] := List.mem_append_right init (List.mem_singleton_self c)
  have hm : c ∈ Workspace.anyDepth := he ▸ List.mem_append_right cs hc
  have hstar : c = '*' := by simpa [Workspace.anyDepth] using hm
  exact (hlit c hc).1 hstar

end Glob

/-! ## The depth of a tree -/

namespace Tree

/-- How deep the deepest entry of a tree lies. -/
def depth (t : Tree) : Nat := t.entries.foldl (fun d e => max d e.1.length) 0

theorem length_le_depth {t : Tree} {l : Location} {e : Entry} (h : t.entry? l = some e) :
    l.length ≤ t.depth := by
  have hdepth : ∀ (es : List (Location × Entry)) (m : Nat),
      m ≤ es.foldl (fun d e => max d e.1.length) m ∧
        ∀ x ∈ es, x.1.length ≤ es.foldl (fun d e => max d e.1.length) m := by
    intro es
    induction es with
    | nil => exact fun m => ⟨Nat.le_refl m, fun x hx => absurd hx List.not_mem_nil⟩
    | cons y ys ih =>
      intro m
      obtain ⟨hstart, hrest⟩ := ih (max m y.1.length)
      refine ⟨Nat.le_trans (Nat.le_max_left ..) hstart, fun x hx => ?_⟩
      rcases List.mem_cons.1 hx with rfl | hx
      · exact Nat.le_trans (Nat.le_max_right ..) hstart
      · exact hrest x hx
  by_cases hl : l = []
  · subst hl
    exact Nat.zero_le _
  · exact (hdepth t.entries 0).2 _ (mem_entries_of_eq_some h hl)

end Tree

namespace Workspace

open ComponentManifest.Path (Spells Down EndsInName Proper Plain rooted isAbsolute segments up
  passed)

variable {w w' : Workspace} {od : Bool} {n : Nat} {l : Location} {ss rest : List Text}
  {ms : List Text} {base dir d p s x y lit pattern : Text} {e : Entry}

/-! ## Names with a plain end -/

theorem Expands.suffix (h : w.Expands od dir (s ++ lit) x) (hlit : Glob.PlainEnd lit)
    (hs : '/' ∉ s ++ lit) : '/' ∉ x ∧ lit <:+ x := by
  generalize ht : s ++ lit = t at h
  cases h with
  | start => exact absurd ht (hlit.ne_anyDepth s)
  | below _ => exact absurd ht (hlit.ne_anyDepth s)
  | listed _ _ hx _ hm =>
    subst ht
    exact ⟨(validName_of_mem_listNames hx).2.1, Glob.suffix_of_matchesName hlit.1 hm⟩
  | slash _ => exact absurd (List.append_eq_nil_iff.1 ht).2 hlit.2.2
  | literal _ _ _ =>
    subst ht
    exact ⟨hs, List.suffix_append s lit⟩

/-- The last segment of a path that a pattern stands for ends as the pattern does. -/
theorem suffix_of_mem_matchPaths (hlit : Glob.PlainEnd lit)
    (h : p ∈ w.matchPaths base (pattern ++ lit)) :
    ∃ init x, segments p = init ++ [x] ∧ lit <:+ x := by
  obtain ⟨init, s, -, happend⟩ := Path.exists_segments_append pattern
  have hseg := happend lit hlit.2.1
  have hslash : '/' ∉ s ++ lit := Path.slash_not_mem (p := pattern ++ lit) (by simp [hseg])
  cases mem_matchPaths_iff.1 h with
  | literal _ _ _ => exact ⟨init, _, hseg, List.suffix_append s lit⟩
  | @listed rest d s' x _ hr _ hx =>
    rw [hseg, List.reverse_append, List.reverse_singleton, List.singleton_append] at hr
    obtain rfl := (List.cons.inj hr).1
    obtain ⟨hxslash, hsuffix⟩ := hx.suffix hlit hslash
    have hxseg : segments x = [x] := Path.segments_of_not_mem hxslash
    have hxabs : isAbsolute x = false := by
      rcases x with _ | ⟨c, cs⟩
      · rfl
      · have hc : c ≠ '/' := fun he => hxslash (he ▸ List.mem_cons_self)
        simp [isAbsolute, hc]
    by_cases hd : d = []
    · subst hd
      exact ⟨[], x, by rw [Path.nil_join, hxseg, List.nil_append], hsuffix⟩
    · exact ⟨Path.lead d, x, by rw [Path.segments_join hd hxabs, hxseg], hsuffix⟩

/-! ## Below a directory -/

theorem maxDepth_eq : w.maxDepth = (maxLinks + 1) * (w.tree.depth + 1) := rfl

theorem length_le_maxDepth (h : w.tree.entry? l = some e) : l.length ≤ w.maxDepth := by
  have hl := Tree.length_le_depth h
  rw [maxDepth_eq, Nat.succ_mul]
  omega

theorem within_name (hx : Plain [x]) (hm : Plain ms) :
    within x (Path.ofSegments ms) = Path.ofSegments (x :: ms) := by
  have hw := within_ofSegments hx hm (List.cons_ne_nil x [])
  rwa [hx.ofSegments_eq] at hw

/-- The first name on the way to an entry, or to a directory, has an entry, or is a directory. -/
theorem exists_entry_above (h : w.tree.entry? (l ++ ms) = some e) (hod : od = true → e = .dir) :
    ∃ e', w.tree.entry? l = some e' ∧ (od = true → e' = .dir) := by
  by_cases hm : ms = []
  · subst hm
    rw [List.append_nil] at h
    exact ⟨e, h, hod⟩
  · exact ⟨.dir, Tree.entry?_of_append h hm, fun _ => rfl⟩

/-- The names on the way to what is below a directory are visible, and in a tree without links they
give its location. -/
theorem Below.spells (h : w.Below od n dir y) (ht : w.tree.LinkFree) (hq : Spells dir l) :
    ∃ ms, ms ≠ [] ∧ ms.length ≤ n ∧ y = Path.ofSegments ms ∧ (∀ x ∈ ms, isHidden x = false) ∧
      ∃ e, w.tree.entry? (l ++ ms) = some e ∧ (od = true → e = .dir) := by
  induction h generalizing l with
  | @name n dir x hx hv =>
    obtain ⟨e, he, hod⟩ := (mem_listNames_spells ht hq).1 hx
    have hplain : Plain [x] := Tree.plain_of_entry? he
    exact ⟨[x], List.cons_ne_nil x [], Nat.succ_le_succ (Nat.zero_le n),
      hplain.ofSegments_eq.symm, List.forall_mem_singleton.2 hv, e, he, hod⟩
  | @path n dir x p hx hv _ ih =>
    obtain ⟨e, he, -⟩ := (mem_listNames_spells ht hq).1 hx
    have hplain : Plain [x] := Tree.plain_of_entry? he
    obtain ⟨ms, -, hle, rfl, hms, e', he', hod'⟩ := ih (hq.name hplain).2
    have hm : Plain ms := Tree.plain_of_entry? he'
    rw [List.append_assoc] at he'
    exact ⟨x :: ms, List.cons_ne_nil x ms, Nat.succ_le_succ hle, within_name hplain hm,
      List.forall_mem_cons.2 ⟨hv, hms⟩, e', he', hod'⟩

/-- What has a location below a directory is below it, if no name on the way is hidden. -/
theorem below_of_entry (ht : w.tree.LinkFree) (hq : Spells dir l) (hne : ms ≠ [])
    (hle : ms.length ≤ n) (hv : ∀ x ∈ ms, isHidden x = false)
    (he : w.tree.entry? (l ++ ms) = some e) (hod : od = true → e = .dir) :
    w.Below od n dir (Path.ofSegments ms) := by
  induction n generalizing dir l ms with
  | zero => exact absurd (List.length_eq_zero_iff.1 (Nat.le_zero.1 hle)) hne
  | succ n ih =>
    obtain ⟨x, ms, rfl⟩ := List.exists_cons_of_ne_nil hne
    obtain ⟨hvx, hvs⟩ := List.forall_mem_cons.1 hv
    rw [List.append_cons] at he
    obtain ⟨e', he', hod'⟩ := exists_entry_above he hod
    have hplain : Plain [x] := Tree.plain_of_entry? he'
    have hx : x ∈ w.listNames od dir := (mem_listNames_spells ht hq).2 ⟨e', he', hod'⟩
    by_cases hn : ms = []
    · subst hn
      rw [hplain.ofSegments_eq]
      exact .name hx hvx
    · rw [← within_name hplain (Tree.plain_of_entry? he)]
      exact .path hx hvx (ih (hq.name hplain).2 hn (Nat.le_of_succ_le_succ hle) hvs he)

/-! ## From one tree to another -/

theorem Expands.down (hx : w.Expands od dir s x) (hs : s ≠ up ∧ '/' ∉ s) : Down x :=
  Path.down_of_fromPattern (hx.fromPattern (List.mem_singleton_self s) hs.2)
    fun hup => hs.1 (List.mem_singleton.1 hup).symm

theorem Visits.down (hd : w.Visits base rest d) (hrest : ∀ s ∈ rest, s ≠ up ∧ '/' ∉ s)
    (hlast : rest.getLast? ≠ some []) : Down d :=
  Path.down_of_fromPattern (hd.fromPattern (fun s hs => ⟨hs, (hrest s hs).2⟩) hlast)
    fun hup => (hrest up hup).1 rfl

/-- A name that a segment stands for in another tree is one in this tree, if something is there. -/
theorem Expands.of_reach {l' : Location} (hx : w'.Expands od dir s x) (ht : w.tree.LinkFree)
    (ht' : w'.tree.LinkFree) (hq : Spells dir l) (hs : s ≠ []) (hdown : Down x)
    (hr : w.reach true (within dir x) = .entry l' e) (hod : od = true → e = .dir) :
    w.Expands od dir s x := by
  obtain ⟨-, he, -⟩ := (reach_spells ht (hq.within hdown)).1 hr
  cases hx with
  | start => exact .start
  | below h =>
    obtain ⟨ms, hne, -, rfl, hms, e', he', -⟩ := h.spells ht' hq
    have hplain : Plain ms := Tree.plain_of_entry? he'
    rw [hplain.segments_ofSegments hne, hplain.passed_eq] at he
    -- The trees may differ in depth: the entry that is there bounds the names that lead to it.
    have hle := length_le_maxDepth he
    rw [List.length_append] at hle
    exact .below (below_of_entry ht hq hne (by omega) hms he hod)
  | listed ha hm hx hv hmatch =>
    have hvalid := validName_of_mem_listNames hx
    rw [Path.segments_of_not_mem hvalid.2.1, (Tree.plain_of_validName hvalid).passed_eq] at he
    exact .listed ha hm ((mem_listNames_spells ht hq).2 ⟨e, he, hod⟩) hv hmatch
  | slash _ => exact absurd rfl hs
  | literal hm _ _ => exact .literal hm hs (lexists_of_reach ht hr)

/-- A directory that leading segments stand for in another tree is one in this tree, if there is a
directory. -/
theorem Visits.of_isDir (hd : w'.Visits base rest d) (ht : w.tree.LinkFree)
    (ht' : w'.tree.LinkFree) (hq : Spells base l) (hrest : ∀ s ∈ rest, s ≠ up ∧ '/' ∉ s)
    (hlast : rest.getLast? ≠ some []) (hdir : w.isDir (within base d) = true) :
    w.Visits base rest d := by
  -- A directory at the end has directories all the way, so each one before it is seen here as well.
  induction hd with
  | base => exact .base
  | literal hne hm => exact .literal hne hm
  | slash hm _ ih =>
    exact .slash hm (ih (fun s hs => hrest s (List.mem_cons_of_mem _ hs))
      (getLast?_ne_of_cons hlast) hdir)
  | @step rest d s x hm hs hd hx ih =>
    have htail : ∀ s ∈ rest, s ≠ up ∧ '/' ∉ s := fun s hs => hrest s (List.mem_cons_of_mem _ hs)
    have hlast' := getLast?_ne_of_cons hlast
    have hdownd := hd.down htail hlast'
    have hdown := hx.down (hrest s List.mem_cons_self)
    have hentry := (isDir_spells ht (hq.within (hdownd.join hdown))).1 hdir
    rw [Path.passed_join hdown, ← List.append_assoc] at hentry
    have habove : w.tree.entry? (l ++ passed (segments d)) = some .dir := by
      by_cases hp : passed (segments x) = []
      · rwa [hp, List.append_nil] at hentry
      · exact Tree.entry?_of_append hentry hp
    have hqd := hq.within hdownd
    have hreach := (reach_spells ht (hqd.within hdown)).2 ⟨rfl, hentry, Or.inl rfl⟩
    exact .step hm hs (ih htail hlast' ((isDir_spells ht hqd).2 habove))
      (hx.of_reach ht ht' hqd hs hdown hreach fun _ => rfl)

/-- A path that a pattern stands for in another tree is one in this tree, if there is a file. -/
theorem mem_matchPaths_of_isFile (ht : w.tree.LinkFree) (ht' : w'.tree.LinkFree)
    (hq : Spells base l) (hp : Down pattern) (hne : (segments pattern).getLast? ≠ some [])
    (h : p ∈ w'.matchPaths base pattern) (hf : w.isFile (Path.join base p) = true) :
    p ∈ w.matchPaths base pattern := by
  have hpne : pattern ≠ [] := by
    rintro rfl
    exact hne rfl
  have hlast : ∀ {s rest}, (segments pattern).reverse = s :: rest → s ≠ [] := by
    rintro s rest hr rfl
    rw [← List.head?_reverse, hr] at hne
    exact hne rfl
  refine mem_matchPaths_iff.2 ?_
  cases mem_matchPaths_iff.1 h with
  | literal hm hr _ =>
    obtain ⟨l', content, hreach⟩ := isFile_iff.1 hf
    refine .literal hm hr ?_
    rw [if_neg (hlast hr), Path.within_eq_join hq.ne_nil hpne]
    exact lexists_of_reach ht hreach
  | @listed rest d s x hm hr hd hx =>
    have hmem : ∀ x ∈ s :: rest, x ≠ up ∧ '/' ∉ x := fun x hx =>
      (mem_segments_of_reverse hr x hx).imp_left fun hseg he => hp.noUp (he ▸ hseg)
    have htail : ∀ x ∈ rest, x ≠ up ∧ '/' ∉ x := fun x hx => hmem x (List.mem_cons_of_mem _ hx)
    have hrest := getLast?_of_reverse_segments hp.relative hpne hr
    have hdownd := hd.down htail hrest
    have hdownx := hx.down (hmem s List.mem_cons_self)
    obtain ⟨content, hentry, hends⟩ := (isFile_spells ht (hq.join (hdownd.join hdownx))).1 hf
    rw [Path.endsInName_join (hdownd.join hdownx), Path.endsInName_join hdownx] at hends
    rw [Path.passed_join hdownx, ← List.append_assoc] at hentry
    have hqd := hq.within hdownd
    have hdir := (isDir_spells ht hqd).2 (Tree.entry?_of_append hentry hends.passed_ne_nil)
    have hendsx : EndsInName (segments (within (within base d) x)) := by
      rw [Path.within_eq_join hqd.ne_nil hends.ne_nil, Path.endsInName_join hdownx]
      exact hends
    have hreach := (reach_spells ht (hqd.within hdownx)).2 ⟨rfl, hentry, Or.inr hendsx⟩
    exact .listed hm hr (hd.of_isDir ht ht' hq htail hrest hdir)
      (hx.of_reach ht ht' hqd (hlast hr) hdownx hreach (by simp))

end Workspace

/-! ## The same files -/

theorem sortDistinct_congr {xs ys : List Text} (h : ∀ x, x ∈ xs ↔ x ∈ ys) :
    sortDistinct xs = sortDistinct ys := by
  have hx := ascending_sortDistinct xs
  have hy := ascending_sortDistinct ys
  have hperm : (sortDistinct xs).Perm (sortDistinct ys) :=
    (List.perm_ext_iff_of_nodup hx.nodup hy.nodup).2 fun x => by
      rw [mem_sortDistinct, mem_sortDistinct, h]
  exact hperm.eq_of_pairwise (fun a b _ _ hab hba => absurd hba (List.lt_asymm hab)) hx hy

/-- Two trees have the same files, but for files of one name. -/
def Tree.SameFiles (name : Text) (t t' : Tree) : Prop :=
  ∀ l x, x ≠ name → ∀ content,
    t.entry? (l ++ [x]) = some (.file content) ↔ t'.entry? (l ++ [x]) = some (.file content)

theorem Tree.SameFiles.symm {name : Text} {t t' : Tree} (h : t.SameFiles name t') :
    t'.SameFiles name t := fun l x hx content => (h l x hx content).symm

namespace Workspace

open ComponentManifest.Path (Spells segments passed)

variable {w w' : Workspace} {name q x : Text} {l : Location} {init : List Text} {content : Bytes}

theorem read_of_sameFiles (ht : w.tree.LinkFree) (ht' : w'.tree.LinkFree)
    (hsame : w.tree.SameFiles name w'.tree) (hq : Spells q l) (hseg : segments q = init ++ [x])
    (hx : x ≠ name) : w.read q = .ok content ↔ w'.read q = .ok content := by
  rw [read_spells ht hq, read_spells ht' hq]
  refine and_congr_left fun hends => ?_
  obtain ⟨init', y, hy, hproper⟩ := hends
  rw [hseg] at hy
  obtain ⟨rfl, hxy⟩ := List.append_inj' hy rfl
  obtain rfl := List.singleton_inj.1 hxy
  have hl : l = passed init ++ [x] := by
    rw [← hq.passed, hseg, Path.passed_append, Path.passed_proper hproper]
    rfl
  rw [hl]
  exact hsame _ x hx content

theorem isFile_iff_read : w.isFile q = true ↔ ∃ content, w.read q = .ok content := by
  simp only [isFile_iff, read_eq_ok_iff]
  exact exists_comm

theorem isFile_of_sameFiles (ht : w.tree.LinkFree) (ht' : w'.tree.LinkFree)
    (hsame : w.tree.SameFiles name w'.tree) (hq : Spells q l) (hseg : segments q = init ++ [x])
    (hx : x ≠ name) : w.isFile q = w'.isFile q := by
  rw [Bool.eq_iff_iff, isFile_iff_read, isFile_iff_read]
  exact exists_congr fun content => read_of_sameFiles ht ht' hsame hq hseg hx

theorem readText?_of_sameFiles (ht : w.tree.LinkFree) (ht' : w'.tree.LinkFree)
    (hsame : w.tree.SameFiles name w'.tree) (hq : Spells q l) (hseg : segments q = init ++ [x])
    (hx : x ≠ name) : w.readText? q = w'.readText? q := by
  unfold readText?
  rcases hr : w.read q with e | content
  · rcases hr' : w'.read q with e' | content'
    · rfl
    · rw [← read_of_sameFiles ht ht' hsame hq hseg hx, hr] at hr'
      cases hr'
  · rw [(read_of_sameFiles ht ht' hsame hq hseg hx).1 hr]

end Workspace

namespace SourceFilter

open ComponentManifest.Path (Plain rooted Down up segments)

variable {f : SourceFilter} {w w' : Workspace} {name base pattern q e : Text} {b : Bool}
  {ss exts files : List Text}

/-- Nothing that a pattern finds with the extension has the name. -/
def Avoids (name e : Text) : Prop :=
  Glob.PlainEnd ('.' :: e) ∧ SafeExtension e ∧ ¬ '.' :: e <:+ name

instance (name e : Text) : Decidable (Avoids name e) := inferInstanceAs (Decidable (_ ∧ _ ∧ _))

theorem down_extension (hp : Down pattern) (he : SafeExtension e) : Down (pattern ++ '.' :: e) := by
  refine ⟨?_, up_not_mem_segments_extension he hp.noUp⟩
  cases pattern with
  | nil => rfl
  | cons c cs => exact hp.relative

theorem Finds.of_sameFiles (ht : w.tree.LinkFree) (ht' : w'.tree.LinkFree)
    (hsame : w.tree.SameFiles name w'.tree) (hs : Plain ss) (hp : Down pattern)
    (hexts : ∀ e ∈ exts, Avoids name e) (h : f.Finds w (rooted b ss) pattern exts q) :
    f.Finds w' (rooted b ss) pattern exts q := by
  obtain ⟨e, he, p, hmem, hx, hfile, rfl⟩ := h
  obtain ⟨hend, hsafe, havoid⟩ := hexts e he
  have hpe := down_extension hp hsafe
  have hlast : (segments (pattern ++ '.' :: e)).getLast? ≠ some [] := by
    obtain ⟨init, s, -, happend⟩ := Path.exists_segments_append pattern
    rw [happend _ hend.2.1, List.getLast?_concat]
    simp
  have hdown : Down p := Path.down_of_fromPattern
    (Workspace.fromPattern_matchPaths hpe.relative (by simp) hmem) hpe.noUp
  obtain ⟨init, x, hseg, hsuffix⟩ := Workspace.suffix_of_mem_matchPaths hend hmem
  have hspells := (Path.spells_rooted (b := b) hs).join hdown
  have hjoin : segments (Path.join (rooted b ss) p) =
      Path.lead (rooted b ss) ++ init ++ [x] := by
    rw [Path.segments_join Path.rooted_ne_nil hdown.relative, hseg, List.append_assoc]
  have hfile' : w'.isFile (Path.join (rooted b ss) p) = true := by
    rw [← Workspace.isFile_of_sameFiles ht ht' hsame hspells hjoin fun hn => havoid (hn ▸ hsuffix)]
    exact hfile
  exact ⟨e, he, p, Workspace.mem_matchPaths_of_isFile ht' ht (Path.spells_rooted hs) hpe hlast hmem
    hfile', hx, hfile', rfl⟩

/-- Whether a search can be made is seen at the text of its pattern. -/
theorem glob_of_glob {paths : List Text} (h : w.glob base pattern = .ok paths) :
    w'.glob base pattern = .ok (w'.matchPaths base pattern) :=
  let ⟨hlevels, hlisted, _⟩ := Workspace.glob_eq_ok_iff.1 h
  Workspace.glob_eq_ok_iff.2 ⟨hlevels, hlisted, rfl⟩

/-- A listing depends only on the files that it can find. -/
theorem list_of_sameFiles (ht : w.tree.LinkFree) (ht' : w'.tree.LinkFree)
    (hsame : w.tree.SameFiles name w'.tree) (hs : Plain ss) (hp : Down pattern)
    (hexts : ∀ e ∈ f.extensions, Avoids name e)
    (h : f.list w (rooted b ss) pattern = .ok files) :
    f.list w' (rooted b ss) pattern = .ok files := by
  unfold list at h ⊢
  rw [Workspace.absolute_rooted hs] at h ⊢
  obtain ⟨found, hfound, h⟩ := except_bind_eq_ok.1 h
  obtain ⟨hglob, hmem⟩ := listed_of_listEach hfound
  obtain ⟨found', hfound', hmem'⟩ := listEach_eq_ok (f := f) (w := w') fun e he =>
    glob_of_glob (hglob e he)
  refine except_bind_eq_ok.2 ⟨found', hfound', ?_⟩
  rw [← Except.ok.inj h]
  refine congrArg Except.ok (sortDistinct_congr fun q => ?_)
  rw [hmem, hmem']
  exact ⟨Finds.of_sameFiles ht' ht hsame.symm hs hp hexts,
    Finds.of_sameFiles ht ht' hsame hs hp hexts⟩

end SourceFilter

end ComponentManifest
