import ComponentManifest.Proofs.Outcomes
import ComponentManifest.Proofs.PatternListing
import ComponentManifest.Source.Filter

/-!
# Rules that name a directory

A filter excludes what lies in a directory with one of some names. It has a line for each name, and
what the lines say is up to the reader of ignore files. `RuleReader.Lawful` is what the filter
relies on: the format, as far as it is about names of directories. The reader of the program keeps
to it.

1. `Within`, what the line of a plain name is about, and the laws.
2. `startsWith_literal`, `within_of_startsWith`: what the pieces of such a rule match.
3. `ruleOf_directory`: the rule of a plain name.
4. `gitignore_lawful`: the program's reader.
5. `isExcluded_iff`: the paths that a filter excludes.
-/

namespace ComponentManifest

open ComponentManifest.Path (segments ofSegments here up segments_append_slash)

/-! ## Readers -/

/-- A name that a directory can have, without characters that mean something in a rule. -/
def PlainName (n : Text) : Prop :=
  n ≠ [] ∧ '/' ∉ n ∧ n ≠ here ∧ n ≠ up ∧ n.head? ≠ some '#' ∧ n.head? ≠ some '!' ∧
    Glob.Literal n ∧ '\\' ∉ n

instance (n : Text) : Decidable (PlainName n) :=
  inferInstanceAs (Decidable (_ ∧ _ ∧ _ ∧ _ ∧ _ ∧ _ ∧ _ ∧ _))

/-- The name is a segment of the path with another one after it. -/
def Within (n p : Text) : Prop := ∃ xs ys, segments p = xs ++ n :: ys ∧ ys ≠ []

/-- The path begins with `./` and an empty segment. No file is called so by the directory that it is
in, and ignore files say nothing of such paths. -/
def Detours (p : Text) : Prop := Text.ofString ".//" <+: p

instance (p : Text) : Decidable (Detours p) := inferInstanceAs (Decidable (_ <+: _))

/-- What the format of ignore files says of the lines that a filter has. -/
structure RuleReader.Lawful (r : RuleReader) : Prop where
  /-- Lines that name directories can be read. -/
  reads : ∀ {names : List Text}, (∀ n ∈ names, PlainName n) →
    ∃ test, r.read (SourceFilter.linesOf names) = .ok test
  /-- The last line that says something about a path decides. -/
  last_decides : ∀ {lines : List Text} {test : Text → Bool}, r.read lines = .ok test →
    ∀ p, test p = (lines.reverse.findSome? fun line => r.verdict line p).getD false
  /-- Only an exclamation mark at its beginning makes a line take something back. -/
  readmits : ∀ {line p : Text}, r.verdict line p = some false → line.head? = some '!'
  /-- The line of a name excludes nothing but what is in a directory of that name. -/
  sound : ∀ {n p : Text}, PlainName n → r.verdict (n ++ ['/']) p = some true → Within n p
  /-- It excludes all that is in such a directory, at any depth. -/
  complete : ∀ {n p : Text}, PlainName n → Path.isAbsolute p = false → '\n' ∉ p → ¬ Detours p →
    Within n p → r.verdict (n ++ ['/']) p = some true

namespace RuleReader.Lawful

variable {r : RuleReader} {lines early late : List Text} {line p : Text} {test : Text → Bool}

theorem exists_verdict (hr : r.Lawful) (h : r.read lines = .ok test) (hp : test p = true) :
    ∃ line ∈ lines, r.verdict line p = some true := by
  rw [hr.last_decides h] at hp
  rcases hfound : lines.reverse.findSome? fun line => r.verdict line p with _ | b
  · rw [hfound] at hp
    cases hp
  · rw [hfound] at hp
    obtain ⟨line, hline, hv⟩ := List.exists_of_findSome?_eq_some hfound
    exact ⟨line, List.mem_reverse.1 hline, hv.trans (congrArg some hp)⟩

/-- A line that excludes a path decides if no later one begins with an exclamation mark. -/
theorem excludes_of_verdict (hr : r.Lawful) (h : r.read (early ++ line :: late) = .ok test)
    (hline : r.verdict line p = some true) (hlate : ∀ l ∈ late, l.head? ≠ some '!') :
    test p = true := by
  rcases hfound : (line :: late).reverse.findSome? fun line => r.verdict line p with _ | b
  · have hnone := List.findSome?_eq_none_iff.1 hfound line (by simp)
    rw [hline] at hnone
    cases hnone
  obtain ⟨l, hl, hv⟩ := List.exists_of_findSome?_eq_some hfound
  have hb : b ≠ false := by
    rintro rfl
    rcases List.mem_cons.1 (List.mem_reverse.1 hl) with rfl | hl
    · rw [hline] at hv
      cases hv
    · exact hlate l hl (hr.readmits hv)
  rw [hr.last_decides h, List.reverse_append, List.findSome?_append, hfound]
  simpa using hb

end RuleReader.Lawful

namespace Exclusion

variable {t u p n line : Text} {started : Bool} {ps : List Piece} {r : Rule} {rules : List Rule}
  {lines : List Text}

/-! ## Pieces -/

/-- What can follow leading directories follows a slash. -/
theorem exists_of_mem_afterSlashes (h : u ∈ afterSlashes started t) : ∃ a, t = a ++ '/' :: u := by
  induction t generalizing started with
  | nil => cases h
  | cons c cs ih =>
    unfold afterSlashes at h
    rcases List.mem_append.1 h with h | h
    · split at h
      · next hslash =>
        rw [List.mem_singleton.1 h, hslash.1]
        exact ⟨[], rfl⟩
      · cases h
    · split at h
      · cases h
      · obtain ⟨a, ha⟩ := ih h
        exact ⟨c :: a, by rw [ha, List.cons_append]⟩

/-- What follows a slash can follow leading directories, unless that slash is the first
character. -/
theorem mem_afterSlashes {a : Text} (ht : '\n' ∉ a) (ha : started = true ∨ a ≠ []) :
    u ∈ afterSlashes started (a ++ '/' :: u) := by
  induction a generalizing started with
  | nil =>
    have hs : started = true := ha.resolve_right fun h => h rfl
    show u ∈ (if '/' = '/' ∧ started = true then [u] else []) ++ _
    rw [if_pos ⟨rfl, hs⟩]
    exact List.mem_append_left _ (List.mem_singleton_self u)
  | cons c cs ih =>
    obtain ⟨hc, hcs⟩ := not_or.1 (mt List.mem_cons.2 ht)
    show u ∈ _ ++ (if c = '\n' then [] else afterSlashes true (cs ++ '/' :: u))
    rw [if_neg (Ne.symm hc)]
    exact List.mem_append_right _ (ih hcs (Or.inl rfl))

theorem startsWith_single {c : Char} :
    startsWith (.one (.single c) :: ps) t = true ↔ ∃ r, t = c :: r ∧ startsWith ps r = true := by
  cases t with
  | nil => simp [startsWith, Piece.rests]
  | cons d ds =>
    show ((if (CharSet.single c).contains d then [ds] else []).any fun r => startsWith ps r) =
      true ↔ _
    by_cases hd : d = c
    · rw [if_pos (Glob.contains_single.2 hd), hd]
      simp
    · rw [if_neg fun h => hd (Glob.contains_single.1 h)]
      simp [hd]

/-- The piece of each character of a text. -/
def literalPieces (t : Text) : List Piece := t.map fun c => .one (.single c)

/-- Pieces for the characters of a text match that text. -/
theorem startsWith_literal : startsWith (literalPieces n) t = true ↔ n <+: t := by
  induction n generalizing t with
  | nil => simp [literalPieces, startsWith]
  | cons c cs ih =>
    show startsWith (.one (.single c) :: literalPieces cs) t = true ↔ _
    rw [startsWith_single]
    constructor
    · rintro ⟨r, rfl, hr⟩
      exact (List.prefix_cons_inj c).2 (ih.1 hr)
    · rintro ⟨s, rfl⟩
      exact ⟨cs ++ s, rfl, ih.2 (List.prefix_append cs s)⟩

/-! ## The rule of a name -/

theorem segmentPieces_literal {rule : Text} (h : Glob.Literal n) (hb : '\\' ∉ n) :
    segmentPieces rule 0 false n = .ok (literalPieces n) := by
  induction n with
  | nil => rfl
  | cons c cs ih =>
    obtain ⟨hstar, hmark, hbracket⟩ := h c List.mem_cons_self
    obtain ⟨hback, hbacks⟩ := not_or.1 (mt List.mem_cons.2 hb)
    have hrest := ih (fun c hc => h c (List.mem_cons_of_mem _ hc)) hbacks
    unfold segmentPieces
    dsimp only
    rw [if_neg (by decide), if_neg (Ne.symm hback), if_neg hstar, if_neg hmark, if_neg hbracket, hrest]
    rfl

/-- The pieces of a name in a rule: any directories, the name and a slash. -/
def directoryPieces (n : Text) : List Piece := .anyDepth :: literalPieces (n ++ ['/'])

theorem anchored_directory (hne : n ≠ []) (hstar : n ≠ doubleStar) :
    anchored [n, []] = [doubleStar, n, doubleStar] := by
  obtain ⟨c, cs, rfl⟩ := List.exists_cons_of_ne_nil hne
  have hmerge : mergeStars [doubleStar, c :: cs, doubleStar] =
      [doubleStar, c :: cs, doubleStar] := by
    unfold mergeStars
    rw [if_neg fun h => hstar h.2]
    unfold mergeStars
    rw [if_neg fun h => hstar h.1]
    rfl
  unfold anchored
  dsimp only
  rw [if_neg hstar]
  exact hmerge

theorem shapeOf_directory (h : PlainName n) :
    shapeOf (n ++ ['/']) = .ok (.beginning (directoryPieces n)) := by
  obtain ⟨hne, hslash, -, -, -, -, hchars, hback⟩ := h
  have hstar : ∀ t, '*' ∈ t → n ≠ t := by
    rintro t ht rfl
    exact (hchars _ ht).1 rfl
  have hdouble : n ≠ doubleStar := hstar _ (by decide)
  have hsegments : segments (n ++ ['/']) = [n, []] := by
    rw [segments_append_slash n [], Path.segments_of_not_mem hslash]
    rfl
  have hpieces : pieces (n ++ ['/']) true false [doubleStar, n, doubleStar] =
      .ok (directoryPieces n) := by
    unfold pieces
    rw [if_pos rfl, if_pos rfl]
    unfold pieces
    rw [if_neg hdouble, if_neg (hstar _ (by decide)), segmentPieces_literal hchars hback]
    show Except.ok (.anyDepth :: (literalPieces n ++ [slash])) = _
    unfold directoryPieces literalPieces
    rw [List.map_append]
    rfl
  unfold shapeOf
  rw [hsegments, anchored_directory hne hdouble]
  dsimp only
  rw [if_neg (by simp [hstar ['*'] (by decide)]), hpieces]
  rfl

theorem ruleOf_directory (h : PlainName n) :
    ruleOf (n ++ ['/']) = .ok (some ⟨false, .beginning (directoryPieces n)⟩) := by
  have hshape := shapeOf_directory h
  obtain ⟨hne, -, -, -, hcomment, hback, -⟩ := h
  obtain ⟨c, cs, rfl⟩ := List.exists_cons_of_ne_nil hne
  unfold ruleOf
  split
  · next heq =>
    cases heq
    exact absurd rfl hcomment
  · next heq =>
    cases heq
    exact absurd rfl hback
  · rw [hshape]
    rfl

theorem verdict_directory (h : PlainName n) : gitignore.verdict (n ++ ['/']) p =
    if startsWith (directoryPieces n) (seenPath p) then some true else none := by
  unfold gitignore
  dsimp only
  rw [ruleOf_directory h]
  rfl

/-! ## On segments -/

theorem prefix_of_segments {ys : List Text} (h : segments t = n :: ys) (hys : ys ≠ []) :
    n ++ ['/'] <+: t := by
  have hcut : t = ofSegments [n] ++ '/' :: ofSegments ys :=
    Path.eq_of_segments_eq_append h (List.cons_ne_nil n []) hys
  have hone : ofSegments [n] = n := by simp [ofSegments, Text.joinWith]
  exact ⟨ofSegments ys, by rw [hcut, hone, List.append_assoc, List.singleton_append]⟩

theorem startsWith_directory_iff : startsWith (directoryPieces n) t = true ↔
    ∃ u, (u = t ∨ u ∈ afterSlashes false t) ∧ n ++ ['/'] <+: u := by
  show ((t :: afterSlashes false t).any fun u => startsWith (literalPieces (n ++ ['/'])) u) =
    true ↔ _
  simp only [List.any_eq_true, List.mem_cons, startsWith_literal]

/-- The pieces of a name match only where it is a segment with another one after it. -/
theorem within_of_startsWith (hn : '/' ∉ n) (h : startsWith (directoryPieces n) t = true) :
    Within n t := by
  have hname : segments n = [n] := Path.segments_of_not_mem hn
  obtain ⟨u, hu, r, rfl⟩ := startsWith_directory_iff.1 h
  rw [List.append_assoc, List.singleton_append] at hu
  rcases hu with rfl | hu
  · refine ⟨[], segments r, ?_, Path.segments_ne_nil r⟩
    rw [segments_append_slash, hname]
    rfl
  · obtain ⟨a, rfl⟩ := exists_of_mem_afterSlashes hu
    refine ⟨segments a, segments r, ?_, Path.segments_ne_nil r⟩
    rw [segments_append_slash, segments_append_slash, hname]
    rfl

/-- They match there unless nothing but a slash stands before the name. -/
theorem startsWith_of_within (ht : '\n' ∉ t) (hroot : Path.isAbsolute t = false)
    (h : Within n t) : startsWith (directoryPieces n) t = true := by
  obtain ⟨xs, ys, hseg, hys⟩ := h
  by_cases hx : xs = []
  · subst hx
    exact startsWith_directory_iff.2 ⟨t, Or.inl rfl, prefix_of_segments hseg hys⟩
  have hcut := Path.eq_of_segments_eq_append hseg hx (List.cons_ne_nil n ys)
  have hbefore : ofSegments xs ≠ [] := by
    intro he
    rw [hcut, he] at hroot
    cases hroot
  have hline : '\n' ∉ ofSegments xs := fun hm => ht (hcut ▸ List.mem_append_left _ hm)
  have hafter : segments (ofSegments (n :: ys)) = n :: ys := by
    refine Path.segments_ofSegments (fun s hs => ?_) (List.cons_ne_nil n ys)
    exact Path.slash_not_mem (hseg ▸ List.mem_append_right xs hs)
  refine startsWith_directory_iff.2 ⟨_, Or.inr ?_, prefix_of_segments hafter hys⟩
  rw [hcut]
  exact mem_afterSlashes hline (Or.inr hbefore)

/-! ## The program's reader -/

theorem within_of_seenPath (h : Within n (seenPath p)) : Within n p := by
  obtain ⟨xs, ys, hseg, hys⟩ := h
  have hcut : ∀ q a, p = a ++ '/' :: q → seenPath p = q → Within n p := by
    rintro q a rfl hq
    rw [hq] at hseg
    exact ⟨segments a ++ xs, ys, by rw [segments_append_slash, hseg, List.append_assoc], hys⟩
  unfold seenPath at hseg hcut
  split at hseg
  · next q => exact hcut q [] rfl rfl
  · next q => exact hcut q here rfl rfl
  · exact ⟨xs, ys, hseg, hys⟩

theorem within_seenPath (hn : n ≠ here) (hp : Path.isAbsolute p = false) (h : Within n p) :
    Within n (seenPath p) := by
  unfold seenPath
  split
  · cases hp
  · next q =>
    obtain ⟨xs, ys, hseg, hys⟩ := h
    rw [show segments ('.' :: '/' :: q) = here :: segments q from segments_append_slash here q]
      at hseg
    cases xs with
    | nil => exact absurd (List.cons.inj hseg).1.symm hn
    | cons x xs => exact ⟨xs, ys, (List.cons.inj hseg).2, hys⟩
  · exact h

theorem isAbsolute_seenPath (hp : Path.isAbsolute p = false) (hd : ¬ Detours p) :
    Path.isAbsolute (seenPath p) = false := by
  unfold seenPath
  split
  · cases hp
  · next q =>
    rcases q with _ | ⟨c, cs⟩
    · rfl
    · have hc : c ≠ '/' := by
        rintro rfl
        exact hd (List.prefix_append (Text.ofString ".//") cs)
      simpa [Path.isAbsolute] using hc
  · exact hp

theorem seenPath_suffix : seenPath p <:+ p := by
  unfold seenPath
  split
  · exact List.suffix_cons _ _
  · exact (List.suffix_cons _ _).trans (List.suffix_cons _ _)
  · exact List.suffix_refl _

theorem readmits_of_ruleOf (h : ruleOf line = .ok (some r)) :
    r.readmits = (line.head? == some '!') := by
  have hshape : ∀ {b : Bool} {x : Except Fault Shape},
      (x.map fun s => some (Rule.mk b s)) = .ok (some r) → r.readmits = b := by
    rintro b (e | s) hx
    · cases hx
    · cases hx
      rfl
  unfold ruleOf at h
  split at h
  · cases h
  · exact hshape h
  · next hmark =>
    rw [hshape h]
    cases line with
    | nil => rfl
    | cons c cs =>
      have hc : c ≠ '!' := fun hc => hmark cs (hc ▸ rfl)
      simp [hc]

theorem rulesOf_cons_eq_ok :
    rulesOf (line :: lines) = .ok rules ↔
      ∃ rule rest, ruleOf line = .ok rule ∧ rulesOf lines = .ok rest ∧
        rules = rule.toList ++ rest := by
  show (ruleOf line >>= fun rule => rulesOf lines >>= fun rest =>
    Except.ok (rule.toList ++ rest)) = .ok rules ↔ _
  simp only [except_bind_eq_ok, Except.ok.injEq]
  grind

theorem exists_rulesOf_directories {names : List Text} (h : ∀ n ∈ names, PlainName n) :
    ∃ rules, rulesOf (SourceFilter.linesOf names) = .ok rules := by
  induction names with
  | nil => exact ⟨[], rfl⟩
  | cons n names ih =>
    obtain ⟨rest, hrest⟩ := ih fun m hm => h m (List.mem_cons_of_mem n hm)
    exact ⟨_, rulesOf_cons_eq_ok.2
      ⟨_, rest, ruleOf_directory (h n List.mem_cons_self), hrest, rfl⟩⟩

theorem findSome?_rulesOf (h : rulesOf lines = .ok rules) (p : Text) :
    (rules.reverse.findSome? fun r => r.verdict p) =
      lines.reverse.findSome? fun line => gitignore.verdict line p := by
  induction lines generalizing rules with
  | nil =>
    cases h
    rfl
  | cons line lines ih =>
    obtain ⟨rule, rest, hrule, hrest, rfl⟩ := rulesOf_cons_eq_ok.1 h
    have hline : (rule.toList.reverse.findSome? fun r => r.verdict p) =
        [line].findSome? fun line => gitignore.verdict line p := by
      unfold gitignore
      cases rule <;> simp [hrule]
    rw [List.reverse_append, List.findSome?_append, List.reverse_cons, List.findSome?_append,
      ih hrest, hline]

/-- The program's reader keeps to the format. -/
theorem gitignore_lawful : gitignore.Lawful where
  reads h := by
    obtain ⟨rules, hrules⟩ := exists_rulesOf_directories h
    exact ⟨excludes rules, congrArg (Except.map excludes) hrules⟩
  last_decides h p := by
    obtain ⟨rules, hrules, rfl⟩ := except_map_eq_ok.1 h
    exact congrArg (Option.getD · false) (findSome?_rulesOf hrules p)
  readmits {line p} h := by
    unfold gitignore at h
    dsimp only at h
    split at h
    · next r hr =>
      unfold Rule.verdict at h
      split at h
      · have hmark := readmits_of_ruleOf hr
        simp_all
      · cases h
    · cases h
  sound {n p} hn h := by
    rw [verdict_directory hn] at h
    split at h
    · next hmatch => exact within_of_seenPath (within_of_startsWith hn.2.1 hmatch)
    · cases h
  complete {n p} hn hp hline hd h := by
    have hseen : '\n' ∉ seenPath p := fun hm => hline (seenPath_suffix.subset hm)
    rw [verdict_directory hn, if_pos (startsWith_of_within hseen (isAbsolute_seenPath hp hd)
      (within_seenPath hn.2.2.1 hp h))]

end Exclusion

namespace SourceFilter

variable {r : RuleReader} {f : SourceFilter} {more exts : List Text} {n p x : Text}

/-! ## Filters -/

theorem replaceChar_of_not_mem {old new : Char} {t : Text} (h : old ∉ t) :
    Text.replaceChar old new t = t := by
  have hid : ∀ c ∈ t, (if c = old then new else c) = id c :=
    fun c hc => if_neg fun he : c = old => h (he ▸ hc)
  exact (List.map_congr_left hid).trans (List.map_id t)

theorem make_eq_ok_iff :
    make r more exts = .ok f ↔
      f.excluded = sortDistinct (alwaysExcluded ++ more) ∧
        r.read (linesOf f.excluded) = .ok f.excludes ∧
        f.extensions = (if exts.isEmpty then defaultExtensions else exts).map
          fun e => e.dropWhile (· == '.') := by
  unfold make
  dsimp only
  rw [except_bind_eq_ok]
  constructor
  · rintro ⟨test, htest, hf⟩
    obtain rfl := Except.ok.inj hf
    exact ⟨rfl, htest, rfl⟩
  · rintro ⟨hexcluded, htest, hexts⟩
    refine ⟨f.excludes, hexcluded ▸ htest, ?_⟩
    rw [← hexcluded, ← hexts]
    rfl

theorem plainName_alwaysExcluded : ∀ n ∈ alwaysExcluded, PlainName n := by decide

theorem mem_excluded (h : make r more exts = .ok f) :
    n ∈ f.excluded ↔ n ∈ alwaysExcluded ∨ n ∈ more := by
  rw [(make_eq_ok_iff.1 h).1]
  exact mem_sortDistinct.trans List.mem_append

theorem plainName_of_mem_excluded (h : make r more exts = .ok f)
    (hmore : ∀ n ∈ more, PlainName n) (hn : n ∈ f.excluded) : PlainName n :=
  ((mem_excluded h).1 hn).elim (plainName_alwaysExcluded n) (hmore n)

/-- A filter with plain names excludes a path exactly if one of its lines does. -/
theorem isExcluded_iff_verdict (hr : r.Lawful) (h : make r more exts = .ok f)
    (hmore : ∀ n ∈ more, PlainName n) (hback : '\\' ∉ p) :
    f.isExcluded p = true ↔ ∃ n ∈ f.excluded, r.verdict (n ++ ['/']) p = some true := by
  have hread := (make_eq_ok_iff.1 h).2.1
  have hmark : ∀ n ∈ f.excluded, (n ++ ['/']).head? ≠ some '!' := by
    intro n hn
    obtain ⟨hne, -, -, -, -, hmark, -⟩ := plainName_of_mem_excluded h hmore hn
    obtain ⟨c, cs, rfl⟩ := List.exists_cons_of_ne_nil hne
    exact hmark
  unfold isExcluded
  rw [replaceChar_of_not_mem hback]
  constructor
  · intro hp
    obtain ⟨line, hline, hv⟩ := hr.exists_verdict hread hp
    obtain ⟨n, hn, rfl⟩ := List.mem_map.1 hline
    exact ⟨n, hn, hv⟩
  · rintro ⟨n, hn, hv⟩
    obtain ⟨early, late, hsplit⟩ := List.append_of_mem hn
    have hlines : linesOf f.excluded = linesOf early ++ (n ++ ['/']) :: linesOf late := by
      rw [hsplit]
      unfold linesOf
      rw [List.map_append, List.map_cons]
    refine hr.excludes_of_verdict (hlines ▸ hread) hv fun line hline => ?_
    obtain ⟨m, hm, rfl⟩ := List.mem_map.1 hline
    exact hmark m (by rw [hsplit]; simp [hm])

theorem within_of_isExcluded (hr : r.Lawful) (h : make r more exts = .ok f)
    (hmore : ∀ n ∈ more, PlainName n) (hback : '\\' ∉ p) (hp : f.isExcluded p = true) :
    ∃ n ∈ f.excluded, Within n p := by
  obtain ⟨n, hn, hv⟩ := (isExcluded_iff_verdict hr h hmore hback).1 hp
  exact ⟨n, hn, hr.sound (plainName_of_mem_excluded h hmore hn) hv⟩

theorem isExcluded_of_within (hr : r.Lawful) (h : make r more exts = .ok f)
    (hmore : ∀ n ∈ more, PlainName n) (habs : Path.isAbsolute p = false) (hline : '\n' ∉ p)
    (hback : '\\' ∉ p) (hd : ¬ Detours p) (hn : n ∈ f.excluded) (hp : Within n p) :
    f.isExcluded p = true :=
  (isExcluded_iff_verdict hr h hmore hback).2
    ⟨n, hn, hr.complete (plainName_of_mem_excluded h hmore hn) habs hline hd hp⟩

theorem make_standard : make Exclusion.gitignore [] [] = .ok standard := rfl

/-- The standard filter excludes no file by its name alone. -/
theorem isExcluded_standard_name (hs : '/' ∉ x) (hb : '\\' ∉ x) :
    standard.isExcluded x = false := by
  rw [← Bool.not_eq_true]
  intro h
  obtain ⟨n, -, xs, ys, hseg, hys⟩ := within_of_isExcluded Exclusion.gitignore_lawful make_standard
    (fun n hn => absurd hn List.not_mem_nil) hb h
  rw [Path.segments_of_not_mem hs] at hseg
  rcases xs with _ | ⟨y, ys'⟩
  · exact hys (List.cons.inj hseg).2.symm
  · simp at hseg

end SourceFilter

end ComponentManifest
