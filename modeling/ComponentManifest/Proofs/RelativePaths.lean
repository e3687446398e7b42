import ComponentManifest.Manifest.Build
import ComponentManifest.Proofs.PlainPath

/-!
# The way there and back

A path that was made relative to a directory and is then joined to the directory leads back to where
it was taken from. All of this happens on the text alone: steps up take back the names that the two
paths do not share, and the remaining names are put after those that they do.

1. Parts of a path may be collapsed before the whole is.
2. Paths joined to a rooted one.
3. `way`: the steps from one rooted path to another.
4. `normalize_join_manifestPath`: a path in the manifest leads back to its file.
-/

namespace ComponentManifest

namespace Path

variable {b r : Bool} {ss ms os ts kept xs : List Text} {a p s : Text}

/-! ## Collapsing in parts -/

theorem not_idle_push (h : ∀ k ∈ kept, ¬ Idle k) : ∀ k ∈ push r kept s, ¬ Idle k := by
  intro k hk
  rcases mem_push hk with hk | ⟨rfl, hs⟩
  · exact h k hk
  · exact hs

/-- One more segment of a relative path does the same to the whole way, whether it is pushed before
or after the rest is put on a rooted path. -/
theorem foldl_push_push (h : ∀ k ∈ ms, ¬ Idle k) :
    (push false ms s).reverse.foldl (push true) kept =
      push true (ms.reverse.foldl (push true) kept) s := by
  by_cases hi : Idle s
  · rw [push_idle hi, push_idle hi]
  by_cases hu : s = up
  · subst hu
    rcases ms with _ | ⟨k, ks⟩
    · rfl
    by_cases hk : k = up
    · subst hk
      show (up :: up :: ks).reverse.foldl (push true) kept = _
      rw [List.reverse_cons, List.foldl_append]
      rfl
    · have hp : Proper k := ⟨h k List.mem_cons_self, hk⟩
      rw [push_up_cons hk, List.reverse_cons, List.foldl_append]
      show _ = push true (push true _ k) up
      rw [push_proper hp, push_up_cons hk]
  · have hp : Proper s := ⟨hi, hu⟩
    rw [push_proper hp, List.reverse_cons, List.foldl_append]
    rfl

theorem foldl_push_foldl (h : ∀ k ∈ ms, ¬ Idle k) :
    (xs.foldl (push false) ms).reverse.foldl (push true) kept =
      xs.foldl (push true) (ms.reverse.foldl (push true) kept) := by
  induction xs generalizing ms with
  | nil => rfl
  | cons x xs ih => rw [List.foldl_cons, ih (not_idle_push h), foldl_push_push h, List.foldl_cons]

/-- A relative part may be collapsed by itself first. -/
theorem foldl_push_collapse (xs : List Text) :
    (collapse false xs).foldl (push true) kept = xs.foldl (push true) kept :=
  foldl_push_foldl fun _ hk => absurd hk List.not_mem_nil

theorem foldl_push_normalize (h : isAbsolute p = false) :
    (segments (normalize p)).foldl (push true) kept = (segments p).foldl (push true) kept := by
  rw [segments_normalize h, ← foldl_push_collapse (segments p)]
  split
  · next hc =>
    rw [hc]
    exact push_idle (r := true) (Or.inr rfl)
  · rfl

theorem plain_foldl_push (hk : Plain kept) (hs : ∀ s ∈ xs, '/' ∉ s) :
    Plain (xs.foldl (push true) kept) := by
  intro k hm
  have hup : up ∉ xs.foldl (push true) kept :=
    up_not_mem_foldl_push fun hm => (hk up hm).1.2 rfl
  rcases mem_foldl_push hm with hk' | ⟨hx, hi⟩
  · exact hk k hk'
  · exact ⟨⟨hi, fun he => hup (he ▸ hm)⟩, hs k hx⟩

/-- Without steps up all segments that name something are kept. -/
theorem foldl_push_of_up_not_mem (h : up ∉ xs) :
    xs.foldl (push r) kept = (xs.filter fun s => ¬ Idle s).reverse ++ kept := by
  induction xs generalizing kept with
  | nil => rfl
  | cons x xs ih =>
    rw [List.mem_cons, not_or] at h
    rw [List.foldl_cons, ih h.2, List.filter_cons]
    by_cases hi : Idle x
    · simp [push_idle hi, hi]
    · simp [push_proper ⟨hi, Ne.symm h.1⟩, hi]

theorem push_up (h : up ∉ kept) : push true kept up = kept.drop 1 := by
  rcases kept with _ | ⟨k, ks⟩
  · rfl
  · rw [List.mem_cons, not_or] at h
    exact push_up_cons (Ne.symm h.1)

/-- Above a rooted directory segments only take names back, and put their own in front. -/
theorem exists_foldl_push (xs : List Text) (h : up ∉ kept) :
    ∃ ns n, xs.foldl (push true) kept = ns ++ kept.drop n ∧ ∀ s ∈ ns, s ∈ xs := by
  induction xs generalizing kept with
  | nil => exact ⟨[], 0, rfl, fun s hs => absurd hs List.not_mem_nil⟩
  | cons x xs ih =>
    obtain ⟨ns, n, hns, hmem⟩ := ih (up_not_mem_push (s := x) h)
    have hmem' : ∀ s ∈ ns, s ∈ x :: xs := fun s hs => List.mem_cons_of_mem x (hmem s hs)
    rw [List.foldl_cons, hns]
    by_cases hi : Idle x
    · exact ⟨ns, n, by rw [push_idle hi], hmem'⟩
    by_cases hu : x = up
    · subst hu
      exact ⟨ns, 1 + n, by rw [push_up h, List.drop_drop], hmem'⟩
    rw [push_proper ⟨hi, hu⟩]
    cases n with
    | zero =>
      refine ⟨ns ++ [x], 0, by simp, fun s hs => ?_⟩
      rcases List.mem_append.1 hs with hs | hs
      · exact hmem' s hs
      · exact List.mem_singleton.1 hs ▸ List.mem_cons_self
    | succ n => exact ⟨ns, n, rfl, hmem'⟩

/-! ## Joining -/

/-- A path that is joined goes on from where the first one led. -/
theorem foldl_push_join (ha : a ≠ []) (hp : isAbsolute p = false) :
    (segments (join a p)).foldl (push r) kept =
      (segments p).foldl (push r) ((segments a).foldl (push r) kept) := by
  rw [segments_join ha hp, List.foldl_append]
  rcases segments_eq_lead a with ⟨hs, -⟩ | hs
  · rw [hs]
  · rw [hs, List.foldl_append]
    exact congrArg ((segments p).foldl (push r)) (push_idle (r := r) (Or.inl rfl)).symm

theorem rootSlashes_join_nil (h : isAbsolute a = true) :
    rootSlashes (join a []) = rootSlashes a := by
  unfold join
  split
  · next hp => cases hp
  split
  · rw [List.append_nil]
  next hlast =>
  rcases a with _ | ⟨c, _ | ⟨d, _ | ⟨e, es⟩⟩⟩
  · cases h
  · obtain rfl : c = '/' := by simpa [isAbsolute] using h
    exact absurd rfl hlast
  · obtain rfl : c = '/' := by simpa [isAbsolute] using h
    have hd : d ≠ '/' := by
      rintro rfl
      exact hlast rfl
    simp [rootSlashes, hd]
  · obtain rfl : c = '/' := by simpa [isAbsolute] using h
    by_cases hd : d = '/'
    · subst hd
      by_cases he : e = '/' <;> simp [rootSlashes, he]
    · simp [rootSlashes, hd]

theorem normalize_join_nil (h : isAbsolute a = true) : normalize (join a []) = normalize a := by
  have hne : a ≠ [] := by
    rintro rfl
    cases h
  have hc (r : Bool) : collapse r (segments (join a [])) = collapse r (segments a) := by
    unfold collapse
    rw [foldl_push_join hne rfl]
    exact congrArg List.reverse (push_idle (r := r) (Or.inl rfl))
  unfold normalize
  rw [rootSlashes_join_nil h]
  dsimp only
  rw [hc]

theorem isAbsolute_join_eq_false (ha : isAbsolute a = false) (hp : isAbsolute p = false) :
    isAbsolute (join a p) = false := by
  by_cases hn : a = []
  · rwa [hn, nil_join]
  · rw [isAbsolute_join hn hp, ha]

theorem rootSlashes_root_append (h : isAbsolute p = false) :
    rootSlashes (root b ++ p) = (root b).length := by
  rcases p with _ | ⟨c, cs⟩
  · cases b <;> rfl
  · have hc : c ≠ '/' := by
      rintro rfl
      simp [isAbsolute] at h
    cases b
    · show rootSlashes ('/' :: c :: cs) = 1
      simp [rootSlashes, hc]
    · show rootSlashes ('/' :: '/' :: c :: cs) = 2
      simp [rootSlashes, hc]

theorem normalize_root_append (h : isAbsolute p = false) :
    normalize (root b ++ p) = rooted b (collapse true (segments p)) := by
  have hseg : ∃ n, segments (root b ++ p) = List.replicate n [] ++ segments p := by
    cases b
    · exact ⟨1, segments_append_slash [] p⟩
    · exact ⟨2, segments_append_slash ['/'] p⟩
  obtain ⟨n, hn⟩ := hseg
  have hc : collapse true (segments (root b ++ p)) = collapse true (segments p) := by
    unfold collapse
    rw [hn, List.foldl_append, foldl_push_replicate]
  have hr : ((root b).length != 0) = true := by cases b <;> rfl
  have hne : (rooted b (collapse true (segments p))).isEmpty = false := by
    simpa using rooted_ne_nil
  unfold normalize
  dsimp only
  rw [rootSlashes_root_append h, hr, hc, ← root_eq_replicate]
  show (if (rooted b (collapse true (segments p))).isEmpty = true then here else _) = _
  rw [hne]
  rfl

theorem normalize_join_rooted (hs : Plain ss) (hp : isAbsolute p = false) :
    normalize (join (rooted b ss) p) =
      rooted b ((segments p).foldl (push true) ss.reverse).reverse := by
  by_cases hsn : ss = []
  · subst hsn
    rw [join_rooted_nil hp, normalize_root_append hp]
    rfl
  · have hj : join (rooted b ss) p = root b ++ (ofSegments ss ++ '/' :: p) :=
      (join_of_no_slash rooted_ne_nil (getLast?_rooted hs hsn) hp).trans (List.append_assoc ..)
    have ha : isAbsolute (ofSegments ss ++ '/' :: p) = false := by
      have hss := hs.isAbsolute_ofSegments
      obtain ⟨c, cs, hc⟩ := List.exists_cons_of_ne_nil (ofSegments_ne_nil hs hsn)
      rw [hc] at hss ⊢
      exact hss
    rw [hj, normalize_root_append ha]
    unfold collapse
    rw [segments_append_slash, hs.segments_ofSegments hsn, List.foldl_append, foldl_push_plain hs,
      List.append_nil]

/-! ## The way from one path to another -/

/-- The steps from the names `os` to the names `ts`: up to where they part, then down. -/
def way (os ts : List Text) : List Text :=
  let shared := (commonPrefix os ts).length
  List.replicate (os.length - shared) up ++ ts.drop shared

theorem commonPrefix_prefix (os ts : List Text) :
    commonPrefix os ts <+: os ∧ commonPrefix os ts <+: ts := by
  induction os generalizing ts with
  | nil => exact ⟨List.nil_prefix, List.nil_prefix⟩
  | cons o os ih =>
    rcases ts with _ | ⟨t, ts⟩
    · exact ⟨List.nil_prefix, List.nil_prefix⟩
    unfold commonPrefix
    split
    · next he =>
      subst he
      exact ⟨(List.prefix_cons_inj o).2 (ih ts).1, (List.prefix_cons_inj o).2 (ih ts).2⟩
    · exact ⟨List.nil_prefix, List.nil_prefix⟩

theorem Plain.up_not_mem (h : Plain ss) : up ∉ ss := fun hm => (h up hm).1.2 rfl

theorem foldl_push_up {n : Nat} (h : up ∉ kept) (hn : n ≤ kept.length) :
    (List.replicate n up).foldl (push r) kept = kept.drop n := by
  induction n generalizing kept with
  | zero => rfl
  | succ n ih =>
    obtain ⟨k, ks, rfl⟩ := List.exists_cons_of_length_pos (by omega : 0 < kept.length)
    rw [List.mem_cons, not_or] at h
    rw [List.replicate_succ, List.foldl_cons, push_up_cons (Ne.symm h.1),
      ih h.2 (by simpa using hn), List.drop_succ_cons]

theorem foldl_push_way (ho : Plain os) (ht : Plain ts) :
    (way os ts).foldl (push r) os.reverse = ts.reverse := by
  obtain ⟨hpo, hpt⟩ := commonPrefix_prefix os ts
  have hlen := hpo.length_le
  have htake : os.take (commonPrefix os ts).length = ts.take (commonPrefix os ts).length := by
    rw [← List.prefix_iff_eq_take.1 hpo, ← List.prefix_iff_eq_take.1 hpt]
  have hup : up ∉ os.reverse := fun hm => ho.up_not_mem (List.mem_reverse.1 hm)
  have hdown : Plain (ts.drop (commonPrefix os ts).length) :=
    fun s hs => ht s (List.mem_of_mem_drop hs)
  unfold way
  dsimp only
  rw [List.foldl_append, foldl_push_up hup (by simp), foldl_push_plain hdown, List.drop_reverse,
    Nat.sub_sub_self hlen, htake, ← List.reverse_append, List.take_append_drop]

theorem way_append (os ms : List Text) : way os (os ++ ms) = ms := by
  unfold way
  dsimp only
  rw [commonPrefix_below, Nat.sub_self, List.drop_left, List.replicate_zero, List.nil_append]

/-- On the way between two paths that begin alike are steps up and names of the second. -/
theorem exists_way_append (ss ms ns : List Text) :
    ∃ k n, way (ss ++ ms) (ss ++ ns) = List.replicate k up ++ ns.drop n := by
  unfold way
  simp only [commonPrefix_append, List.length_append, List.drop_length_add_append]
  exact ⟨_, _, rfl⟩

/-- The way to where segments lead, and names below it: what is on it before the last names are
steps up and some of the segments. -/
theorem exists_way_foldl_push (ho : up ∉ os) (xs ms : List Text) :
    ∃ as bs, way os ((xs.foldl (push true) os.reverse).reverse ++ ms) = as ++ bs ∧
      (∀ s ∈ as, s = up ∨ s ∈ xs) ∧ bs <:+ ms := by
  obtain ⟨ns, n, hns, hmem⟩ := exists_foldl_push xs (mt List.mem_reverse.1 ho)
  have htarget : (xs.foldl (push true) os.reverse).reverse ++ ms =
      os.take (os.length - n) ++ (ns.reverse ++ ms) := by
    rw [hns, List.drop_reverse, List.reverse_append, List.reverse_reverse, List.append_assoc]
  obtain ⟨k, j, hway⟩ := exists_way_append (os.take (os.length - n)) (os.drop (os.length - n))
    (ns.reverse ++ ms)
  rw [List.take_append_drop] at hway
  rw [htarget, hway, List.drop_append, ← List.append_assoc]
  refine ⟨_, _, rfl, fun s hs => ?_, List.drop_suffix _ _⟩
  rcases List.mem_append.1 hs with hs | hs
  · exact Or.inl (List.eq_of_mem_replicate hs)
  · exact Or.inr (hmem s (List.mem_reverse.1 (List.mem_of_mem_drop hs)))

theorem mem_way (os : List Text) (ht : Plain ts) (h : s ∈ way os ts) : '/' ∉ s ∧ ¬ Idle s := by
  rcases List.mem_append.1 h with h | h
  · rw [List.eq_of_mem_replicate h]
    decide
  · have hp := ht s (List.mem_of_mem_drop h)
    exact ⟨hp.2, hp.1.1⟩

theorem relative_eq_way {b' : Bool} (ho : Plain os) (ht : Plain ts) :
    relative (rooted b ts) (rooted b' os) =
      if way os ts = [] then here else ofSegments (way os ts) := by
  unfold relative
  rw [names_rooted ho, names_rooted ht]
  show (if (way os ts).isEmpty = true then here else ofSegments (way os ts)) = _
  simp only [List.isEmpty_iff]

theorem relative_ne_nil {b' : Bool} (ho : Plain os) (ht : Plain ts) :
    relative (rooted b ts) (rooted b' os) ≠ [] := by
  rw [relative_eq_way ho ht]
  split
  · decide
  · next hne =>
    intro he
    have hs := segments_ofSegments (fun s hs => (mem_way os ht hs).1) hne
    rw [he] at hs
    exact (mem_way os ht (hs ▸ List.mem_singleton_self [])).2 (Or.inl rfl)

theorem isAbsolute_relative (b b' : Bool) (ho : Plain os) (ht : Plain ts) :
    isAbsolute (relative (rooted b ts) (rooted b' os)) = false := by
  rw [relative_eq_way ho ht]
  split
  · rfl
  · exact isAbsolute_ofSegments fun s hs => mem_way os ht hs

theorem foldl_push_relative {b' : Bool} (ho : Plain os) (ht : Plain ts) :
    (segments (relative (rooted b ts) (rooted b' os))).foldl (push r) kept =
      (way os ts).foldl (push r) kept := by
  rw [relative_eq_way ho ht]
  split
  · next he =>
    rw [he]
    exact push_idle (r := r) (Or.inr rfl)
  · next hne => rw [segments_ofSegments (fun s hs => (mem_way os ht hs).1) hne]

end Path

/-! ## Paths in the manifest -/

open ComponentManifest.Path (Plain rooted)

variable {b : Bool} {cs ds fs ms : List Text} {s : Text}

theorem isAbsolute_manifestPath (hc : Plain cs) (hd : Plain ds) (hf : Plain fs) :
    Path.isAbsolute (manifestPath (Path.relative (rooted b ds) (rooted b cs)) (rooted b ds)
      (rooted b fs)) = false :=
  Path.isAbsolute_normalize <| Path.isAbsolute_join_eq_false
    (Path.isAbsolute_relative b b hc hd) (Path.isAbsolute_relative b b hd hf)

/-- Joined to the scan directory, a path in the manifest leads back to its file. -/
theorem normalize_join_manifestPath (hc : Plain cs) (hd : Plain ds) (hf : Plain fs) :
    Path.normalize (Path.join (rooted b cs)
      (manifestPath (Path.relative (rooted b ds) (rooted b cs)) (rooted b ds) (rooted b fs))) =
        rooted b fs := by
  have hdir := Path.isAbsolute_relative b b hc hd
  have hfile := Path.isAbsolute_relative b b hd hf
  rw [Path.normalize_join_rooted hc (isAbsolute_manifestPath hc hd hf)]
  unfold manifestPath
  rw [Path.foldl_push_normalize (Path.isAbsolute_join_eq_false hdir hfile),
    Path.foldl_push_join (Path.relative_ne_nil hc hd) hfile, Path.foldl_push_relative hc hd,
    Path.foldl_push_way hc hd, Path.foldl_push_relative hd hf, Path.foldl_push_way hd hf,
    List.reverse_reverse]

/-- The segments of a path in the manifest are those of the way to its file over the directory of
its unit; how many slashes the paths begin with does not matter. -/
theorem segments_manifestPath {b b' b'' : Bool} (hc : Plain cs) (hd : Plain ds) (hf : Plain fs) :
    Path.segments (manifestPath (Path.relative (rooted b' ds) (rooted b cs)) (rooted b' ds)
        (rooted b'' fs)) =
      if Path.collapse false (Path.way cs ds ++ Path.way ds fs) = [] then [Path.here]
      else Path.collapse false (Path.way cs ds ++ Path.way ds fs) := by
  have hdir := Path.isAbsolute_relative b' b hc hd
  have hfile := Path.isAbsolute_relative b'' b' hd hf
  have hcollapse : Path.collapse false (Path.segments (Path.join
      (Path.relative (rooted b' ds) (rooted b cs))
      (Path.relative (rooted b'' fs) (rooted b' ds)))) =
        Path.collapse false (Path.way cs ds ++ Path.way ds fs) := by
    unfold Path.collapse
    rw [Path.foldl_push_join (Path.relative_ne_nil hc hd) hfile, Path.foldl_push_relative hc hd,
      Path.foldl_push_relative hd hf, List.foldl_append]
  unfold manifestPath
  rw [Path.segments_normalize (Path.isAbsolute_join_eq_false hdir hfile), hcollapse]

/-- Below the scan directory a file stands in the manifest by the names that lead down to it. -/
theorem manifestPath_below {b b' b'' : Bool} (hc : Plain cs) (hd : Plain ds) (hm : Plain ms)
    (hmn : ms ≠ []) :
    manifestPath (Path.relative (rooted b' (cs ++ ds)) (rooted b cs)) (rooted b' (cs ++ ds))
      (rooted b'' (cs ++ ds ++ ms)) = Path.ofSegments (ds ++ ms) := by
  have hcd := hc.append hd
  have hall := hcd.append hm
  have hn : ds ++ ms ≠ [] := by simp [hmn]
  apply Path.eq_of_segments_eq
  rw [segments_manifestPath hc hcd hall, Path.way_append, Path.way_append,
    (hd.append hm).collapse_eq, if_neg hn, (hd.append hm).segments_ofSegments hn]

end ComponentManifest
