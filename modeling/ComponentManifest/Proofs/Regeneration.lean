import ComponentManifest.Proofs.AllOrNothing
import ComponentManifest.Proofs.JsonRoundTrip
import ComponentManifest.Proofs.StableBuild

/-!
# Generating twice

A manifest may be written anywhere, also among the sources that it lists and into a directory that
is named like one of them. Generating again still gives the same manifest, in the same place.

1. The text of a manifest is read back as its value.
2. Writing into a directory that is there, over the file that is there.
3. What writing leaves of the sources, and of the session's project.
4. `regeneration_idempotent`.
-/

namespace ComponentManifest

open ComponentManifest.Path (Plain rooted Down)
open Text (ofString)

variable {s : Session} {v w : Workspace} {t : Tree} {b : Bool} {ss : List Text} {d l : Location}
  {p path pattern dir : Text} {content old : Bytes} {m : Manifest} {c : Config} {answer : Json}
  {room : Nat}

/-! ## The text of a manifest -/

namespace Json

theorem textualMembers_iff {ms : Members} :
    TextualMembers ms room ↔ ∀ x ∈ ms, Textual x.2 room := by
  induction ms with
  | nil => simp [TextualMembers]
  | cons x ms ih =>
    obtain ⟨key, value⟩ := x
    simp [TextualMembers, ih]

theorem textual_obj {ms : Members} (hk : (Members.keys ms).Nodup)
    (hm : ∀ x ∈ ms, Textual x.2 room) : Textual (.obj ms) (room + 1) :=
  ⟨hk, textualMembers_iff.2 hm⟩

end Json

open Json (Textual)

theorem ItemFile.textual_toJson (f : ItemFile) : Textual f.toJson (room + 1) :=
  Json.textual_obj (by decide : [ofString "path", ofString "type"].Nodup) (by simp [Textual])

theorem keys_listMember (key : Text) (ts : List Text) :
    (Members.keys (listMember key ts)).Sublist [key] := by
  unfold listMember
  split
  · exact List.nil_sublist _
  · exact List.Sublist.refl _

theorem textual_listMember {key : Text} {ts : List Text} :
    ∀ x ∈ listMember key ts, Textual x.2 (room + 1) := by
  intro x hx
  unfold listMember at hx
  split at hx
  · cases hx
  · rw [List.mem_singleton.1 hx]
    exact Json.textual_ofTexts ts

theorem Item.textual_toJson (i : Item) : Textual i.toJson (room + 3) := by
  refine Json.textual_obj ?_ fun x hx => ?_
  · have hall : [ofString "name", ofString "type", ofString "files", ofString "dependencies",
        ofString "devDependencies", ofString "registryDependencies"].Nodup := by decide
    refine List.Nodup.sublist ?_ hall
    unfold Members.keys
    rw [List.map_append, List.map_append, List.map_append]
    exact (((List.Sublist.refl _).append (keys_listMember _ _)).append
      (keys_listMember _ _)).append (keys_listMember _ _)
  · rcases List.mem_append.1 hx with hx | hx
    · rcases List.mem_append.1 hx with hx | hx
      · rcases List.mem_append.1 hx with hx | hx
        · have hfiles : Textual (.arr (i.files.map ItemFile.toJson)) (room + 2) := by
            refine Json.textualElements_iff.2 fun y hy => ?_
            obtain ⟨f, -, rfl⟩ := List.mem_map.1 hy
            exact f.textual_toJson
          simp only [List.mem_cons, List.not_mem_nil, or_false] at hx
          rcases hx with rfl | rfl | rfl
          · trivial
          · trivial
          · exact hfiles
        · exact textual_listMember x hx
      · exact textual_listMember x hx
    · exact textual_listMember x hx

/-- A manifest has five levels: itself, its items, an item, the files of it, and a file. -/
theorem Manifest.textual_toJson (m : Manifest) : Textual m.toJson (room + 5) := by
  have hitems : Textual (.arr (m.items.map Item.toJson)) (room + 4) := by
    refine Json.textualElements_iff.2 fun y hy => ?_
    obtain ⟨i, -, rfl⟩ := List.mem_map.1 hy
    exact i.textual_toJson
  refine Json.textual_obj (by decide : [ofString "$schema", ofString "name", ofString "homepage",
    ofString "items"].Nodup) fun x hx => ?_
  simp only [List.mem_cons, List.not_mem_nil, or_false] at hx
  rcases hx with rfl | rfl | rfl | rfl
  · trivial
  · trivial
  · trivial
  · exact hitems

theorem Manifest.readJson_of_read (h : w.read p = .ok m.content) :
    readJson w p = .ok m.toJson := by
  have htextual : Textual m.toJson maxLevels := m.textual_toJson
  have hreturn : '\r' ∉ m.text ++ ['\n'] := by
    intro hm
    rcases List.mem_append.1 hm with hm | hm
    · exact Json.return_not_mem_block htextual hm
    · cases List.mem_singleton.1 hm
  rw [ComponentManifest.readJson_of_read h hreturn]
  exact Json.parse_block htextual

/-! ## Writing again -/

theorem Workspace.isUsable_of_writeFile (h : (w.writeFile p content).failure = none) :
    Path.isUsable p = true := by
  unfold writeFile changing at h
  split at h
  · next hu => exact hu
  · cases h

theorem Workspace.writeFile_over (hu : Path.isUsable p = true)
    (hr : w.reach true p = .entry l (.file old)) :
    w.writeFile p content = ⟨w.tree.put l (.file content), none⟩ := by
  unfold writeFile changing
  rw [if_pos hu, hr]

/-- Below a directory that is there, only the last one is made. -/
theorem Workspace.makeDirs_of_parent
    (h : (parentAndName p).2 = [] ∨ w.exists? (parentAndName p).1 = true) :
    w.makeDirs p = w.ensureDir p := by
  have hcond : (!(parentAndName p).1.isEmpty && !(parentAndName p).2.isEmpty &&
      !w.exists? (parentAndName p).1) = false := by
    rcases h with h | h <;> simp [h]
  have hmissing : ∀ n, w.missingAbove n p = 0 ∧ w.makeDirsWithin n p = w.ensureDir p := by
    intro n
    cases n with
    | zero => exact ⟨rfl, rfl⟩
    | succ n =>
      unfold missingAbove makeDirsWithin
      dsimp only
      rw [hcond, if_neg Bool.false_ne_true, if_neg Bool.false_ne_true]
      exact ⟨rfl, rfl⟩
  obtain ⟨hnone, hmade⟩ := hmissing p.length
  unfold makeDirs
  rw [hnone, hmade, if_neg (Nat.not_lt_zero maxLevels)]

theorem Workspace.makeDirs_of_isDir (ht : w.tree.LinkFree) (hs : Plain ss)
    (hd : w.isDir (rooted b ss) = true) : w.makeDirs (rooted b ss) = w.unchanged := by
  have hentry := (isDir_spells ht (Path.spells_rooted hs)).1 hd
  have hensure : w.ensureDir (rooted b ss) = w.unchanged := by
    have hfails : (w.makeDir (rooted b ss)).failure.isSome = true := by
      have hreach : w.reach false (rooted b ss) = .entry ss .dir := by
        have hr := (reach_spells ht (Path.spells_rooted (b := b) hs)).2 ⟨rfl, hentry, Or.inl rfl⟩
        rw [reach_rooted hs, ht.walk_eq, ← reach_rooted hs]
        exact hr
      unfold makeDir changing
      rw [Path.withoutFinalSlashes_rooted hs, hreach]
      split <;> rfl
    unfold ensureDir
    dsimp only
    rw [hfails, hd]
    rfl
  refine (makeDirs_of_parent ?_).trans hensure
  rcases List.eq_nil_or_concat ss with rfl | ⟨init, x, rfl⟩
  · exact Or.inl (by cases b <;> rfl)
  rw [List.concat_eq_append] at hs hentry ⊢
  have hinit := Tree.entry?_of_append hentry (List.cons_ne_nil x [])
  rw [Path.parentAndName_rooted hs.left hs.right]
  exact Or.inr (exists?_of_isDir ((isDir_spells ht (Path.spells_rooted (b := b) hs.left)).2 hinit))

/-- A manifest that was written has an encoding, and its path can be used. -/
theorem Manifest.usable_of_write (h : (m.write w dir).2.result = .ok p) :
    Text.firstHalves? m.text = none ∧ Path.isUsable (Path.join dir manifestFile) = true := by
  unfold write at h
  dsimp only at h
  split at h
  · cases h
  unfold writeFile at h
  split at h
  · next hnone =>
    unfold writeOne at h
    dsimp only at h
    rcases hf : ((w.withTree (w.makeDirs dir).tree).writeFile (Path.join dir manifestFile)
      m.content).failure with _ | f
    · exact ⟨hnone, Workspace.isUsable_of_writeFile hf⟩
    · rw [hf] at h
      cases h
  · dsimp only at h
    split at h
    · cases h
    · cases h

theorem Manifest.write_over (ht : w.tree.LinkFree) (hs : Plain ss)
    (hd : w.isDir (rooted b ss) = true) (hnone : Text.firstHalves? m.text = none)
    (hu : Path.isUsable (Path.join (rooted b ss) manifestFile) = true)
    (hr : w.reach true (Path.join (rooted b ss) manifestFile) = .entry l (.file old)) :
    m.write w (rooted b ss) = (w.tree.put l (.file m.content),
      ⟨[.manifestWritten (Path.join (rooted b ss) manifestFile)],
        .ok (Path.join (rooted b ss) manifestFile)⟩) := by
  have hwrite : (w.withTree w.tree).writeFile (Path.join (rooted b ss) manifestFile) m.content =
      ⟨w.tree.put l (.file m.content), none⟩ := Workspace.writeFile_over hu hr
  unfold write
  rw [Workspace.makeDirs_of_isDir ht hs hd]
  show m.writeFile (w.withTree w.tree) (Path.join (rooted b ss) manifestFile) = _
  unfold writeFile
  rw [hnone]
  dsimp only
  rw [writeOne_of_tree hwrite]

theorem Tree.entry?_put_same (h : t.entry? l = some (.file content)) (l' : Location) :
    Tree.entry? (t.put l (.file content)) l' = t.entry? l' := by
  by_cases hl : l' = l
  · subst hl
    rw [entry?_put_self (accepts_of_file h), h]
  · exact entry?_put_of_ne hl

/-! ## What is left -/

theorem plain_manifestFile : Plain [manifestFile] := Tree.plain_of_validName (by decide)

theorem Workspace.Written.entry?_file (hs : Plain ss)
    (h : w.Written (rooted b ss) (Path.join (rooted b ss) manifestFile) content t d l) :
    t.entry? l = some (.file content) := by
  have hr := h.file
  rw [Path.join_rooted_name hs plain_manifestFile,
    reach_rooted (hs.append plain_manifestFile)] at hr
  obtain ⟨k, -, hl⟩ := Tree.leads_of_walk hr
  exact hl.entry?_eq rfl

/-- A manifest that is written leaves the sources. -/
theorem Workspace.Written.sameSources (ht : w.tree.LinkFree) (hs : Plain ss)
    (h : w.Written (rooted b ss) (Path.join (rooted b ss) manifestFile) content t d l) :
    w.tree.SameSources t := by
  have hj := Path.join_rooted_name (b := b) hs plain_manifestFile
  have hplain := hs.append plain_manifestFile
  have hfile := h.entry?_file hs
  have hfree : t.LinkFree := by
    intro l' target hl'
    by_cases hl : l' = l
    · subst hl
      rw [hl'] at hfile
      cases hfile
    · rcases h.rest l' hl with hsame | ⟨-, hdir, -⟩
      · exact ht l' target (hsame ▸ hl')
      · rw [hl'] at hdir
        cases hdir
  have hl : l = ss ++ [manifestFile] :=
    ((reach_spells (w := w.withTree t) hfree (Path.spells_rooted hplain)).1 (hj ▸ h.file)).1
  refine ⟨ht, hfree, fun l' x hx content' => ?_, fun l' hdir => ?_⟩
  · have hne : l' ++ [x] ≠ l := by
      rw [hl]
      intro he
      exact hx (List.singleton_inj.1 (List.append_inj' he rfl).2)
    rcases h.rest _ hne with hsame | ⟨hnone, hnew, -⟩
    · rw [hsame]
    · rw [hnone, hnew]
      simp
  · have hne : l' ≠ l := by
      rintro rfl
      obtain ⟨_, he⟩ := h.old _ hdir
      cases he
    rcases h.rest _ hne with hsame | ⟨hnone, -⟩
    · rw [hsame, hdir]
    · rw [hdir] at hnone
      cases hnone

namespace Session

theorem requireProject_eq_ok : s.requireProject w = .ok () ↔
    s.basePath ≠ [] ∧ w.isDir s.basePath = true := by
  unfold requireProject refusal?
  constructor
  · intro h
    split at h
    · cases h
    next hnone =>
    split at hnone
    · cases hnone
    next hne =>
    split at hnone
    · cases hnone
    split at hnone
    · cases hnone
    next hdir => exact ⟨by simpa using hne, by simpa using hdir⟩
  · rintro ⟨hne, hdir⟩
    have hexists := Workspace.exists?_of_isDir hdir
    have hempty : s.basePath.isEmpty = false := by simpa using hne
    rw [hempty, hexists, hdir]
    rfl

theorem Holds.exists_rooted (hold : s.Holds v path) :
    ∃ b ss, Plain ss ∧ s.basePath = rooted b ss := by
  obtain ⟨b, ss, hs, hp⟩ := v.exists_rooted path
  exact ⟨b, ss, hs, hold.basePath.trans hp⟩

theorem Holds.requireProject_of_sameSources (hold : s.Holds v path)
    (h : w.tree.SameSources t) (hp : s.requireProject w = .ok ()) :
    s.requireProject (w.withTree t) = .ok () := by
  obtain ⟨b, ss, hs, hbase⟩ := hold.exists_rooted
  obtain ⟨hne, hdir⟩ := requireProject_eq_ok.1 hp
  have hsame : w.tree.SameSources (w.withTree t).tree := h
  rw [hbase] at hdir
  refine requireProject_eq_ok.2 ⟨hne, ?_⟩
  rw [hbase]
  exact Workspace.isDir_of_sameSources hsame hs hdir

theorem Holds.generateConfig_of_sameSources (hold : s.Holds v path) (h : w.tree.SameSources t)
    (hc : s.generateConfig w pattern = .ok c) :
    s.generateConfig (w.withTree t) pattern = .ok c := by
  obtain ⟨own, hp, hown, hpattern⟩ := generateConfig_eq_ok.1 hc
  exact generateConfig_eq_ok.2 ⟨own, hold.requireProject_of_sameSources h hp, hown, hpattern⟩

theorem written_of_generate (hl : c.Located) (ht : w.tree.LinkFree)
    (hc : s.generateConfig w pattern = .ok c)
    (h : (s.generate w true pattern).2.result = .ok answer) :
    ∃ m d l, (buildOnce w c).result = .ok m ∧
      answer = generatedAnswer m (some (Path.join c.output manifestFile)) ∧
      (m.write w c.output).2.result = .ok (Path.join c.output manifestFile) ∧
      w.Written c.output (Path.join c.output manifestFile) m.content
        (s.generate w true pattern).1 d l := by
  rcases hm : (buildOnce w c).result with e | m
  · rw [generate_of_not_built true hc hm] at h
    cases h
  obtain ⟨htree, hresult⟩ := generate_written hc hm
  obtain ⟨b, os, hos, hout⟩ := hl.output
  have hw := m.writes_write (b := b) ht.cleanLinks hos
  rw [← hout, ← htree] at hw
  rw [hresult] at h
  generalize hr : (m.write w c.output).2.result = r at hw h
  generalize (s.generate w true pattern).1 = t at hw ⊢
  cases hw with
  | refused e => cases h
  | unusable e _ _ => cases h
  | torn _ _ => cases h
  | done hw => exact ⟨m, _, _, rfl, (Except.ok.inj h).symm, hr, hw⟩

end Session

/-- A manifest that was written is written again, in the same place. -/
theorem Manifest.write_again (ht : w.tree.LinkFree) (hs : Plain ss)
    (hp : (m.write w (rooted b ss)).2.result = .ok (Path.join (rooted b ss) manifestFile))
    (hw : w.Written (rooted b ss) (Path.join (rooted b ss) manifestFile) m.content t d l) :
    (m.write (w.withTree t) (rooted b ss)).2.result =
        .ok (Path.join (rooted b ss) manifestFile) ∧
      ∀ l', Tree.entry? (m.write (w.withTree t) (rooted b ss)).1 l' = t.entry? l' := by
  obtain ⟨hnone, hu⟩ := usable_of_write hp
  have hsame := hw.sameSources ht hs
  have hdir : (w.withTree t).isDir (rooted b ss) = true := Workspace.isDir_iff.2 ⟨d, hw.directory⟩
  have hover := write_over (w := w.withTree t) hsame.linkFree' hs hdir hnone hu hw.file
  rw [hover]
  exact ⟨rfl, Tree.entry?_put_same (hw.entry?_file hs)⟩

/-- From what it wrote, a request that was answered gets the same answer, and no location
changes. -/
theorem Session.Holds.generate_again (hold : s.Holds v path) (ht : w.tree.LinkFree)
    (hc : s.generateConfig w pattern = .ok c) (hcp : Down c.componentPattern.display)
    (hfp : Down c.filePattern.display) (h : (s.generate w true pattern).2.result = .ok answer)
    (htree : (s.generate w true pattern).1 = t) :
    (s.generate (w.withTree t) true pattern).2.result = .ok answer ∧
      ∀ l, Tree.entry? (s.generate (w.withTree t) true pattern).1 l = t.entry? l := by
  have hl := hold.located_of_generateConfig hc
  obtain ⟨b, os, hos, hout⟩ := hl.output
  obtain ⟨m, d, l, hm, hanswer, hp, hw⟩ := written_of_generate hl ht hc h
  rw [htree, hout] at hw
  rw [hout] at hp
  have hsame := hw.sameSources ht hos
  have hc' := hold.generateConfig_of_sameSources hsame hc
  have hm' : (buildOnce (w.withTree t) c).result = .ok m :=
    buildOnce_of_sameSources hsame hl hcp hfp hm
  obtain ⟨htree', hresult⟩ := generate_written hc' hm'
  obtain ⟨hagain, hkept⟩ := Manifest.write_again ht hos hp hw
  rw [← hout] at hagain hkept
  rw [htree', hresult, hagain, hanswer]
  exact ⟨rfl, hkept⟩

namespace Server

/-- Generating twice gives the same answer twice: the first time nothing but the manifest is
written, the second time no location changes. -/
theorem regeneration_idempotent {s : Server} (hold : s.session.Holds v path)
    (ht : s.workspace.tree.LinkFree)
    (hc : s.session.generateConfig s.workspace pattern = .ok c)
    (hcp : Down c.componentPattern.display) (hfp : Down c.filePattern.display)
    (h : (s.call (.generateRegistry true pattern)).2.result = .ok answer) :
    let once := (s.call (.generateRegistry true pattern)).1
    let twice := once.call (.generateRegistry true pattern)
    (∃ m d l, (buildOnce s.workspace c).result = .ok m ∧
      answer = Session.generatedAnswer m (some (Path.join c.output manifestFile)) ∧
      s.workspace.Written c.output (Path.join c.output manifestFile) m.content
        once.workspace.tree d l ∧
      readJson once.workspace (Path.join c.output manifestFile) = .ok m.toJson) ∧
    twice.2.result = .ok answer ∧
    ∀ l, twice.1.workspace.tree.entry? l = once.workspace.tree.entry? l := by
  have hl := hold.located_of_generateConfig hc
  obtain ⟨m, d, l, hm, hanswer, -, hw⟩ := Session.written_of_generate hl ht hc h
  have hread : (s.workspace.withTree (s.session.generate s.workspace true pattern).1).read
      (Path.join c.output manifestFile) = .ok m.content := by
    unfold Workspace.read
    rw [hw.file]
  exact ⟨⟨m, d, l, hm, hanswer, hw, Manifest.readJson_of_read hread⟩,
    hold.generate_again ht hc hcp hfp h rfl⟩

theorem regeneration_idempotent_among_sources :
    ∃ c answer, libraryServer.session.generateConfig libraryServer.workspace [] = .ok c ∧
      c.output = "/p/s/ui/b/d.ts".toList ∧
      Down c.componentPattern.display ∧ Down c.filePattern.display ∧
      libraryServer.workspace.tree.LinkFree ∧
      (libraryServer.call (.generateRegistry true [])).2.result = .ok answer ∧
      ((libraryServer.call (.generateRegistry true [])).1.call
        (.generateRegistry true [])).2.result = .ok answer := by
  have hfree : libraryServer.workspace.tree.LinkFree := Tree.linkFree_of_entries (by decide)
  have hfields : (libraryServer.session.generateConfig libraryServer.workspace []).toOption.map
      (fun c => (c.output, decide (Down c.componentPattern.display ∧ Down c.filePattern.display))) =
        some ("/p/s/ui/b/d.ts".toList, true) := by decide +kernel
  rcases hc : libraryServer.session.generateConfig libraryServer.workspace [] with e | c
  · rw [hc] at hfields
    cases hfields
  rw [hc] at hfields
  obtain ⟨hout, hdown⟩ := Prod.mk.inj (Option.some.inj hfields)
  obtain ⟨hcp, hfp⟩ := of_decide_eq_true hdown
  have hok : (libraryServer.call (.generateRegistry true [])).2.result.isOk = true := by
    decide +kernel
  rcases hr : (libraryServer.call (.generateRegistry true [])).2.result with e | answer
  · rw [hr] at hok
    cases hok
  · obtain ⟨-, hagain, -⟩ := regeneration_idempotent holds_libraryServer hfree hc hcp hfp hr
    exact ⟨c, answer, rfl, hout, hcp, hfp, hfree, rfl, hagain⟩

end Server

end ComponentManifest
