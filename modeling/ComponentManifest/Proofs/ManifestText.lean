import ComponentManifest.Proofs.ItemQuestions

/-!
# What the text of a manifest tells

The text of a manifest holds all that the manifest does. Reading it as JSON gives the manifest's
value, with its keys in order, and a reader that takes a missing list for an empty one finds every
name, type, file and dependency again. The written file holds this text and a line break.

1. `Manifest.record`: what a reader takes from a manifest.
2. `parse?_text`: the text is read as the value that was written.
3. Where the strings of a manifest's value come from, and that their text can be encoded.
4. `read_of_writeFile`: a file that was written is read.
5. `Manifest.text_decodes`.
-/

namespace ComponentManifest

open Text (ofString encodeUtf8)

variable {w : Workspace} {m m' : Manifest} {t : Tree} {p dir : Text} {content : Bytes}
  {l : Location} {n : Nat}

/-! ## Records -/

/-- The value that an object has under a key. -/
def Json.member? (v : Json) (key : Text) : Option Json :=
  match v with
  | .obj ms => Members.get? ms key
  | _ => none

/-- The text that an object has under a key. -/
def Json.textAt? (v : Json) (key : Text) : Option Text := (v.member? key).bind Json.text?

/-- The elements of a list. -/
def Json.elements? : Json → Option (List Json)
  | .arr xs => some xs
  | _ => none

/-- The list that an object has under a key, each element read in one way. -/
def Json.listOf? {α : Type} (v : Json) (key : Text) (read : Json → Option α) : Option (List α) :=
  ((v.member? key).bind Json.elements?).bind fun xs => xs.mapM read

/-- What a reader finds of a file. -/
structure FileRecord where
  path : Text
  tag : Text
  deriving DecidableEq, Repr

/-- What a reader finds of an item. -/
structure ItemRecord where
  name : Text
  tag : Text
  files : List FileRecord
  dependencies : List Text
  devDependencies : List Text
  registryDependencies : List Text
  deriving DecidableEq, Repr

/-- What a reader finds of a manifest. -/
structure ManifestRecord where
  schema : Text
  name : Text
  homepage : Text
  items : List ItemRecord
  deriving DecidableEq, Repr

/-- Reads a file of an item. -/
def FileRecord.ofJson? (v : Json) : Option FileRecord := do
  let path ← v.textAt? (ofString "path")
  let tag ← v.textAt? (ofString "type")
  return ⟨path, tag⟩

/-- Reads an item; a dependency list that is not there is empty. -/
def ItemRecord.ofJson? (v : Json) : Option ItemRecord := do
  let name ← v.textAt? (ofString "name")
  let tag ← v.textAt? (ofString "type")
  let files ← v.listOf? (ofString "files") FileRecord.ofJson?
  return ⟨name, tag, files, v.listAt (ofString "dependencies"),
    v.listAt (ofString "devDependencies"), v.listAt (ofString "registryDependencies")⟩

/-- Reads a manifest. -/
def ManifestRecord.ofJson? (v : Json) : Option ManifestRecord := do
  let schema ← v.textAt? (ofString "$schema")
  let name ← v.textAt? (ofString "name")
  let homepage ← v.textAt? (ofString "homepage")
  let items ← v.listOf? (ofString "items") ItemRecord.ofJson?
  return ⟨schema, name, homepage, items⟩

/-- A file with its type as it is written. -/
def ItemFile.record (f : ItemFile) : FileRecord := ⟨f.path, f.tag.text⟩

/-- An item with its types as they are written. -/
def Item.record (i : Item) : ItemRecord :=
  ⟨i.name, i.tag.text, i.files.map ItemFile.record, i.dependencies, i.devDependencies,
    i.registryDependencies⟩

/-- A manifest with its types as they are written. -/
def Manifest.record (m : Manifest) : ManifestRecord :=
  ⟨m.schema, m.name, m.homepage, m.items.map Item.record⟩

theorem mapM_map_eq_some {α β γ : Type} {write : α → γ} {read : γ → Option β} {seen : α → β}
    {xs : List α} (h : ∀ x ∈ xs, read (write x) = some (seen x)) :
    (xs.map write).mapM read = some (xs.map seen) := by
  induction xs with
  | nil => rfl
  | cons x xs ih =>
    rw [List.map_cons, List.mapM_cons, h x List.mem_cons_self,
      ih fun y hy => h y (List.mem_cons_of_mem x hy)]
    rfl

theorem ItemFile.ofJson?_toJson (f : ItemFile) : FileRecord.ofJson? f.toJson = some f.record := rfl

theorem Item.ofJson?_toJson (i : Item) : ItemRecord.ofJson? i.toJson = some i.record := by
  have hname : i.toJson.textAt? (ofString "name") = some i.name := rfl
  have htag : i.toJson.textAt? (ofString "type") = some i.tag.text := rfl
  have hfiles : i.toJson.listOf? (ofString "files") FileRecord.ofJson? =
      some (i.files.map ItemFile.record) := mapM_map_eq_some fun f _ => f.ofJson?_toJson
  obtain ⟨hdependencies, hdev, hregistry⟩ := i.listAt_toJson
  unfold ItemRecord.ofJson?
  rw [hname, htag, hfiles, hdependencies, hdev, hregistry]
  rfl

theorem Manifest.ofJson?_toJson (m : Manifest) :
    ManifestRecord.ofJson? m.toJson = some m.record := by
  have hitems : m.toJson.listOf? (ofString "items") ItemRecord.ofJson? =
      some (m.items.map Item.record) := mapM_map_eq_some fun i _ => i.ofJson?_toJson
  have hschema : m.toJson.textAt? (ofString "$schema") = some m.schema := rfl
  have hname : m.toJson.textAt? (ofString "name") = some m.name := rfl
  have hhomepage : m.toJson.textAt? (ofString "homepage") = some m.homepage := rfl
  unfold ManifestRecord.ofJson?
  rw [hschema, hname, hhomepage, hitems]
  rfl

/-! ## The text -/

theorem Manifest.parse?_text (m : Manifest) : Json.parse? m.text = some m.toJson := by
  have hread : Json.parse (m.text ++ []) = .ok m.toJson :=
    Json.parse_block_append m.textual_toJson rfl
  rw [List.append_nil] at hread
  unfold Json.parse?
  rw [hread]
  rfl

theorem Manifest.record_eq_of_text_eq (h : m'.text = m.text) : m'.record = m.record := by
  have hvalue : some m'.toJson = some m.toJson := by
    rw [← m'.parse?_text, h, m.parse?_text]
  have hrecord : some m'.record = some m.record := by
    rw [← m'.ofJson?_toJson, Option.some.inj hvalue, m.ofJson?_toJson]
  exact Option.some.inj hrecord

/-! ## Strings of a manifest -/

/-- The texts of a file. -/
def ItemFile.texts (f : ItemFile) : List Text := [f.path, f.tag.text]

/-- The texts of an item. -/
def Item.texts (i : Item) : List Text :=
  [i.name, i.tag.text] ++ i.files.flatMap ItemFile.texts ++ i.dependencies ++ i.devDependencies ++
    i.registryDependencies

/-- The texts of a manifest. -/
def Manifest.texts (m : Manifest) : List Text :=
  [m.schema, m.name, m.homepage] ++ m.items.flatMap Item.texts

/-- The keys that a manifest's value can have. -/
def manifestKeys : List Text :=
  ["$schema", "name", "homepage", "items", "type", "files", "path", "dependencies",
    "devDependencies", "registryDependencies"].map ofString

namespace Json

theorem elementStrings_map {α : Type} (f : α → Json) (xs : List α) :
    elementStrings (xs.map f) = xs.flatMap fun x => (f x).strings := by
  induction xs with
  | nil => rfl
  | cons x xs ih =>
    rw [List.map_cons, List.flatMap_cons, ← ih]
    rfl

theorem memberStrings_append (xs ys : Members) :
    memberStrings (xs ++ ys) = memberStrings xs ++ memberStrings ys := by
  induction xs with
  | nil => rfl
  | cons x xs ih =>
    obtain ⟨key, v⟩ := x
    show key :: v.strings ++ memberStrings (xs ++ ys) = key :: v.strings ++ memberStrings xs ++ _
    rw [ih, List.append_assoc]

theorem strings_ofTexts (ts : List Text) : (Json.ofTexts ts).strings = ts := by
  show elementStrings (ts.map Json.str) = ts
  rw [elementStrings_map]
  exact List.flatMap_singleton' ts

end Json

theorem memberStrings_listMember (key : Text) (ts : List Text) :
    Json.memberStrings (listMember key ts) ⊆ key :: ts := by
  unfold listMember
  split
  · exact List.nil_subset _
  · show key :: (Json.ofTexts ts).strings ++ [] ⊆ key :: ts
    rw [List.append_nil, Json.strings_ofTexts]
    exact List.Subset.refl _

theorem ItemFile.strings_toJson (f : ItemFile) : f.toJson.strings ⊆ manifestKeys ++ f.texts := by
  have hstrings : f.toJson.strings = [ofString "path", f.path, ofString "type", f.tag.text] := rfl
  rw [hstrings]
  simp [List.cons_subset, ItemFile.texts, manifestKeys]

/-- Strings of parts that have texts of their own. -/
theorem strings_flatMap_subset {α : Type} {toJson : α → Json} {texts : α → List Text}
    (h : ∀ x, (toJson x).strings ⊆ manifestKeys ++ texts x) (xs : List α) :
    Json.elementStrings (xs.map toJson) ⊆ manifestKeys ++ xs.flatMap texts := by
  rw [Json.elementStrings_map]
  intro s hs
  obtain ⟨x, hx, hs⟩ := List.mem_flatMap.1 hs
  rcases List.mem_append.1 (h x hs) with hs | hs
  · exact List.mem_append_left _ hs
  · exact List.mem_append_right _ (List.mem_flatMap.2 ⟨x, hx, hs⟩)

theorem Item.strings_toJson (i : Item) : i.toJson.strings ⊆ manifestKeys ++ i.texts := by
  have hstrings : i.toJson.strings =
      [ofString "name", i.name, ofString "type", i.tag.text, ofString "files"] ++
        Json.elementStrings (i.files.map ItemFile.toJson) ++
        Json.memberStrings (listMember (ofString "dependencies") i.dependencies) ++
        Json.memberStrings (listMember (ofString "devDependencies") i.devDependencies) ++
        Json.memberStrings
          (listMember (ofString "registryDependencies") i.registryDependencies) := by
    unfold Item.toJson
    simp [Json.strings, Json.memberStrings_append, Json.memberStrings]
  have hfixed : [ofString "name", i.name, ofString "type", i.tag.text, ofString "files"] ⊆
      manifestKeys ++ i.texts := by
    simp [List.cons_subset, manifestKeys, Item.texts]
  have hfiles : Json.elementStrings (i.files.map ItemFile.toJson) ⊆ manifestKeys ++ i.texts := by
    refine List.Subset.trans (strings_flatMap_subset ItemFile.strings_toJson i.files) ?_
    exact List.append_subset.2 ⟨List.subset_append_left _ _, fun s hs =>
      List.mem_append_right _ (by simp only [Item.texts, List.mem_append, hs, true_or, or_true])⟩
  have hlist (key : Text) (ts : List Text) (hk : key ∈ manifestKeys) (hts : ts ⊆ i.texts) :
      Json.memberStrings (listMember key ts) ⊆ manifestKeys ++ i.texts :=
    List.Subset.trans (memberStrings_listMember key ts)
      (List.cons_subset.2 ⟨List.mem_append_left _ hk, List.subset_append_of_subset_right _ hts⟩)
  rw [hstrings]
  exact List.append_subset.2 ⟨List.append_subset.2 ⟨List.append_subset.2 ⟨List.append_subset.2
    ⟨hfixed, hfiles⟩, hlist _ i.dependencies (by decide) fun s hs => by simp [Item.texts, hs]⟩,
    hlist _ i.devDependencies (by decide) fun s hs => by simp [Item.texts, hs]⟩,
    hlist _ i.registryDependencies (by decide) fun s hs => by simp [Item.texts, hs]⟩

theorem Manifest.strings_toJson (m : Manifest) :
    m.toJson.strings ⊆ manifestKeys ++ m.texts := by
  have hitems := strings_flatMap_subset Item.strings_toJson m.items
  have hstrings : m.toJson.strings =
      [ofString "$schema", m.schema, ofString "name", m.name, ofString "homepage", m.homepage,
        ofString "items"] ++ Json.elementStrings (m.items.map Item.toJson) := by
    unfold Manifest.toJson
    simp [Json.strings, Json.memberStrings]
  have hfixed : [ofString "$schema", m.schema, ofString "name", m.name, ofString "homepage",
      m.homepage, ofString "items"] ⊆ manifestKeys ++ m.texts := by
    simp [List.cons_subset, manifestKeys, Manifest.texts]
  rw [hstrings]
  refine List.append_subset.2 ⟨hfixed, List.Subset.trans hitems ?_⟩
  exact List.append_subset.2 ⟨List.subset_append_left _ _,
    List.subset_append_of_subset_right _ (List.subset_append_right _ _)⟩

/-- A character that is escaped is written in ASCII, any other one as it is. -/
theorem Json.eq_or_lt_of_mem_stringChar {c x : Char} (h : c ∈ stringChar .unicode x) :
    c = x ∨ c.toNat < 0x80 := by
  have hcontrol : ∀ n < 0x20, (unitEscape n).all (fun c => c.toNat < 0x80) = true := by decide
  have hescaped : ∀ e, escaped? e ≠ none → e.toNat < 0x80 := by
    intro e he
    unfold escaped? at he
    split at he
    all_goals first | decide | exact absurd rfl he
  have hs := spelling_stringChar x
  generalize stringChar .unicode x = written at hs h
  cases hs with
  | @escaped e he _ =>
    rw [List.mem_cons, List.mem_singleton] at h
    rcases h with rfl | rfl
    · exact Or.inr (by decide)
    · exact Or.inr (hescaped c (by simp [he]))
  | numbered hx => exact Or.inr (by simpa using List.all_eq_true.1 (hcontrol _ hx) c h)
  | raw _ _ _ => exact Or.inl (List.mem_singleton.1 h)

theorem isHalf_eq_false_of_all (ts : List Text)
    (h : (ts.all fun t => t.all fun c => !Text.isHalf c) = true) :
    ∀ t ∈ ts, ∀ c ∈ t, Text.isHalf c = false := by
  intro t ht c hc
  simpa using List.all_eq_true.1 (List.all_eq_true.1 h t ht) c hc

/-- A manifest whose texts have no halves of pairs has a text that can be encoded. -/
theorem Manifest.firstHalves?_text (h : ∀ t ∈ m.texts, ∀ c ∈ t, Text.isHalf c = false) :
    Text.firstHalves? m.text = none := by
  have hascii : ∀ c : Char, c.toNat < 0x80 → Text.isHalf c = false := by
    intro c hc
    unfold Text.isHalf
    simp
    omega
  have hkeys : ∀ t ∈ manifestKeys, ∀ c ∈ t, Text.isHalf c = false :=
    isHalf_eq_false_of_all manifestKeys (by decide)
  have hlayout : ∀ c ∈ Json.layoutCharacters, Text.isHalf c = false :=
    isHalf_eq_false_of_all [Json.layoutCharacters] (by decide) _ List.mem_cons_self
  have hall : ∀ c ∈ m.text, Text.isHalf c = false := by
    intro c hc
    rcases Json.comesFrom_of_mem_block m.toJson 0 5 m.textual_toJson c hc with
      hl | ⟨s, hs, x, hx, hc⟩
    · exact hlayout c hl
    · rcases Json.eq_or_lt_of_mem_stringChar hc with rfl | hlt
      · rcases List.mem_append.1 (m.strings_toJson hs) with hs | hs
        · exact hkeys s hs c hx
        · exact h s hs c hx
      · exact hascii c hlt
  unfold Text.firstHalves? Text.firstLost?
  rw [if_neg]
  simpa using hall

/-! ## The written file -/

theorem Tree.entry?_put_dir {l k : Location} (h : t.entry? k = some .dir) :
    Tree.entry? (t.put l .dir) k = some .dir := by
  by_cases hk : k = l
  · subst hk
    by_cases ha : t.Accepts k
    · exact entry?_put_self ha
    · unfold put
      rwa [dif_neg ha]
  · rw [entry?_put_of_ne hk, h]

namespace Workspace

/-- Making directories does nothing but put directories into the tree. -/
theorem makeDirsWithin_induction {P : Tree → Prop} (hput : ∀ t l, P t → P (t.put l .dir))
    (h : P w.tree) (n : Nat) (p : Text) : P (w.makeDirsWithin n p).tree := by
  have hmake : ∀ (v : Workspace) (q : Text), P v.tree → P (v.makeDir q).tree := by
    intro v q hv
    unfold makeDir changing
    split
    · split
      · exact hv
      · exact hput _ _ hv
      · exact hv
    · exact hv
  have hensure : ∀ (v : Workspace) (q : Text), P v.tree → P (v.ensureDir q).tree := by
    intro v q hv
    unfold ensureDir
    dsimp only
    split
    · exact hv
    · exact hmake v q hv
  induction n generalizing p with
  | zero => exact hensure w p h
  | succ n ih =>
    rcases makeDirsWithin_succ_cases w n p with
      hmade | ⟨-, -, ⟨-, hmade⟩ | ⟨f, -, hmade⟩ | ⟨-, hmade⟩⟩
    all_goals rw [hmade]
    · exact hensure w p h
    · exact ih _
    · exact ih _
    · exact hensure (w.withTree _) p (ih _)

theorem makeDirs_induction {P : Tree → Prop} (hput : ∀ t l, P t → P (t.put l .dir))
    (h : P w.tree) (p : Text) : P (w.makeDirs p).tree := by
  rcases makeDirs_cases w p with hmade | hmade
  · rw [hmade]
    exact h
  · rw [hmade]
    exact makeDirsWithin_induction hput h _ p

theorem read_of_writeFile (hc : w.tree.CleanLinks) (hd : w.tree.entry? w.cwd = some .dir)
    (h : (w.writeFile p content).failure = none) :
    (w.withTree (w.writeFile p content).tree).read p = .ok content := by
  have hne : p ≠ [] := by
    rintro rfl
    cases h
  have hclean (hu : Path.isUsable p = true) : Tree.CleanSegments (Path.segments p) :=
    Tree.cleanSegments_segments hu
  rcases writeFile_of_walk hc (Tree.startOf_dir hd) hclean (reach_of_ne_nil hne) content with
    ⟨f, hf⟩ | ⟨l, hw, ⟨k, hk, hl⟩, -⟩
  · rw [hf] at h
    cases h
  · rw [hw]
    exact read_eq_ok_iff.2 ⟨l, reach_eq_entry_iff.2 ⟨hne, k, hk, hl⟩⟩

end Workspace

/-! ## The manifest's file -/

/-- When the text can be encoded, the directories made and the file written, the manifest is
written. -/
theorem Manifest.write_eq_ok (hm : ∀ t ∈ m.texts, ∀ c ∈ t, Text.isHalf c = false)
    (hdirs : (w.makeDirs dir).failure = none)
    (hfile : ((w.withTree (w.makeDirs dir).tree).writeFile (Path.join dir manifestFile)
      m.content).failure = none) :
    (m.write w dir).2.result = .ok (Path.join dir manifestFile) := by
  rcases hwritten : (w.withTree (w.makeDirs dir).tree).writeFile (Path.join dir manifestFile)
    m.content with ⟨t, failure⟩
  rw [hwritten] at hfile
  obtain rfl : failure = none := hfile
  unfold Manifest.write
  dsimp only
  rw [hdirs]
  dsimp only
  unfold Manifest.writeFile
  rw [m.firstHalves?_text hm]
  dsimp only
  rw [writeOne_of_tree hwritten]

theorem Manifest.read_of_writeFile (hc : w.tree.CleanLinks)
    (hd : w.tree.entry? w.cwd = some .dir) {q : Text}
    (h : (m.writeFile w p).2.result = .ok q) :
    q = p ∧ (w.withTree (m.writeFile w p).1).read p = .ok m.content := by
  unfold Manifest.writeFile at h ⊢
  split at h
  · rcases hwritten : w.writeFile p m.content with ⟨t, _ | f⟩
    · have hread := Workspace.read_of_writeFile hc hd
        (show (w.writeFile p m.content).failure = none by rw [hwritten])
      rw [writeOne_of_tree hwritten] at h ⊢
      rw [hwritten] at hread
      cases h
      exact ⟨rfl, hread⟩
    · rw [writeOne_of_failure hwritten] at h
      cases h
  · rcases hwritten : w.writeFile p [] with ⟨t, _ | f⟩
    · rw [writeOne_of_tree hwritten] at h
      cases h
    · rw [writeOne_of_failure hwritten] at h
      cases h

theorem Manifest.read_of_write (hc : w.tree.CleanLinks) (hd : w.tree.entry? w.cwd = some .dir)
    (h : (m.write w dir).2.result = .ok p) :
    p = Path.join dir manifestFile ∧ (w.withTree (m.write w dir).1).read p = .ok m.content := by
  have hmade : (w.makeDirs dir).tree.CleanLinks ∧
      (w.makeDirs dir).tree.entry? w.cwd = some .dir :=
    Workspace.makeDirs_induction (P := fun t => t.CleanLinks ∧ t.entry? w.cwd = some .dir)
      (fun t l ht => ⟨ht.1.put nofun, Tree.entry?_put_dir ht.2⟩) ⟨hc, hd⟩ _
  unfold Manifest.write at h ⊢
  dsimp only at h ⊢
  split at h
  · cases h
  · obtain ⟨rfl, hread⟩ := Manifest.read_of_writeFile hmade.1 hmade.2 h
    exact ⟨rfl, hread⟩

/-- Every field can be read from the text of a manifest, so manifests with the same text hold the
same. Unless a text has half of a pair, it can be written. -/
theorem Manifest.text_decodes (m : Manifest) :
    Json.parse? m.text = some m.toJson ∧
    ManifestRecord.ofJson? m.toJson = some m.record ∧
    (∀ m' : Manifest, m'.text = m.text → m'.record = m.record) ∧
    ∀ (w : Workspace) (dir : Text), w.tree.CleanLinks → w.tree.entry? w.cwd = some .dir →
      (∀ p, (m.write w dir).2.result = .ok p →
        p = Path.join dir manifestFile ∧
          (w.withTree (m.write w dir).1).read p = .ok (encodeUtf8 (m.text ++ ['\n']))) ∧
      ((∀ t ∈ m.texts, ∀ c ∈ t, Text.isHalf c = false) → (w.makeDirs dir).failure = none →
        ((w.withTree (w.makeDirs dir).tree).writeFile (Path.join dir manifestFile)
          m.content).failure = none →
        (m.write w dir).2.result = .ok (Path.join dir manifestFile)) :=
  ⟨m.parse?_text, m.ofJson?_toJson, fun _ => record_eq_of_text_eq, fun _ _ hc hd =>
    ⟨fun _ => read_of_write hc hd, write_eq_ok⟩⟩

/-- A manifest whose name has a quote, a line break and a character beyond ASCII. -/
def quotedManifest : Manifest where
  schema := schemaUrl
  name := "a \"b\"\né".toList
  homepage := []
  items := [⟨"card".toList, .known .ui, [⟨"card/a.ts".toList, .passed (some "card".toList)⟩], [],
    ["vite".toList], []⟩]

/-- A tree without entries. -/
def emptyWorkspace : Workspace := ⟨.empty, []⟩

theorem Manifest.text_decodes_new_directory :
    emptyWorkspace.tree.CleanLinks ∧
      (quotedManifest.write emptyWorkspace "out".toList).2.result =
        .ok "out/registry.json".toList ∧
      (emptyWorkspace.withTree (quotedManifest.write emptyWorkspace "out".toList).1).read
        "out/registry.json".toList = .ok (encodeUtf8 (quotedManifest.text ++ ['\n'])) := by
  have hclean : emptyWorkspace.tree.CleanLinks := (Tree.linkFree_of_entries rfl).cleanLinks
  obtain ⟨-, -, -, hwrite⟩ := quotedManifest.text_decodes
  obtain ⟨hread, hok⟩ := hwrite emptyWorkspace "out".toList hclean rfl
  have hwhole := isHalf_eq_false_of_all quotedManifest.texts (by decide +kernel)
  have hwritten := hok hwhole (by decide +kernel) (by decide +kernel)
  exact ⟨hclean, hwritten, (hread _ hwritten).2⟩

end ComponentManifest
