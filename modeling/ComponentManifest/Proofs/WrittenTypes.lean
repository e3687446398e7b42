import ComponentManifest.Proofs.ManifestText
import ComponentManifest.Proofs.PathTypes

/-!
# Types as they are written

A manifest gives the type of an item or a file as a text, and the text does not say whether it
stands for a known kind or for a segment that was passed through. With the standard table it need
not: the word for each kind is itself a name in the table, so no path passes it through. Hence a
reader recovers every type from its text, and the whole manifest.

1. `Tag.ofText?`, the type that a text stands for.
2. `complete_iff`: the tables all of whose types are recovered.
3. `Manifest.ofText?`, the manifest that a text stands for.
4. `types_told_apart`.
-/

namespace ComponentManifest

open Text (ofString)

/-! ## Reading a type -/

/-- The kind that a word stands for. -/
def Kind.ofWord? (w : Text) : Option Kind := all.find? fun k => k.word = w

theorem Kind.ofWord?_word (k : Kind) : ofWord? k.word = some k := by
  cases k <;> decide

theorem Kind.ofWord?_eq_none {w : Text} (h : ∀ k : Kind, w ≠ k.word) : ofWord? w = none :=
  List.find?_eq_none.2 fun k _ => by simpa using (h k).symm

namespace Tag

/-- The type that a text stands for: the kind whose word it has, and otherwise a segment. -/
def ofText? (t : Text) : Option Tag :=
  ((ofString "registry:").isPrefixOf? t).map fun w =>
    match Kind.ofWord? w with
    | some k => .known k
    | none => .passed (some w)

theorem ofText?_append (w : Text) :
    ofText? (ofString "registry:" ++ w) = some (match Kind.ofWord? w with
      | some k => .known k
      | none => .passed (some w)) := by
  unfold ofText?
  rw [List.isPrefixOf?_eq_some_iff_append_eq.2 rfl]
  rfl

/-- A reader recovers the type from its text. -/
def Legible (t : Tag) : Prop := ofText? t.text = some t

variable {t u : Tag} {s : Text}

theorem legible_known (k : Kind) : Legible (.known k) := by
  show ofText? (ofString "registry:" ++ k.word) = some (.known k)
  rw [ofText?_append, k.ofWord?_word]

/-- A segment that is passed through is recovered exactly if it is no word for a kind. -/
theorem legible_passed_iff : Legible (.passed (some s)) ↔ ∀ k : Kind, s ≠ k.word := by
  show ofText? (ofString "registry:" ++ s) = some (.passed (some s)) ↔ _
  rw [ofText?_append]
  constructor
  · rintro h k rfl
    rw [k.ofWord?_word] at h
    cases h
  · intro h
    rw [Kind.ofWord?_eq_none h]

theorem Legible.text_inj (ht : t.Legible) (hu : u.Legible) : t.text = u.text ↔ t = u := by
  refine ⟨fun h => Option.some.inj ?_, congrArg text⟩
  rw [← ht, h, hu]

theorem Legible.text_eq_known_iff (ht : t.Legible) :
    (∃ k, t.text = (Tag.known k).text) ↔ t.isKnown = true := by
  constructor
  · rintro ⟨k, hk⟩
    rw [(ht.text_inj (legible_known k)).1 hk]
    rfl
  · intro h
    cases t with
    | known k => exact ⟨k, rfl⟩
    | passed s => cases h

end Tag

/-! ## Tables -/

namespace TagTable

variable {table : TagTable} {p s : Text}

theorem lookup_ne_none_iff : table.lookup s ≠ none ↔ ∃ k, (s, k) ∈ table := by
  rw [Ne, List.lookup_eq_none_iff]
  simp only [bne_iff_ne, Prod.forall]
  grind

/-- The word for each kind is a name in the table. -/
def Complete (table : TagTable) : Prop := ∀ k : Kind, table.lookup k.word ≠ none

theorem complete_standard : standard.Complete := by
  intro k
  cases k <;> decide

theorem isKnown_tag_iff :
    (table.tag p).isKnown = true ↔ ∃ s ∈ Path.segments p, table.lookup s ≠ none := by
  cases hd : table.deepest (Path.segments p).reverse with
  | some k =>
    obtain ⟨s, hs, hk⟩ := List.exists_of_findSome?_eq_some hd
    rw [tag_of_deepest_eq_some hd]
    exact iff_of_true rfl ⟨s, List.mem_reverse.1 hs, by simp [hk]⟩
  | none =>
    rw [tag_of_deepest_eq_none hd]
    refine iff_of_false Bool.false_ne_true ?_
    rintro ⟨s, hs, hk⟩
    exact hk (List.findSome?_eq_none_iff.1 hd s (List.mem_reverse.2 hs))

theorem exists_passed (h : (table.tag p).isKnown = false) :
    ∃ s, table.tag p = .passed (some s) ∧ table.lookup s = none := by
  have hnone : ∀ s ∈ Path.segments p, table.lookup s = none := by
    intro s hs
    by_contra hk
    rw [isKnown_tag_iff.2 ⟨s, hs, hk⟩] at h
    cases h
  obtain ⟨s, ss, hs⟩ := List.exists_cons_of_ne_nil (Path.segments_ne_nil p)
  refine ⟨s, ?_, hnone s (hs ▸ List.mem_cons_self)⟩
  rw [tag_of_unmapped hnone, hs]
  rfl

/-- The types of all paths are recovered exactly if the table names every kind by its word. -/
theorem complete_iff : table.Complete ↔ ∀ p, (table.tag p).Legible := by
  constructor
  · intro h p
    cases hp : table.tag p with
    | known k => exact Tag.legible_known k
    | passed segment =>
      obtain ⟨s, hs, hnone⟩ := exists_passed (by rw [hp]; rfl : (table.tag p).isKnown = false)
      obtain rfl : segment = some s := Tag.passed.inj (hp.symm.trans hs)
      refine Tag.legible_passed_iff.2 ?_
      rintro k rfl
      exact h k hnone
  · intro h k hnone
    have hseg : Path.segments k.word = [k.word] :=
      Path.segments_of_not_mem (by cases k <;> decide)
    have hpassed : table.tag k.word = .passed (some k.word) := by
      rw [tag_of_unmapped (by simpa [hseg] using hnone), hseg]
      rfl
    exact Tag.legible_passed_iff.1 (hpassed ▸ h k.word) k rfl

theorem legible_standard (p : Text) : (standard.tag p).Legible :=
  complete_iff.1 complete_standard p

/-- A table that does not name the kind it gives by its word lets a segment pass for it. -/
example :
    (TagTable.tag [(ofString "blocks", .block)] (ofString "block/a")).text =
      (TagTable.tag [(ofString "blocks", .block)] (ofString "blocks/a")).text := by
  decide

end TagTable

/-! ## Reading a manifest -/

/-- The file that a record stands for. -/
def ItemFile.ofRecord? (r : FileRecord) : Option ItemFile := do
  let tag ← Tag.ofText? r.tag
  return ⟨r.path, tag⟩

/-- The item that a record stands for. -/
def Item.ofRecord? (r : ItemRecord) : Option Item := do
  let tag ← Tag.ofText? r.tag
  let files ← r.files.mapM ItemFile.ofRecord?
  return ⟨r.name, tag, files, r.dependencies, r.devDependencies, r.registryDependencies⟩

/-- The manifest that a record stands for. -/
def Manifest.ofRecord? (r : ManifestRecord) : Option Manifest := do
  let items ← r.items.mapM Item.ofRecord?
  return ⟨r.schema, r.name, r.homepage, items⟩

/-- The manifest that a text stands for. -/
def Manifest.ofText? (t : Text) : Option Manifest :=
  ((Json.parse? t).bind ManifestRecord.ofJson?).bind Manifest.ofRecord?

/-- The types of the item and of its files are recovered from their texts. -/
structure Item.Legible (i : Item) : Prop where
  tag : i.tag.Legible
  files : ∀ f ∈ i.files, f.tag.Legible

theorem ItemFile.ofRecord?_record {f : ItemFile} (h : f.tag.Legible) :
    ofRecord? f.record = some f := by
  show (Tag.ofText? f.tag.text >>= fun tag => some (ItemFile.mk f.path tag)) = some f
  rw [h]
  rfl

theorem Item.Legible.ofRecord?_record {i : Item} (h : i.Legible) : ofRecord? i.record = some i := by
  have hfiles : (i.files.map ItemFile.record).mapM ItemFile.ofRecord? = some (i.files.map id) :=
    mapM_map_eq_some fun f hf => ItemFile.ofRecord?_record (h.files f hf)
  have htag : Tag.ofText? i.tag.text = some i.tag := h.tag
  unfold ofRecord? record
  dsimp only
  rw [htag, hfiles, List.map_id]
  rfl

/-- A manifest whose types are recovered from their texts is recovered from its own. -/
theorem Manifest.ofText?_text {m : Manifest} (h : ∀ i ∈ m.items, i.Legible) :
    ofText? m.text = some m := by
  have hitems : (m.items.map Item.record).mapM Item.ofRecord? = some (m.items.map id) :=
    mapM_map_eq_some fun i hi => (h i hi).ofRecord?_record
  unfold ofText?
  rw [m.parse?_text, Option.bind_some, m.ofJson?_toJson, Option.bind_some]
  unfold ofRecord? record
  dsimp only
  rw [hitems, List.map_id]
  rfl

/-! ## Manifests that are built -/

variable {f : SourceFilter} {w : Workspace} {c : Config} {given : Option ProjectDependencies}
  {workers : Option Int} {memory memory' : BuildMemory} {m : Manifest} {u : ComponentUnit}
  {files : List Text} {item : Item}

theorem Item.Typed.legible (h : item.Typed c u files) : item.Legible where
  tag := h.tag ▸ TagTable.legible_standard _
  files := by
    intro file hfile
    rw [h.files] at hfile
    obtain ⟨p, -, rfl⟩ := List.mem_map.1 hfile
    exact TagTable.legible_standard p

theorem legible_of_build (hm : memory.Reached w c given f)
    (hb : (build w c given f workers memory).result = .ok (m, memory')) :
    ∀ i ∈ m.items, i.Legible := by
  obtain ⟨-, k, units, items, memo, skipped, -, -, -, hi, rfl, -⟩ := build_eq_ok.1 hb
  intro i hmem
  obtain ⟨u, -, files, -, htyped⟩ := exists_of_forall₂ (makeItems_of_sound hm.sound hi).1 hmem
  exact htyped.legible

/-- A tagger with the standard table gives different texts to different types, and the type can be
read off the text. So a manifest is recovered from its text. -/
theorem types_told_apart :
    (∀ rs p, (((Tagger.make .standard).after rs).ask (.classify p)).2.2 =
      .tag (TagTable.standard.tag p)) ∧
    (∀ p q, (TagTable.standard.tag p).text = (TagTable.standard.tag q).text ↔
      TagTable.standard.tag p = TagTable.standard.tag q) ∧
    (∀ p, (∃ k : Kind, (TagTable.standard.tag p).text = (Tag.known k).text) ↔
      ∃ s ∈ Path.segments p, ∃ k, (s, k) ∈ TagTable.standard) ∧
    (∀ p, Tag.ofText? (TagTable.standard.tag p).text = some (TagTable.standard.tag p)) ∧
    ∀ w c given f workers memory memory' m, memory.Reached w c given f →
      (build w c given f workers memory).result = .ok (m, memory') →
        Manifest.ofText? m.text = some m := by
  refine ⟨Tagger.classify_after .standard, fun p q => ?_, fun p => ?_, TagTable.legible_standard,
    fun w c given f workers memory memory' m hm hb =>
      Manifest.ofText?_text (legible_of_build hm hb)⟩
  · exact (TagTable.legible_standard p).text_inj (TagTable.legible_standard q)
  · rw [(TagTable.legible_standard p).text_eq_known_iff, TagTable.isKnown_tag_iff]
    simp only [TagTable.lookup_ne_none_iff]

/-- A block with a small part, and a component in a directory that is not in the table. -/
theorem types_told_apart_typed_project :
    ∃ m memory', (build typedProject packageConfig none .standard none .fresh).result =
        .ok (m, memory') ∧
      m.items.map (fun i => i.tag.text) = ["registry:block".toList, "registry:x".toList] ∧
      Manifest.ofText? m.text = some m := by
  have htexts : (build typedProject packageConfig none .standard none .fresh).result.toOption.map
      (fun r => r.1.items.map fun i => i.tag.text) =
        some ["registry:block".toList, "registry:x".toList] := by decide +kernel
  rcases hb : (build typedProject packageConfig none .standard none .fresh).result
    with e | ⟨m, memory'⟩
  · rw [hb] at htexts
    cases htexts
  rw [hb] at htexts
  obtain ⟨-, -, -, -, hread⟩ := types_told_apart
  exact ⟨m, memory', rfl, Option.some.inj htexts,
    hread typedProject packageConfig none .standard none .fresh memory' m .fresh hb⟩

end ComponentManifest
