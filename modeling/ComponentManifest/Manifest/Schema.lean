import ComponentManifest.Json.Printer
import ComponentManifest.Manifest.Tag

/-!
# Manifests

A manifest lists the items of a registry, each with typed files and its dependencies. It is written
as JSON; an item's empty dependency lists are left out.

1. Files, items and manifests.
2. Their JSON form.
3. The text of a manifest.
-/

namespace ComponentManifest

open Text (ofString)

/-! ## Files, items and manifests -/

/-- A file of an item. -/
structure ItemFile where
  path : Text
  tag : Tag
  deriving DecidableEq, Repr

/-- An item of a registry. -/
structure Item where
  name : Text
  tag : Tag
  files : List ItemFile
  dependencies : List Text
  devDependencies : List Text
  registryDependencies : List Text
  deriving DecidableEq, Repr

/-- A registry manifest. -/
structure Manifest where
  schema : Text
  name : Text
  homepage : Text
  items : List Item
  deriving DecidableEq, Repr

/-- The address of the schema that manifests follow. -/
def schemaUrl : Text := ofString "https://shadcn-vue.com/schema/registry.json"

/-! ## JSON form -/

/-- A file as an object. -/
def ItemFile.toJson (f : ItemFile) : Json :=
  .obj [(ofString "path", .str f.path), (ofString "type", .str f.tag.text)]

/-- A member for a list that is not empty. -/
def listMember (key : Text) (ts : List Text) : Members :=
  if ts.isEmpty then [] else [(key, .ofTexts ts)]

/-- An item as an object. -/
def Item.toJson (i : Item) : Json :=
  .obj ([(ofString "name", .str i.name), (ofString "type", .str i.tag.text),
      (ofString "files", .arr (i.files.map ItemFile.toJson))] ++
    listMember (ofString "dependencies") i.dependencies ++
    listMember (ofString "devDependencies") i.devDependencies ++
    listMember (ofString "registryDependencies") i.registryDependencies)

/-- A manifest as an object. -/
def Manifest.toJson (m : Manifest) : Json :=
  .obj [(ofString "$schema", .str m.schema), (ofString "name", .str m.name),
    (ofString "homepage", .str m.homepage), (ofString "items", .arr (m.items.map Item.toJson))]

/-! ## Text -/

/-- The text of a manifest. -/
def Manifest.text (m : Manifest) : Text := m.toJson.block .unicode 0

end ComponentManifest
