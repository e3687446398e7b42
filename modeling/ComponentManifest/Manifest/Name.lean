import ComponentManifest.Files.Path
import ComponentManifest.Unicode.LowerCase

/-!
# Component names

A component is named after its directory. Only a single file that is no entry file gives its own
name, unless that is short or is the directory's name in other letters.
-/

namespace ComponentManifest

/-- An entry file is named `index` with some extension. -/
def isEntryFile (path : Text) : Bool := (Text.ofString "index.").isPrefixOf (Path.basename path)

/-- A file name up to its last dot. -/
def stem (name : Text) : Text :=
  if name.contains '.' then ((name.reverse.dropWhile (· != '.')).drop 1).reverse else name

/-- The name of a component, from its directory and its files. -/
def componentName (dir : Text) (files : List Text) : Text :=
  let dirName := Path.basename (Path.normalize dir)
  if files.any isEntryFile then dirName
  else
    match files with
    | [file] =>
      let name := stem (Path.basename file)
      if Unicode.lower name = Unicode.lower dirName then dirName
      else if 2 < name.length then name
      else dirName
    | _ => dirName

end ComponentManifest
