import ComponentManifest.Manifest.Tag

/-!
# Taggers

A tagger finds the tags of paths by the table that it is made with, and remembers them until it is
cleared. Several taggers can be at work side by side, also of one mapping, whose owner may change it
after they are made.

1. A tagger, and what it can be asked.
2. Mappings and taggers side by side.
-/

namespace ComponentManifest

/-! ## One tagger -/

/-- What a tagger can be asked. -/
inductive TagRequest where
  /-- The tag of a path. -/
  | classify (path : Text)
  /-- The number of paths that are remembered. -/
  | size
  /-- To forget them all. -/
  | clear
  deriving DecidableEq, Repr

/-- What a tagger answers. -/
inductive TagAnswer where
  | tag (t : Tag)
  | size (n : Nat)
  | cleared
  deriving DecidableEq, Repr

/-- The table of a tagger, and what it remembers. -/
structure Tagger where
  table : TagTable
  memo : TagMemo
  deriving DecidableEq, Repr

namespace Tagger

/-- A tagger that remembers nothing yet. -/
def make (table : TagTable) : Tagger := ⟨table, []⟩

/-- The tagger after a request, what it reports, and its answer. -/
def ask (g : Tagger) : TagRequest → Tagger × List Event × TagAnswer
  | .classify path =>
    let (events, t, memo) := g.memo.tag g.table path
    ({ g with memo := memo }, events, .tag t)
  | .size => (g, [], .size g.memo.length)
  | .clear => ({ g with memo := [] }, [], .cleared)

/-- The tagger after several requests. -/
def after (g : Tagger) (rs : List TagRequest) : Tagger := rs.foldl (fun g r => (g.ask r).1) g

end Tagger

/-! ## Side by side -/

/-- Mappings of directory names and the taggers at work, each known by its place. -/
structure Taggers where
  mappings : List TagTable
  taggers : List Tagger
  deriving DecidableEq, Repr

/-- What can happen to them. -/
inductive TaggerAct where
  /-- A mapping comes into being. -/
  | hold (table : TagTable)
  /-- The owner of a mapping changes it. -/
  | edit (mapping : Nat) (table : TagTable)
  /-- A tagger is made of what a mapping holds. -/
  | make (mapping : Nat)
  /-- A tagger is asked. -/
  | ask (tagger : Nat) (r : TagRequest)
  deriving DecidableEq, Repr

namespace Taggers

/-- Before anything happened. -/
def start : Taggers := ⟨[], []⟩

/-- Mappings and taggers after something happened, what is reported, and the answer of the tagger
that was asked. -/
def act (s : Taggers) : TaggerAct → Taggers × List Event × Option TagAnswer
  | .hold table => ({ s with mappings := s.mappings ++ [table] }, [], none)
  | .edit m table => ({ s with mappings := s.mappings.set m table }, [], none)
  | .make m =>
    match s.mappings[m]? with
    | some table => ({ s with taggers := s.taggers ++ [.make table] }, [], none)
    | none => (s, [], none)
  | .ask i r =>
    match s.taggers[i]? with
    | some g =>
      let (g, events, answer) := g.ask r
      ({ s with taggers := s.taggers.set i g }, events, some answer)
    | none => (s, [], none)

/-- Mappings and taggers after several things happened. -/
def run (s : Taggers) (acts : List TaggerAct) : Taggers := acts.foldl (fun s a => (s.act a).1) s

end Taggers

end ComponentManifest
