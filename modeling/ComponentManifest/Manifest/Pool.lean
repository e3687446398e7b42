import ComponentManifest.Manifest.Build

/-!
# Building with several workers

The units of a build can be shared out to workers that run side by side. They share the memo of tags
and the list of skipped files, and each access to one of them is a step of its own: between the
look-up of a path and the store of its tag other workers may act. The file tree does not change
meanwhile.

1. Programs: what a worker does for one unit, one access after another.
2. The program of a unit, and a program that runs alone.
3. The pool: units that wait, run or are finished, and its steps.
4. A build whose items are made by a pool, and builds repeated on one builder.
-/

namespace ComponentManifest

/-! ## Programs -/

/-- What a worker does, one access to the shared data after another. -/
inductive Program (α : Type) where
  /-- The work is done, or given up. -/
  | done (r : Except Fault α)
  /-- Looks up a path in the memo. -/
  | lookUp (path : Text) (next : Option Tag → Program α)
  /-- Stores the tag of a path in the memo. -/
  | store (path : Text) (tag : Tag) (next : Program α)
  /-- Adds a file to those that were skipped. -/
  | skip (path : Text) (next : Program α)
  /-- Reports an event. -/
  | report (e : Event) (next : Program α)

/-- Sets the tag of a path: in place when the path is there, at the end otherwise. -/
def TagMemo.store (path : Text) (tag : Tag) : TagMemo → TagMemo
  | [] => [(path, tag)]
  | e :: es => if e.1 = path then (path, tag) :: es else e :: TagMemo.store path tag es

namespace Program

variable {α : Type}

/-- Reports events before going on. -/
def reporting (es : List Event) (next : Program α) : Program α := es.foldr report next

/-- Notes skipped files before going on. -/
def skipping (ps : List Text) (next : Program α) : Program α := ps.foldr skip next

/-- Finds the tag of a path: in the memo or, when it is not there, by the table. In the second case
it is stored afterwards. -/
def tagging (path : Text) (next : Tag → Program α) : Program α :=
  lookUp path fun
    | some t => next t
    | none =>
      let (events, t, _) := TagMemo.tag .standard [] path
      reporting events (store path t (next t))

/-- Finds the tags of some paths, in order. -/
def taggingAll : List Text → (List ItemFile → Program α) → Program α
  | [], next => next []
  | p :: ps, next => tagging p fun t => taggingAll ps fun files => next (⟨p, t⟩ :: files)

/-- Scans files one after another. -/
def scanning (k : Classifier) (w : Workspace) :
    List Text → (List Classification → Program α) → Program α
  | [], next => next []
  | q :: qs, next =>
    let scan := k.scanFile w q
    reporting scan.events <|
      match scan.result with
      | .error e => done (.error e)
      | .ok s => skipping s.skipped (scanning k w qs fun found => next (s.found ++ found))

end Program

/-! ## The program of a unit -/

/-- Makes the item of a unit. -/
def itemProgram (k : Classifier) (w : Workspace) (c : Config) (u : ComponentUnit) : Program Item :=
  match unitFiles k.filter w c u with
  | .error e => .done (.error e)
  | .ok files =>
    let relativeDir := Path.relative u.directory c.cwd
    let name := componentName u.directory u.files
    .taggingAll (files.map (manifestPath relativeDir u.directory)) fun itemFiles =>
      .scanning k w files fun found =>
        let lists := DependencyLists.ofClassifications found
        .report (.importsClassified lists.dependencies.length lists.devDependencies.length
          lists.registryDependencies.length) <|
        .tagging relativeDir fun tag =>
          .report (.componentProcessed name tag.text itemFiles.length) <|
          .done (.ok ⟨name, tag, itemFiles, lists.dependencies, lists.devDependencies,
            lists.registryDependencies⟩)

/-- The run of a program that has the memo to itself: its result, the memo after it, and the files
skipped. -/
def Program.alone {α : Type} : Program α → TagMemo → Outcome (α × TagMemo × List Text)
  | .done (.ok a), memo => .value (a, memo, [])
  | .done (.error e), _ => .fail e
  | .lookUp p next, memo => (next (memo.lookup p)).alone memo
  | .store p t next, memo => next.alone (memo.store p t)
  | .skip q next, memo =>
    let rest := next.alone memo
    ⟨rest.events, rest.result.map fun r => (r.1, r.2.1, q :: r.2.2)⟩
  | .report e next, memo =>
    let rest := next.alone memo
    ⟨e :: rest.events, rest.result⟩

/-! ## The pool -/

/-- What the workers share. -/
structure Shared where
  memo : TagMemo
  skipped : List Text
  deriving Inhabited

/-- One step of a program; one that is done has none. -/
def Program.step {α : Type} : Program α → Shared → Option (Program α × Shared)
  | .done _, _ => none
  | .lookUp p next, s => some (next (s.memo.lookup p), s)
  | .store p t next, s => some (next, { s with memo := s.memo.store p t })
  | .skip q next, s => some (next, { s with skipped := s.skipped ++ [q] })
  | .report _ next, s => some (next, s)

/-- How far a unit is. -/
inductive Cell where
  | waiting (p : Program Item)
  | running (p : Program Item)
  | finished (r : Except Fault Item)
  | dropped

namespace Cell

/-- Is no worker busy with the unit, now or later? -/
def isSettled : Cell → Bool
  | finished _ | dropped => true
  | _ => false

/-- Is a worker busy with the unit? -/
def isRunning : Cell → Bool
  | running _ => true
  | _ => false

/-- Has no worker taken the unit yet? -/
def isWaiting : Cell → Bool
  | waiting _ => true
  | _ => false

end Cell

/-- The results of the units in their order, as far as they decide about the whole: all items, or
the fault of the first unit that has one. -/
def collect : List Cell → Option (Except Fault (List Item))
  | [] => some (.ok [])
  | .finished (.ok i) :: cs => (collect cs).map fun r => r.map (i :: ·)
  | .finished (.error e) :: _ => some (.error e)
  | _ :: _ => none

/-- The shared data and the units in their order. -/
structure Pool where
  shared : Shared
  cells : List Cell

namespace Pool

/-- A pool before any worker begins. -/
def start (k : Classifier) (w : Workspace) (c : Config) (memory : BuildMemory)
    (units : List ComponentUnit) : Pool :=
  ⟨⟨memory.memo, memory.skipped⟩, units.map fun u => .waiting (itemProgram k w c u)⟩

/-- Is every unit settled? -/
def isSettled (q : Pool) : Bool := q.cells.all Cell.isSettled

/-- A step of a pool with some workers. -/
inductive Step (workers : Nat) : Pool → Pool → Prop
  /-- A free worker takes the first unit that waits. -/
  | begin {s : Shared} {pre post : List Cell} {p : Program Item} :
      (∀ c ∈ pre, c.isWaiting = false) →
      (pre ++ Cell.waiting p :: post).countP Cell.isRunning < workers →
      Step workers ⟨s, pre ++ .waiting p :: post⟩ ⟨s, pre ++ .running p :: post⟩
  /-- A worker goes on. -/
  | act {s s' : Shared} {pre post : List Cell} {p p' : Program Item} :
      p.step s = some (p', s') →
      Step workers ⟨s, pre ++ .running p :: post⟩ ⟨s', pre ++ .running p' :: post⟩
  /-- A worker is done with its unit. -/
  | finish {s : Shared} {pre post : List Cell} {r : Except Fault Item} :
      Step workers ⟨s, pre ++ .running (.done r) :: post⟩ ⟨s, pre ++ .finished r :: post⟩
  /-- Once it is known that the build fails, a unit that waits is dropped. -/
  | drop {s : Shared} {pre post : List Cell} {p : Program Item} {e : Fault} :
      collect (pre ++ .waiting p :: post) = some (.error e) →
      Step workers ⟨s, pre ++ .waiting p :: post⟩ ⟨s, pre ++ .dropped :: post⟩

/-- Some steps in a row. -/
inductive Runs (workers : Nat) : Nat → Pool → Pool → Prop
  | refl (q : Pool) : Runs workers 0 q q
  | tail {n : Nat} {q q' q'' : Pool} :
      Runs workers n q q' → Step workers q' q'' → Runs workers (n + 1) q q''

end Pool

/-! ## Builds -/

/-- The part of a build before its units are shared out: the classifier and the units. -/
def prepare (w : Workspace) (c : Config) (given : Option ProjectDependencies) (f : SourceFilter)
    (memory : BuildMemory) : Outcome (Classifier × List ComponentUnit) := do
  if !w.isDir c.cwd then Outcome.fail (.directoryNotFound c.cwd)
  let k ← match memory.classifier with
    | some k => Outcome.value k
    | none => configClassifier w c given f
  let units ← discover f w c.cwd c.componentPattern.display c.componentPattern.shown
  return (k, units)

/-- What a build returns when its items, or the first fault, are known. -/
def Pool.answer (q : Pool) (c : Config) (k : Classifier) (r : Except Fault (List Item)) :
    Except Fault (Manifest × BuildMemory) :=
  r.map fun items =>
    (⟨schemaUrl, c.name, c.homepage, items⟩, ⟨some k, q.shared.memo, q.shared.skipped⟩)

section PooledBuild

variable (workers : Nat) (w : Workspace) (c : Config) (given : Option ProjectDependencies)
  (f : SourceFilter)

/-- The answers that a build with some workers can give. -/
inductive PooledBuild (memory : BuildMemory) : Except Fault (Manifest × BuildMemory) → Prop
  | unprepared {e : Fault} :
      (prepare w c given f memory).result = .error e → PooledBuild memory (.error e)
  | ended {k : Classifier} {units : List ComponentUnit} {n : Nat} {q : Pool}
      {r : Except Fault (List Item)} :
      (prepare w c given f memory).result = .ok (k, units) →
      Pool.Runs workers n (.start k w c memory units) q → q.isSettled = true →
      collect q.cells = some r → PooledBuild memory (q.answer c k r)

/-- Builds that follow one another on the same builder, with the memory before the first and after
the last, and the manifests of them all. -/
inductive PooledBuilds : Nat → BuildMemory → List Manifest → BuildMemory → Prop
  | none (memory : BuildMemory) : PooledBuilds 0 memory [] memory
  | again {n : Nat} {memory memory' memory'' : BuildMemory} {ms : List Manifest} {m : Manifest} :
      PooledBuilds n memory ms memory' →
        PooledBuild workers w c given f memory' (.ok (m, memory'')) →
      PooledBuilds (n + 1) memory (ms ++ [m]) memory''

end PooledBuild

end ComponentManifest
