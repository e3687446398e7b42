import ComponentManifest.Text.Basic
import ComponentManifest.Unicode.Digit

/-!
# Arguments

The arguments of the command: switches before the subcommand, the subcommand, and its own switches.
A switch may be cut to a beginning that no other has, a value may be attached to it, and short
switches may share a dash. The last value given counts.

1. Switches and where they are allowed.
2. How a single argument is read.
3. Switches with their values.
4. The request that arguments make.
-/

namespace ComponentManifest.CommandLine

open Text (ofString)

/-! ## Switches -/

/-- A switch. -/
inductive Switch where
  | help
  | version
  | verbose
  | output
  | cwd
  | config
  deriving DecidableEq, Repr

/-- Does a value follow the switch? -/
def Switch.takesValue : Switch → Bool
  | .output | .cwd | .config => true
  | _ => false

/-- The names of the switches that are allowed at some place. -/
abbrev Switches := List (Text × Switch)

/-- The switches before the subcommand. -/
def mainSwitches : Switches :=
  [(ofString "-h", .help), (ofString "--help", .help), (ofString "--version", .version),
    (ofString "-v", .verbose), (ofString "--verbose", .verbose)]

/-- The switches of `generate`. -/
def generateSwitches : Switches :=
  [(ofString "-h", .help), (ofString "--help", .help), (ofString "-o", .output),
    (ofString "--output", .output), (ofString "-c", .cwd), (ofString "--cwd", .cwd),
    (ofString "--config", .config)]

/-- The switches of `init`. -/
def initSwitches : Switches := [(ofString "-h", .help), (ofString "--help", .help)]

/-! ## Single arguments -/

/-- How an argument is read. -/
inductive Reading where
  /-- No switch. -/
  | plain
  /-- The end of all switches. -/
  | dashes
  /-- A switch by itself. -/
  | bare (s : Switch)
  /-- A switch with a value after an equals sign. -/
  | valued (s : Switch) (value : Text)
  /-- A short switch with more characters attached. -/
  | short (s : Switch) (rest : Text)
  /-- A switch that is not allowed. -/
  | unknown
  deriving DecidableEq, Repr

/-- What is before the first equals sign and, if there is one, what is after it. -/
def cutAtEquals (t : Text) : Text × Option Text :=
  let before := t.takeWhile (· != '=')
  match t.drop before.length with
  | _ :: value => (before, some value)
  | [] => (before, none)

/-- Is the character a decimal digit? -/
def isDigit (c : Char) : Bool := (Unicode.digitValue? c).isSome

/-- Does the text write a negative number? One line feed may follow it. -/
def isNegativeNumber (t : Text) : Bool :=
  let body := if t.getLast? = some '\n' then t.dropLast else t
  match body with
  | '-' :: r =>
    let whole := r.takeWhile isDigit
    match r.drop whole.length with
    | [] => !whole.isEmpty
    | '.' :: fraction => !fraction.isEmpty && fraction.all isDigit
    | _ => false
  | _ => false

/-- An argument that names no allowed switch. -/
def readOther (t : Text) : Reading :=
  if isNegativeNumber t || t.contains ' ' then .plain else .unknown

/-- How an argument is read where some switches are allowed; none if it could mean several. -/
def readArgument? (allowed : Switches) (t : Text) : Option Reading :=
  if t.head? ≠ some '-' then some .plain
  else
    match allowed.lookup t with
    | some s => some (.bare s)
    | none =>
      if t.length = 1 then some .plain
      else
        let (before, value) := cutAtEquals t
        match value, allowed.lookup before with
        | some v, some s => some (.valued s v)
        | _, _ =>
          if (t.drop 1).head? = some '-' then
            match allowed.filter fun a => before.isPrefixOf a.1 with
            | [] => some (readOther t)
            | [a] => some (match value with | some v => .valued a.2 v | none => .bare a.2)
            | _ => none
          else
            match allowed.lookup (t.take 2) with
            | some s => some (.short s (t.drop 2))
            | none => some (readOther t)

/-- How arguments are read; after `--` none of them is a switch. -/
def readArguments? (allowed : Switches) : List Text → Option (List (Text × Reading))
  | [] => some []
  | t :: ts =>
    if t = ofString "--" then some ((t, .dashes) :: ts.map fun t => (t, .plain))
    else do
      let r ← readArgument? allowed t
      let rs ← readArguments? allowed ts
      return (t, r) :: rs

/-! ## Switches with their values -/

/-- The switches that one argument stands for, with their values, whether it has a part that is not
allowed, and the arguments after it. -/
structure Taken where
  switches : List (Switch × Text)
  stray : Bool
  rest : List (Text × Reading)
  deriving DecidableEq, Repr

/-- A switch to which nothing is attached: a value is the next argument. -/
def takeBare (s : Switch) (rest : List (Text × Reading)) : Option Taken :=
  if s.takesValue then
    match rest with
    | (value, .plain) :: rest => some ⟨[(s, value)], false, rest⟩
    | _ => none
  else some ⟨[(s, [])], false, rest⟩

/-- A switch with a value after an equals sign. -/
def takeValued (s : Switch) (value : Text) (rest : List (Text × Reading)) : Option Taken :=
  if s.takesValue then some ⟨[(s, value)], false, rest⟩ else none

/-- A short switch to which characters are attached: its value, or more short switches. -/
def takeShort (allowed : Switches) (s : Switch) (rest : List (Text × Reading)) :
    Text → Option Taken
  | [] => takeBare s rest
  | c :: cs =>
    if s.takesValue then some ⟨[(s, c :: cs)], false, rest⟩
    else if c = '-' then none
    else
      match allowed.lookup ['-', c] with
      | none => some ⟨[(s, [])], true, rest⟩
      | some next =>
        let taken := match cs with
          | '=' :: value => takeValued next value rest
          | _ => takeShort allowed next rest cs
        taken.map fun k => { k with switches := (s, []) :: k.switches }

/-- The switches of an argument. -/
def take (allowed : Switches) (r : Reading) (rest : List (Text × Reading)) : Option Taken :=
  match r with
  | .bare s => takeBare s rest
  | .valued s value => takeValued s value rest
  | .short s more => takeShort allowed s rest more
  | _ => some ⟨[], true, rest⟩

/-! ## Requests -/

/-- What a subcommand is asked to do. -/
structure Values where
  output : Option Text
  cwd : Option Text
  config : Option Text
  deriving DecidableEq, Repr, Inhabited

/-- What the command is asked to do. -/
inductive Request where
  | help
  | version
  | misuse
  | nothing
  | init
  | generate (values : Values)
  deriving DecidableEq, Repr

/-- What the arguments so far amount to. -/
structure Progress where
  verbose : Bool
  values : Values
  stray : Bool
  deriving Inhabited

/-- Carries out switches in order, until one of them ends the command. -/
def carryOut (p : Progress) : List (Switch × Text) → Except Request Progress
  | [] => .ok p
  | (.help, _) :: _ => .error .help
  | (.version, _) :: _ => .error .version
  | (.verbose, _) :: ss => carryOut { p with verbose := true } ss
  | (.output, v) :: ss => carryOut { p with values := { p.values with output := some v } } ss
  | (.cwd, v) :: ss => carryOut { p with values := { p.values with cwd := some v } } ss
  | (.config, v) :: ss => carryOut { p with values := { p.values with config := some v } } ss

/-- Goes through arguments up to the first that is no switch, or through all of them. Each step uses
up at least one argument. -/
def progress (allowed : Switches) (stopAtPlain : Bool) :
    Nat → Progress → List (Text × Reading) → Except Request (Progress × List (Text × Reading))
  | 0, p, rest => .ok (p, rest)
  | _ + 1, p, [] => .ok (p, [])
  | n + 1, p, (t, r) :: rest =>
    match r with
    | .plain | .dashes =>
      if stopAtPlain then .ok (p, (t, r) :: rest)
      else progress allowed stopAtPlain n { p with stray := true } rest
    | .unknown => progress allowed stopAtPlain n { p with stray := true } rest
    | r =>
      match take allowed r rest with
      | none => .error .misuse
      | some taken =>
        match carryOut { p with stray := p.stray || taken.stray } taken.switches with
        | .error q => .error q
        | .ok p => progress allowed stopAtPlain n p taken.rest

/-- The request of a subcommand's arguments. -/
def subRequest (allowed : Switches) (p : Progress) (args : List Text)
    (done : Values → Request) : Request :=
  match readArguments? allowed args with
  | none => .misuse
  | some rs =>
    match progress allowed false rs.length p rs with
    | .error q => q
    | .ok (p, _) => if p.stray then .misuse else done p.values

/-- The request that arguments make, and whether it is to be carried out with all reports. -/
def request (args : List Text) : Bool × Request :=
  match readArguments? mainSwitches args with
  | none => (false, .misuse)
  | some rs =>
    match progress mainSwitches true rs.length default rs with
    | .error q => (false, q)
    | .ok (p, []) => (p.verbose, if p.stray then .misuse else .nothing)
    | .ok (p, (command, _) :: rest) =>
      let args := rest.map (·.1)
      if command = ofString "generate" then
        (p.verbose, subRequest generateSwitches p args .generate)
      else if command = ofString "init" then
        (p.verbose, subRequest initSwitches p args fun _ => .init)
      else (false, .misuse)

end ComponentManifest.CommandLine
