import Backlog.Text
/-!
The command line: a verb with its flags, and options that may stand before the verb or behind it.

- `Arguments.classify`: what a single argument is;
- `Seen.read`: the arguments of one level, before the verb or behind it;
- `Invocation.ofArguments`: what a command line asks for, or why nothing is run.
-/
namespace Backlog.Command
set_option autoImplicit false

/-! ## What can be asked for -/

inductive Action where
  /-- Show, or open, the issue of each story. -/
  | sync (live yes : Bool)
  | list
  | show (id : Text) (json : Bool)
  deriving DecidableEq, Repr

/-- The options that take the place of configured values. -/
structure Overrides where
  project : Option Text
  dir : Option Text
  repo : Option Text
  deriving DecidableEq, Repr

structure Invocation where
  action : Action
  given : Overrides
  deriving DecidableEq, Repr

/-- Why a command line runs nothing. -/
inductive Stop where
  | help
  | version
  | refused
  deriving DecidableEq, Repr

/-! ## Single arguments -/

inductive ValueOption where
  | project
  | dir
  | repo
  deriving DecidableEq, Repr

inductive Flag where
  | noDryRun
  | yes
  | json
  | help
  | version
  deriving DecidableEq, Repr

inductive Argument where
  | valued (option : ValueOption) (attached : Option Text)
  | flag (flag : Flag)
  /-- Letters behind a single hyphen. -/
  | letters (cs : List Char)
  /-- Two hyphens alone: only words follow. -/
  | wordsOnly
  | word (t : Text)
  | unknown
  deriving DecidableEq, Repr

def valueOptions : List (Text × ValueOption) :=
  [("--project", .project), ("--dir", .dir), ("--repo", .repo)]

def flags : List (Text × Flag) :=
  [("--no-dry-run", .noDryRun), ("--yes", .yes), ("--json", .json), ("--help", .help),
   ("--version", .version)]

def letterFlags : List (Char × Flag) := [('y', .yes), ('h', .help), ('V', .version)]

/-- What an argument with a long name is. A flag takes no value. -/
def classifyLong (arg : Text) : Argument :=
  let name := arg.takeWhile (· != '=')
  let attached := match arg.dropWhile (· != '=') with
    | [] => none
    | _ :: value => some value
  match valueOptions.lookup name, flags.lookup name, attached with
  | some o, _, _ => .valued o attached
  | none, some f, none => .flag f
  | none, _, _ => .unknown

/-- What an argument is. A hyphen alone is a word. -/
def classify (arg : Text) : Argument :=
  match arg with
  | ['-', '-'] => .wordsOnly
  | '-' :: '-' :: _ => classifyLong arg
  | '-' :: c :: cs => .letters (c :: cs)
  | _ => .word arg

def mayBeValue (arg : Text) : Bool :=
  match classify arg with
  | .word _ => true
  | _ => false

/-! ## Levels -/

inductive Verb where
  | sync
  | list
  | show
  deriving DecidableEq, Repr

def verbs : List (Text × Verb) := [("sync", .sync), ("list", .list), ("show", .show)]

def helpWord : Text := "help"

/-- Whether a word with what follows it asks for help: at all, or with one command. -/
def asksForHelp (word : Text) (rest : List Text) : Bool :=
  word == helpWord &&
    match rest with
    | [] => true
    | [command] => command == helpWord || (verbs.lookup command).isSome
    | _ => false

/-- What one level has been given: nothing twice. -/
structure Seen where
  given : Overrides
  noDryRun : Bool
  yes : Bool
  json : Bool
  id : Option Text
  deriving DecidableEq, Repr

namespace Seen

def nothing : Seen := ⟨⟨none, none, none⟩, false, false, false, none⟩

/-- A value for an option. Paths must not be empty. -/
def value (seen : Seen) (o : ValueOption) (v : Text) : Except Stop Seen :=
  let g := seen.given
  match o, g.project, g.dir, g.repo with
  | .project, none, _, _ =>
    if v.isEmpty then .error .refused else .ok { seen with given := { g with project := some v } }
  | .dir, _, none, _ =>
    if v.isEmpty then .error .refused else .ok { seen with given := { g with dir := some v } }
  | .repo, _, _, none => .ok { seen with given := { g with repo := some v } }
  | _, _, _, _ => .error .refused

def flag (seen : Seen) (verb : Option Verb) (f : Flag) : Except Stop Seen :=
  match f, verb with
  | .help, _ => .error .help
  | .version, none => .error .version
  | .noDryRun, some .sync =>
    if seen.noDryRun then .error .refused else .ok { seen with noDryRun := true }
  | .yes, some .sync => if seen.yes then .error .refused else .ok { seen with yes := true }
  | .json, some .show => if seen.json then .error .refused else .ok { seen with json := true }
  | _, _ => .error .refused

def letters (seen : Seen) (verb : Option Verb) (cs : List Char) : Except Stop Seen :=
  cs.foldlM (fun seen c =>
    match letterFlags.lookup c with
    | some f => seen.flag verb f
    | none => .error .refused) seen

/-- A word behind a verb. Only one verb takes one. -/
def word (seen : Seen) (verb : Option Verb) (t : Text) : Except Stop Seen :=
  match verb, seen.id with
  | some .show, none => .ok { seen with id := some t }
  | _, _ => .error .refused

def read (verb : Option Verb) : Seen → List Text → Except Stop (Seen × Option (Verb × List Text))
  | seen, [] => .ok (seen, none)
  | seen, arg :: rest =>
    match classify arg with
    | .wordsOnly => do
      let seen ← rest.foldlM (fun seen t => seen.word verb t) seen
      return (seen, none)
    | .valued o (some v) => do read verb (← seen.value o v) rest
    | .valued o none =>
      match rest with
      | [] => .error .refused
      | v :: rest => if mayBeValue v then do read verb (← seen.value o v) rest else .error .refused
    | .flag f => do read verb (← seen.flag verb f) rest
    | .letters cs => do read verb (← seen.letters verb cs) rest
    | .word t =>
      match verb with
      | some _ => do read verb (← seen.word verb t) rest
      | none =>
        match verbs.lookup t with
        | some v => .ok (seen, some (v, rest))
        | none =>
          if asksForHelp t rest then .error .help else .error .refused
    | .unknown => .error .refused

end Seen

/-! ## Command lines -/

/-- Options behind the verb, and those before it where there are none behind. -/
def Overrides.over (inner outer : Overrides) : Overrides :=
  ⟨inner.project <|> outer.project, inner.dir <|> outer.dir, inner.repo <|> outer.repo⟩

def Invocation.ofArguments (args : List Text) : Except Stop Invocation := do
  let (outer, verb) ← Seen.read none Seen.nothing args
  match verb with
  | none => .error .refused
  | some (verb, rest) =>
    let (inner, _) ← Seen.read (some verb) Seen.nothing rest
    let given := inner.given.over outer.given
    match verb, inner.id with
    | .sync, _ => return ⟨.sync inner.noDryRun inner.yes, given⟩
    | .list, _ => return ⟨.list, given⟩
    | .show, some id => return ⟨.show id inner.json, given⟩
    | .show, none => .error .refused

end Backlog.Command
