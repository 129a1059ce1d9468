import Backlog.Command
/-!
The program at a shell. What a command may look at is read first; then the command runs on that and
its output is printed. There is no connection to a tracker here: a request that a live run makes ends
as one that could not be sent.
-/
namespace Backlog.Shell
set_option autoImplicit false

/-- The number of a system error, which is passed on with either sign. -/
def codeOf (code : UInt32) : Nat :=
  if code.toNat < 0x80000000 then code.toNat else (0 - code).toNat

def otherFault (code : UInt32) (words : String) : ReadFault :=
  .other (words.toList ++ " (os error " ++ Text.decimal (codeOf code) ++ ")")

def faultOf : IO.Error → ReadFault
  | .noFileOrDirectory _ _ _ => .missing
  | .inappropriateType _ code _ => if codeOf code = 21 then .isDirectory else .notDirectory
  | .invalidArgument _ code _ =>
    if codeOf code = 36 then .nameTooLong
    else if codeOf code = 40 then .tooManyLinks
    else .nulInPath
  | .permissionDenied _ code words =>
    if codeOf code = 13 then .forbidden else otherFault code words
  | .resourceExhausted _ code words | .noSuchThing _ code words | .interrupted _ code words
  | .hardwareFault code words | .resourceBusy code words | .unsupportedOperation code words
  | .otherError code words => otherFault code words
  | e => .other e.toString

def readFile (path : Text) : IO (Except ReadFault Text) := do
  try
    let bytes ← IO.FS.readBinFile (String.ofList path)
    match Text.ofUtf8? bytes.toList with
    | some content => return .ok content
    | none => return .error .notText
  catch e => return .error (faultOf e)

/-- An entry as a storage shows it. Devices and the like are left out. -/
def entryOf (entry : IO.FS.DirEntry) : IO (Option Entry) := do
  let name := Text.utf8 entry.fileName
  try
    match (← entry.path.symlinkMetadata).type with
    | .file => return some ⟨name, .file⟩
    | .dir => return some ⟨name, .directory⟩
    | .symlink => return some ⟨name, .link⟩
    | .other => return none
  catch e => return some ⟨name, .untold (faultOf e)⟩

/-- The entries of a directory. One whose listing breaks off counts as one that cannot be opened,
since what has been seen of it is lost. -/
def readDirectory (path : Text) : IO (Except ListFault (List Entry)) := do
  let dir ← try IO.FS.realPath (String.ofList path) catch _ => return .error .noDirectory
  unless ← dir.isDir do return .error .noDirectory
  try
    let found ← (← dir.readDir).toList.mapM entryOf
    return .ok (found.filterMap id)
  catch e => return .error (.unopened (faultOf e))

abbrev Directory := Text × Except ListFault (List Entry)

def noDirectory : Directory := ([], .error .noDirectory)

/-- The storage that holds one directory and some files. -/
def storage (directory : Directory) (files : List (Text × Except ReadFault Text)) : Storage where
  list := fun path => if path = directory.1 then directory.2 else .error .noDirectory
  read := fun path => (files.lookup path).getD (.error .missing)

def gather (invocation : Command.Invocation) (cwd : Text) : IO Command.World := do
  let given := invocation.given
  let root := given.project.getD cwd
  let config := (Config.path root, ← readFile (Config.path root))
  let peer : Http.Peer := ⟨[], [], []⟩
  match Project.load (storage noDirectory [config]) root given.dir given.repo with
  | .error _ => return ⟨storage noDirectory [config], cwd, [], peer⟩
  | .ok project =>
    let directory : Directory := (project.shelf.dir, ← readDirectory project.shelf.dir)
    let paths := (project.shelf.discover (storage directory [])).toOption.getD []
    let files ← paths.mapM fun path => return (path, ← readFile path)
    let tokenEnv := project.config.tracker.tokenEnv
    let token := (← IO.getEnv (String.ofList tokenEnv)).toList.map fun (t : String) =>
      (tokenEnv, t.toList)
    return ⟨storage directory (config :: files), cwd, token, peer⟩

end Backlog.Shell

def main (args : List String) : IO UInt32 := do
  let args := args.map String.toList
  let cwd : Backlog.Text := (← IO.currentDir).toString
  let world : Backlog.Command.World ←
    match Backlog.Command.Invocation.ofArguments args with
    | .error _ => pure ⟨Backlog.Shell.storage Backlog.Shell.noDirectory [], cwd, [], ⟨[], [], []⟩⟩
    | .ok invocation => Backlog.Shell.gather invocation cwd
  let result := Backlog.Command.execute args world
  IO.print (String.ofList result.output)
  return result.exitCode.toUInt32
