import Patchwork.Cli

/-!
# The program

Reads the files that the arguments name, runs the command line on them, and carries out its
outcome.
-/

set_option autoImplicit false

namespace Patchwork

/-- The number by which the system says that a part of a path is no directory. -/
def notDirectoryCode : UInt32 := 20

/-- The number by which the system says that a name is too long. -/
def nameTooLongCode : UInt32 := 36

/-- The fault behind an error of the system; one of another kind counts as a refusal. -/
def faultOf : IO.Error → FileFault
  | .invalidArgument _ code _ => if code = nameTooLongCode then .nameTooLong else .denied
  | .noFileOrDirectory _ _ _ => .missing
  | .inappropriateType _ code _ => if code = notDirectoryCode then .notDirectory else .isDirectory
  | _ => .denied

/-- The content of a file, or what is wrong with it. -/
def readPath (path : String) : IO (Except FileFault String) := do
  try
    return .ok (← IO.FS.readFile path)
  catch e =>
    return .error (faultOf e)

/-- The content of all paths that may be asked for. -/
def readPaths (paths : List String) : IO FileView := do
  let contents ← paths.mapM fun path => do return (path, ← readPath path)
  return {
    read := fun path => (contents.lookup path).getD (.error .missing)
    writeFault? := fun _ => none }

/-- The paths that an argument may hold: itself, and what stands behind an equals sign or a letter
for an option. -/
def candidatePaths (arg : String) : List String :=
  let chars := arg.toList
  [arg, String.ofList (chars.drop 2), String.ofList ((chars.dropWhile (· ≠ '=')).drop 1)]

/-- Writes the file of an outcome, if there is one, and says whether that went well. -/
def writeFile (outcome : Cli.Outcome) : IO Bool := do
  match outcome.written with
  | none => return true
  | some (path, text) =>
    try
      IO.FS.writeFile path text
      return true
    catch e =>
      IO.eprintln (toString e)
      return false

/-- The machine that the program counts on, with room for a billion items in an array. -/
abbrev machine : Machine where
  maxItems := 1000000000
  maxItems_lt := by decide

end Patchwork

open Patchwork in
/-- The program: prints the output, reports what is not part of it on the error stream, and ends
with the exit code. -/
def main (args : List String) : IO UInt32 := do
  let view ← readPaths (args.flatMap candidatePaths)
  let level ← IO.getEnv Settings.logLevelVariable
  let strict ← IO.getEnv Settings.strictVariable
  let settings := Settings.ofEnvironment fun name =>
    if name = Settings.logLevelVariable then level
    else if name = Settings.strictVariable then strict else none
  let host : Cli.Host := { files := view, console := .unfolded, writer := .checked }
  let outcome := @Cli.run machine host settings args
  if !(← writeFile outcome) then return 1
  IO.print outcome.output
  match outcome.usage with
  | some e => IO.eprintln ("Error: " ++ e.message)
  | none => pure ()
  match outcome.stopped with
  | some _ => IO.eprintln "Error: the command was stopped by data that it cannot handle"
  | none => pure ()
  return UInt32.ofNat outcome.exit
