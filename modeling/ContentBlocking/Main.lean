import ContentBlocking.CommandLine

/-!
# The program

Reads the files that a command asks for, writes its result and prints what it has to say.
-/

namespace ContentBlocking.CommandLine

def missingFile : String := "No such file or directory (os error 2)"

def fileReason : IO.Error → String
  | .noFileOrDirectory .. => missingFile
  | .permissionDenied .. => "Permission denied (os error 13)"
  | .inappropriateType .. => "Is a directory (os error 21)"
  | error => toString error

def readPaths : Command → List String
  | .compile arguments =>
      arguments.input ::
        [arguments.exceptions, arguments.unprotected, arguments.allowlist].filterMap id
  | .validate input unprotected => input :: [unprotected].filterMap id
  | .info input => [input]
  | .check arguments => [arguments.rules]

def readFile (path : String) : IO (Except String (List UInt8)) := do
  try
    return .ok (← IO.FS.readBinFile path).toList
  catch error => return .error (fileReason error)

/-- Writes a file; the answer is the reason why it cannot be written, if it cannot. -/
def writeFile (path text : String) : IO (Option String) := do
  try
    IO.FS.writeFile path text
    return none
  catch error => return some (fileReason error)

/-- Carries out a command and answers its exit code. -/
def execute (command : Command) : IO UInt32 := do
  let contents ← (readPaths command).mapM fun path => return (path, ← readFile path)
  let run := command.run fun path => (contents.lookup path).getD (.error missingFile)
  let problem ←
    match run.file with
    | some (path, text) => writeFile path text
    | none => pure none
  let transcript := run.transcript problem
  transcript.output.forM fun line => IO.println line
  transcript.errors.forM fun line => IO.eprintln line
  return UInt32.ofNat transcript.code

end ContentBlocking.CommandLine

def main (arguments : List String) : IO UInt32 := do
  match ContentBlocking.CommandLine.Command.ofArguments? arguments with
  | some command => ContentBlocking.CommandLine.execute command
  | none =>
      IO.eprintln "usage: compile|validate|info|check OPTIONS"
      return 2
