import Bindery.CommandLine.Run

/-!
# The command

The command line in the real world: files, the standard streams and the exit code.
-/

namespace Bindery

/-- Why an access failed. -/
def failureReason : IO.Error → String
  | .noFileOrDirectory _ _ _ => "No such file or directory (os error 2)"
  | .permissionDenied _ _ _ => "Permission denied (os error 13)"
  | .inappropriateType _ _ _ => "Is a directory (os error 21)"
  | .userError _ => "stream did not contain valid UTF-8"
  | fault => toString fault

/-- An access with its failure as text. -/
def attempt {α : Type} (access : IO α) : IO (Except String α) := do
  match ← access.toBaseIO with
  | .ok value => return .ok value
  | .error fault => return .error (failureReason fault)

/-- All that is left of a stream, as text. -/
def readRest (stream : IO.FS.Stream) : IO String := do
  let mut bytes := ByteArray.empty
  repeat
    let more ← stream.read 65536
    if more.isEmpty then break
    bytes := bytes ++ more
  match String.fromUTF8? bytes with
  | some text => return text
  | none => throw (.userError "no text")

/-- Files and the standard input. -/
def systemHost : CommandLine.Host IO where
  fileText path := attempt (IO.FS.readFile path)
  inputText := attempt (do readRest (← IO.getStdin))
  putFile path text := attempt (IO.FS.writeFile path text)

end Bindery

/-- Run the command with the given arguments. -/
def main (arguments : List String) : IO UInt32 := do
  let outcome ← Bindery.CommandLine.run Bindery.systemHost arguments
  (← IO.getStdout).putStr outcome.output
  (← IO.getStderr).putStr outcome.messages
  return outcome.exitCode
