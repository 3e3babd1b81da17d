import LayoutRecovery.CommandLine.Run
import LayoutRecovery.Files.Path

/-!
# The program

The command line on the files and streams of the machine.
-/

namespace LayoutRecovery
namespace CommandLine

/-- The number and the description of a failure. -/
def failureDetails : IO.Error → Nat × String
  | .alreadyExists _ code details => (code.toNat, details)
  | .otherError code details => (code.toNat, details)
  | .resourceBusy code details => (code.toNat, details)
  | .resourceVanished code details => (code.toNat, details)
  | .unsupportedOperation code details => (code.toNat, details)
  | .hardwareFault code details => (code.toNat, details)
  | .unsatisfiedConstraints code details => (code.toNat, details)
  | .illegalOperation code details => (code.toNat, details)
  | .protocolError code details => (code.toNat, details)
  | .timeExpired code details => (code.toNat, details)
  | .interrupted _ code details => (code.toNat, details)
  | .noFileOrDirectory _ code details => (code.toNat, details)
  | .invalidArgument _ code details => (code.toNat, details)
  | .permissionDenied _ code details => (code.toNat, details)
  | .resourceExhausted _ code details => (code.toNat, details)
  | .inappropriateType _ code details => (code.toNat, details)
  | .noSuchThing _ code details => (code.toNat, details)
  | .unexpectedEof => (0, "unexpected end of file")
  | .userError details => (0, details)

/-- The result of an action on a path, which cannot hold a zero byte. -/
def attempt {α : Type} (path : String) (action : IO α) : IO (Except FileError α) := do
  if path.toList.contains '\x00' then return .error .zeroByte
  match ← action.toBaseIO with
  | .ok value => return .ok value
  | .error failure =>
      let (code, details) := failureDetails failure
      return .error (FileError.ofCode code details)

/-- Makes a directory in an existing one, unless it is there already. -/
def makeDirectory (path : String) : IO (Except FileError Unit) := do
  match ← attempt path (IO.FS.createDir path) with
  | .ok () => return .ok ()
  | .error error =>
      match ← attempt path (do (← IO.FS.realPath path).isDir) with
      | .ok true => return .ok ()
      | _ => return .error error

/-- Makes a directory and the missing ones above it. -/
partial def makeDirectories (path : String) : IO (Except FileError Unit) := do
  match ← makeDirectory path, FilePath.directory? path with
  | .error .notFound, some directory =>
      match ← makeDirectories directory with
      | .error error => return .error error
      | .ok () => makeDirectory path
  | made, _ => return made

/-- Creates or replaces the file at a path, with the missing directories above it. -/
def writeFile (path : String) (content : ByteArray) : IO (Except FileError Unit) := do
  if let some directory := FilePath.directory? path then
    if let .error error := ← makeDirectories directory then return .error error
  attempt path (IO.FS.writeBinFile path content)

/-- The machine that the program runs on. -/
def machine : Host IO where
  readFile path := attempt path (IO.FS.readBinFile path)
  writeFile := writeFile
  pathExists path := return (← attempt path (IO.FS.realPath path)).isOk
  emit event := do
    (← IO.getStdout).putStr event.printed
    (← IO.getStderr).putStr event.reported

end CommandLine
end LayoutRecovery

/-- Carries out the command line of the program. -/
def main (arguments : List String) : IO UInt32 := do
  let code ← LayoutRecovery.CommandLine.execute LayoutRecovery.CommandLine.machine arguments
  return code.toUInt32
