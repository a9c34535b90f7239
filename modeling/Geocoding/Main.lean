import Geocoding.Program

/-!
# Running the program

Gathers what a run may read, runs the program and writes what it leaves behind.
No network is at hand here, so a question to the service is never answered.
-/

namespace Geocoding

partial def readAll (stream : IO.FS.Stream) (read : ByteArray := .empty) : IO ByteArray := do
  let chunk ← stream.read 65536
  if chunk.isEmpty then return read
  else readAll stream (read ++ chunk)

def readEntry (path : String) : IO (Option (String × FileEntry)) := do
  try
    let content ← IO.FS.readBinFile path
    return some (path, .file content.toList)
  catch
    | .noFileOrDirectory .. => return none
    | _ => return some (path, .directory)

def levels : IO Nat := do
  let place ← IO.currentDir
  return (Files.place (Files.parts place.toString)).length - 1

def gather (arguments : List String) : IO Surroundings := do
  let entries ← (Program.paths arguments (← levels)).filterMapM readEntry
  let endpoint ← IO.getEnv endpointVariable
  let input ← if Program.readsInput arguments then readAll (← IO.getStdin) else pure .empty
  return {
    files := .ofList entries
    environment := ⟨endpoint.toList.map fun value => (endpointVariable, value)⟩
    input := input.toList }

end Geocoding

def main (arguments : List String) : IO UInt32 := do
  let surroundings ← Geocoding.gather arguments
  let (outcome, _) :=
    Geocoding.Program.run arguments surroundings { reachable := false }
  IO.print outcome.output
  return outcome.exit.toNat.toUInt32
