import Perimeter.CommandLine

/-!
# `Perimeter.Main`: the program

Reads the standard input as far as a command needs it, and prints what
`Perimeter.CommandLine` answers.
-/

set_option autoImplicit false

namespace Perimeter

/-- Reads a stream to its end, behind what has been read of it. -/
partial def readAll (stream : IO.FS.Stream) (before : ByteArray) : IO ByteArray := do
  let chunk ← stream.read 4096
  if chunk.isEmpty then return before else readAll stream (before ++ chunk)

/-- Looks at the surroundings. Only the command that tries a configuration reads one. -/
def look (arguments : List String) : IO CommandLine.Surroundings := do
  let input ← match CommandLine.Command.ofArguments? arguments with
    | some (.check _) => readAll (← IO.getStdin) ByteArray.empty
    | _ => pure ByteArray.empty
  let configurations ← IO.getEnv "XDG_CONFIG_HOME"
  let home ← IO.getEnv "HOME"
  return ⟨.ok input.toList, configurations, home⟩

end Perimeter

/-- Runs the program. -/
def main (arguments : List String) : IO UInt32 := do
  match Perimeter.CommandLine.run arguments (← Perimeter.look arguments) with
  | .ok output =>
    IO.print output
    return 0
  | .error message =>
    IO.eprintln message
    return 1
