/-
  The program: reads the files named on the command line and prints the response.
-/
import Iommu.CommandLine

open Iommu

/-- The contents of the files that can be read. -/
def readFiles : List String → IO (List (String × String))
  | [] => return []
  | path :: rest => do
    let found ← readFiles rest
    try
      let contents ← IO.FS.readFile path
      return (path, contents) :: found
    catch _ => return found

/-- Answers the command line with output, error output and an exit code. -/
def main (args : List String) : IO UInt32 := do
  let files ← readFiles (CommandLine.filesNamed args)
  let response := CommandLine.respond args fun path => files.lookup path
  if let some text := response.output then IO.println text
  if let some text := response.errorOutput then IO.eprintln text
  return response.exitCode
