import Testbench.CommandLine.Command

/-!
# The program

The program looks at the files that the command line and the configuration name, does what the
command line asks for, writes the files that have changed and prints the two texts.
-/

namespace Testbench.Program

/-- The number by which the system tells that a folder was read as a file. -/
def folderCode : UInt32 := 21

/-- What stands at a path of the file system, if anything does that can be read. -/
def probe (path : String) : IO (Option Entry) := do
  try
    let contents ← IO.FS.readBinFile path
    return some (.file contents.data)
  catch
    | .inappropriateType _ code _ => return if code = folderCode then some .folder else none
    | _ => return none

/-- Puts everything that stands on the way along a path, and at its end, into a directory. -/
def survey (files : Directory) (path : String) : IO Directory := do
  let mut files := files
  let mut place : Place := if path.startsWith "/" then Directory.top else []
  for name in Directory.components path do
    match files.enter place name with
    | .error _ => break
    | .ok next =>
        place := next
        if (files.entry? place).isNone then
          if let some entry ← probe (Directory.pathOf place) then
            files := files.put place entry
  return files

/-- The files that a command line is concerned with. -/
def filesFor (words : List String) : IO Directory := do
  match CommandLine.Request.parse words with
  | .run arguments =>
      let files ← arguments.paths.foldlM survey .empty
      match arguments.configuration files with
      | .ok config => config.paths.foldlM survey files
      | .error _ => return files
  | _ => return .empty

end Testbench.Program

open Testbench in
/-- Does what the command line asks for. -/
def main (words : List String) : IO UInt32 := do
  let before ← Program.filesFor words
  let result := CommandLine.execute before words
  for (place, contents) in before.changes result.files do
    IO.FS.writeBinFile (Directory.pathOf place) ⟨contents⟩
  let output ← IO.getStdout
  output.write ⟨result.output⟩
  output.flush
  IO.eprint result.complaint
  return UInt32.ofNat result.exit
