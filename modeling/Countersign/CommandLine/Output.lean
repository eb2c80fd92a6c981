/-
# Output files

A result can be written to a file, whose ending names the format. A file name that begins with its
only point has no ending.
-/

import Countersign.Program
import Countersign.Text.Json

namespace Countersign.CommandLine

/-- The last name in a path, if it ends in one. -/
def fileName? (path : String) : Option String :=
  match ((path.splitOn "/").filter fun part => part ≠ "" ∧ part ≠ ".").getLast? with
  | some ".." => none
  | name => name

/-- The ending of a file name: what follows its last point. -/
def extension? (name : String) : Option String :=
  match (name.splitOn ".").reverse with
  | ending :: before :: more =>
    if before = "" ∧ more.isEmpty then none else some ending
  | _ => none

/-- Writes a record to a file, if there is one to be written. -/
def saveRecord (path : Option String) (fields : List (String × String)) : Program Unit := do
  match path with
  | none => pure ()
  | some path =>
    if (fileName? path).bind extension? = some "json" then
      match ← Program.ask (.save path (Json.record fields)) with
      | .ok () => pure ()
      | .error fault => throw { message := fault.message }
    else throw { message := "unsupported output file format" }

end Countersign.CommandLine
