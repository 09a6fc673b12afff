import MarkupTree.Site.CommandLine
/-!
The program: it takes in the files under the current directory, runs the command line on them, and
writes what the run changed.
-/

namespace MarkupTree.Program

/-- Links may lead in circles, so nothing further down than this many levels is taken in. -/
def deepest : Nat := 40

def gather : Nat → Place → IO.FS.DirEntry → IO FileTree
  | 0, _, _ => return []
  | levels + 1, above, entry => do
      let place := above ++ [entry.fileName]
      if ← entry.path.isDir then
        let inside ← entry.path.readDir
        let found ← inside.toList.mapM (gather levels place)
        return (place, .directory) :: found.flatten
      else
        match ← (IO.FS.readFile entry.path).toBaseIO with
        | .ok text => return [(place, .file text)]
        | .error _ => return []

def gatherUnder (place : Place) (entries : List IO.FS.DirEntry) : IO FileTree := do
  let found ← entries.mapM (gather deepest place)
  return FileTree.addDirectories [] [] place ++ found.flatten

def textOf (place : Place) : String := "/" ++ String.intercalate "/" place

def save (place : Place) (text : String) : IO Unit := do
  IO.FS.createDirAll (textOf place.dropLast)
  IO.FS.writeFile (textOf place) text

def run (arguments : List String) : IO UInt32 := do
  let directory ← IO.currentDir
  let here := Path.ofText directory.toString
  let place := here.segments.filter fun segment => !Path.isVoid segment
  let files ← gatherUnder place (← directory.readDir).toList
  let finished := Site.runArguments files here arguments
  for (place, text) in FileTree.changes files finished.workspace.files do
    save place text
  IO.print finished.workspace.out
  IO.eprint finished.workspace.err
  return UInt32.ofNat finished.code

end MarkupTree.Program

def main (arguments : List String) : IO UInt32 := MarkupTree.Program.run arguments
