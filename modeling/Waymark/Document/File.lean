import Waymark.Document
import Waymark.Files.Tree

/-!
# Documents from files
-/

namespace Waymark.Document

/-- A document with the text of a file. -/
def ofFile (t : FileTree) (id : Nat) (path : String) : Except FileError Document := do
  return { id := id, text := ← t.readText path, path := some path }

end Waymark.Document
