import Waymark.Position
import Waymark.Text.Line

/-!
# Documents

A document is a text with an identity and a revision that every edit raises. A position outside the
text is taken to the nearest place in it: behind the last line it means the end of the text, and behind
the end of a line the end of that line.
-/

namespace Waymark

open Text

/-- What identifies the content of a document, as long as it and a copy of it are not edited apart. -/
structure Version where
  id : Nat
  revision : UInt64
  deriving DecidableEq, Repr

/-- A text that is edited. -/
structure Document where
  id : Nat
  text : String
  /-- Where the text was read from. -/
  path : Option String := none
  revision : UInt64 := 0
  deriving DecidableEq, Repr

/-- A change to a document. -/
inductive DocumentEdit
  | setText (text : String)
  | insert (position : Position) (text : String)
  | replace (start stop : Position) (text : String)
  deriving DecidableEq, Repr

namespace Document

/-- The characters of the text. -/
def chars (d : Document) : List Char := d.text.toList

/-- The version of the document as it is. -/
def version (d : Document) : Version := ⟨d.id, d.revision⟩

/-- The lines, each with the characters that end it. -/
def rawLines (d : Document) : List (List Char) := breakLines d.chars

/-- Number of lines; an empty one after a final line break counts. -/
def lineCount (d : Document) : Nat := d.rawLines.length

/-- The lines without their ends. -/
def lines (d : Document) : List String :=
  d.rawLines.map fun line => String.ofList (trimLine line)

/-- A line without its end; a line outside the text is empty. -/
def line (d : Document) (i : Nat) : String := d.lines.getD i ""

/-- Number of characters of a line without its end. -/
def lineLength (d : Document) (i : Nat) : Nat :=
  (trimLine (d.rawLines.getD i [])).length

/-- Number of characters before a line. -/
def lineStart (d : Document) (i : Nat) : Nat :=
  (d.rawLines.take i).flatten.length

/-- Number of characters before the place that a position is taken to. -/
def offset (d : Document) (p : Position) : Nat :=
  if p.line < d.lineCount then d.lineStart p.line + Nat.min p.column (d.lineLength p.line)
  else d.chars.length

/-- Put another text between two offsets, and raise the revision. -/
def splice (d : Document) (start stop : Nat) (text : String) : Document :=
  { d with
    text := String.ofList (d.chars.take start ++ text.toList ++ d.chars.drop stop)
    revision := d.revision + 1 }

/-- Replace the whole text. -/
def setText (d : Document) (text : String) : Document :=
  { d with text := text, revision := d.revision + 1 }

/-- Insert a text at a position. -/
def insert (d : Document) (p : Position) (text : String) : Document :=
  d.splice (d.offset p) (d.offset p) text

/-- Replace what stands between two positions. If the second one comes first, nothing does. -/
def replace (d : Document) (start stop : Position) (text : String) : Document :=
  d.splice (d.offset start) (Nat.max (d.offset start) (d.offset stop)) text

/-- Make a change. -/
def edit (d : Document) : DocumentEdit → Document
  | .setText text => d.setText text
  | .insert p text => d.insert p text
  | .replace start stop text => d.replace start stop text

end Document

/-- The documents that are open, and the identity of the next one. -/
structure Workspace where
  nextId : Nat := 1
  documents : Array Document := #[]
  deriving DecidableEq, Repr

namespace Workspace

/-- Open a new document with a text. -/
def create (w : Workspace) (text : String) : Workspace :=
  ⟨w.nextId + 1, w.documents.push { id := w.nextId, text := text }⟩

/-- Open a copy of a document, which has the same version. -/
def copy (w : Workspace) (i : Nat) : Workspace :=
  match w.documents[i]? with
  | some d => { w with documents := w.documents.push d }
  | none => w

/-- Make a change to a document. -/
def edit (w : Workspace) (i : Nat) (e : DocumentEdit) : Workspace :=
  { w with documents := w.documents.modify i fun d => d.edit e }

end Workspace

end Waymark
