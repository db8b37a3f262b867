import Waymark.Marker.Markers
import Waymark.Text.Line

/-!
# Completions

Two snippets can be inserted: a pair of markers around a region, and a tag. Where the line so far is
the beginning of a marker, no comment has been opened yet, and the editor is asked to make the line
one.
-/

namespace Waymark

/-- What a snippet inserts. -/
inductive CompletionKind
  | regionPair | tag
  deriving DecidableEq, Repr

/-- A snippet. -/
structure CompletionItem where
  kind : CompletionKind
  label : String
  detail : String
  /-- The text with numbered places to fill in. -/
  insertText : String
  /-- What is shown beside the item. -/
  documentation : String
  /-- What the editor is to do after the insertion. -/
  command : Option String
  deriving DecidableEq, Repr

namespace CompletionItem

/-- The command that makes a line a comment. -/
def addCommentLine : String := "editor.action.addCommentLine"

/-- The first and the second place to fill in. -/
def fields : String := " $\x7b1:name\x7d $\x7b2:description\x7d"

/-- A pair of markers around a region. -/
def regionPair (m : Markers) (command : Option String) : CompletionItem where
  kind := .regionPair
  label := m.regionStart
  detail := "Code Region"
  insertText := m.regionStart ++ fields ++ "\n$0\n" ++ m.regionEnd ++ " $\x7b1:name\x7d"
  documentation :=
    "Insert a region pair to fold the content between them\n\n```\n" ++ m.regionStart
      ++ " name description\n...\n" ++ m.regionEnd ++ " name\n```"
  command := command

/-- A tag. -/
def tag (m : Markers) (command : Option String) : CompletionItem where
  kind := .tag
  label := m.tag
  detail := "Code Tag"
  insertText := m.tag ++ fields
  documentation :=
    "Insert a tag to mark a specific point in the source code\n\n```\n" ++ m.tag
      ++ " name description\n```"
  command := command

/-- The snippets for the line that the cursor is on. -/
def forLine (m : Markers) (line : String) : List CompletionItem :=
  let typed := Text.trim line.toList
  let uncommented :=
    typed.isPrefixOf m.regionStart.toList || typed.isPrefixOf m.tag.toList
  let command := if uncommented then some addCommentLine else none
  [regionPair m command, tag m command]

end CompletionItem

end Waymark
