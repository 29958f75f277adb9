import Bindery.Doc.Events

/-!
# Documents as plain text

The simplest surface writes what it is told as plain text: a line for a paragraph, a bar between the
cells of a row, the marker before the entry of a list.  It writes without looking ahead, and what it
has written it takes back in one case only: the number of an expression goes to the end of the last
line of the expression, so the line break there is moved behind the number.

* `PlainText.take`: the effect of one event.
* `Doc.plainText`: the text of a document.
-/

namespace Bindery

/-- A plain text that is being written. -/
structure PlainText where
  /-- What is written so far, the last character first. -/
  reversed : List Char
  /-- How many cells of the current row have been entered. -/
  cellsInRow : Nat
deriving DecidableEq

namespace PlainText

open Doc (Block Event TextRun)

/-- Nothing is written. -/
def empty : PlainText := ⟨[], 0⟩

/-- Write characters. -/
def append (text : PlainText) (chars : List Char) : PlainText :=
  { text with reversed := chars.reverse ++ text.reversed }

/-- End the line, unless nothing is on it. -/
def endLine (text : PlainText) : PlainText :=
  match text.reversed with
  | [] => text
  | '\n' :: _ => text
  | _ :: _ => text.append ['\n']

/-- Take back the end of the last line, if the text ends with one. -/
def reopenLine (text : PlainText) : PlainText :=
  match text.reversed with
  | '\n' :: before => { text with reversed := before }
  | _ => text

/-- The number of an expression. -/
def numberChars (index : UInt32) : List Char :=
  '(' :: (Nat.toDigits 10 index.toNat ++ [')'])

/-- The depth that an entry of a catalog is indented by. -/
def entryDepth (level : Option Int32) : Nat :=
  (level.getD 0).toInt.toNat

/-- Enter a block. -/
def enter (text : PlainText) : Block → PlainText
  | .paragraph true => text.endLine.append (List.replicate 4 ' ')
  | .paragraph false | .sect .. | .table => text.endLine
  | .row => { text.endLine with cellsInRow := 0 }
  | .cell .. =>
    let text := if text.cellsInRow = 0 then text else text.append [' ', '|', ' ']
    { text with cellsInRow := text.cellsInRow + 1 }
  | .item model ordinal => (text.endLine.append (model.markerChars ordinal)).append [' ']
  | .catalogEntry level _ => text.endLine.append (List.replicate (2 * entryDepth level) ' ')
  | .document | .header | .footer | .tableHeader | .list _ | .conditional | .group | .singleRow _
  | .catalog | .expression _ => text

/-- Leave a block. -/
def leave (text : PlainText) : Block → PlainText
  | .paragraph _ | .row | .item .. | .catalogEntry .. | .singleRow _ => text.endLine
  | .expression index => (text.reopenLine.append (' ' :: numberChars index)).endLine
  | .document | .header | .footer | .sect .. | .table | .tableHeader | .cell .. | .list _
  | .conditional | .group | .catalog => text

/-- Write a run, and after it the number of the expression it refers to. -/
def write (text : PlainText) (run : TextRun) : PlainText :=
  let text := text.append run.text.toList
  match run.referenceIndex with
  | none => text
  | some index => text.append (numberChars index)

/-- What stands for an image. -/
def imageChars (source : Option String) : List Char :=
  ['[', 'i', 'm', 'a', 'g', 'e', ':', ' '] ++ (source.getD "").toList ++ [']']

/-- Write something on a line of its own. -/
def ownLine (text : PlainText) (chars : List Char) : PlainText :=
  (text.endLine.append chars).endLine

/-- The effect of an event.  Styles have none, and of lines only the horizontal ones are drawn. -/
def take (text : PlainText) : Event → PlainText
  | .enter block _ => text.enter block
  | .leave block => text.leave block
  | .text run _ => text.write run
  | .image source _ => text.ownLine (imageChars source)
  | .line line _ =>
    match line.lineType with
    | .horizontal => text.ownLine (List.replicate 40 '-')
    | .vertical => text
  | .pageBreak => text.endLine.append ['\x0c']

/-- What is written. -/
def toString (text : PlainText) : String :=
  String.ofList text.reversed.reverse

end PlainText

/-- A document as plain text. -/
def Doc.plainText (doc : Doc) : String :=
  (doc.events.foldl PlainText.take .empty).toString

end Bindery
