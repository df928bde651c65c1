import GrammarManual.Blurb.Read
import GrammarManual.Draft.Basic
import GrammarManual.Text.Blank
import GrammarManual.Text.Lines

/-!
# Draft/Text: documents as plain text

The text reads like a grammar: sections are comments, an item is its name with the body below it,
usages trail as a comment. Blocks are separated by blank lines, and no line of a block but an
annotation ends in blanks.
-/

namespace GrammarManual

/-- An item under way. -/
structure TextItem where
  annotations : List String := []
  name : String := ""
  body : String := ""
  usages : List String := []
  deriving DecidableEq, Repr, Inhabited

namespace TextItem

/-- Writes a mark. -/
def write (i : TextItem) : Marker → TextItem
  | .whitespace => { i with body := i.body ++ " " }
  | .lineBreak => { i with body := i.body ++ "\n" }
  | .symbol text => { i with body := i.body ++ text }
  | .string text => { i with body := i.body ++ text }
  | .identifier name => { i with body := i.body ++ name }
  | .other text => { i with body := i.body ++ text }
  | .remark text => { i with annotations := i.annotations ++ [text] }
  | .declaration name => { i with name }
  | .usages names => { i with usages := i.usages ++ names }
  | .description => { i with body := i.body ++ "\n" }
  | .endDescription => i

/-- The line that lists usages. -/
def usageLine (names : List String) : String := "  // usages: " ++ String.intercalate ", " names

/-- The lines of an item. -/
def lines (i : TextItem) : List String :=
  i.annotations.map ("// " ++ ·) ++
    (Text.splitNewlines (i.name ++ i.body).toList).map (fun l => Text.trimEnd (String.ofList l)) ++
    (if i.usages.isEmpty then [] else [usageLine i.usages])

end TextItem

/-- A block of the text. -/
inductive TextBlock where
  | lines (ls : List String)
  | item (index : Nat)
  deriving DecidableEq, Repr, Inhabited

/-- A document under way. -/
structure TextDraft where
  items : List TextItem := []
  blocks : List TextBlock := []
  inSection : Bool := false
  deriving DecidableEq, Repr, Inhabited

namespace TextDraft

/-- A blurb as comment lines. -/
def comment (blurb : String) : List String :=
  (blurbLines blurb).map fun line => Text.trimEnd ("// " ++ line)

/-- The line that closes a section. -/
def sectionEnd : String := "// END SECTION"

/-- Adds a block. -/
def add (d : TextDraft) (b : TextBlock) : TextDraft := { d with blocks := d.blocks ++ [b] }

/-- One step of a text document. -/
def step (d : TextDraft) : Stroke → TextDraft
  | .begin => { d with blocks := [], inSection := false }
  | .preamble text => d.add (.lines (comment text))
  | .openSection name blurb =>
    { d.add (.lines (("// SECTION: " ++ name) :: blurb.elim [] comment)) with inSection := true }
  | .leaveSection =>
    if d.inSection then { d.add (.lines [sectionEnd]) with inSection := false } else d
  | .addItem helper =>
    { d.add (.item d.items.length) with
      items := d.items ++ [{ annotations := if helper then ["helper"] else [] }] }
  | .write index marker => { d with items := d.items.modify index (·.write marker) }

/-- The lines of a block. -/
def blockLines (d : TextDraft) : TextBlock → List String
  | .lines ls => ls
  | .item index => (d.items[index]?.map TextItem.lines).getD []

/-- The text of the document. -/
def toText (d : TextDraft) : String :=
  String.intercalate "\n\n"
    (d.blocks.map fun b => String.intercalate "\n" (d.blockLines b)) ++ "\n"

end TextDraft

/-- Documents as plain text. -/
def textEasel : Easel where
  State := TextDraft
  fresh := {}
  step d s := (d.step s, none)
  itemCount d := d.items.length
  finish := TextDraft.toText

end GrammarManual
