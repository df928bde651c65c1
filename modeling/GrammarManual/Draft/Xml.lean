import GrammarManual.Draft.Basic
import GrammarManual.Xml.Basic

/-!
# Draft/Xml: documents as XML

The root `tokens` holds `set` and `item` elements. A set carries the name of its section, its blurb
in a `doc` element and its items; an item holds one element for each mark, those of the body inside
a `description`. Marks go to the innermost open description, usages to the item itself.

A text that XML cannot hold leaves its element behind without content.
-/

namespace GrammarManual

/-- An item and the path to its innermost open description. -/
structure XmlItem where
  element : XmlElement := .branch "item" [] []
  path : List Nat := []
  deriving Repr, Inhabited

/-- A child of the root. -/
inductive XmlPart where
  | item (index : Nat)
  /-- A set: its element with the blurb, and the items in it. -/
  | set (element : XmlElement) (items : List Nat)
  deriving Repr, Inhabited

/-- A document under way. -/
structure XmlDraft where
  items : List XmlItem := []
  parts : List XmlPart := []
  /-- The set that takes new items; the root if there is none. -/
  container : Option Nat := none
  deriving Repr, Inhabited

/-- An element with text, empty if the text cannot be held. -/
def XmlElement.ofText (tag text : String) (body : String → XmlBody) :
    XmlElement × Option StrokeError :=
  if isXmlText text then (.leaf tag [] (body text), none)
  else (.leaf tag [] .empty, some .unprintable)

/-- An element with a name, nameless if the name cannot be held. -/
def XmlElement.named (tag name : String) : XmlElement × Option StrokeError :=
  if isXmlText name then (.leaf tag [("name", name)] .empty, none)
  else (.leaf tag [] .empty, some .unprintable)

/-- The names of a usages block, up to the first that cannot be held. -/
def XmlElement.usageList : List String → List XmlElement × Option StrokeError
  | [] => ([], none)
  | name :: names =>
    let (e, err) := XmlElement.ofText "declaration" name .text
    if err.isSome then ([e], err)
    else let (es, err') := usageList names; (e :: es, err')

namespace XmlItem

/-- Adds an element to the innermost open description. -/
def put (i : XmlItem) (e : XmlElement) : XmlItem := { i with element := i.element.append i.path e }

/-- Writes a mark. -/
def write (i : XmlItem) : Marker → XmlItem × Option StrokeError
  | .whitespace => (i.put (.leaf "whitespace" [] .empty), none)
  | .lineBreak => (i.put (.leaf "crlf" [] .empty), none)
  | .symbol text => let (e, err) := XmlElement.ofText "symbol" text .ofText; (i.put e, err)
  | .string text => let (e, err) := XmlElement.ofText "string" text .ofText; (i.put e, err)
  | .identifier name => let (e, err) := XmlElement.named "identifier" name; (i.put e, err)
  | .other text => let (e, err) := XmlElement.ofText "other" text .text; (i.put e, err)
  | .remark text => let (e, err) := XmlElement.ofText "annotation" text .text; (i.put e, err)
  | .declaration name => let (e, err) := XmlElement.named "declaration" name; (i.put e, err)
  | .usages names =>
    let (es, err) := XmlElement.usageList names
    ({ i with element := i.element.append [] (.branch "usages" [] es) }, err)
  | .description =>
    let position := i.element.childCount i.path
    ({ (i.put (.branch "description" [] [])) with path := i.path ++ [position] }, none)
  | .endDescription => ({ i with path := i.path.dropLast }, none)

end XmlItem

namespace XmlDraft

/-- Adds a set and makes it the container. -/
def addSet (d : XmlDraft) (e : XmlElement) : XmlDraft := { d with parts := d.parts ++ [.set e []] }

/-- Puts a `doc` element into a set. -/
def withDoc (set : XmlElement) (text : String) : XmlElement × Option StrokeError :=
  let (doc, err) := XmlElement.ofText "doc" text .ofText
  (set.append [] doc, err)

/-- Adds an item number to a set. -/
def XmlPart.addItem (index : Nat) : XmlPart → XmlPart
  | .set e items => .set e (items ++ [index])
  | part => part

/-- One step of an XML document. -/
def step (d : XmlDraft) : Stroke → XmlDraft × Option StrokeError
  | .begin => ({ d with parts := [], container := none }, none)
  | .preamble text =>
    let (set, err) := withDoc (.branch "set" [] []) text
    (d.addSet set, err)
  | .openSection name blurb =>
    if isXmlText name then
      let set : XmlElement := .branch "set" [("name", name)] []
      let (set', err) := blurb.elim (set, none) (withDoc set)
      ({ d.addSet set' with container := some d.parts.length }, err)
    else (d, some .unprintable)
  | .leaveSection => ({ d with container := none }, none)
  | .addItem helper =>
    let index := d.items.length
    let item : XmlItem := {}
    let items := d.items ++ [if helper then (item.write (.remark "helper")).1 else item]
    match d.container with
    | none => ({ d with items, parts := d.parts ++ [.item index] }, none)
    | some i => ({ d with items, parts := d.parts.modify i (XmlPart.addItem index) }, none)
  | .write index marker =>
    match d.items[index]? with
    | none => (d, none)
    | some item =>
      let (item', err) := item.write marker
      ({ d with items := d.items.set index item' }, err)

/-- The element of an item. -/
def itemElement (d : XmlDraft) (index : Nat) : XmlElement :=
  (d.items[index]?.map XmlItem.element).getD (.branch "item" [] [])

/-- The element of a child of the root. -/
def partElement (d : XmlDraft) : XmlPart → XmlElement
  | .item index => d.itemElement index
  | .set e items => items.foldl (fun set index => set.append [] (d.itemElement index)) e

/-- The tree of the document. -/
def tree (d : XmlDraft) : XmlElement := .branch "tokens" [] (d.parts.map d.partElement)

end XmlDraft

/-- Documents as XML. -/
def xmlEasel : Easel where
  State := XmlDraft
  fresh := {}
  step := XmlDraft.step
  itemCount d := d.items.length
  finish d := d.tree.document

end GrammarManual
