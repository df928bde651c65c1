import GrammarManual.Blurb.Markdown.Page

/-!
# Blurb/Markdown/Blocks: blocks

`Node.read` reads a text line by line. The first kind of block that a line begins is read, whatever
else the line might begin; a line that begins none is text of a paragraph. Quotes and list items
hold blocks of their own, and go on over lines without their mark or indentation until something
else begins there. What begins there is read at once, so readers of quotes and of lists need each
other: `Readers` is what they know of one another, and `readers` ties them together.
-/

namespace GrammarManual.Markdown

/-! ## 1. Readers -/

/-- Where blocks are read: how deep, and whether quotes and lists may begin there. -/
structure Place where
  depth : Nat := 0
  quotes : Bool := true
  lists : Bool := true
  deriving DecidableEq, Repr, Inhabited

/-- How deep quotes lie in quotes, and lists in lists. -/
def deepest : Nat := 5

/-- Readers of what may hold blocks. -/
structure Readers where
  /-- Reads the blocks of a text. -/
  blocks : Place → Definitions → List Line → Page
  /-- Reads a list from its first item. -/
  list : Nat → Page → Line → Line.ListMark → List Line → Step
  /-- Reads a quote; the line is what follows its first mark. -/
  quote : Nat → Page → Line → List Line → Page × List Line

/-! ## 2. Quotes -/

/-- A line of a quote without its mark and the blank behind it. -/
def unquote (l : Line) : Line := Line.outdent 1 (Line.widenTab 3 l)

/-- The marked lines at the front, without their marks. -/
def quotedLines (ls : List Line) : List Line :=
  (ls.map (Line.quoted? 3)).takeWhile Option.isSome |>.filterMap fun l => l.map unquote

/-- Whether a quote may not go on without its mark: it has nothing but code or a blank line so
    far. -/
def needsMark (l : Line) : Bool :=
  l.isEmptyLine || l.isIndented || (Line.fence? 3 l).isSome

/-- Whether the marked lines of a quote end in a blank one. -/
def endsEmpty (ls : List Line) : Bool :=
  ls.all (·.all isBlank)
    || (2 ≤ ls.length && ((ls.getLast?.map (·.all Line.isGap)).getD false))

/-- The block that a line below a quote begins, if that ends the quote. -/
def endQuote (r : Readers) (depth : Nat) (p : Page) (l : Line) (rest : List Line) : Step :=
  if l.isEmptyLine then some (p.add .blank, rest.dropWhile Line.isEmptyLine)
  else if Line.isRule 3 l then some (p.add .rule, rest)
  else
    match Line.fence? 3 l, Line.listMark? 3 l, Html.interrupting? 3 l with
    | some f, _, _ => p.fenced f rest
    | none, some m, _ => r.list depth p l m rest
    | none, none, some (o, after) => p.html l o after rest
    | none, none, none => none

/-- The lines of a quote below its first, what is left, and the page if a block ended it. A block
    of marked lines at the front that ends in a blank line is not followed by others; `fuel` bounds
    the lines. -/
def quoteBody (r : Readers) (depth : Nat) (p : Page) :
    Nat → List Line → List Line × List Line × Option Page
  | 0, ls => ([], ls, none)
  | _, [] => ([], [], none)
  | fuel + 1, l :: rest =>
    match quotedLines (l :: rest) with
    | [] =>
      match endQuote r depth p l rest with
      | some (page, left) => ([], left, some page)
      | none =>
        let (body, left, page) := quoteBody r depth p fuel rest
        (Line.widenTab 3 l :: body, left, page)
    | marked =>
      let left := (l :: rest).drop marked.length
      if endsEmpty marked then (marked, left, none)
      else
        let (body, left, page) := quoteBody r depth p fuel left
        (marked ++ body, left, page)

/-- Reads a quote. If another block ended it, the quote stands before that. -/
def readQuote (r : Readers) (depth : Nat) (p : Page) (l : Line) (rest : List Line) :
    Page × List Line :=
  let first := unquote l
  let (body, left, ended) :=
    if needsMark first then
      let marked := quotedLines rest
      (marked, rest.drop marked.length, none)
    else quoteBody r depth p (rest.length + 1) rest
  let page := ended.getD p
  let inside := r.blocks { depth := depth + 1, quotes := depth < deepest } page.definitions
    ((first :: body).map Line.fillTab)
  let quote := Node.quote inside.nodes.reverse
  let page := { page with definitions := inside.definitions }
  (if ended.isSome then page.addBefore quote else page.add quote, left)

/-! ## 3. Lists -/

/-- The text of an item behind its mark, and how far the lines below must be indented. -/
def itemStart (m : Line.ListMark) : Line × Nat :=
  let text := Line.fillTab (Line.widenTab 3 m.text)
  let gap := (text.takeWhile isBlank).length
  if text.all isBlank then ([], m.width + 1)
  else
    let space := if 5 ≤ text.indent then 1 else gap
    (text.drop space, m.width + space)

/-- What ends the lines of an item. -/
inductive ItemEnd where
  /-- The list ends. -/
  | none
  /-- Another item begins. -/
  | item (m : Line.ListMark)
  /-- Another block ended the list. -/
  | block (p : Page)
  deriving Repr, Inhabited

/-- What a line begins that is not indented like its item. Outer absence: the line may be text of
    the item. -/
def endItem (r : Readers) (depth : Nat) (p : Page) (m : Line.ListMark) (l : Line)
    (rest : List Line) : Option (ItemEnd × List Line) :=
  let limit := min 3 m.width
  let block (s : Step) := s.map fun (page, left) => (ItemEnd.block page, left)
  if Line.isRule limit l then block (some (p.add .rule, rest))
  else
    match Line.itemMark? m.bullet limit l with
    | some next => some (.item next, rest)
    | none =>
      match Line.fence? limit l, Line.heading? limit l, Line.quoted? limit l with
      | some f, _, _ => block (p.fenced f rest)
      | none, some text, _ => block (some (p.add (.heading text), rest))
      | none, none, some text => block (some (r.quote depth p text rest))
      | none, none, none =>
        match Html.interrupting? limit l with
        | some (o, after) => block (p.html l o after rest)
        | none => if (Line.listMark? limit l).isSome then some (.none, l :: rest) else none

/-- The lines of an item below its first, what ends them, and what is left. `width` is their
    indentation, `empty` says that nothing but blank lines was seen so far, `gap` that the line
    before is blank. -/
def itemBody (r : Readers) (depth : Nat) (p : Page) (m : Line.ListMark) (width : Nat) :
    (empty gap : Bool) → List Line → List Line × ItemEnd × List Line
  | _, _, [] => ([], .none, [])
  | empty, gap, l :: rest =>
    if l.isEmptyLine then
      let (body, ending, left) := itemBody r depth p m width empty true rest
      ([] :: body, ending, left)
    else
      let line := Line.widenTab 4 l
      let take (_ : Unit) :=
        let (body, ending, left) :=
          itemBody r depth p m width (empty && line.all isBlank) false rest
        (line :: body, ending, left)
      if width ≤ line.indent then
        if gap && empty then ([], .none, l :: rest) else take ()
      else
        match endItem r depth p m l rest with
        | some (ending, left) => ([], ending, left)
        | none => if gap then ([], .none, l :: rest) else take ()

/-- A line of an item without its indentation. -/
def dedent (width : Nat) (l : Line) : Line :=
  if width ≤ l.indent then Line.fillTab (l.drop width) else l

/-- Without the blank lines at the end; the first line stays. -/
def dropEmptyEnd : List Line → List Line
  | [] => []
  | l :: ls => l :: Text.dropEndWhile (·.all isBlank) ls

/-- Reads the items of a list: the page, the items, what is left, and whether another block ended
    the list. `fuel` bounds the items. -/
def readItems (r : Readers) (place : Place) (depth : Nat) :
    Nat → Page → Line.ListMark → List Line → Page × List (List Node) × List Line × Bool
  | 0, p, _, ls => (p, [], ls, false)
  | fuel + 1, p, m, ls =>
    let (text, width) := itemStart m
    let (body, ending, left) := itemBody r depth p m width text.isEmpty false ls
    let page := match ending with
      | .block page => page
      | _ => p
    let first := if text.isEmpty then [] else [text]
    let inside := r.blocks place page.definitions
      (dropEmptyEnd (first ++ body.map (dedent width)))
    let item := inside.nodes.reverse
    let page := { page with definitions := inside.definitions }
    match ending with
    | .item next =>
      let (page, items, left, ended) := readItems r place depth fuel page next left
      (page, item :: items, left, ended)
    | .block _ => (page, [item], left, true)
    | .none => (page, [item], left, false)

/-- Reads a list. An empty item and a number other than one begin no list in a paragraph. If
    another block ended the list, the list stands before that. -/
def readList (r : Readers) (depth : Nat) (p : Page) (l : Line) (m : Line.ListMark)
    (rest : List Line) : Step :=
  if p.inParagraph && (m.text.all isBlank || (m.isOrdered && !m.isFirst)) then
    some (p.addText l, rest)
  else
    let place : Place := { depth := depth + 1, lists := depth < deepest }
    let (page, items, left, ended) := readItems r place depth (rest.length + 1) p m rest
    let list := Node.list m.number? items
    some (if ended then page.insert p.nodes.length list else page.add list, left)

/-! ## 4. Blocks -/

/-- The block a line begins, if it begins one. -/
def begin? (r : Readers) (place : Place) (p : Page) (l : Line) (rest : List Line) : Step :=
  match Line.fence? 3 l with
  | some f => p.fenced f rest
  | none =>
    if l.isIndented then some (p.indented l rest)
    else
      match Line.heading? 3 l with
      | some text => some (p.add (.heading text), rest)
      | none =>
        if l.isUnderline then
          match p.nodes with
          | .paragraph text :: before => some ({ p with nodes := .heading text :: before }, rest)
          | _ =>
            if Line.isRule 3 l then some (p.add .rule, rest)
            else (Line.listMark? 3 l).bind fun m => r.list place.depth p l m rest
        else if Line.isRule 3 l then some (p.add .rule, rest)
        else
          let quoted := if place.quotes then Line.quoted? 3 l else none
          let mark := if place.lists then Line.listMark? 3 l else none
          match quoted, mark with
          | some text, _ => some (r.quote place.depth p text rest)
          | none, some m => r.list place.depth p l m rest
          | none, none =>
            if Page.seemsDefined l rest then
              if p.inParagraph then some (p.addText l, rest) else p.defined l rest
            else
              match Html.block? 3 l with
              | some (o, after) => p.html l o (some after) rest
              | none =>
                if l.isEmptyLine then some (p.add .blank, rest.dropWhile Line.isEmptyLine)
                else none

/-- Reads the blocks of a text, line by line; `fuel` bounds the lines. -/
def readBlocks (r : Readers) (place : Place) : Nat → Page → List Line → Page
  | 0, p, _ => p
  | _, p, [] => p
  | fuel + 1, p, l :: rest =>
    let (page, left) := (begin? r place p l rest).getD (p.addText l, rest)
    readBlocks r place fuel page left

/-- Readers of what may hold blocks; `fuel` bounds how often one calls another. -/
def readers : Nat → Readers
  | 0 =>
    { blocks := fun _ definitions _ => { definitions }
      list := fun _ _ _ _ _ => none
      quote := fun _ p _ rest => (p, rest) }
  | fuel + 1 =>
    let r := readers fuel
    { blocks := fun place definitions ls => readBlocks r place (ls.length + 1) { definitions } ls
      list := readList r
      quote := readQuote r }

namespace Node

/-- The lines of a text. A newline at the end begins no further line. -/
def linesOf (s : List Char) : List Line :=
  let ls := Text.splitNewlines (Text.unifyNewlines s)
  if ls.getLast? = some [] then ls.dropLast else ls

/-- The blocks of a text and the links it defines. Whatever holds blocks has at least one mark of
    its own, and a tab counts for four blanks at most, so the fuel never runs out. -/
def read (s : List Char) : List Node × Definitions :=
  let page := (readers (4 * s.length + 8)).blocks {} [] (linesOf s)
  (page.nodes.reverse, page.definitions)

end Node

end GrammarManual.Markdown
