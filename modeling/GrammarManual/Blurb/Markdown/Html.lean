import GrammarManual.Blurb.Markdown.Line

/-!
# Blurb/Markdown/Html: markup inside of a text

What begins with `<` may be a tag, a comment, an instruction, a declaration or character data.
`opening?` recognises the beginning, `inline?` a whole piece inside of a paragraph, and `blockEnd?`
where a block of HTML ends. `autolink?` and `mail?` are addresses in angle brackets.
-/

namespace GrammarManual.Markdown.Html

/-! ## 1. Beginnings -/

/-- What a piece of HTML begins as. -/
inductive Opening where
  | comment
  | instruction
  | data
  | declaration
  | tag (closing : Bool) (name : List Char)
  deriving DecidableEq, Repr, Inhabited

/-- A letter below 128. -/
def isLetter (c : Char) : Bool := c.isAlpha

/-- A character of a tag's name. -/
def isTagChar (c : Char) : Bool := c.isAlphanum || c = '-'

/-- The name of a tag, and what follows it. -/
def tagName? (s : List Char) : Option (List Char × List Char) :=
  match s with
  | c :: _ => if isLetter c then some (s.takeWhile isTagChar, s.dropWhile isTagChar) else none
  | [] => none

/-- What follows a text at the front. -/
def after? (front s : List Char) : Option (List Char) :=
  if front.isPrefixOf s then some (s.drop front.length) else none

/-- What begins with `<`, and what follows. -/
def opening? (s : List Char) : Option (Opening × List Char) :=
  match s with
  | '<' :: '/' :: rest => (tagName? rest).map fun (name, after) => (.tag true name, after)
  | '<' :: '?' :: rest => some (.instruction, rest)
  | '<' :: '!' :: rest =>
    match after? "--".toList rest, after? "[CDATA[".toList rest, rest with
    | some rest', _, _ => some (.comment, rest')
    | none, some rest', _ => some (.data, rest')
    | none, none, c :: rest' => if c.isUpper then some (.declaration, rest') else none
    | none, none, [] => none
  | '<' :: rest => (tagName? rest).map fun (name, after) => (.tag false name, after)
  | _ => none

/-! ## 2. Tags -/

/-- What follows the first place where a text stands. -/
def afterFirst? (mark : List Char) : List Char → Option (List Char)
  | [] => if mark.isEmpty then some [] else none
  | c :: rest =>
    if mark.isPrefixOf (c :: rest) then some ((c :: rest).drop mark.length)
    else afterFirst? mark rest

/-- What may follow the value of an attribute: what comes after a value in quotation marks, or
    after a bare one, the longest first. A bare value may hold white space but for blanks. -/
def valueEnds (s : List Char) : List (List Char) :=
  match s with
  | '"' :: rest => (afterFirst? ['"'] rest).toList
  | '\'' :: rest => (afterFirst? ['\''] rest).toList
  | _ =>
    let stops := [' ', '!', '"', '\'', '=', '<', '>', '\x60']
    let size := (s.takeWhile fun c => !stops.contains c).length
    (((List.range size).map (size - ·)).filter fun n =>
        n = size || ((s.drop n).head?.map isBlank).getD false).map s.drop

/-- What follows the attributes of a tag and its end, which `close` reads. As many attributes as
    possible are taken; `fuel` bounds their number. -/
def attributes? (close : List Char → Option (List Char)) : Nat → List Char → Option (List Char)
  | 0, s => close s
  | fuel + 1, s =>
    let further : Option (List Char) :=
      match s.dropWhile isBlank with
      | c :: rest =>
        if s.length = rest.length + 1 || !(isLetter c || c = '_' || c = ':') then none
        else
          let after := rest.dropWhile fun d =>
            d.isAlphanum || d = '_' || d = '.' || d = ':' || d = '-'
          let valued : Option (List Char) :=
            match after.dropWhile isBlank with
            | '=' :: value =>
              (valueEnds (value.dropWhile isBlank)).findSome? (attributes? close fuel)
            | _ => none
          valued.orElse fun _ => attributes? close fuel after
      | [] => none
    further.orElse fun _ => close s

/-- The end of a tag inside of a paragraph. -/
def closeInline (s : List Char) : Option (List Char) :=
  match s.dropWhile isBlank with
  | '>' :: rest => some rest
  | '/' :: '>' :: rest => some rest
  | _ => none

/-- The end of a tag that fills a line. -/
def closeLine (s : List Char) : Option (List Char) :=
  match s.dropWhile Line.isGap with
  | '>' :: rest => if rest.all Line.isGap then some [] else none
  | _ => none

/-! ## 3. Pieces of a paragraph -/

/-- What follows the place where a text stands first, with at least one character before it. -/
def beyond? (mark : List Char) : List Char → Option (List Char)
  | [] => none
  | _ :: rest => afterFirst? mark rest

/-- What follows a comment: there is something in it, and no double hyphen. -/
def afterComment? (s : List Char) : Option (List Char) :=
  if ['>'].isPrefixOf s || ['-', '>'].isPrefixOf s || ['-', '-'].isPrefixOf s then none
  else
    match beyond? ['-', '-'] s with
    | some ('>' :: rest) => some rest
    | _ => none

/-- The piece of HTML at the front of a text: how it begins, and what follows it. -/
def inline? (s : List Char) : Option (Opening × List Char) :=
  match opening? s with
  | none => none
  | some (o, rest) =>
    let after : Option (List Char) :=
      match o with
      | .comment => afterComment? rest
      | .instruction => beyond? ['?', '>'] rest
      | .data => afterFirst? "]]>".toList rest
      | .declaration => beyond? ['>'] rest
      | .tag false _ => attributes? closeInline rest.length rest
      | .tag true _ =>
        match rest.dropWhile isBlank with
        | '>' :: rest' => some rest'
        | _ => none
    after.map fun r => (o, r)

/-- Whether a piece opens or closes the text of a link. -/
def linkBracket? (s : List Char) (o : Opening) : Option Bool :=
  match o, s.drop 2, s.drop 3 with
  | .tag false ['a'], c :: _, _ | .tag false ['A'], c :: _, _ =>
    if c = ' ' || c = '>' then some true else none
  | .tag true ['a'], _, c :: _ | .tag true ['A'], _, c :: _ =>
    if c = ' ' || c = '>' then some false else none
  | _, _, _ => none

/-- An address with its scheme in angle brackets, and what follows. -/
def autolink? (s : List Char) : Option (List Char × List Char) :=
  match s with
  | '<' :: c :: rest =>
    let scheme := rest.takeWhile fun d => d.isAlphanum || d = '.' || d = '+' || d = '-'
    let inside := rest.takeWhile fun d => !(d = '<' || d = '>' || d.toNat ≤ 0x20)
    match rest.drop scheme.length, rest.drop inside.length with
    | ':' :: _, '>' :: after =>
      if isLetter c && 1 ≤ scheme.length && scheme.length ≤ 31 then some (c :: inside, after)
      else none
    | _, _ => none
  | _ => none

/-- Whether a text is a label of a domain. -/
def isDomainLabel (l : List Char) : Bool :=
  1 ≤ l.length && l.length ≤ 63 && l.all isTagChar
    && (l.head?.map Char.isAlphanum).getD false && (l.getLast?.map Char.isAlphanum).getD false

/-- The pieces of a text between full stops. -/
def labels : List Char → List (List Char)
  | [] => [[]]
  | c :: rest =>
    if c = '.' then [] :: labels rest
    else
      match labels rest with
      | [] => [[c]]
      | l :: ls => (c :: l) :: ls

/-- A mail address in angle brackets, and what follows. -/
def mail? (s : List Char) : Option (List Char × List Char) :=
  match s with
  | '<' :: rest =>
    let user := rest.takeWhile fun c =>
      c.isAlphanum || ".!#$%&'*+/=?^_\x60\x7b|\x7d~-".toList.contains c
    match rest.drop user.length with
    | '@' :: more =>
      let domain := more.takeWhile fun c => isTagChar c || c = '.'
      match more.drop domain.length with
      | '>' :: after =>
        if !user.isEmpty && (labels domain).all isDomainLabel then
          some (user ++ '@' :: domain, after)
        else none
      | _ => none
    | _ => none
  | _ => none

/-! ## 4. Blocks -/

/-- Tags that begin a block wherever they stand at the front of a line. -/
def blockTags : List String :=
  ["address", "article", "aside", "base", "basefont", "blockquote", "body", "caption", "center",
   "col", "colgroup", "dd", "details", "dialog", "dir", "div", "dl", "dt", "fieldset",
   "figcaption", "figure", "footer", "form", "frame", "frameset", "h1", "h2", "h3", "h4", "h5",
   "h6", "head", "header", "hr", "html", "iframe", "legend", "li", "link", "main", "menu",
   "menuitem", "meta", "nav", "noframes", "ol", "optgroup", "option", "p", "param", "section",
   "source", "summary", "table", "tbody", "td", "tfoot", "th", "thead", "title", "tr", "track",
   "ul"]

/-- Tags whose content is taken as it is. -/
def verbatimTags : List String := ["pre", "script", "style", "textarea"]

/-- Where a block of HTML ends. -/
inductive BlockEnd where
  /-- With the line that holds this text. -/
  | mark (text : List Char)
  /-- Before the next blank line. -/
  | emptyLine
  deriving DecidableEq, Repr, Inhabited

/-- Where the block ends that an opening begins; none if only a line of its own begins one. -/
def Opening.blockEnd? : Opening → Option BlockEnd
  | .comment => some (.mark "-->".toList)
  | .instruction => some (.mark "?>".toList)
  | .data => some (.mark "]]>".toList)
  | .declaration => some (.mark ['>'])
  | .tag closing name =>
    let name := String.ofList (name.map Char.toLower)
    if blockTags.contains name then some .emptyLine
    else if !closing && verbatimTags.contains name then some (.mark ("</" ++ name ++ ">").toList)
    else none

/-- Whether a tag fills its line, which `rest` is what is left of. -/
def Opening.fillsLine (o : Opening) (rest : Line) : Bool :=
  match o with
  | .tag false _ => (attributes? closeLine rest.length rest).isSome
  | .tag true _ => (closeLine rest).isSome
  | _ => false

/-- What a line begins as HTML, and what follows that. -/
def block? (limit : Nat) (l : Line) : Option (Opening × Line) :=
  (Line.past? limit l).bind opening?

/-- What a line begins as HTML that may follow a list item or a quote without a blank line: the
    name of a tag has white space behind it. The second part is what follows that white space,
    none at the end of the line. -/
def interrupting? (limit : Nat) (l : Line) : Option (Opening × Option Line) :=
  match block? limit l with
  | some (.tag closing name, rest) =>
    match rest with
    | [] => some (.tag closing name, none)
    | c :: _ =>
      if Line.isGap c then some (.tag closing name, some (rest.dropWhile Line.isGap)) else none
  | some (o, rest) => some (o, some rest)
  | none => none

end GrammarManual.Markdown.Html
