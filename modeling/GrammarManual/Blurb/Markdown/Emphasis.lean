import GrammarManual.Blurb.Markdown.Tree
import GrammarManual.Text.Punctuation

/-!
# Blurb/Markdown/Emphasis: runs of asterisks and underscores

A paragraph is first read into pieces: spans, and runs of a mark. `Run.between` judges by its
neighbours whether a run may open emphasis, close it, or both. `close` lets a closing run pair with
the nearest run that may open for it; what stands between becomes the content. What is left of a
run is text, possibly none.
-/

namespace GrammarManual.Markdown

/-- A run of one mark. -/
structure Run where
  mark : Char
  /-- How many marks are not used yet. -/
  left : Nat
  /-- How many marks were written. -/
  size : Nat
  opens : Bool
  closes : Bool
  deriving DecidableEq, Repr, Inhabited

/-- A piece of a paragraph. -/
inductive Piece where
  | span (s : Span)
  | run (r : Run)
  deriving Repr, Inhabited

namespace Run

/-- Whether the edge of a text or white space stands beside a run. -/
def isOpenSpace (c : Option Char) : Bool := (c.map isBlank).getD true

/-- Whether punctuation stands beside a run. -/
def isStop (c : Option Char) : Bool := (c.map isPunctuation).getD false

/-- A run between two neighbours. An underscore inside of a word neither opens nor closes. -/
def between (mark : Char) (size : Nat) (before after : Option Char) : Run :=
  let left := !isOpenSpace after && (!isStop after || isOpenSpace before || isStop before)
  let right := !isOpenSpace before && (!isStop before || isOpenSpace after || isStop after)
  let inWord := mark = '_'
  { mark, left := size, size
    opens := left && (!inWord || !right || isStop before)
    closes := right && (!inWord || !left || isStop after) }

/-- Whether `o` may open for `c`. If one of the two could also do the other, their sizes may not
    add up to a multiple of three, unless both are multiples of three. -/
def opensFor (o c : Run) : Bool :=
  o.mark = c.mark && o.opens && 0 < o.left
    && !((o.closes || c.opens) && (o.size + c.size) % 3 = 0 && o.size % 3 ≠ 0)

/-- What is left of a run. -/
def rest (r : Run) : Span := .text (List.replicate r.left r.mark)

end Run

namespace Piece

/-- A piece as a span. -/
def toSpan : Piece → Span
  | span s => s
  | run r => r.rest

/-- Whether a piece is a run. -/
def isRun : Piece → Bool
  | run _ => true
  | span _ => false

/-- The nearest run that opens for `c`: what stands after it, the run, what stands before it. The
    last piece comes first, in the results too. -/
def opener? (c : Run) : List Piece → Option (List Piece × Run × List Piece)
  | [] => none
  | p :: before =>
    let further := (opener? c before).map fun (inside, o, rest) => (p :: inside, o, rest)
    match p with
    | .run o => if o.opensFor c then some ([], o, before) else further
    | .span _ => further

/-- Adds a run to the pieces before it, the last first, and pairs it as often as it can. Two marks
    go at a time, if both sides have two; `fuel` bounds the pairs. -/
def close : Nat → Run → List Piece → List Piece
  | 0, c, before => .run c :: before
  | fuel + 1, c, before =>
    if c.closes && 0 < c.left then
      match opener? c before with
      | some (inside, o, rest) =>
        let used := if 2 ≤ o.left && 2 ≤ c.left then 2 else 1
        close fuel { c with left := c.left - used }
          (.span (.emphasis (inside.reverse.map toSpan)) ::
            .run { o with left := o.left - used } :: rest)
      | none => .run c :: before
    else .run c :: before

/-- Drops empty texts and joins neighbouring ones. -/
def tidy : List Span → List Span
  | [] => []
  | .text s :: rest =>
    match s, tidy rest with
    | [], spans => spans
    | _, .text t :: more => .text (s ++ t) :: more
    | _, spans => .text s :: spans
  | s :: rest => s :: tidy rest

/-- The spans of a paragraph from its pieces, the last first. -/
def toSpans (pieces : List Piece) : List Span :=
  let spans := (pieces.map toSpan).reverse
  if pieces.any isRun then tidy spans else spans

end Piece

end GrammarManual.Markdown
