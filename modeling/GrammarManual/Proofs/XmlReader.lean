import GrammarManual.Text.Entity
import GrammarManual.Text.Lines
import GrammarManual.Xml.Basic
import Mathlib.Data.List.TakeWhile

/-!
# Proofs/XmlReader: a reader of XML 1.0

* `XmlNode` -- what a reader makes of a document: elements and runs of text. Whether a text was
  escaped or stood in a verbatim section is not seen;
* `XmlNode.strip` -- a node without blank text in elements that hold elements;
* `XmlReader.read?` -- the reader: unified newlines, legal characters, references, attribute values,
  verbatim sections, closing tags that match. It knows no document types, comments or processing
  instructions: a document that holds one is not read;
* `expand_escapeTextChar`, `expand_escapeAttributeChar`, `upTo?_verbatim` -- escaped and verbatim
  texts are read as they were meant;
* `attributes?_print`, `content?_escaped`, `content?_verbatim`, `content?_element` -- so are
  attributes, and one piece of content before others.
-/

namespace GrammarManual

/-! ## 1. Nodes -/

/-- A node of a document that was read. -/
inductive XmlNode where
  | text (s : String)
  | element (tag : String) (attributes : List (String × String)) (children : List XmlNode)
  deriving Repr, Inhabited

/-- White space. -/
def isXmlSpace (c : Char) : Bool := c = ' ' || c = '\t' || c = '\n' || c = '\r'

namespace XmlNode

/-- Puts a text before some nodes. Texts next to each other are one; no text is empty. -/
def addText (s : List Char) : List XmlNode → List XmlNode
  | .text t :: nodes => .text (String.ofList (s ++ t.toList)) :: nodes
  | nodes => if s = [] then nodes else .text (String.ofList s) :: nodes

def isElement : XmlNode → Bool
  | .text _ => false
  | .element .. => true

mutual

/-- A node without text of white space alone in elements that hold elements. -/
def strip : XmlNode → XmlNode
  | .text s => .text s
  | .element tag attributes children =>
    .element tag attributes (stripAll (children.any isElement) children)

/-- Nodes without text of white space alone, if some of them are elements. -/
def stripAll (mixed : Bool) : List XmlNode → List XmlNode
  | [] => []
  | .text s :: nodes =>
    if mixed && s.toList.all isXmlSpace then stripAll mixed nodes
    else .text s :: stripAll mixed nodes
  | .element tag attributes children :: nodes =>
    strip (.element tag attributes children) :: stripAll mixed nodes

end

end XmlNode

/-- The text that an element without child elements holds. -/
def XmlBody.content : XmlBody → String
  | .empty => ""
  | .text s => s
  | .verbatim s => s

theorem XmlBody.content_ofText (s : String) : (XmlBody.ofText s).content = s := by
  unfold XmlBody.ofText
  split <;> rfl

mutual

/-- An element as it is read. -/
def XmlElement.node : XmlElement → XmlNode
  | .leaf tag attributes body => .element tag attributes (XmlNode.addText body.content.toList [])
  | .branch tag attributes children => .element tag attributes (XmlElement.nodes children)

/-- Elements as they are read. -/
def XmlElement.nodes : List XmlElement → List XmlNode
  | [] => []
  | e :: es => e.node :: nodes es

end

/-! ## 2. The reader -/

namespace XmlReader

/-- Code points that a name may begin with. -/
def nameStarts : List (Nat × Nat) :=
  [(0x3a, 0x3a), (0x41, 0x5a), (0x5f, 0x5f), (0x61, 0x7a), (0xc0, 0xd6), (0xd8, 0xf6),
   (0xf8, 0x2ff), (0x370, 0x37d), (0x37f, 0x1fff), (0x200c, 0x200d), (0x2070, 0x218f),
   (0x2c00, 0x2fef), (0x3001, 0xd7ff), (0xf900, 0xfdcf), (0xfdf0, 0xfffd), (0x10000, 0xeffff)]

/-- Further code points of names. -/
def nameMore : List (Nat × Nat) :=
  [(0x2d, 0x2e), (0x30, 0x39), (0xb7, 0xb7), (0x300, 0x36f), (0x203f, 0x2040)]

def isNameStart (c : Char) : Bool := nameStarts.any fun r => r.1 ≤ c.toNat && c.toNat ≤ r.2

def isNameChar (c : Char) : Bool :=
  (nameStarts ++ nameMore).any fun r => r.1 ≤ c.toNat && c.toNat ≤ r.2

def skipSpace (cs : List Char) : List Char := cs.dropWhile isXmlSpace

/-- What stands behind a fixed text. -/
def behind? : List Char → List Char → Option (List Char)
  | [], cs => some cs
  | _ :: _, [] => none
  | k :: ks, c :: cs => if k = c then behind? ks cs else none

/-- Reads a name. -/
def name? (cs : List Char) : Option (String × List Char) :=
  match cs.takeWhile isNameChar with
  | [] => none
  | c :: more =>
    if isNameStart c then some (String.ofList (c :: more), cs.dropWhile isNameChar) else none

/-- The character of a number, if a document can hold it. -/
def numbered? (base : Nat) (digits : List Char) : Option Char :=
  let n := Entity.number base digits
  if digits ≠ [] ∧ n.isValidChar ∧ isXmlChar (Char.ofNat n) then some (Char.ofNat n) else none

/-- What a reference stands for, by what is written between its ampersand and its semicolon. -/
def referent? : List Char → Option Char
  | ['a', 'm', 'p'] => some '&'
  | ['l', 't'] => some '<'
  | ['g', 't'] => some '>'
  | ['q', 'u', 'o', 't'] => some '"'
  | ['a', 'p', 'o', 's'] => some '\x27'
  | '#' :: 'x' :: digits => if digits.all Entity.isHex then numbered? 16 digits else none
  | '#' :: digits => if digits.all Char.isDigit then numbered? 10 digits else none
  | _ => none

/-- A text with its references replaced, and with every other character as `plain` says. Behind an
    ampersand the reference read so far is given. -/
def expand (plain : Char → Option Char) : Option (List Char) → List Char → Option (List Char)
  | none, [] => some []
  | some _, [] => none
  | none, c :: cs =>
    if c = '&' then expand plain (some []) cs
    else (plain c).bind fun d => (expand plain none cs).map (d :: ·)
  | some reference, c :: cs =>
    if c = ';' then (referent? reference).bind fun d => (expand plain none cs).map (d :: ·)
    else expand plain (some (reference ++ [c])) cs

/-- A character of an attribute value: white space is read as a blank. -/
def attributeChar (c : Char) : Option Char :=
  if c = '<' then none else if isXmlSpace c then some ' ' else some c

/-- Reads what is quoted. -/
def quoted? : List Char → Option (List Char × List Char)
  | [] => none
  | q :: cs =>
    if q = '"' ∨ q = '\x27' then
      match cs.dropWhile (· ≠ q) with
      | [] => none
      | _ :: rest => some (cs.takeWhile (· ≠ q), rest)
    else none

/-- Reads an attribute. -/
def attribute? (cs : List Char) : Option ((String × String) × List Char) := do
  let (key, cs) ← name? cs
  let cs ← behind? ['='] (skipSpace cs)
  let (raw, cs) ← quoted? (skipSpace cs)
  let value ← expand attributeChar none raw
  return ((key, String.ofList value), cs)

/-- Reads attributes as long as there are some. White space stands before each; a space before the
    end of the tag is passed over. -/
def attributes? : Nat → List Char → Option (List (String × String) × List Char)
  | 0, _ => none
  | n + 1, cs =>
    if cs.head?.any isXmlSpace && (name? (skipSpace cs)).isSome then do
      let (first, cs) ← attribute? (skipSpace cs)
      let (more, cs) ← attributes? n cs
      return (first :: more, cs)
    else some ([], skipSpace cs)

/-- What stands before the first place where a text occurs, and what stands behind it. -/
def upTo? (stop : List Char) : List Char → Option (List Char × List Char)
  | [] => none
  | c :: cs =>
    match behind? stop (c :: cs) with
    | some rest => some ([], rest)
    | none => (upTo? stop cs).map fun (before, rest) => (c :: before, rest)

/-- Reads a run of text up to the next tag. It must not look like the end of a verbatim section. -/
def run? (cs : List Char) : Option (List Char × List Char) :=
  let raw := cs.takeWhile (· ≠ '<')
  if raw = [] ∨ endsVerbatim raw then none
  else (expand some none raw).map fun s => (s, cs.dropWhile (· ≠ '<'))

/-- Reads a closing tag behind its slash. -/
def closing? (tag : String) (cs : List Char) : Option (List Char) := do
  let (name, cs) ← name? cs
  if name = tag then behind? ['>'] (skipSpace cs) else none

mutual

/-- Reads an element behind its opening bracket; `fuel` bounds the characters. -/
def element? : Nat → List Char → Option (XmlNode × List Char)
  | 0, _ => none
  | fuel + 1, cs => do
    let (tag, cs) ← name? cs
    let (attributes, cs) ← attributes? fuel cs
    if (attributes.map Prod.fst).Nodup then
      match behind? "/>".toList cs with
      | some cs => return (.element tag attributes [], cs)
      | none =>
        let cs ← behind? ['>'] cs
        let (children, cs) ← content? fuel cs
        let cs ← closing? tag cs
        return (.element tag attributes children, cs)
    else none

/-- Reads the content of an element and the slash of its closing tag. -/
def content? : Nat → List Char → Option (List XmlNode × List Char)
  | 0, _ => none
  | fuel + 1, cs =>
    match behind? "</".toList cs with
    | some cs => some ([], cs)
    | none =>
      match behind? "<![CDATA[".toList cs with
      | some cs => do
        let (s, cs) ← upTo? "]]>".toList cs
        let (nodes, cs) ← content? fuel cs
        return (XmlNode.addText s nodes, cs)
      | none =>
        match behind? ['<'] cs with
        | some cs => do
          let (e, cs) ← element? fuel cs
          let (nodes, cs) ← content? fuel cs
          return (e :: nodes, cs)
        | none => do
          let (s, cs) ← run? cs
          let (nodes, cs) ← content? fuel cs
          return (XmlNode.addText s nodes, cs)

end

/-- What stands behind the declaration of a document, if it has one. -/
def prolog? (cs : List Char) : Option (List Char) :=
  match behind? "<?xml".toList cs with
  | some cs => (upTo? "?>".toList cs).map Prod.snd
  | none => some cs

/-- Reads a document. -/
def read? (document : String) : Option XmlNode :=
  let cs := Text.unifyNewlines document.toList
  if cs.all isXmlChar then do
    let cs ← prolog? cs
    let cs ← behind? ['<'] (skipSpace cs)
    let (root, cs) ← element? cs.length cs
    if skipSpace cs = [] then some root else none
  else none

/-! ## 3. Reading pieces -/

theorem unifyNewlines_of_notMem {s : List Char} (h : '\r' ∉ s) : Text.unifyNewlines s = s := by
  fun_induction Text.unifyNewlines s with
  | case1 => rfl
  | case2 => exact absurd List.mem_cons_self h
  | case3 => exact absurd List.mem_cons_self h
  | case4 c rest _ _ ih => rw [ih fun hm => h (List.mem_cons_of_mem _ hm)]

/-- No carriage return is left once newlines are unified. -/
theorem notMem_unifyNewlines (s : List Char) : '\r' ∉ Text.unifyNewlines s := by
  fun_induction Text.unifyNewlines s with
  | case1 => exact List.not_mem_nil
  | case2 rest ih => exact fun h => (List.mem_cons.mp h).elim (by decide) ih
  | case3 rest _ ih => exact fun h => (List.mem_cons.mp h).elim (by decide) ih
  | case4 c rest _ hreturn ih =>
    refine fun h => (List.mem_cons.mp h).elim ?_ ih
    rintro rfl
    exact hreturn rfl

theorem behind?_append (w cs : List Char) : behind? w (w ++ cs) = some cs := by
  induction w with
  | nil => rfl
  | cons k ks ih =>
    show (if k = k then behind? ks (ks ++ cs) else none) = _
    rw [if_pos rfl, ih]

theorem behind?_ne {k c : Char} (h : k ≠ c) (ks cs : List Char) :
    behind? (k :: ks) (c :: cs) = none := if_neg h

/-- Characters of a kind, up to the first of another kind. -/
theorem while_append (p : Char → Bool) (cs rest : List Char) (h : ∀ c ∈ cs, p c = true)
    (hrest : ∀ c ∈ rest.head?, p c = false) :
    (cs ++ rest).takeWhile p = cs ∧ (cs ++ rest).dropWhile p = rest := by
  rw [List.takeWhile_append_of_pos h, List.dropWhile_append_of_pos h]
  cases rest with
  | nil => exact ⟨List.append_nil cs, rfl⟩
  | cons c rest =>
    have hc : ¬ p c = true := by
      rw [hrest c rfl]
      exact Bool.false_ne_true
    rw [List.takeWhile_cons_of_neg hc, List.dropWhile_cons_of_neg hc, List.append_nil]
    exact ⟨rfl, rfl⟩

theorem skipSpace_of_head {cs : List Char} (h : ∀ c ∈ cs.head?, isXmlSpace c = false) :
    skipSpace cs = cs :=
  (while_append isXmlSpace [] cs nofun h).2

/-- Whether a text is a name. -/
def isName (s : String) : Bool :=
  match s.toList with
  | [] => false
  | c :: more => isNameStart c && more.all isNameChar

theorem isNameChar_of_isNameStart {c : Char} (h : isNameStart c = true) : isNameChar c = true := by
  unfold isNameStart at h
  unfold isNameChar
  rw [List.any_append, h, Bool.true_or]

theorem isName_cons {s : String} (h : isName s = true) :
    ∃ c more, s.toList = c :: more ∧ isNameStart c = true ∧
      ∀ d ∈ s.toList, isNameChar d = true := by
  unfold isName at h
  split at h
  · cases h
  · rename_i c more hs
    rw [Bool.and_eq_true, List.all_eq_true] at h
    refine ⟨c, more, hs, h.1, fun d hd => ?_⟩
    rw [hs] at hd
    rcases List.mem_cons.mp hd with rfl | hd
    · exact isNameChar_of_isNameStart h.1
    · exact h.2 d hd

theorem name?_append {s : String} (hs : isName s = true) {rest : List Char}
    (hrest : ∀ c ∈ rest.head?, isNameChar c = false) :
    name? (s.toList ++ rest) = some (s, rest) := by
  obtain ⟨c, more, hcons, hstart, hall⟩ := isName_cons hs
  obtain ⟨htake, hdrop⟩ := while_append isNameChar s.toList rest hall hrest
  unfold name?
  rw [htake, hdrop, hcons]
  dsimp only
  rw [if_pos hstart, ← hcons, String.ofList_toList]

/-! ## 4. Escaped text -/

theorem expand_plain {plain : Char → Option Char} {c : Char} (hc : c ≠ '&')
    (h : plain c = some c) (cs : List Char) :
    expand plain none (c :: cs) = (expand plain none cs).map (c :: ·) := by
  rw [expand, if_neg hc, h]
  rfl

/-- **An escaped character is read as itself** in a text. -/
theorem expand_escapeTextChar (c : Char) (cs : List Char) :
    expand some none (escapeTextChar c ++ cs) = (expand some none cs).map (c :: ·) := by
  unfold escapeTextChar
  split
  · rfl
  · rfl
  · rfl
  · rfl
  · rename_i hamp _ _ _
    exact expand_plain hamp rfl cs

/-- **An escaped character is read as itself** in an attribute value. -/
theorem expand_escapeAttributeChar (c : Char) (cs : List Char) :
    expand attributeChar none (escapeAttributeChar c ++ cs) =
      (expand attributeChar none cs).map (c :: ·) := by
  unfold escapeAttributeChar
  split
  · rfl
  · rfl
  · rfl
  · rfl
  · rfl
  · rfl
  · rfl
  · rename_i hamp hlt _ _ hnewline hreturn htab
    refine expand_plain hamp ?_ cs
    unfold attributeChar
    rw [if_neg hlt]
    split
    · rename_i hspace
      simp only [isXmlSpace, Bool.or_eq_true, decide_eq_true_eq] at hspace
      rcases hspace with ((rfl | rfl) | rfl) | rfl
      · rfl
      · exact absurd rfl htab
      · exact absurd rfl hnewline
      · exact absurd rfl hreturn
    · rfl

/-- A text whose characters are read as themselves once escaped. -/
theorem expand_flatMap {plain : Char → Option Char} {escape : Char → List Char}
    (h : ∀ c cs, expand plain none (escape c ++ cs) = (expand plain none cs).map (c :: ·))
    (s : List Char) : expand plain none (s.flatMap escape) = some s := by
  induction s with
  | nil => rfl
  | cons c s ih =>
    rw [List.flatMap_cons, h, ih]
    rfl

/-- What an escaped character is made of: no brackets, and nothing that a document cannot hold. -/
theorem mem_escapeTextChar {c : Char} (hc : isXmlChar c = true) :
    ∀ d ∈ escapeTextChar c, isXmlChar d = true ∧ d ≠ '\r' ∧ d ≠ '<' ∧ d ≠ '>' := by
  unfold escapeTextChar
  split
  · decide
  · decide
  · decide
  · decide
  · rename_i hlt hgt hreturn
    intro d hd
    rw [List.mem_singleton.mp hd]
    exact ⟨hc, hreturn, hlt, hgt⟩

/-- What an escaped character of an attribute value is made of: no quotation mark, and nothing that
    a document cannot hold. -/
theorem mem_escapeAttributeChar {c : Char} (hc : isXmlChar c = true) :
    ∀ d ∈ escapeAttributeChar c, isXmlChar d = true ∧ d ≠ '\r' ∧ d ≠ '"' := by
  unfold escapeAttributeChar
  split
  · decide
  · decide
  · decide
  · decide
  · decide
  · decide
  · decide
  · rename_i hquote _ hreturn _
    intro d hd
    rw [List.mem_singleton.mp hd]
    exact ⟨hc, hreturn, hquote⟩

/-- An escaped text has no brackets, and nothing that a document cannot hold. -/
theorem mem_escapedText {s : List Char} (hs : ∀ c ∈ s, isXmlChar c = true) :
    ∀ d ∈ s.flatMap escapeTextChar, isXmlChar d = true ∧ d ≠ '\r' ∧ d ≠ '<' ∧ d ≠ '>' := by
  intro d hd
  obtain ⟨c, hc, hd⟩ := List.mem_flatMap.mp hd
  exact mem_escapeTextChar (hs c hc) d hd

/-- An escaped attribute value has no quotation mark, and nothing that a document cannot hold. -/
theorem mem_escapedAttribute {s : List Char} (hs : ∀ c ∈ s, isXmlChar c = true) :
    ∀ d ∈ s.flatMap escapeAttributeChar, isXmlChar d = true ∧ d ≠ '\r' ∧ d ≠ '"' := by
  intro d hd
  obtain ⟨c, hc, hd⟩ := List.mem_flatMap.mp hd
  exact mem_escapeAttributeChar (hs c hc) d hd

/-- Without a closing bracket there is no end of a verbatim section. -/
theorem endsVerbatim_of_notMem {cs : List Char} (h : '>' ∉ cs) : endsVerbatim cs = false := by
  fun_induction endsVerbatim cs with
  | case1 => rfl
  | case2 => simp at h
  | case3 c rest _ ih => exact ih fun hm => h (List.mem_cons_of_mem _ hm)

/-- Text ends at a tag: it is read whole. -/
theorem run?_escaped {s : List Char} (hne : s ≠ []) (hs : ∀ c ∈ s, isXmlChar c = true)
    (rest : List Char) :
    run? (s.flatMap escapeTextChar ++ '<' :: rest) = some (s, '<' :: rest) := by
  have hmem := mem_escapedText hs
  have hne' : s.flatMap escapeTextChar ≠ [] := by
    obtain ⟨c, s, rfl⟩ := List.exists_cons_of_ne_nil hne
    rw [List.flatMap_cons]
    unfold escapeTextChar
    split <;> simp
  have hends : endsVerbatim (s.flatMap escapeTextChar) = false :=
    endsVerbatim_of_notMem fun hm => (hmem _ hm).2.2.2 rfl
  obtain ⟨htake, hdrop⟩ := while_append (· ≠ '<') (s.flatMap escapeTextChar) ('<' :: rest)
    (fun c hc => decide_eq_true (hmem c hc).2.2.1) (by rintro _ ⟨⟩; rfl)
  unfold run?
  dsimp only
  rw [htake, hdrop, expand_flatMap expand_escapeTextChar]
  have hcheck :
      ¬(s.flatMap escapeTextChar = [] ∨ endsVerbatim (s.flatMap escapeTextChar) = true) := by
    rw [hends]
    simp [hne']
  exact if_neg hcheck

theorem behind?_end_ne {c d e : Char} (h : ¬(c = ']' ∧ d = ']' ∧ e = '>')) (cs : List Char) :
    behind? "]]>".toList (c :: d :: e :: cs) = none := by
  show (if ']' = c then if ']' = d then if '>' = e then some cs else none else none else none) =
    none
  split_ifs with hc hd he
  · exact absurd ⟨hc.symm, hd.symm, he.symm⟩ h
  · rfl
  · rfl
  · rfl

theorem endsVerbatim_tail {c : Char} {s : List Char} (h : endsVerbatim (c :: s) = false) :
    endsVerbatim s = false := by
  rw [endsVerbatim.eq_def] at h
  split at h
  · rename_i hcons
    cases hcons
  · cases h
  · rename_i hcons
    cases hcons
    exact h

/-- A verbatim section that does not hold its end is read whole. -/
theorem upTo?_verbatim {s : List Char} (h : endsVerbatim s = false) (rest : List Char) :
    upTo? "]]>".toList (s ++ ("]]>".toList ++ rest)) = some (s, rest) := by
  induction s with
  | nil => rfl
  | cons c s ih =>
    -- the end of the section begins neither in its text nor across its last characters
    have hstop : behind? "]]>".toList (c :: (s ++ ("]]>".toList ++ rest))) = none := by
      match s with
      | [] => exact behind?_end_ne (d := ']') (e := ']') (fun ⟨_, _, he⟩ => by cases he) _
      | [d] => exact behind?_end_ne (d := d) (e := ']') (fun ⟨_, _, he⟩ => by cases he) _
      | d :: e :: more =>
        refine behind?_end_ne ?_ _
        rintro ⟨rfl, rfl, rfl⟩
        cases h
    rw [List.cons_append, upTo?, hstop]
    dsimp only
    rw [ih (endsVerbatim_tail h)]
    rfl

/-! ## 5. Tags -/

theorem quoted?_append {raw : List Char} (h : '"' ∉ raw) (rest : List Char) :
    quoted? ('"' :: (raw ++ '"' :: rest)) = some (raw, rest) := by
  obtain ⟨htake, hdrop⟩ := while_append (· ≠ '"') raw ('"' :: rest)
    (fun c hc => decide_eq_true fun e => h (e ▸ hc)) (by rintro _ ⟨⟩; rfl)
  unfold quoted?
  dsimp only
  rw [if_pos (.inl rfl), hdrop, htake]

/-- An attribute is read as it was meant. -/
theorem attribute?_print {key value : String} (hkey : isName key = true)
    (hvalue : isXmlText value = true) (rest : List Char) :
    attribute? (key.toList ++ '=' :: '"' :: (value.toList.flatMap escapeAttributeChar ++
      '"' :: rest)) = some ((key, value), rest) := by
  have hmem := mem_escapedAttribute (List.all_eq_true.mp hvalue)
  have hname : name? (key.toList ++ '=' :: '"' :: (value.toList.flatMap escapeAttributeChar ++
      '"' :: rest)) = some (key, '=' :: '"' :: (value.toList.flatMap escapeAttributeChar ++
        '"' :: rest)) := name?_append hkey (by rintro _ ⟨⟩; decide)
  have hquoted := quoted?_append (fun hm => (hmem _ hm).2.2 rfl :
    '"' ∉ value.toList.flatMap escapeAttributeChar) rest
  have hvalue := expand_flatMap expand_escapeAttributeChar value.toList
  unfold attribute?
  rw [hname]
  show (quoted? ('"' :: _)).bind _ = _
  rw [hquoted]
  show (expand attributeChar none (value.toList.flatMap escapeAttributeChar)).bind _ = _
  rw [hvalue]
  show some ((key, String.ofList value.toList), rest) = _
  rw [String.ofList_toList]

/-- A name begins with no white space. -/
theorem not_space_of_isNameStart {c : Char} (h : isNameStart c = true) : isXmlSpace c = false := by
  cases hspace : isXmlSpace c with
  | false => rfl
  | true =>
    simp only [isXmlSpace, Bool.or_eq_true, decide_eq_true_eq] at hspace
    rcases hspace with ((rfl | rfl) | rfl) | rfl <;> exact absurd h (by decide)

/-- Attributes that can be printed: names, none of them twice, and legal values. -/
structure SoundAttributes (attributes : List (String × String)) : Prop where
  names : ∀ a ∈ attributes, isName a.1 = true
  values : ∀ a ∈ attributes, isXmlText a.2 = true
  distinct : (attributes.map Prod.fst).Nodup

theorem SoundAttributes.tail {a : String × String} {attributes : List (String × String)}
    (h : SoundAttributes (a :: attributes)) : SoundAttributes attributes where
  names b hb := h.names b (List.mem_cons_of_mem _ hb)
  values b hb := h.values b (List.mem_cons_of_mem _ hb)
  distinct := (List.nodup_cons.mp h.distinct).2

theorem printAttributes_cons (key value : String) (attributes : List (String × String))
    (rest : List Char) : XmlElement.printAttributes ((key, value) :: attributes) ++ rest =
      ' ' :: (key.toList ++ '=' :: '"' :: (value.toList.flatMap escapeAttributeChar ++
        '"' :: (XmlElement.printAttributes attributes ++ rest))) := by
  simp [XmlElement.printAttributes]

/-- Attributes are read as they were meant, up to what ends the tag. -/
theorem attributes?_print {attributes : List (String × String)} (h : SoundAttributes attributes)
    {n : Nat} (hn : attributes.length < n) {rest : List Char}
    (hrest : ∀ c ∈ rest.head?, isXmlSpace c = false) :
    attributes? n (XmlElement.printAttributes attributes ++ rest) = some (attributes, rest) := by
  induction attributes generalizing n with
  | nil =>
    obtain ⟨n, rfl⟩ : ∃ k, n = k + 1 := ⟨n - 1, by omega⟩
    have hhead : rest.head?.any isXmlSpace = false := by
      cases rest with
      | nil => rfl
      | cons c rest => exact hrest c rfl
    show attributes? (n + 1) rest = _
    rw [attributes?, hhead, Bool.false_and, skipSpace_of_head hrest]
    rfl
  | cons a attributes ih =>
    obtain ⟨n, rfl⟩ : ∃ k, n = k + 1 := ⟨n - 1, by omega⟩
    obtain ⟨key, value⟩ := a
    have hkey := h.names _ List.mem_cons_self
    obtain ⟨c, more, hcons, hstart, -⟩ := isName_cons hkey
    have hskip : ∀ cs, skipSpace (' ' :: (key.toList ++ cs)) = key.toList ++ cs := by
      intro cs
      refine (while_append isXmlSpace [' '] (key.toList ++ cs) (by decide) ?_).2
      rw [hcons]
      rintro _ ⟨⟩
      exact not_space_of_isNameStart hstart
    have hfirst := attribute?_print hkey (h.values _ List.mem_cons_self)
      (XmlElement.printAttributes attributes ++ rest)
    have hmore := ih h.tail (n := n) (by simp only [List.length_cons] at hn; omega)
    rw [printAttributes_cons, attributes?, hskip, name?_append hkey (by rintro _ ⟨⟩; decide)]
    show (attribute? _).bind _ = _
    rw [hfirst]
    show (attributes? n _).bind _ = _
    rw [hmore]
    rfl

/-- The closing tag of an element is read. -/
theorem closing?_print {tag : String} (h : isName tag = true) (rest : List Char) :
    closing? tag (tag.toList ++ '>' :: rest) = some rest := by
  unfold closing?
  rw [name?_append h (by rintro _ ⟨⟩; decide)]
  show (if tag = tag then behind? ['>'] (skipSpace ('>' :: rest)) else none) = _
  rw [if_pos rfl, skipSpace_of_head (by rintro _ ⟨⟩; decide)]
  rfl

/-! ## 6. Content -/

theorem content?_close (fuel : Nat) (rest : List Char) :
    content? (fuel + 1) ('<' :: '/' :: rest) = some ([], rest) := rfl

/-- Escaped text before a tag. -/
theorem content?_escaped {s : List Char} (hne : s ≠ []) (hs : ∀ c ∈ s, isXmlChar c = true)
    {fuel : Nat} {cs rest : List Char} {nodes : List XmlNode}
    (h : content? fuel ('<' :: cs) = some (nodes, rest)) :
    content? (fuel + 1) (s.flatMap escapeTextChar ++ '<' :: cs) =
      some (XmlNode.addText s nodes, rest) := by
  have hrun := run?_escaped hne hs cs
  obtain ⟨c, more, hcons⟩ : ∃ c more, s.flatMap escapeTextChar = c :: more := by
    refine List.exists_cons_of_ne_nil fun hnil => ?_
    rw [hnil] at hrun
    cases hrun
  have hc : '<' ≠ c := by
    rintro rfl
    exact (mem_escapedText hs '<' (hcons ▸ List.mem_cons_self)).2.2.1 rfl
  rw [hcons] at hrun ⊢
  rw [List.cons_append] at hrun ⊢
  have hclose : behind? "</".toList (c :: (more ++ '<' :: cs)) = none := behind?_ne hc _ _
  have hverbatim : behind? "<![CDATA[".toList (c :: (more ++ '<' :: cs)) = none :=
    behind?_ne hc _ _
  have hopen : behind? ['<'] (c :: (more ++ '<' :: cs)) = none := behind?_ne hc _ _
  rw [content?, hclose, hverbatim, hopen]
  dsimp only
  rw [hrun]
  show (content? fuel ('<' :: cs)).bind _ = _
  rw [h]
  rfl

/-- A verbatim section. -/
theorem content?_verbatim {s : List Char} (hs : endsVerbatim s = false) {fuel : Nat}
    {cs rest : List Char} {nodes : List XmlNode} (h : content? fuel cs = some (nodes, rest)) :
    content? (fuel + 1) ("<![CDATA[".toList ++ (s ++ ("]]>".toList ++ cs))) =
      some (XmlNode.addText s nodes, rest) := by
  have hclose : behind? "</".toList ("<![CDATA[".toList ++ (s ++ ("]]>".toList ++ cs))) = none :=
    rfl
  rw [content?, hclose, behind?_append]
  dsimp only
  rw [upTo?_verbatim hs]
  show (content? fuel cs).bind _ = _
  rw [h]
  rfl

/-- An element and what follows it. -/
theorem content?_element {tag : String} (htag : isName tag = true) {fuel : Nat}
    {cs cs' rest : List Char} {e : XmlNode} {nodes : List XmlNode}
    (he : element? fuel (tag.toList ++ cs) = some (e, cs'))
    (h : content? fuel cs' = some (nodes, rest)) :
    content? (fuel + 1) ('<' :: (tag.toList ++ cs)) = some (e :: nodes, rest) := by
  obtain ⟨c, more, hcons, hstart, -⟩ := isName_cons htag
  have hslash : '/' ≠ c := by
    rintro rfl
    exact absurd hstart (by decide)
  have hbang : '!' ≠ c := by
    rintro rfl
    exact absurd hstart (by decide)
  rw [hcons, List.cons_append] at he ⊢
  have hclose : behind? "</".toList ('<' :: c :: (more ++ cs)) = none := behind?_ne hslash _ _
  have hverbatim : behind? "<![CDATA[".toList ('<' :: c :: (more ++ cs)) = none :=
    behind?_ne hbang _ _
  have hopen : behind? ['<'] ('<' :: c :: (more ++ cs)) = some (c :: (more ++ cs)) := rfl
  rw [content?, hclose, hverbatim, hopen]
  show (element? fuel _).bind _ = _
  rw [he]
  show (content? fuel _).bind _ = _
  rw [h]
  rfl

end XmlReader

end GrammarManual
