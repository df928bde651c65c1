/-!
# Xml/Basic: XML elements and their printed form

* `XmlElement`: an element holds text or other elements, never both;
* `isXmlText`: whether a text has only characters that XML can hold;
* `XmlElement.print`: two blanks of indentation for each level, an element without content closed
  in its own tag.
-/

namespace GrammarManual

/-! ## 1. Text -/

/-- Characters that a document can hold: no control characters but tab, newline and carriage
    return, and not the last two of the first plane. -/
def isXmlChar (c : Char) : Bool :=
  c = '\t' || c = '\n' || c = '\r' || (0x20 ≤ c.toNat && c.toNat ≠ 0xfffe && c.toNat ≠ 0xffff)

/-- Texts that a document can hold. -/
def isXmlText (s : String) : Bool := s.toList.all isXmlChar

/-- A character of element text. -/
def escapeTextChar : Char → List Char
  | '&' => ['&', 'a', 'm', 'p', ';']
  | '<' => ['&', 'l', 't', ';']
  | '>' => ['&', 'g', 't', ';']
  | '\r' => ['&', '#', '1', '3', ';']
  | c => [c]

/-- A character of an attribute value. -/
def escapeAttributeChar : Char → List Char
  | '&' => ['&', 'a', 'm', 'p', ';']
  | '<' => ['&', 'l', 't', ';']
  | '>' => ['&', 'g', 't', ';']
  | '"' => ['&', 'q', 'u', 'o', 't', ';']
  | '\n' => ['&', '#', '1', '0', ';']
  | '\r' => ['&', '#', '1', '3', ';']
  | '\t' => ['&', '#', '9', ';']
  | c => [c]

/-- Whether a text holds the end of a verbatim section. -/
def endsVerbatim : List Char → Bool
  | [] => false
  | ']' :: ']' :: '>' :: _ => true
  | _ :: rest => endsVerbatim rest

/-! ## 2. Elements -/

/-- What an element without child elements holds. -/
inductive XmlBody where
  | empty
  /-- Escaped text. -/
  | text (s : String)
  /-- Text in a verbatim section. -/
  | verbatim (s : String)
  deriving DecidableEq, Repr, Inhabited

/-- An element. -/
inductive XmlElement where
  | leaf (tag : String) (attributes : List (String × String)) (body : XmlBody)
  | branch (tag : String) (attributes : List (String × String)) (children : List XmlElement)
  deriving Repr, Inhabited

/-- Text in a verbatim section, or escaped if it holds the end of one. -/
def XmlBody.ofText (s : String) : XmlBody :=
  if endsVerbatim s.toList then .text s else .verbatim s

namespace XmlElement

/-- Adds a child behind those of an element reached by a path of child positions. -/
def append : XmlElement → List Nat → XmlElement → XmlElement
  | branch tag attributes children, [], child => branch tag attributes (children ++ [child])
  | branch tag attributes children, i :: path, child =>
    branch tag attributes (children.modify i fun e => append e path child)
  | leaf tag attributes body, _, _ => leaf tag attributes body

/-- The number of children of an element reached by a path. -/
def childCount : XmlElement → List Nat → Nat
  | branch _ _ children, [] => children.length
  | branch _ _ children, i :: path => (children[i]?.map fun e => childCount e path).getD 0
  | leaf _ _ _, _ => 0

/-- The attributes of a tag. -/
def printAttributes (attributes : List (String × String)) : List Char :=
  attributes.flatMap fun (name, value) =>
    ' ' :: name.toList ++ ['=', '"'] ++ value.toList.flatMap escapeAttributeChar ++ ['"']

/-- An opening tag without its last bracket. -/
def printOpening (tag : String) (attributes : List (String × String)) : List Char :=
  '<' :: tag.toList ++ printAttributes attributes

/-- A closing tag. -/
def printClosing (tag : String) : List Char := '<' :: '/' :: tag.toList ++ ['>']

mutual

/-- Prints an element on lines of its own. -/
def print (indent : Nat) : XmlElement → List Char
  | leaf tag attributes body =>
    List.replicate indent ' ' ++ printOpening tag attributes ++
      (match body with
       | .empty => ['/', '>']
       | .text s => '>' :: s.toList.flatMap escapeTextChar ++ printClosing tag
       | .verbatim s =>
         "><![CDATA[".toList ++ s.toList ++ "]]>".toList ++ printClosing tag) ++ ['\n']
  | branch tag attributes children =>
    List.replicate indent ' ' ++ printOpening tag attributes ++
      (if children.isEmpty then ['/', '>', '\n']
       else
        ['>', '\n'] ++ printAll (indent + 2) children ++ List.replicate indent ' '
          ++ printClosing tag ++ ['\n'])

/-- Prints elements one below the other. -/
def printAll (indent : Nat) : List XmlElement → List Char
  | [] => []
  | e :: es => print indent e ++ printAll indent es

end

/-- Prints a document with its declaration. -/
def document (root : XmlElement) : String :=
  String.ofList ("<?xml version='1.0' encoding='UTF-8'?>\n".toList ++ print 0 root)

end XmlElement

end GrammarManual
