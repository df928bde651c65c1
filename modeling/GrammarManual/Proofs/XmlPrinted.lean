import GrammarManual.Proofs.XmlReader

/-!
# Proofs/XmlPrinted: printed XML is read back

* `XmlElement.Sound` -- elements that can be printed: legal names and characters, and neither a
  carriage return nor its own end in a verbatim section;
* `element?_print`, `content?_print` -- a printed element, and printed elements one below the other,
  are read as they were meant, by induction on the element;
* **`read_document`** -- the printed form of a sound element is read as this element.
-/

namespace GrammarManual

/-! ## 1. Elements that can be printed -/

/-- Texts that can be printed; a verbatim section holds neither its end nor a carriage return, which
    a reader would take for a newline. -/
inductive XmlBody.Sound : XmlBody → Prop where
  | empty : Sound .empty
  | text {s : String} (h : isXmlText s = true) : Sound (.text s)
  | verbatim {s : String} (h : isXmlText s = true) (hreturn : '\r' ∉ s.toList)
      (hend : endsVerbatim s.toList = false) : Sound (.verbatim s)

namespace XmlElement

/-- **Elements that can be printed.** -/
inductive Sound : XmlElement → Prop where
  | leaf {tag : String} {attributes : List (String × String)} {body : XmlBody}
      (htag : XmlReader.isName tag = true) (h : XmlReader.SoundAttributes attributes)
      (hbody : body.Sound) : Sound (.leaf tag attributes body)
  | branch {tag : String} {attributes : List (String × String)} {children : List XmlElement}
      (htag : XmlReader.isName tag = true) (h : XmlReader.SoundAttributes attributes)
      (hchildren : ∀ e ∈ children, Sound e) : Sound (.branch tag attributes children)

/-- What is printed of an element behind its attributes. -/
def printRest (indent : Nat) : XmlElement → List Char
  | leaf _ _ .empty => ['/', '>']
  | leaf tag _ (.text s) =>
    '>' :: (s.toList.flatMap escapeTextChar ++ '<' :: '/' :: (tag.toList ++ ['>']))
  | leaf tag _ (.verbatim s) =>
    '>' :: ("<![CDATA[".toList ++
      (s.toList ++ ("]]>".toList ++ '<' :: '/' :: (tag.toList ++ ['>']))))
  | branch _ _ [] => ['/', '>']
  | branch tag _ (e :: es) =>
    '>' :: '\n' :: (printAll (indent + 2) (e :: es) ++
      (List.replicate indent ' ' ++ '<' :: '/' :: (tag.toList ++ ['>'])))

def tag : XmlElement → String
  | leaf tag _ _ => tag
  | branch tag _ _ => tag

def attributes : XmlElement → List (String × String)
  | leaf _ attributes _ => attributes
  | branch _ attributes _ => attributes

/-- What is printed of an element behind its opening bracket, but for the newline below it. -/
def printTail (indent : Nat) (e : XmlElement) : List Char :=
  e.tag.toList ++ (printAttributes e.attributes ++ e.printRest indent)

theorem print_eq (indent : Nat) (e : XmlElement) :
    print indent e = List.replicate indent ' ' ++ '<' :: (e.printTail indent ++ ['\n']) := by
  cases e with
  | leaf tag attributes body =>
    cases body <;>
      simp [print, printOpening, printClosing, printTail, printRest, XmlElement.tag,
        XmlElement.attributes]
  | branch tag attributes children =>
    cases children <;>
      simp [print, printOpening, printClosing, printTail, printRest, XmlElement.tag,
        XmlElement.attributes]

theorem Sound.tag {e : XmlElement} (h : e.Sound) : XmlReader.isName e.tag = true := by
  cases h <;> assumption

theorem Sound.attributes {e : XmlElement} (h : e.Sound) :
    XmlReader.SoundAttributes e.attributes := by
  cases h <;> assumption

/-- Behind the attributes a tag ends. -/
theorem exists_printRest (indent : Nat) (e : XmlElement) (rest : List Char) :
    ∃ c cs, e.printRest indent ++ rest = c :: cs ∧ (c = '/' ∨ c = '>') := by
  cases e with
  | leaf tag attributes body =>
    cases body with
    | empty => exact ⟨_, _, rfl, .inl rfl⟩
    | text s => exact ⟨_, _, rfl, .inr rfl⟩
    | verbatim s => exact ⟨_, _, rfl, .inr rfl⟩
  | branch tag attributes children =>
    cases children with
    | nil => exact ⟨_, _, rfl, .inl rfl⟩
    | cons e es => exact ⟨_, _, rfl, .inr rfl⟩

theorem length_printAttributes (attributes : List (String × String)) :
    attributes.length ≤ (printAttributes attributes).length := by
  induction attributes with
  | nil => exact Nat.le_refl 0
  | cons a attributes ih =>
    have h := XmlReader.printAttributes_cons a.1 a.2 attributes []
    rw [List.append_nil] at h
    rw [h]
    simp only [List.length_cons, List.length_append, List.append_nil]
    omega

end XmlElement

namespace XmlReader

open XmlElement

/-- Once the tag of an element has been read, what stands behind its attributes decides. -/
theorem element?_tail {e : XmlElement} (h : e.Sound) {indent fuel : Nat} {rest : List Char}
    (hfuel : (e.printTail indent ++ rest).length ≤ fuel) :
    ∃ left, (e.printRest indent ++ rest).length ≤ left ∧
      element? fuel (e.printTail indent ++ rest) =
        match behind? "/>".toList (e.printRest indent ++ rest) with
        | some cs => some (.element e.tag e.attributes [], cs)
        | none => (behind? ['>'] (e.printRest indent ++ rest)).bind fun cs =>
          (content? left cs).bind fun x =>
            (closing? e.tag x.2).bind fun cs => some (.element e.tag e.attributes x.1, cs) := by
  obtain ⟨c, more, hcons, -⟩ := isName_cons h.tag
  obtain ⟨d, ds, hds, hd⟩ := e.exists_printRest indent rest
  have hattributes := length_printAttributes e.attributes
  have hlength : (e.printTail indent ++ rest).length =
      more.length + 1 + ((printAttributes e.attributes).length +
        (e.printRest indent ++ rest).length) := by
    unfold printTail
    rw [hcons]
    simp only [List.length_append, List.length_cons]
    omega
  obtain ⟨left, rfl⟩ : ∃ k, fuel = k + 1 := ⟨fuel - 1, by omega⟩
  refine ⟨left, by omega, ?_⟩
  have hpositive : 0 < (e.printRest indent ++ rest).length := by
    rw [hds, List.length_cons]
    omega
  have hspace : ∀ c ∈ (e.printRest indent ++ rest).head?, isXmlSpace c = false := by
    rw [hds]
    rintro _ ⟨⟩
    rcases hd with rfl | rfl <;> rfl
  have hname : name? (e.printTail indent ++ rest) =
      some (e.tag, printAttributes e.attributes ++ (e.printRest indent ++ rest)) := by
    unfold printTail
    rw [List.append_assoc, List.append_assoc]
    refine name?_append h.tag ?_
    cases e.attributes with
    | nil =>
      show ∀ c ∈ (e.printRest indent ++ rest).head?, isNameChar c = false
      rw [hds]
      rintro _ ⟨⟩
      rcases hd with rfl | rfl <;> decide
    | cons a attributes =>
      rw [printAttributes_cons]
      rintro _ ⟨⟩
      decide
  rw [element?, hname]
  show (attributes? left _).bind _ = _
  rw [attributes?_print h.attributes (by omega) hspace]
  show (if (e.attributes.map Prod.fst).Nodup then _ else none) = _
  rw [if_pos h.attributes.distinct]
  rfl

/-! ## 3. Elements are read back -/

theorem any_addText (s : List Char) : (XmlNode.addText s []).any XmlNode.isElement = false := by
  by_cases h : s = [] <;> simp [XmlNode.addText, XmlNode.isElement, h]

/-- Where there are no elements, no text is dropped. -/
theorem strip_addText (tag : String) (attributes : List (String × String)) (s : List Char) :
    (XmlNode.element tag attributes (XmlNode.addText s [])).strip =
      .element tag attributes (XmlNode.addText s []) := by
  rw [XmlNode.strip, any_addText]
  by_cases h : s = [] <;> simp [XmlNode.addText, XmlNode.stripAll, h]

/-- An escaped text, which may be empty, and the closing tag behind it. -/
theorem content?_text {s : List Char} (hs : ∀ c ∈ s, isXmlChar c = true) {fuel : Nat}
    (hfuel : 2 ≤ fuel) (cs : List Char) :
    content? fuel (s.flatMap escapeTextChar ++ '<' :: '/' :: cs) =
      some (XmlNode.addText s [], cs) := by
  obtain ⟨fuel, rfl⟩ : ∃ k, fuel = k + 2 := ⟨fuel - 2, by omega⟩
  by_cases hne : s = []
  · rw [hne]
    rfl
  · exact content?_escaped hne hs (content?_close fuel cs)

/-- The element of a leaf is read. -/
theorem element?_leaf {tag : String} {attributes : List (String × String)} {body : XmlBody}
    (h : (leaf tag attributes body).Sound) {indent fuel : Nat} {rest : List Char}
    (hfuel : ((leaf tag attributes body).printTail indent ++ rest).length ≤ fuel) :
    element? fuel ((leaf tag attributes body).printTail indent ++ rest) =
      some (.element tag attributes (XmlNode.addText body.content.toList []), rest) := by
  obtain ⟨left, hleft, hread⟩ := element?_tail h hfuel
  have htag : isName tag = true := h.tag
  have hclosed := closing?_print htag rest
  rw [hread]
  cases h with
  | leaf _ _ hbody =>
    cases hbody with
    | empty => rfl
    | @text s hs =>
      have hprinted : (leaf tag attributes (.text s)).printRest indent ++ rest =
          '>' :: (s.toList.flatMap escapeTextChar ++
            '<' :: '/' :: (tag.toList ++ '>' :: rest)) := by
        simp [printRest]
      rw [hprinted] at hleft ⊢
      have henough : 2 ≤ left := by
        simp only [List.length_cons, List.length_append] at hleft
        omega
      have hcontent := content?_text (List.all_eq_true.mp hs) henough (tag.toList ++ '>' :: rest)
      show (content? left _).bind _ = _
      rw [hcontent]
      show (closing? tag _).bind _ = _
      rw [hclosed]
      rfl
    | @verbatim s hs hreturn hend =>
      have hprinted : (leaf tag attributes (.verbatim s)).printRest indent ++ rest =
          '>' :: ("<![CDATA[".toList ++
            (s.toList ++ ("]]>".toList ++ '<' :: '/' :: (tag.toList ++ '>' :: rest)))) := by
        simp [printRest]
      rw [hprinted] at hleft ⊢
      obtain ⟨left, rfl⟩ : ∃ k, left = k + 2 := ⟨left - 2, by
        simp only [List.length_cons, List.length_append] at hleft; omega⟩
      have hcontent := content?_verbatim hend (content?_close left (tag.toList ++ '>' :: rest))
      show (content? (left + 2) _).bind _ = _
      rw [hcontent]
      show (closing? tag _).bind _ = _
      rw [hclosed]
      rfl

/-- Blanks and newlines between elements. -/
def IsGap (cs : List Char) : Prop := ∀ c ∈ cs, c = ' ' ∨ c = '\n'

theorem isGap_newline : IsGap ['\n'] := fun _ hc => .inr (List.mem_singleton.mp hc)

theorem IsGap.blanks {cs : List Char} (h : IsGap cs) (n : Nat) :
    IsGap (cs ++ List.replicate n ' ') := by
  intro c hc
  rcases List.mem_append.mp hc with hc | hc
  · exact h c hc
  · exact .inl (List.eq_of_mem_replicate hc)

theorem IsGap.escaped {cs : List Char} (h : IsGap cs) : cs.flatMap escapeTextChar = cs := by
  induction cs with
  | nil => rfl
  | cons c cs ih =>
    rw [List.flatMap_cons, ih fun d hd => h d (List.mem_cons_of_mem _ hd)]
    rcases h c List.mem_cons_self with rfl | rfl <;> rfl

theorem IsGap.legal {cs : List Char} (h : IsGap cs) : ∀ c ∈ cs, isXmlChar c = true := by
  intro c hc
  rcases h c hc with rfl | rfl <;> decide

/-- A gap before other nodes is one text of white space. -/
theorem IsGap.addText {cs : List Char} (h : IsGap cs) (hne : cs ≠ []) (nodes : List XmlNode)
    (hnodes : ∀ e ∈ nodes.head?, e.isElement = true) :
    XmlNode.stripAll true (XmlNode.addText cs nodes) = XmlNode.stripAll true nodes ∧
      (XmlNode.addText cs nodes).any XmlNode.isElement = nodes.any XmlNode.isElement := by
  have hspace : cs.all isXmlSpace = true := by
    rw [List.all_eq_true]
    intro c hc
    rcases h c hc with rfl | rfl <;> rfl
  have hadd : XmlNode.addText cs nodes = .text (String.ofList cs) :: nodes := by
    unfold XmlNode.addText
    split
    · exact absurd (hnodes _ rfl) Bool.false_ne_true
    · exact if_neg hne
  rw [hadd, XmlNode.stripAll, String.toList_ofList, hspace]
  exact ⟨rfl, rfl⟩

/-- A gap is read as one text. -/
theorem IsGap.content? {gap : List Char} (h : IsGap gap) (hne : gap ≠ []) {fuel : Nat}
    {cs rest : List Char} {nodes : List XmlNode}
    (hread : XmlReader.content? fuel ('<' :: cs) = some (nodes, rest)) :
    XmlReader.content? (fuel + 1) (gap ++ '<' :: cs) = some (XmlNode.addText gap nodes, rest) := by
  have hgap := content?_escaped hne h.legal hread
  rwa [h.escaped] at hgap

-- The induction is on the element. The fuel is a bound on the characters, so every part of a
-- printed element has enough.
mutual

/-- **A printed element is read as it was meant.** -/
theorem element?_print : (e : XmlElement) → e.Sound → ∀ (indent fuel : Nat) (rest : List Char),
    (e.printTail indent ++ rest).length ≤ fuel →
    ∃ x, element? fuel (e.printTail indent ++ rest) = some (x, rest) ∧ x.isElement = true ∧
      x.strip = e.node
  | .leaf tag attributes body, h, _, _, _, hfuel =>
    ⟨_, element?_leaf h hfuel, rfl, strip_addText tag attributes body.content.toList⟩
  | .branch tag attributes [], h, _, _, _, hfuel => by
    obtain ⟨_, -, hread⟩ := element?_tail h hfuel
    exact ⟨_, hread, rfl, rfl⟩
  | .branch tag attributes (e :: es), h, indent, fuel, rest, hfuel => by
    obtain ⟨left, hleft, hread⟩ := element?_tail h hfuel
    have htag : isName tag = true := h.tag
    have hchildren : ∀ c ∈ e :: es, c.Sound := by
      cases h
      assumption
    have hprinted : (branch tag attributes (e :: es)).printRest indent ++ rest =
        '>' :: (['\n'] ++ (printAll (indent + 2) (e :: es) ++
          (List.replicate indent ' ' ++ '<' :: '/' :: (tag.toList ++ '>' :: rest)))) := by
      simp [printRest]
    rw [hprinted] at hleft hread
    obtain ⟨nodes, hcontent, hany, hstrip⟩ := content?_print (e :: es) hchildren (indent + 2) indent
      left ['\n'] (tag.toList ++ '>' :: rest) isGap_newline (List.cons_ne_nil _ _)
      (Nat.le_of_succ_le hleft)
    refine ⟨.element tag attributes nodes, ?_, rfl, ?_⟩
    · rw [hread]
      show (XmlReader.content? left _).bind _ = _
      rw [hcontent]
      show (closing? tag _).bind _ = _
      rw [closing?_print htag]
      rfl
    · rw [XmlNode.strip, hany, XmlElement.node]
      exact congrArg (XmlNode.element tag attributes) hstrip

/-- **Printed elements, one below the other behind a gap, are read as they were meant.** -/
theorem content?_print : (es : List XmlElement) → (∀ e ∈ es, e.Sound) →
    ∀ (indent outer fuel : Nat) (gap rest : List Char), IsGap gap → gap ≠ [] →
    (gap ++ (printAll indent es ++
      (List.replicate outer ' ' ++ '<' :: '/' :: rest))).length ≤ fuel →
    ∃ nodes, XmlReader.content? fuel
        (gap ++ (printAll indent es ++ (List.replicate outer ' ' ++ '<' :: '/' :: rest))) =
          some (nodes, rest) ∧
      nodes.any XmlNode.isElement = !es.isEmpty ∧ XmlNode.stripAll true nodes = XmlElement.nodes es
  | [], _, indent, outer, fuel, gap, rest, hgap, hne, hfuel => by
    have hblanks := hgap.blanks outer
    have hne' : gap ++ List.replicate outer ' ' ≠ [] := by simp [hne]
    obtain ⟨fuel, rfl⟩ : ∃ k, fuel = k + 2 := ⟨fuel - 2, by
      simp only [List.length_append, List.length_cons] at hfuel; omega⟩
    have hread := hblanks.content? hne' (content?_close fuel rest)
    obtain ⟨hstrip, hany⟩ := hblanks.addText hne' [] nofun
    rw [List.append_assoc] at hread
    exact ⟨_, hread, hany, hstrip⟩
  | e :: es, h, indent, outer, fuel, gap, rest, hgap, hne, hfuel => by
    have hblanks := hgap.blanks indent
    have hne' : gap ++ List.replicate indent ' ' ≠ [] := by simp [hne]
    have hprinted : gap ++ (printAll indent (e :: es) ++
        (List.replicate outer ' ' ++ '<' :: '/' :: rest)) =
          gap ++ List.replicate indent ' ' ++ '<' :: (e.printTail indent ++ (['\n'] ++
            (printAll indent es ++ (List.replicate outer ' ' ++ '<' :: '/' :: rest)))) := by
      rw [printAll, print_eq]
      simp
    have hgapLength : 0 < gap.length := List.length_pos_iff.mpr hne
    rw [hprinted] at hfuel ⊢
    simp only [List.length_append, List.length_cons, List.length_nil] at hfuel
    obtain ⟨fuel, rfl⟩ : ∃ k, fuel = k + 2 := ⟨fuel - 2, by omega⟩
    obtain ⟨nodes, hcontent, -, hstrips⟩ := content?_print es
      (fun c hc => h c (List.mem_cons_of_mem _ hc)) indent outer fuel ['\n'] rest isGap_newline
      (List.cons_ne_nil _ _)
      (by simp only [List.length_append, List.length_cons, List.length_nil]; omega)
    obtain ⟨x, helement, hx, hstrip⟩ := element?_print e (h e List.mem_cons_self) indent fuel
      (['\n'] ++ (printAll indent es ++ (List.replicate outer ' ' ++ '<' :: '/' :: rest)))
      (by simp only [List.length_append, List.length_cons, List.length_nil]; omega)
    have htail : ∀ cs, e.printTail indent ++ cs =
        e.tag.toList ++ (printAttributes e.attributes ++ (e.printRest indent ++ cs)) := by
      intro cs
      rw [printTail, List.append_assoc, List.append_assoc]
    rw [htail] at helement ⊢
    have hread := hblanks.content? hne'
      (content?_element (h e List.mem_cons_self).tag helement hcontent)
    obtain ⟨hstripped, hany⟩ := hblanks.addText hne' (x :: nodes) (by rintro _ ⟨⟩; exact hx)
    refine ⟨_, hread, ?_, ?_⟩
    · rw [hany, List.any_cons, hx]
      rfl
    · rw [hstripped, XmlElement.nodes, ← hstrip, ← hstrips]
      cases x with
      | text s => cases hx
      | element tag attributes children => rfl

end

/-! ## 4. Documents -/

/-- Characters that a document can hold and that are read as they stand. -/
def IsClean (cs : List Char) : Prop := ∀ c ∈ cs, isXmlChar c = true ∧ c ≠ '\r'

theorem IsClean.append {cs ds : List Char} (hc : IsClean cs) (hd : IsClean ds) :
    IsClean (cs ++ ds) := List.forall_mem_append.mpr ⟨hc, hd⟩

theorem IsClean.cons {c : Char} {cs : List Char} (hc : isXmlChar c = true ∧ c ≠ '\r')
    (h : IsClean cs) : IsClean (c :: cs) := List.forall_mem_cons.mpr ⟨hc, h⟩

theorem clean_of_isNameChar {c : Char} (h : isNameChar c = true) :
    isXmlChar c = true ∧ c ≠ '\r' := by
  have hranges : ∀ r ∈ nameStarts ++ nameMore, 0x20 ≤ r.1 ∧ (r.2 < 0xfffe ∨ 0xffff < r.1) := by
    decide
  unfold isNameChar at h
  obtain ⟨r, hr, hin⟩ := List.any_eq_true.mp h
  rw [Bool.and_eq_true, decide_eq_true_eq, decide_eq_true_eq] at hin
  obtain ⟨hlow, hplane⟩ := hranges r hr
  constructor
  · simp only [isXmlChar, Bool.or_eq_true, Bool.and_eq_true, decide_eq_true_eq]
    omega
  · rintro rfl
    have hreturn : '\r'.toNat = 13 := rfl
    omega

theorem clean_name {s : String} (h : isName s = true) : IsClean s.toList := by
  obtain ⟨_, _, -, -, hall⟩ := isName_cons h
  exact fun c hc => clean_of_isNameChar (hall c hc)

theorem clean_blanks (n : Nat) : IsClean (List.replicate n ' ') := by
  intro c hc
  rw [List.eq_of_mem_replicate hc]
  decide

theorem clean_attributes {attributes : List (String × String)} (h : SoundAttributes attributes) :
    IsClean (printAttributes attributes) := by
  induction attributes with
  | nil => nofun
  | cons a attributes ih =>
    obtain ⟨key, value⟩ := a
    have hprinted := printAttributes_cons key value attributes []
    rw [List.append_nil, List.append_nil] at hprinted
    have hkey := clean_name (h.names _ List.mem_cons_self)
    have hvalue : IsClean (value.toList.flatMap escapeAttributeChar) := fun c hc =>
      have hescaped := mem_escapedAttribute
        (List.all_eq_true.mp (h.values _ List.mem_cons_self)) c hc
      ⟨hescaped.1, hescaped.2.1⟩
    rw [hprinted]
    exact .cons (by decide) (hkey.append (.cons (by decide) (.cons (by decide)
      (hvalue.append (.cons (by decide) (ih h.tail))))))

theorem clean_closing {tag : String} (h : isName tag = true) :
    IsClean ('<' :: '/' :: (tag.toList ++ ['>'])) :=
  .cons (by decide) (.cons (by decide) ((clean_name h).append (.cons (by decide) nofun)))

theorem clean_body {tag : String} {attributes : List (String × String)} {body : XmlBody}
    (htag : isName tag = true) (hbody : body.Sound) (indent : Nat) :
    IsClean ((leaf tag attributes body).printRest indent) := by
  cases hbody with
  | empty => exact .cons (by decide) (.cons (by decide) nofun)
  | text hs =>
    refine .cons (by decide) (.append (fun c hc => ?_) (clean_closing htag))
    have hescaped := mem_escapedText (List.all_eq_true.mp hs) c hc
    exact ⟨hescaped.1, hescaped.2.1⟩
  | verbatim hs hreturn _ =>
    have hopening : IsClean "<![CDATA[".toList := by unfold IsClean; decide
    have hending : IsClean "]]>".toList := by unfold IsClean; decide
    refine .cons (by decide) (hopening.append (.append (fun c hc => ?_)
      (hending.append (clean_closing htag))))
    refine ⟨List.all_eq_true.mp hs c hc, ?_⟩
    rintro rfl
    exact hreturn hc

mutual

/-- The printed form of a sound element is clean. -/
theorem clean_print : (e : XmlElement) → e.Sound → ∀ indent, IsClean (print indent e)
  | .leaf tag attributes body, h, indent => by
    have htag : isName tag = true := h.tag
    have hattributes : SoundAttributes attributes := h.attributes
    have hbody : body.Sound := by
      cases h
      assumption
    rw [print_eq, printTail]
    exact (clean_blanks indent).append (.cons (by decide) (.append ((clean_name htag).append
      ((clean_attributes hattributes).append (clean_body htag hbody indent)))
        (.cons (by decide) nofun)))
  | .branch tag attributes [], h, indent => by
    have htag : isName tag = true := h.tag
    have hattributes : SoundAttributes attributes := h.attributes
    rw [print_eq, printTail]
    exact (clean_blanks indent).append (.cons (by decide) (.append ((clean_name htag).append
      ((clean_attributes hattributes).append (.cons (by decide) (.cons (by decide) nofun))))
        (.cons (by decide) nofun)))
  | .branch tag attributes (e :: es), h, indent => by
    have htag : isName tag = true := h.tag
    have hattributes : SoundAttributes attributes := h.attributes
    have hchildren : ∀ c ∈ e :: es, c.Sound := by
      cases h
      assumption
    have hall := clean_printAll (e :: es) hchildren (indent + 2)
    rw [print_eq, printTail]
    exact (clean_blanks indent).append (.cons (by decide) (.append ((clean_name htag).append
      ((clean_attributes hattributes).append (.cons (by decide) (.cons (by decide) (hall.append
        ((clean_blanks indent).append (clean_closing htag)))))))
          (.cons (by decide) nofun)))

theorem clean_printAll : (es : List XmlElement) → (∀ e ∈ es, e.Sound) → ∀ indent,
    IsClean (printAll indent es)
  | [], _, _ => nofun
  | e :: es, h, indent => by
    rw [printAll]
    exact (clean_print e (h e List.mem_cons_self) indent).append
      (clean_printAll es (fun c hc => h c (List.mem_cons_of_mem _ hc)) indent)

end

/-- **A printed document is read back.** Texts come back character for character, however they were
    printed; blank text in elements that hold elements is indentation. -/
theorem read_document {root : XmlElement} (h : root.Sound) :
    ∃ x, read? root.document = some x ∧ x.strip = root.node := by
  have hdeclaration : IsClean "<?xml version='1.0' encoding='UTF-8'?>\n".toList := by
    unfold IsClean
    decide
  have hclean := hdeclaration.append (clean_print root h 0)
  have hlegal : ("<?xml version='1.0' encoding='UTF-8'?>\n".toList ++ print 0 root).all isXmlChar =
      true := List.all_eq_true.mpr fun c hc => (hclean c hc).1
  have hprinted : print 0 root = '<' :: (root.printTail 0 ++ ['\n']) := print_eq 0 root
  have hprolog : prolog? ("<?xml version='1.0' encoding='UTF-8'?>\n".toList ++ print 0 root) =
      some ('\n' :: print 0 root) := rfl
  have hskip : skipSpace ('\n' :: print 0 root) = '<' :: (root.printTail 0 ++ ['\n']) := by
    rw [hprinted]
    rfl
  obtain ⟨x, hread, -, hstrip⟩ := element?_print root h 0 _ ['\n'] (Nat.le_refl _)
  refine ⟨x, ?_, hstrip⟩
  unfold read? document
  dsimp only
  rw [String.toList_ofList, unifyNewlines_of_notMem fun hm => (hclean _ hm).2 rfl, if_pos hlegal,
    hprolog]
  show (behind? ['<'] (skipSpace ('\n' :: print 0 root))).bind _ = _
  rw [hskip]
  show (element? _ (root.printTail 0 ++ ['\n'])).bind _ = _
  rw [hread]
  rfl

example : read? "<a b='1'>x &#38; <c/></a>" =
    some (.element "a" [("b", "1")] [.text "x & ", .element "c" [] []]) := by cbv

example : read? "<a><b></a>" = none := by cbv

end XmlReader

end GrammarManual
