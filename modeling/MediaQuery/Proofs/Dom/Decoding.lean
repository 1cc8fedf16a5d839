import MediaQuery.Dom.Document
import MediaQuery.Proofs.Text.Run
import MediaQuery.Proofs.Text.Spelling

/-!
# Markup is read in one way

What is written for a tree tells which tree it was, up to identities and namespaces, which are not
written (`Node.shape`): a start tag ends with its own `>`, because names and escaped values have
none; an escaped text ends with the next `<`; a raw text ends with the next `</`; and what an
element holds ends with its end tag. A tree has to be one that markup can be written for
(`Node.IsWritable`): texts that touch, or that hold nothing, leave no trace, nor does what a void
element holds, and a raw text with an end tag in it ends early.

* `markup_is_read_in_one_way` — documents with the same markup have the same shape
-/

namespace MediaQuery.Dom

variable {cs ds rest r s : List Char} {c d : Char}

/-! ## Escaped characters -/

/-- Characters are written so that the first one can be told from what is written for it. -/
def IsCode (write : Char → List Char) : Prop :=
  ∀ c d rest rest', write c ++ rest = write d ++ rest' → c = d

theorem isCode_escapeTextChar : IsCode escapeTextChar := by
  intro c d rest rest' h
  unfold escapeTextChar at h
  split at h <;> split at h <;> grind

theorem isCode_escapeValueChar : IsCode escapeValueChar := by
  intro c d rest rest' h
  unfold escapeValueChar at h
  split at h <;> split at h <;> grind

theorem escapeTextChar_ne_nil (c : Char) : escapeTextChar c ≠ [] := by
  unfold escapeTextChar
  split <;> simp

theorem escapeValueChar_ne_nil (c : Char) : escapeValueChar c ≠ [] := by
  unfold escapeValueChar
  split <;> simp

/-- A text can be told from what is written for its characters. -/
theorem IsCode.flatMap_inj {write : Char → List Char} (hcode : IsCode write)
    (hne : ∀ c, write c ≠ []) (h : cs.flatMap write = ds.flatMap write) : cs = ds := by
  induction cs generalizing ds with
  | nil =>
    cases ds with
    | nil => rfl
    | cons d ds => simp [hne] at h
  | cons c cs ih =>
    cases ds with
    | nil => simp [hne] at h
    | cons d ds =>
      rw [List.flatMap_cons, List.flatMap_cons] at h
      obtain rfl := hcode c d _ _ h
      rw [ih (List.append_cancel_left h)]

theorem escapeText_inj (h : escapeText cs = escapeText ds) : cs = ds :=
  isCode_escapeTextChar.flatMap_inj escapeTextChar_ne_nil h

theorem escapeValue_inj (h : escapeValue cs = escapeValue ds) : cs = ds :=
  isCode_escapeValueChar.flatMap_inj escapeValueChar_ne_nil h

theorem not_mem_escapeText (cs : List Char) : '<' ∉ escapeText cs := by
  intro hmem
  obtain ⟨c, -, hc⟩ := List.mem_flatMap.mp hmem
  unfold escapeTextChar at hc
  split at hc
  · exact absurd hc (by decide +kernel)
  · exact absurd hc (by decide +kernel)
  · exact absurd hc (by decide +kernel)
  · next hlt _ => exact hlt (List.mem_singleton.mp hc).symm

theorem not_mem_escapeValue (cs : List Char) : '"' ∉ escapeValue cs := by
  intro hmem
  obtain ⟨c, -, hc⟩ := List.mem_flatMap.mp hmem
  unfold escapeValueChar at hc
  split at hc
  · exact absurd hc (by decide +kernel)
  · exact absurd hc (by decide +kernel)
  · next hquote => exact hquote (List.mem_singleton.mp hc).symm

/-! ## Start tags -/

/-- Whether a character may stand in a tag. -/
def isTagChar (c : Char) : Bool := c.isLower || c.isDigit

/-- Whether a character may stand in the name of an attribute. -/
def isNameChar (c : Char) : Bool := c.isAlphanum || c == '-'

/-- A tag holds small letters and digits, and something. -/
def IsTag (tag : String) : Prop := tag ≠ "" ∧ ∀ c ∈ tag.toList, isTagChar c = true

/-- The name of an attribute holds letters, digits and hyphens, and something. -/
def IsName (name : String) : Prop := name ≠ "" ∧ ∀ c ∈ name.toList, isNameChar c = true

theorem Attribute.markup_append (a : Attribute) (rest : List Char) :
    a.markup ++ rest =
      ' ' :: (a.name.toList ++ '=' :: '"' :: (escapeValue a.value.toList ++ '"' :: rest)) := by
  simp [Attribute.markup]

/-- An attribute can be told from its markup. -/
theorem Attribute.markup_inj {a b : Attribute} (ha : IsName a.name) (hb : IsName b.name)
    (h : a.markup ++ r = b.markup ++ s) : a = b ∧ r = s := by
  obtain ⟨name, value⟩ := a
  obtain ⟨name', value'⟩ := b
  rw [markup_append, markup_append] at h
  have hstops : ∀ rest, StopsAt isNameChar ('=' :: rest) := fun _ => stopsAt_cons (by decide)
  obtain ⟨hname, hbehind⟩ :=
    run_append_inj ha.2 (hstops _) hb.2 (hstops _) (List.cons.inj h).2
  obtain ⟨hvalue, hrest⟩ := append_cons_inj_of_not_mem (not_mem_escapeValue _)
    (not_mem_escapeValue _) (List.cons.inj (List.cons.inj hbehind).2).2
  obtain rfl : name = name' := String.toList_inj.mp hname
  obtain rfl : value = value' := String.toList_inj.mp (escapeValue_inj hvalue)
  exact ⟨rfl, hrest⟩

theorem attributes_inj {as bs : List Attribute} (has : ∀ a ∈ as, IsName a.name)
    (hbs : ∀ b ∈ bs, IsName b.name)
    (h : as.flatMap Attribute.markup ++ '>' :: r = bs.flatMap Attribute.markup ++ '>' :: s) :
    as = bs ∧ r = s := by
  induction as generalizing bs with
  | nil =>
    cases bs with
    | nil => exact ⟨rfl, (List.cons.inj h).2⟩
    | cons b bs => simp [Attribute.markup] at h
  | cons a as ih =>
    cases bs with
    | nil => simp [Attribute.markup] at h
    | cons b bs =>
      rw [List.flatMap_cons, List.flatMap_cons, List.append_assoc, List.append_assoc] at h
      obtain ⟨rfl, hbehind⟩ := Attribute.markup_inj (has a List.mem_cons_self)
        (hbs b List.mem_cons_self) h
      obtain ⟨rfl, hrest⟩ := ih (fun a ha => has a (List.mem_cons_of_mem _ ha))
        (fun b hb => hbs b (List.mem_cons_of_mem _ hb)) hbehind
      exact ⟨rfl, hrest⟩

theorem stopsAt_attributes (as : List Attribute) (rest : List Char) :
    StopsAt isTagChar (as.flatMap Attribute.markup ++ '>' :: rest) := by
  cases as with
  | nil => exact stopsAt_cons (by decide)
  | cons a as =>
    rw [List.flatMap_cons, List.append_assoc, Attribute.markup_append]
    exact stopsAt_cons (by decide)

/-- Tag and attributes can be told from a start tag. -/
theorem Element.startTag_inj {e e' : Element} (htag : IsTag e.tag) (htag' : IsTag e'.tag)
    (hnames : ∀ a ∈ e.attributes, IsName a.name) (hnames' : ∀ a ∈ e'.attributes, IsName a.name)
    (h : e.startTag ++ r = e'.startTag ++ s) :
    e.tag = e'.tag ∧ e.attributes = e'.attributes ∧ r = s := by
  have hwritten : ∀ (e : Element) (rest : List Char), e.startTag ++ rest =
      '<' :: (e.tag.toList ++ (e.attributes.flatMap Attribute.markup ++ '>' :: rest)) := by
    simp [startTag]
  rw [hwritten, hwritten] at h
  obtain ⟨htags, hbehind⟩ := run_append_inj htag.2 (stopsAt_attributes _ _) htag'.2
    (stopsAt_attributes _ _) (List.cons.inj h).2
  obtain ⟨hattributes, hrest⟩ := attributes_inj hnames hnames' hbehind
  exact ⟨String.toList_inj.mp htags, hattributes, hrest⟩

namespace Element

variable {e e' : Element}

theorem isVoid_congr (h : e.tag = e'.tag) : e.isVoid = e'.isVoid := by rw [isVoid, isVoid, h]

theorem isRaw_congr (h : e.tag = e'.tag) : e.isRaw = e'.isRaw := by
  rw [isRaw, isRaw, is, is, is, is, h]

theorem endTag_congr (h : e.tag = e'.tag) : e.endTag = e'.endTag := by rw [endTag, endTag, h]

theorem startTag_congr (h : e.tag = e'.tag) (h' : e.attributes = e'.attributes) :
    e.startTag = e'.startTag := by rw [startTag, startTag, h, h']

end Element

/-! ## Trees that markup can be written for -/

/-- The characters with which an end tag begins. -/
def closer : List Char := ['<', '/']

namespace Node

/-- Whether an element whose texts are written as they are may hold this: nothing, or one text in
which no end tag begins. -/
def IsRawContent : List Node → Prop
  | [] => True
  | [text _ content] => content ≠ "" ∧ ¬ closer <:+: content.toList
  | _ => False

mutual

/-- Whether the markup of a tree says all there is to say about it: its names are names, every text
holds something, and no element holds what may not stand in it. -/
def IsWritable : Node → Prop
  | text _ content => content ≠ ""
  | element _ e children => IsTag e.tag ∧ (∀ a ∈ e.attributes, IsName a.name) ∧
      (e.isVoid = true → children = []) ∧
      if e.isRaw then IsRawContent children else AreWritable children

/-- Whether the markup of some trees says all there is to say about them: no two texts touch, and
each of the trees is such a tree. -/
def AreWritable : List Node → Prop
  | [] => True
  | n :: rest => IsWritable n ∧
      (n.isElement = false → ∀ m, rest.head? = some m → m.isElement = true) ∧ AreWritable rest

end

end Node

/-- A tree without identities and namespaces: tags, attributes and texts. -/
inductive Shape where
  | text (content : String)
  | element (tag : String) (attributes : List Attribute) (children : List Shape)

namespace Node

mutual

/-- The shape of a tree. -/
def shape : Node → Shape
  | text _ content => .text content
  | element _ e children => .element e.tag e.attributes (shapeAll children)

/-- The shapes of a list of trees. -/
def shapeAll : List Node → List Shape
  | [] => []
  | n :: rest => shape n :: shapeAll rest

end

theorem areWritable_cons_iff {n : Node} {rest : List Node} :
    AreWritable (n :: rest) ↔ IsWritable n ∧
      (n.isElement = false → ∀ m, rest.head? = some m → m.isElement = true) ∧
        AreWritable rest := Iff.rfl

/-- Induction on a list of trees, from what is below its first tree and from the others. -/
theorem forestInduction {motive : List Node → Prop} (nil : motive [])
    (text : ∀ id content rest, motive rest → motive (.text id content :: rest))
    (element : ∀ id e children rest, motive children → motive rest →
      motive (.element id e children :: rest)) : ∀ nodes, motive nodes
  | [] => nil
  | .text id content :: rest => text id content rest (forestInduction nil text element rest)
  | .element id e children :: rest =>
    element id e children rest (forestInduction nil text element children)
      (forestInduction nil text element rest)
termination_by nodes => sizeOf nodes

/-! ## Where markup ends -/

/-- A text is over, or it goes on with an end tag. -/
def IsOver (rest : List Char) : Prop := rest = [] ∨ ∃ more, rest = closer ++ more

theorem isOver_closer (more : List Char) : IsOver (closer ++ more) := Or.inr ⟨more, rfl⟩

variable {n m : Node} {nodes : List Node} {id : NodeId} {e : Element} {children : List Node}

/-- The markup of a text begins with another character than a tag does. -/
theorem exists_markup_text {content : String} (h : content ≠ "") :
    ∃ c rest, escapeText content.toList = c :: rest ∧ c ≠ '<' := by
  have hnot := not_mem_escapeText content.toList
  cases hcs : escapeText content.toList with
  | nil =>
    have hnil : content.toList = [] := escapeText_inj (hcs.trans rfl)
    exact absurd (String.toList_eq_nil_iff.mp hnil) h
  | cons c rest =>
    rw [hcs] at hnot
    exact ⟨c, rest, rfl, fun hc => hnot (by rw [hc]; exact List.mem_cons_self)⟩

theorem markup_element (raw : Bool) (id : NodeId) (e : Element) (children : List Node) :
    markup raw (element id e children) =
      e.startTag ++ if e.isVoid then [] else markupAll e.isRaw children ++ e.endTag := by
  rw [markup]
  split
  · exact (List.append_nil _).symm
  · rfl

/-- The markup of an element begins with a tag that is no end tag. -/
theorem exists_markup_element (h : IsWritable (element id e children)) (rest : List Char) :
    ∃ c more, markup false (element id e children) ++ rest = '<' :: c :: more ∧ c ≠ '/' := by
  rw [IsWritable] at h
  obtain ⟨⟨hne, hletters⟩, -⟩ := h
  cases htag : e.tag.toList with
  | nil => exact absurd (String.toList_eq_nil_iff.mp htag) hne
  | cons c tag =>
    rw [markup_element, Element.startTag, htag]
    refine ⟨c, _, rfl, ?_⟩
    rintro rfl
    exact absurd (hletters '/' (by rw [htag]; exact List.mem_cons_self)) (by decide)

/-- Where a tree comes, the markup is not over. -/
theorem not_isOver (h : IsWritable n) (rest : List Char) : ¬ IsOver (markup false n ++ rest) := by
  cases n with
  | text id content =>
    rw [IsWritable] at h
    obtain ⟨c, more, hmarkup, hc⟩ := exists_markup_text h
    rw [markup, if_neg Bool.false_ne_true, hmarkup]
    rintro (hnil | ⟨after, hafter⟩)
    · exact absurd hnil (List.cons_ne_nil _ _)
    · exact hc (List.cons.inj hafter).1
  | element id e children =>
    obtain ⟨c, more, hmarkup, hc⟩ := exists_markup_element h rest
    rw [hmarkup]
    rintro (hnil | ⟨after, hafter⟩)
    · exact absurd hnil (List.cons_ne_nil _ _)
    · exact hc (List.cons.inj (List.cons.inj hafter).2).1

/-- A text ends where a tag begins, if no other text touches it. -/
theorem stopsAt_markupAll (h : AreWritable nodes) (hr : IsOver r)
    (hapart : ∀ m, nodes.head? = some m → m.isElement = true) :
    StopsAt (· != '<') (markupAll false nodes ++ r) := by
  cases nodes with
  | nil =>
    rcases hr with rfl | ⟨more, rfl⟩
    · exact stopsAt_nil
    · exact stopsAt_cons (by simp)
  | cons m rest =>
    cases m with
    | text id content => exact absurd (hapart _ rfl) Bool.false_ne_true
    | element id e children =>
      obtain ⟨hm, -, -⟩ := areWritable_cons_iff.mp h
      obtain ⟨c, more, hmarkup, -⟩ := exists_markup_element hm (markupAll false rest ++ r)
      rw [markupAll, List.append_assoc, hmarkup]
      exact stopsAt_cons (by simp)

/-! ## Raw texts -/

/-- A text without an end tag ends where the first end tag begins. -/
theorem append_closer_inj {a b : List Char} (ha : ¬ closer <:+: a) (hb : ¬ closer <:+: b)
    (h : a ++ (closer ++ r) = b ++ (closer ++ s)) : a = b ∧ r = s := by
  have hnil : ∀ {more r s : List Char}, ¬ closer <:+: more →
      closer ++ r = more ++ (closer ++ s) → more = [] := by
    intro more r s hmore heq
    -- one character more does not do, because an end tag does not begin within another
    match more with
    | [] => rfl
    | [c] => simp [closer] at heq
    | c :: d :: more =>
      obtain ⟨rfl, htail⟩ := List.cons.inj heq
      obtain ⟨rfl, -⟩ := List.cons.inj htail
      exact absurd ⟨[], more, rfl⟩ hmore
  have heq : a = b := by
    rcases List.append_eq_append_iff.mp h with ⟨more, rfl, hmore⟩ | ⟨more, rfl, hmore⟩
    · rw [hnil (fun hin => hb (hin.trans (List.suffix_append a more).isInfix)) hmore,
        List.append_nil]
    · rw [hnil (fun hin => ha (hin.trans (List.suffix_append b more).isInfix)) hmore,
        List.append_nil]
  subst heq
  exact ⟨rfl, List.append_cancel_left (List.append_cancel_left h)⟩

/-- The text in an element says what the element holds, if texts are written as they are. -/
theorem exists_raw (h : IsRawContent children) : ∃ content, markupAll true children = content ∧
    ¬ closer <:+: content ∧
    shapeAll children = if content = [] then [] else [.text (String.ofList content)] := by
  match children, h with
  | [], _ => exact ⟨[], rfl, by decide, rfl⟩
  | [text id content], h =>
    refine ⟨content.toList, by simp [markupAll, markup], h.2, ?_⟩
    rw [if_neg fun hnil => h.1 (String.toList_eq_nil_iff.mp hnil), String.ofList_toList]
    rfl

theorem raw_inj {children' : List Node} (h : IsRawContent children) (h' : IsRawContent children')
    (heq : markupAll true children ++ (closer ++ r) = markupAll true children' ++ (closer ++ s)) :
    shapeAll children = shapeAll children' ∧ r = s := by
  obtain ⟨content, hcontent, hin, hshape⟩ := exists_raw h
  obtain ⟨content', hcontent', hin', hshape'⟩ := exists_raw h'
  rw [hcontent, hcontent'] at heq
  obtain ⟨rfl, hrest⟩ := append_closer_inj hin hin' heq
  exact ⟨hshape.trans hshape'.symm, hrest⟩

/-! ## Decoding -/

/-- The markup of trees tells their shapes, and what follows it. -/
def IsDecodable (nodes : List Node) : Prop :=
  ∀ nodes' r s, AreWritable nodes' → IsOver r → IsOver s →
    markupAll false nodes ++ r = markupAll false nodes' ++ s →
      shapeAll nodes = shapeAll nodes' ∧ r = s

theorem markupAll_cons_append (n : Node) (rest : List Node) (r : List Char) :
    markupAll false (n :: rest) ++ r = markup false n ++ (markupAll false rest ++ r) := by
  rw [markupAll, List.append_assoc]

/-- The start tag of an element can be told from what follows it. -/
theorem startTag_inj {id' : NodeId} {e' : Element} {children' : List Node}
    (h : IsWritable (element id e children)) (h' : IsWritable (element id' e' children'))
    (heq : markup false (element id e children) ++ r =
      markup false (element id' e' children') ++ s) :
    e.tag = e'.tag ∧ e.attributes = e'.attributes ∧
      (if e.isVoid then [] else markupAll e.isRaw children ++ e.endTag) ++ r =
        (if e'.isVoid then [] else markupAll e'.isRaw children' ++ e'.endTag) ++ s := by
  rw [markup_element, markup_element, List.append_assoc, List.append_assoc] at heq
  rw [IsWritable] at h h'
  exact Element.startTag_inj h.1 h'.1 h.2.1 h'.2.1 heq

/-- What an element holds can be told from the markup between its tags. -/
theorem inside_inj {id' : NodeId} {e' : Element} {children' : List Node}
    (h : IsWritable (element id e children)) (h' : IsWritable (element id' e' children'))
    (htag : e.tag = e'.tag) (hchildren : AreWritable children → IsDecodable children)
    (heq : (if e.isVoid then [] else markupAll e.isRaw children ++ e.endTag) ++ r =
      (if e'.isVoid then [] else markupAll e'.isRaw children' ++ e'.endTag) ++ s) :
    shapeAll children = shapeAll children' ∧ r = s := by
  have hcloser : ∀ rest, e.endTag ++ rest = closer ++ (e.tag.toList ++ '>' :: rest) := by
    simp [Element.endTag, closer]
  rw [IsWritable] at h h'
  obtain ⟨-, -, hempty, hcontent⟩ := h
  obtain ⟨-, -, hempty', hcontent'⟩ := h'
  rw [← Element.isVoid_congr htag] at hempty' heq
  rw [← Element.isRaw_congr htag] at hcontent' heq
  rw [← Element.endTag_congr htag] at heq
  cases hv : e.isVoid with
  | true =>
    rw [hv, if_pos rfl, if_pos rfl, List.nil_append, List.nil_append] at heq
    rw [hempty hv, hempty' hv]
    exact ⟨rfl, heq⟩
  | false =>
    rw [hv, if_neg Bool.false_ne_true, if_neg Bool.false_ne_true, List.append_assoc,
      List.append_assoc, hcloser, hcloser] at heq
    -- raw text ends at the first closing tag, other content where its last node is over
    have hinside : shapeAll children = shapeAll children' ∧
        e.tag.toList ++ '>' :: r = e.tag.toList ++ '>' :: s := by
      cases hr : e.isRaw with
      | true =>
        rw [hr, if_pos rfl] at hcontent hcontent'
        rw [hr] at heq
        exact raw_inj hcontent hcontent' heq
      | false =>
        rw [hr, if_neg Bool.false_ne_true] at hcontent hcontent'
        rw [hr] at heq
        obtain ⟨hshape, hrest⟩ := hchildren hcontent _ _ _ hcontent' (isOver_closer _)
          (isOver_closer _) heq
        exact ⟨hshape, List.append_cancel_left hrest⟩
    exact ⟨hinside.1, (List.cons.inj (List.append_cancel_left hinside.2)).2⟩

/-- The markup of a text is not that of an element. -/
theorem markup_text_ne {content : String} (hne : content ≠ "")
    (h : IsWritable (element id e children)) {id' : NodeId} (r s : List Char) :
    markup false (text id' content) ++ r ≠ markup false (element id e children) ++ s := by
  obtain ⟨c, rest, htext, hc⟩ := exists_markup_text hne
  obtain ⟨d, more, helement, -⟩ := exists_markup_element h s
  rw [markup, if_neg Bool.false_ne_true, htext, helement]
  exact fun heq => hc (List.cons.inj heq).1

/-- Where the markup of a tree comes, there is a tree. -/
theorem exists_cons_of_markup (hn : IsWritable n) (hs : IsOver s)
    (heq : markup false n ++ r = markupAll false nodes ++ s) : ∃ m rest, nodes = m :: rest := by
  cases nodes with
  | cons m rest => exact ⟨m, rest, rfl⟩
  | nil =>
    have hover : markup false n ++ r = s := heq
    exact absurd (hover ▸ hs) (not_isOver hn r)

theorem isDecodable_nil : IsDecodable [] := by
  intro nodes' r s h' hr hs heq
  cases nodes' with
  | nil => exact ⟨rfl, heq⟩
  | cons m rest' =>
    obtain ⟨hm, -, -⟩ := areWritable_cons_iff.mp h'
    rw [markupAll_cons_append] at heq
    exact absurd (exists_cons_of_markup hm hr heq.symm) (by simp)

/-- A text that no other text touches can be told from what follows it. -/
theorem isDecodable_text_cons {content : String} {rest : List Node}
    (h : AreWritable (text id content :: rest)) (hrest : IsDecodable rest) :
    IsDecodable (text id content :: rest) := by
  obtain ⟨hn, hapart, hwritable⟩ := areWritable_cons_iff.mp h
  intro nodes' r s h' hr hs heq
  rw [markupAll_cons_append] at heq
  obtain ⟨m, rest', rfl⟩ := exists_cons_of_markup hn hs heq
  obtain ⟨hm, hapart', hwritable'⟩ := areWritable_cons_iff.mp h'
  rw [markupAll_cons_append] at heq
  cases m with
  | element id' e' children' => exact absurd heq (markup_text_ne hn hm _ _)
  | text id' content' =>
    have hrun : ∀ cs : List Char, ∀ c ∈ escapeText cs, (c != '<') = true := fun cs c hc =>
      bne_iff_ne.mpr (ne_of_mem_of_not_mem hc (not_mem_escapeText cs))
    obtain ⟨htext, hbehind⟩ := run_append_inj (hrun _)
      (stopsAt_markupAll hwritable hr (hapart rfl)) (hrun _)
      (stopsAt_markupAll hwritable' hs (hapart' rfl)) heq
    obtain rfl : content = content' := String.toList_inj.mp (escapeText_inj htext)
    obtain ⟨hshape, hend⟩ := hrest _ _ _ hwritable' hr hs hbehind
    exact ⟨congrArg (Shape.text content :: ·) hshape, hend⟩

/-- An element can be told from what follows it, if what it holds can be told from an end tag. -/
theorem isDecodable_element_cons {rest : List Node}
    (h : AreWritable (element id e children :: rest))
    (hchildren : AreWritable children → IsDecodable children) (hrest : IsDecodable rest) :
    IsDecodable (element id e children :: rest) := by
  obtain ⟨hn, -, hwritable⟩ := areWritable_cons_iff.mp h
  intro nodes' r s h' hr hs heq
  rw [markupAll_cons_append] at heq
  obtain ⟨m, rest', rfl⟩ := exists_cons_of_markup hn hs heq
  obtain ⟨hm, -, hwritable'⟩ := areWritable_cons_iff.mp h'
  rw [markupAll_cons_append] at heq
  cases m with
  | text id' content' => exact absurd heq.symm (markup_text_ne hm hn _ _)
  | element id' e' children' =>
    obtain ⟨htag, hattributes, hbehind⟩ := startTag_inj hn hm heq
    obtain ⟨hinside, hafter⟩ := inside_inj hn hm htag hchildren hbehind
    obtain ⟨hshape, hend⟩ := hrest _ _ _ hwritable' hr hs hafter
    refine ⟨?_, hend⟩
    rw [shapeAll, shapeAll, shape, shape, htag, hattributes, hinside, hshape]

/-- Trees that markup can be written for are told by it. -/
theorem AreWritable.isDecodable (h : AreWritable nodes) : IsDecodable nodes := by
  induction nodes using forestInduction with
  | nil => exact isDecodable_nil
  | text id content rest ih =>
    obtain ⟨-, -, hrest⟩ := areWritable_cons_iff.mp h
    exact isDecodable_text_cons h (ih hrest)
  | element id e children rest ihchildren ih =>
    obtain ⟨-, -, hrest⟩ := areWritable_cons_iff.mp h
    exact isDecodable_element_cons h ihchildren (ih hrest)

/-- Identities and namespaces are not written. -/
theorem markupAll_congr {nodes' : List Node} (h : shapeAll nodes = shapeAll nodes') (raw : Bool) :
    markupAll raw nodes = markupAll raw nodes' := by
  induction nodes using forestInduction generalizing nodes' raw with
  | nil =>
    cases nodes' with
    | nil => rfl
    | cons m rest' => exact absurd h (by simp [shapeAll])
  | text id content rest ih =>
    cases nodes' with
    | nil => exact absurd h (by simp [shapeAll])
    | cons m rest' =>
      obtain ⟨hm, hrest⟩ := List.cons.inj h
      cases m with
      | text id' content' =>
        obtain rfl := Shape.text.inj hm
        rw [markupAll, markupAll, ih hrest]
        rfl
      | element id' e' children' => exact Shape.noConfusion hm
  | element id e children rest ihchildren ih =>
    cases nodes' with
    | nil => exact absurd h (by simp [shapeAll])
    | cons m rest' =>
      obtain ⟨hm, hrest⟩ := List.cons.inj h
      cases m with
      | text id' content' => exact Shape.noConfusion hm
      | element id' e' children' =>
        obtain ⟨htag, hattributes, hchildren⟩ := Shape.element.inj hm
        rw [markupAll, markupAll, ih hrest, markup_element, markup_element,
          Element.startTag_congr htag hattributes, Element.isVoid_congr htag,
          Element.isRaw_congr htag, Element.endTag_congr htag, ihchildren hchildren]

end Node

namespace Document

/-- Documents that markup can be written for, with the same document type, have the same markup
exactly if they are the same up to identities and namespaces: trees of the same tags, attributes
with the same names and values in the same order, and texts. -/
theorem markup_is_read_in_one_way {d d' : Document} (hdoctype : d.doctype = d'.doctype)
    (hd : Node.AreWritable d.children) (hd' : Node.AreWritable d'.children) :
    d.toHtml = d'.toHtml ↔ Node.shapeAll d.children = Node.shapeAll d'.children := by
  constructor
  · intro h
    have hmarkup := String.ofList_inj.mp h
    rw [markup, markup, hdoctype] at hmarkup
    have hchildren : Node.markupAll false d.children ++ [] =
        Node.markupAll false d'.children ++ [] :=
      congrArg (· ++ []) (List.append_cancel_left hmarkup)
    exact (hd.isDecodable _ _ _ hd' (Or.inl rfl) (Or.inl rfl) hchildren).1
  · intro h
    rw [toHtml, toHtml, markup, markup, hdoctype, Node.markupAll_congr h]

/-- A void element between two texts, beside style text, with signs that are escaped in one place
and not in another. -/
def signsDocument (first : NodeId) (vocabulary : Vocabulary) : Document where
  doctype := some ⟨"html", "", ""⟩
  mode := .noQuirks
  children := [.element first ⟨"p", vocabulary, [⟨"a-1", "\"&<"⟩]⟩
    [.text (first + 1) "&lt;", .element (first + 2) ⟨"br", .html, []⟩ [],
      .text (first + 3) "<b>", .element (first + 4) ⟨"style", .html, []⟩
        [.text (first + 5) "a<b"]]]
  nextId := first + 6

theorem areWritable_signsDocument (first : NodeId) (vocabulary : Vocabulary) :
    Node.AreWritable (signsDocument first vocabulary).children := by
  have hname : IsName "a-1" := ⟨by decide, forall_mem_of_all (by decide +kernel)⟩
  have hp : IsTag "p" := ⟨by decide, forall_mem_of_all (by decide +kernel)⟩
  have hbr : IsTag "br" := ⟨by decide, forall_mem_of_all (by decide +kernel)⟩
  have hstyle : IsTag "style" := ⟨by decide, forall_mem_of_all (by decide +kernel)⟩
  have hraw : ¬ closer <:+: ['a', '<', 'b'] := by decide
  have hplain : ∀ tag ∈ ["p", "br"], Ascii.sameName tag "style" = false ∧
      Ascii.sameName tag "script" = false := by decide +kernel
  have hp' := hplain "p" (by simp)
  have hbr' := hplain "br" (by simp)
  have hstyle' : Ascii.sameName "style" "style" = true := by decide +kernel
  simp [signsDocument, Node.AreWritable, Node.IsWritable, Node.IsRawContent, Node.isElement,
    Node.element?, Element.isVoid, voidTags, Element.isRaw, Element.is, hname, hp, hbr, hstyle,
    hraw, hp', hbr', hstyle']

theorem renumbered_documents_have_the_same_shape :
    Node.AreWritable (signsDocument 0 .html).children ∧
      Node.AreWritable (signsDocument 9 .svg).children ∧
      (signsDocument 9 .svg).toHtml = "<!DOCTYPE html><p a-1=\"&quot;&amp;<\">&amp;lt;<br>" ++
        "&lt;b&gt;<style>a<b</style></p>" ∧
      (signsDocument 9 .svg).toHtml = (signsDocument 0 .html).toHtml ∧
      Node.shapeAll (signsDocument 9 .svg).children =
        Node.shapeAll (signsDocument 0 .html).children := by
  have hone := areWritable_signsDocument 0 .html
  have hother := areWritable_signsDocument 9 .svg
  have hdoctype : (signsDocument 9 .svg).doctype = (signsDocument 0 .html).doctype := rfl
  have hmarkup : (signsDocument 9 .svg).toHtml = (signsDocument 0 .html).toHtml := by
    decide +kernel
  exact ⟨hone, hother, by decide +kernel, hmarkup,
    (markup_is_read_in_one_way hdoctype hother hone).mp hmarkup⟩

end Document

end MediaQuery.Dom
