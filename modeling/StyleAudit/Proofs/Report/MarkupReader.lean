import StyleAudit.Proofs.Report.Shown

/-!
# Reading markup

A reader of markup finds tags, which start at `<` and end at the next `>`, and characters between
them, some of them written as entities.  Markup is read as it was composed (`Markup.read_write`): an
element is its tags around what is read of its content, and a text, being escaped, holds no tag and
is decoded to itself (`Markup.Entities.decode_escape`).  What a reader finds in elements of a name
is put together from the pieces of the markup (`Markup.Finds`).
-/

namespace StyleAudit.Markup

/-! ### Reading markup -/

/-- What a reader finds in markup. -/
inductive Token where
  /-- What stands between `<` and `>`. -/
  | tag (body : List Char)
  /-- A character between tags. -/
  | char (c : Char)

/-- What a tag says. -/
def Token.tag? : Token → Option (List Char)
  | .tag body => some body
  | .char _ => none

/-- Reads on between tags, or in a tag of which a part (kept in reverse) is read. -/
def readFrom : Option (List Char) → List Char → List Token
  | _, [] => []
  | none, c :: t => if c = '<' then readFrom (some []) t else .char c :: readFrom none t
  | some body, c :: t =>
    if c = '>' then .tag body.reverse :: readFrom none t else readFrom (some (c :: body)) t

/-- Reads markup. -/
def read (t : List Char) : List Token := readFrom none t

/-- The tags among what is read. -/
def tagsOf (toks : List Token) : List (List Char) := toks.filterMap Token.tag?

/-- The tags of markup with their attributes, in order. -/
def tags (s : String) : List (List Char) := tagsOf (read s.toList)

/-- The characters of a text. -/
def chars (t : List Char) : List Token := t.map .char

theorem read_text {s : List Char} (h : '<' ∉ s) (t : List Char) :
    read (s ++ t) = chars s ++ read t := by
  induction s with
  | nil => rfl
  | cons c s ih =>
    obtain ⟨hc, hs⟩ := not_or.1 (mt List.mem_cons.2 h)
    rw [List.cons_append, read, readFrom, if_neg (Ne.symm hc)]
    exact congrArg _ (ih hs)

theorem read_tag {body : List Char} (h : '>' ∉ body) (t : List Char) :
    read ('<' :: body ++ '>' :: t) = .tag body :: read t := by
  -- the induction is on what is left of the tag, whatever is read of it
  have hbody (seen : List Char) :
      readFrom (some seen) (body ++ '>' :: t) = .tag (seen.reverse ++ body) :: read t := by
    induction body generalizing seen with
    | nil =>
      rw [List.nil_append, readFrom, if_pos rfl, List.append_nil]
      rfl
    | cons c body ih =>
      obtain ⟨hc, hbody⟩ := not_or.1 (mt List.mem_cons.2 h)
      rw [List.cons_append, readFrom, if_neg (Ne.symm hc), ih hbody, List.reverse_cons,
        List.append_assoc]
      rfl
  show readFrom (some []) (body ++ '>' :: t) = _
  exact hbody []

@[simp] theorem tagsOf_nil : tagsOf [] = [] := rfl

@[simp] theorem tagsOf_cons_tag (body : List Char) (toks : List Token) :
    tagsOf (.tag body :: toks) = body :: tagsOf toks := rfl

@[simp] theorem tagsOf_append (toks more : List Token) :
    tagsOf (toks ++ more) = tagsOf toks ++ tagsOf more := List.filterMap_append

@[simp] theorem tagsOf_chars (t : List Char) : tagsOf (chars t) = [] := by
  induction t with
  | nil => rfl
  | cons c t ih => exact ih

/-! ### Entities -/

/-- The entities that a reader knows; the four that markup uses are among them. -/
structure Entities where
  /-- The character that a name stands for. -/
  find? : List Char → Option Char
  /-- The ampersand. -/
  amp : find? "amp".toList = some '&'
  /-- The opening bracket. -/
  lt : find? "lt".toList = some '<'
  /-- The closing bracket. -/
  gt : find? "gt".toList = some '>'
  /-- The quotation mark. -/
  quot : find? "quot".toList = some '"'

namespace Entities

/-- A reader that knows no other entities. -/
def basic : Entities where
  find? name :=
    if name = "amp".toList then some '&'
    else if name = "lt".toList then some '<'
    else if name = "gt".toList then some '>'
    else if name = "quot".toList then some '"'
    else none
  amp := by decide
  lt := by decide
  gt := by decide
  quot := by decide

variable (e : Entities)

/-- What stands for an entity; one that is not known stands for itself. -/
def resolve (name : List Char) : List Char :=
  match e.find? name with
  | some c => [c]
  | none => '&' :: name ++ [';']

/-- Decodes on between entities, or in one of which a part (kept in reverse) is read. -/
def decodeFrom : Option (List Char) → List Char → List Char
  | none, [] => []
  | none, c :: t => if c = '&' then decodeFrom (some []) t else c :: decodeFrom none t
  | some name, [] => '&' :: name.reverse
  | some name, c :: t =>
    if c = ';' then e.resolve name.reverse ++ decodeFrom none t
    else if c = '&' then '&' :: name.reverse ++ decodeFrom (some []) t
    else decodeFrom (some (c :: name)) t

/-- A text with its entities replaced by what they stand for. -/
def decode (t : List Char) : List Char := e.decodeFrom none t

theorem decode_entity {name : List Char} {c : Char} (hfind : e.find? name = some c)
    (h : ';' ∉ name ∧ '&' ∉ name) (t : List Char) :
    e.decode ('&' :: name ++ ';' :: t) = c :: e.decode t := by
  have hname (seen rest : List Char) (h : ';' ∉ rest ∧ '&' ∉ rest) :
      e.decodeFrom (some seen) (rest ++ ';' :: t) =
        e.resolve (seen.reverse ++ rest) ++ e.decode t := by
    induction rest generalizing seen with
    | nil =>
      rw [List.nil_append, decodeFrom, if_pos rfl, List.append_nil]
      rfl
    | cons d rest ih =>
      simp only [List.mem_cons, not_or] at h
      rw [List.cons_append, decodeFrom, if_neg (Ne.symm h.1.1), if_neg (Ne.symm h.2.1),
        ih _ ⟨h.1.2, h.2.2⟩, List.reverse_cons, List.append_assoc]
      rfl
  show e.decodeFrom (some []) (name ++ ';' :: t) = _
  rw [hname [] name h, List.reverse_nil, List.nil_append, resolve, hfind]
  rfl

/-- A reader knows what each of the entities stands for. -/
theorem find?_of_mem {c : Char} {name : String} (h : (c, name) ∈ entities) :
    e.find? name.toList = some c := by
  simp only [entities, List.mem_cons, Prod.mk.injEq, List.not_mem_nil, or_false] at h
  obtain ⟨rfl, rfl⟩ | ⟨rfl, rfl⟩ | ⟨rfl, rfl⟩ | ⟨rfl, rfl⟩ := h
  · exact e.amp
  · exact e.lt
  · exact e.gt
  · exact e.quot

theorem decode_write {write : Char → List Char} (h : Escapes write) (c : Char) (t : List Char) :
    e.decode (write c ++ t) = c :: e.decode t := by
  by_cases hc : c ∈ entities.map Prod.fst
  · obtain ⟨⟨c, name⟩, hentity, rfl⟩ := List.mem_map.1 hc
    have hname : ∀ entity ∈ entities, ';' ∉ entity.2.toList ∧ '&' ∉ entity.2.toList := by decide
    rw [h.entity hentity, List.append_assoc]
    exact e.decode_entity (e.find?_of_mem hentity) (hname _ hentity) t
  · have hne : c ≠ '&' := by
      rintro rfl
      exact hc (by decide)
    rw [h.other hc, List.singleton_append, decode, decodeFrom, if_neg hne]
    rfl

/-- **Escaped text is decoded to the text.** -/
theorem decode_escape (s : String) : e.decode (escape s) = s.toList := by
  have hdecode (t : List Char) : e.decode (t.flatMap escapeChar) = t := by
    induction t with
    | nil => rfl
    | cons c t ih => rw [List.flatMap_cons, e.decode_write escapes_escapeChar, ih]
  exact hdecode s.toList

end Entities

theorem escape_append (s t : String) : escape (s ++ t) = escape s ++ escape t := by
  rw [escape, String.toList_append, List.flatMap_append]
  rfl

/-! ### Markup as it is read -/

/-- What an opening tag says. -/
def tagBody (tag : String) (attributes : List (String × String)) : List Char :=
  tag.toList ++ writeAttributes attributes

/-- What a closing tag says. -/
def closingBody (tag : String) : List Char := '/' :: tag.toList

mutual

/-- What a reader finds in a piece of markup. -/
def tokens : Markup → List Token
  | .text s => chars (escape s)
  | .raw s => chars s.toList
  | .void tag attributes => [.tag (tagBody tag attributes)]
  | .element tag attributes content =>
    .tag (tagBody tag attributes) :: tokensAll content ++ [.tag (closingBody tag)]

/-- What a reader finds in pieces of markup. -/
def tokensAll : List Markup → List Token
  | [] => []
  | m :: ms => tokens m ++ tokensAll ms

end

mutual

/-- No name ends a tag, and no tag starts in what is written as it stands. -/
def Proper : Markup → Prop
  | .text _ => True
  | .raw s => '<' ∉ s.toList
  | .void tag attributes => ProperTag tag attributes
  | .element tag attributes content => ProperTag tag attributes ∧ ProperAll content

/-- All pieces are proper. -/
def ProperAll : List Markup → Prop
  | [] => True
  | m :: ms => Proper m ∧ ProperAll ms

end

variable {tag : String} {attributes : List (String × String)}

theorem ProperTag.read_opening (h : ProperTag tag attributes) (t : List Char) :
    read (opening tag attributes ++ t) = .tag (tagBody tag attributes) :: read t := by
  have := read_tag h.notMem_opening t
  simpa [opening, tagBody] using this

theorem ProperTag.read_closing (h : ProperTag tag attributes) (t : List Char) :
    read (closing tag ++ t) = .tag (closingBody tag) :: read t := by
  have hbody : '>' ∉ closingBody tag := by simp [closingBody, h.tag]
  have := read_tag hbody t
  simpa [closing, closingBody] using this

theorem read_escape (s : String) (t : List Char) :
    read (escape s ++ t) = chars (escape s) ++ read t :=
  read_text (notMem_escape (.inl rfl) s) t

mutual

/-- **Markup is read as it was composed**, whatever follows it. -/
theorem read_write : (m : Markup) → Proper m → ∀ t, read (write m ++ t) = tokens m ++ read t
  | .text s, _, t => read_escape s t
  | .raw _, h, t => read_text h t
  | .void _ _, h, t => h.read_opening t
  | .element tag attributes content, h, t => by
    -- the closing tag is what follows the content
    rw [write, List.append_assoc, List.append_assoc, h.1.read_opening, read_writeAll content h.2,
      h.1.read_closing, tokens]
    simp

theorem read_writeAll :
    (ms : List Markup) → ProperAll ms → ∀ t, read (writeAll ms ++ t) = tokensAll ms ++ read t
  | [], _, _ => rfl
  | m :: ms, h, t => by
    rw [writeAll, List.append_assoc, read_write m h.1, read_writeAll ms h.2, tokensAll,
      List.append_assoc]

end

theorem tokensAll_append (ms ms' : List Markup) :
    tokensAll (ms ++ ms') = tokensAll ms ++ tokensAll ms' := by
  induction ms with
  | nil => rfl
  | cons m ms ih => rw [List.cons_append, tokensAll, ih, tokensAll, List.append_assoc]

theorem properAll_iff {ms : List Markup} : ProperAll ms ↔ ∀ m ∈ ms, Proper m := by
  induction ms with
  | nil => simp [ProperAll]
  | cons m ms ih => rw [ProperAll, ih, List.forall_mem_cons]

theorem proper_plain {content : List Markup} (h : '>' ∉ tag.toList) (hcontent : ProperAll content) :
    Proper (plain tag content) := ⟨properTag_plain h, hcontent⟩

theorem proper_plain_text (h : '>' ∉ tag.toList) (s : String) : Proper (plain tag [.text s]) :=
  proper_plain h ⟨trivial, trivial⟩

/-! ### Texts in elements -/

/-- The name of a tag stands before its attributes. -/
def tagName (body : List Char) : List Char := body.takeWhile (· != ' ')

/-- The characters up to the next tag. -/
def textBehind : List Token → List Char
  | .char c :: rest => c :: textBehind rest
  | _ => []

/-- The texts behind the tags of a name, with their entities decoded. -/
def textsIn (e : Entities) (name : String) : List Token → List (List Char)
  | [] => []
  | .char _ :: rest => textsIn e name rest
  | .tag body :: rest =>
    if tagName body = name.toList then e.decode (textBehind rest) :: textsIn e name rest
    else textsIn e name rest

/-- The texts in elements of a name in markup. -/
def textsOf (e : Entities) (name : String) (s : String) : List (List Char) :=
  textsIn e name (read s.toList)

/-- A name that is cut off whole, and is no closing tag. -/
def IsName (name : String) : Prop := ' ' ∉ name.toList ∧ '/' ∉ name.toList

instance (name : String) : Decidable (IsName name) := inferInstanceAs (Decidable (_ ∧ _))

variable {e : Entities} {name : String} {toks more : List Token} {texts texts' : List (List Char)}

theorem tagName_tagBody (h : IsName tag) (attributes : List (String × String)) :
    tagName (tagBody tag attributes) = tag.toList := by
  have htag : ∀ c ∈ tag.toList, (c != ' ') = true := by
    intro c hc
    rw [bne_iff_ne]
    rintro rfl
    exact h.1 hc
  rw [tagName, tagBody, List.takeWhile_append_of_pos htag]
  cases attributes with
  | nil => exact List.append_nil _
  | cons a attributes => exact List.append_nil _

theorem tagName_closingBody_ne (h : IsName name) (tag : String) :
    tagName (closingBody tag) ≠ name.toList := by
  intro heq
  refine h.2 ?_
  rw [← heq]
  exact List.mem_cons_self

/-- These texts are found in elements of a name, whatever follows. -/
def Finds (e : Entities) (name : String) (toks : List Token) (texts : List (List Char)) : Prop :=
  ∀ rest, textsIn e name (toks ++ rest) = texts ++ textsIn e name rest

theorem finds_nil : Finds e name (tokensAll []) [] := fun _ => rfl

theorem Finds.append (h : Finds e name toks texts) (h' : Finds e name more texts') :
    Finds e name (toks ++ more) (texts ++ texts') := by
  intro rest
  rw [List.append_assoc, h, h', List.append_assoc]

theorem finds_chars (t : List Char) : Finds e name (chars t) [] := by
  intro rest
  induction t with
  | nil => rfl
  | cons c t ih => exact ih

theorem Finds.cons {m : Markup} {ms : List Markup} (h : Finds e name (tokens m) texts)
    (hs : Finds e name (tokensAll ms) texts') :
    Finds e name (tokensAll (m :: ms)) (texts ++ texts') := h.append hs

/-- A text alone is in no element. -/
theorem Finds.text_cons (s : String) {ms : List Markup} (h : Finds e name (tokensAll ms) texts) :
    Finds e name (tokensAll (.text s :: ms)) texts := (finds_chars (escape s)).append h

theorem finds_tag {body : List Char} (h : tagName body ≠ name.toList) :
    Finds e name [.tag body] [] := by
  intro rest
  rw [List.singleton_append, textsIn, if_neg h]
  rfl

theorem textBehind_chars (t body : List Char) (rest : List Token) :
    textBehind (chars t ++ .tag body :: rest) = t := by
  induction t with
  | nil => rfl
  | cons c t ih => exact congrArg (c :: ·) ih

theorem finds_opening (htag : IsName tag) (hne : tag ≠ name) (attributes : List (String × String)) :
    Finds e name [.tag (tagBody tag attributes)] [] := by
  refine finds_tag ?_
  rw [tagName_tagBody htag]
  exact fun heq => hne (String.toList_injective heq)

theorem finds_closing (hname : IsName name) (tag : String) :
    Finds e name [.tag (closingBody tag)] [] := finds_tag (tagName_closingBody_ne hname tag)

/-- An element of another name holds what its content holds. -/
theorem Finds.element {content : List Markup} (hname : IsName name) (htag : IsName tag)
    (hne : tag ≠ name) (h : Finds e name (tokensAll content) texts) :
    Finds e name (tokens (.element tag attributes content)) texts := by
  have hall := ((finds_opening htag hne attributes).append h).append (finds_closing hname tag)
  rwa [List.nil_append, List.append_nil] at hall

/-- In an element of that name its text is found. -/
theorem finds_text {content : List Markup} {s : String} (hname : IsName name)
    (h : tokensAll content = chars (escape s)) :
    Finds e name (tokens (.element name attributes content)) [s.toList] := by
  intro rest
  have hclosing := tagName_closingBody_ne hname name
  rw [tokens, h, List.cons_append, List.cons_append, List.append_assoc, textsIn,
    if_pos (tagName_tagBody hname attributes), List.singleton_append, textBehind_chars,
    e.decode_escape, finds_chars, textsIn, if_neg hclosing]
  rfl

theorem finds_map {α : Type} {f : α → Markup} {g : α → List (List Char)} {items : List α}
    (h : ∀ a ∈ items, Finds e name (tokens (f a)) (g a)) :
    Finds e name (tokensAll (items.map f)) (items.flatMap g) := by
  induction items with
  | nil => exact finds_nil
  | cons a items ih =>
    obtain ⟨ha, hitems⟩ := List.forall_mem_cons.1 h
    exact ha.cons (ih hitems)

end StyleAudit.Markup
