import ConfigBrowser.Proofs.Store.Numbering
import Mathlib

/-!
# What Stands in front of the Root Element

A document may begin with blanks, processing instructions, comments and a document type declaration.
All but the blanks begin with a `<` that a question mark or an exclamation mark follows, and the
search for the root element passes over these two characters. It does not pass over what they begin:
a `<` inside of a comment, an instruction or a quoted text is taken for that of an element, unless
another such mark follows it.

What stands in front of the root element ends with a blank or with `>`, at which a name ends, too.
So the first `<` that is taken for that of an element decides alone: the search comes to the root
element if there is none in front of it, and never if there is one.

## Main results

* `IsProlog`: the texts that may stand in front of the root element.
* `rootElement_append_of_quiet`, `rootElement_append_of_firstOpening`: what the search finds behind
  a prolog.
* `MemoryStore.stored_kind_iff`: when a new entity gets the type of its document.
-/

namespace ConfigBrowser.Store

/-! ### Prologs -/

/-- The inside of a document type declaration without declarations of its own. Between quotes stands
anything. -/
inductive IsDoctypeText : List Char → Prop where
  | nil : IsDoctypeText []
  | plain {c : Char} {text : List Char} (hc : c ∉ ['<', '>', '[', ']', '"', '\x27'])
      (h : IsDoctypeText text) : IsDoctypeText (c :: text)
  | quoted {quote : Char} {inside text : List Char} (hquote : quote ∈ ['"', '\x27'])
      (hinside : quote ∉ inside) (h : IsDoctypeText text) :
      IsDoctypeText (quote :: (inside ++ quote :: text))

/-- A blank, a processing instruction, a comment or a document type declaration. Instructions and
comments end where they can end first. -/
inductive IsPrologItem : List Char → Prop where
  | blank {c : Char} (h : Text.isBlank c = true) : IsPrologItem [c]
  | instruction {text : List Char} (h : ¬ ['?', '>'] <:+: text) :
      IsPrologItem (['<', '?'] ++ text ++ ['?', '>'])
  | comment {text : List Char} (h : ¬ ['-', '-', '>'] <:+: text) :
      IsPrologItem (['<', '!', '-', '-'] ++ text ++ ['-', '-', '>'])
  | doctype {text : List Char} (h : IsDoctypeText text) :
      IsPrologItem ("<!DOCTYPE".toList ++ text ++ ['>'])

/-- What may stand in front of the root element. -/
inductive IsProlog : List Char → Prop where
  | nil : IsProlog []
  | cons {item prolog : List Char} (hitem : IsPrologItem item) (h : IsProlog prolog) :
      IsProlog (item ++ prolog)

/-- The name of an element. -/
structure IsElementName (name : List Char) : Prop where
  ne_nil : name ≠ []
  not_markup : opensMarkup name = false
  plain : ∀ c ∈ name, c ≠ '<' ∧ endsName c = false

/-! ### Openings -/

/-- Does no `<` of a text open an element? -/
def IsQuiet (text : List Char) : Prop :=
  ∀ behind, '<' :: behind <:+ text → opensMarkup behind = true

/-- Does the first `<` of a text that opens an element stand before `behind`? -/
structure FirstOpening (text behind : List Char) : Prop where
  isSuffix : '<' :: behind <:+ text
  opens : opensMarkup behind = false
  first : ∀ more, '<' :: more <:+ text → behind.length < more.length → opensMarkup more = true

/-- In an empty text nothing is taken for the start of an element. -/
theorem isQuiet_nil : IsQuiet [] := fun _ hsuffix => by cases List.suffix_nil.1 hsuffix

/-- A text is quiet if its first character begins no element and the rest is quiet. -/
theorem isQuiet_cons_iff {c : Char} {text : List Char} :
    IsQuiet (c :: text) ↔ (c = '<' → opensMarkup text = true) ∧ IsQuiet text := by
  constructor
  · intro h
    exact ⟨fun hc => h text (hc ▸ List.suffix_refl _),
      fun behind hsuffix => h behind (hsuffix.trans (List.suffix_cons c text))⟩
  · rintro ⟨hhead, htail⟩ behind hsuffix
    rcases List.suffix_cons_iff.1 hsuffix with heq | hsuffix
    · obtain ⟨rfl, rfl⟩ := List.cons.inj heq
      exact hhead rfl
    · exact htail behind hsuffix

namespace FirstOpening

variable {c : Char} {text behind : List Char}

/-- A text that begins with the start of an element begins with the first one. -/
theorem here (h : opensMarkup text = false) : FirstOpening ('<' :: text) text where
  isSuffix := List.suffix_refl _
  opens := h
  first more hsuffix hlength := by
    have hle := hsuffix.length_le
    simp only [List.length_cons] at hle
    omega

/-- The first opening stays the first one behind a character that begins no element. -/
theorem cons (hc : c = '<' → opensMarkup text = true) (h : FirstOpening text behind) :
    FirstOpening (c :: text) behind where
  isSuffix := h.isSuffix.trans (List.suffix_cons c text)
  opens := h.opens
  first more hsuffix hlength := by
    rcases List.suffix_cons_iff.1 hsuffix with heq | hsuffix
    · obtain ⟨rfl, rfl⟩ := List.cons.inj heq
      exact hc rfl
    · exact h.first more hsuffix hlength

/-- The first opening is at the first character or behind it. -/
theorem cases_cons (h : FirstOpening (c :: text) behind) :
    (c = '<' ∧ behind = text) ∨
      ((c = '<' → opensMarkup text = true) ∧ FirstOpening text behind) := by
  rcases List.suffix_cons_iff.1 h.isSuffix with heq | hsuffix
  · obtain ⟨rfl, rfl⟩ := List.cons.inj heq
    exact .inl ⟨rfl, rfl⟩
  · have hlength : behind.length < text.length := hsuffix.length_le
    refine .inr ⟨fun hc => h.first text (hc ▸ List.suffix_refl _) hlength, hsuffix, h.opens, ?_⟩
    exact fun more hmore => h.first more (hmore.trans (List.suffix_cons c text))

end FirstOpening

/-- A text is quiet or has a first opening. -/
theorem isQuiet_or_firstOpening (text : List Char) :
    IsQuiet text ∨ ∃ behind, FirstOpening text behind := by
  induction text with
  | nil => exact .inl isQuiet_nil
  | cons c text ih =>
      by_cases hc : c = '<' ∧ opensMarkup text = false
      · obtain ⟨rfl, hopens⟩ := hc
        exact .inr ⟨text, .here hopens⟩
      · have hmarkup : c = '<' → opensMarkup text = true :=
          fun h => (Bool.not_eq_false _).mp fun hopens => hc ⟨h, hopens⟩
        rcases ih with hquiet | ⟨behind, hfirst⟩
        · exact .inl (isQuiet_cons_iff.2 ⟨hmarkup, hquiet⟩)
        · exact .inr ⟨behind, hfirst.cons hmarkup⟩

/-- A quiet text has no first opening. -/
theorem IsQuiet.not_firstOpening {text behind : List Char} (h : IsQuiet text) :
    ¬ FirstOpening text behind := by
  intro hfirst
  cases hfirst.opens.symm.trans (h behind hfirst.isSuffix)

/-! ### Names at the end of a text -/

/-- The characters in front of the first one that ends a name. -/
def nameAt (text : List Char) : List Char := text.takeWhile fun c => !endsName c

/-- Does a name end at the end of a text at the latest? -/
def IsClosed (text : List Char) : Prop := ∀ c, text.getLast? = some c → endsName c = true

/-- An empty text leaves no name open. -/
theorem isClosed_nil : IsClosed [] := fun _ h => by cases h

/-- A text that ends with a character that ends names leaves none open. -/
theorem isClosed_concat {c : Char} (h : endsName c = true) (text : List Char) :
    IsClosed (text ++ [c]) := by
  intro d hd
  rw [List.getLast?_concat] at hd
  exact Option.some.inj hd ▸ h

namespace IsClosed

/-- What is left of a closed text when its first character is taken away is closed. -/
theorem tail {c : Char} {text : List Char} (h : IsClosed (c :: text)) : IsClosed text := by
  intro d hd
  cases text with
  | nil => cases hd
  | cons e rest => exact h d (List.getLast?_cons_cons.trans hd)

/-- Closed texts one behind the other are closed. -/
theorem append {s t : List Char} (hs : IsClosed s) (ht : IsClosed t) : IsClosed (s ++ t) := by
  intro c hc
  cases t with
  | nil => exact hs c (by simpa using hc)
  | cons d rest => exact ht c (by rwa [List.getLast?_append_cons] at hc)

/-- What stands behind a text in which a name ends does not become part of the name. -/
theorem nameAt_append {text : List Char} (h : IsClosed text) (hne : text ≠ []) (s : List Char) :
    nameAt (text ++ s) = nameAt text := by
  induction text with
  | nil => exact absurd rfl hne
  | cons c rest ih =>
      rw [nameAt, nameAt, List.cons_append, List.takeWhile_cons, List.takeWhile_cons]
      cases hc : endsName c with
      | true => rfl
      | false =>
          have hrest : rest ≠ [] := by
            rintro rfl
            cases hc.symm.trans (h c rfl)
          have hname : nameAt (rest ++ s) = nameAt rest := ih h.tail hrest
          rw [nameAt, nameAt] at hname
          simp [hname]

end IsClosed

/-- The name that the search reads ends where names end, and it must not be empty. -/
theorem elementName_eq (text : List Char) :
    elementName text = if nameAt text = [] then none else some (nameAt text) := rfl

/-! ### The search behind a prolog -/

/-- Whether a text opens markup is decided by its first character. -/
theorem opensMarkup_append {text : List Char} (hne : text ≠ []) (s : List Char) :
    opensMarkup (text ++ s) = opensMarkup text := by
  cases text with
  | nil => exact absurd rfl hne
  | cons c rest => rfl

/-- The search passes over a quiet text. -/
theorem rootElement_append_of_quiet {text : List Char} (h : IsQuiet text) (s : List Char) :
    rootElement (text ++ s) = rootElement s := by
  induction text with
  | nil => rfl
  | cons c rest ih =>
      obtain ⟨hhead, htail⟩ := isQuiet_cons_iff.1 h
      have hskip : ¬ (c = '<' ∧ (!opensMarkup (rest ++ s)) = true) := by
        rintro ⟨hc, hopens⟩
        have hmarkup := hhead hc
        have hne : rest ≠ [] := by
          rintro rfl
          cases hmarkup
        rw [opensMarkup_append hne, hmarkup] at hopens
        cases hopens
      rw [List.cons_append, rootElement, if_neg hskip, ih htail]

/-- The search ends at the first opening of a text in which a name ends. -/
theorem rootElement_append_of_firstOpening {text behind : List Char} (hclosed : IsClosed text)
    (h : FirstOpening text behind) (s : List Char) :
    rootElement (text ++ s) = elementName behind := by
  induction text with
  | nil => cases List.suffix_nil.1 h.isSuffix
  | cons c rest ih =>
      -- The text goes on behind each `<` in it, since no name ends there.
      have hne : c = '<' → rest ≠ [] := by
        rintro rfl rfl
        cases hclosed '<' rfl
      rw [List.cons_append, rootElement]
      rcases h.cases_cons with ⟨rfl, rfl⟩ | ⟨hmarkup, hfirst⟩
      · have hopens : opensMarkup (behind ++ s) = false :=
          (opensMarkup_append (hne rfl) s).trans h.opens
        rw [if_pos ⟨rfl, by rw [hopens]; rfl⟩, elementName_eq, elementName_eq,
          hclosed.tail.nameAt_append (hne rfl)]
      · have hskip : ¬ (c = '<' ∧ (!opensMarkup (rest ++ s)) = true) := by
          rintro ⟨hc, hopens⟩
          rw [opensMarkup_append (hne hc), hmarkup hc] at hopens
          cases hopens
        rw [if_neg hskip, ih hclosed.tail hfirst]

/-- Every part of a prolog ends with a character that ends names. -/
theorem isClosed_of_isPrologItem {item : List Char} (h : IsPrologItem item) : IsClosed item := by
  cases h with
  | @blank c hc => exact isClosed_concat (by simp [endsName, hc]) []
  | @instruction text _ =>
      have := isClosed_concat (c := '>') (by decide) (['<', '?'] ++ text ++ ['?'])
      simpa using this
  | @comment text _ =>
      have := isClosed_concat (c := '>') (by decide) (['<', '!', '-', '-'] ++ text ++ ['-', '-'])
      simpa using this
  | doctype _ => exact isClosed_concat (by decide) _

/-- A prolog leaves no name open. -/
theorem isClosed_of_isProlog {prolog : List Char} (h : IsProlog prolog) : IsClosed prolog := by
  induction h with
  | nil => exact isClosed_nil
  | cons hitem _ ih => exact (isClosed_of_isPrologItem hitem).append ih

/-- The name of an element that stands at the start of a document. -/
theorem rootElement_of_name {name : List Char} (hname : IsElementName name) {c : Char}
    (hc : endsName c = true) (rest : List Char) :
    rootElement ('<' :: (name ++ c :: rest)) = some name := by
  have hopens : opensMarkup (name ++ c :: rest) = false :=
    (opensMarkup_append hname.ne_nil _).trans hname.not_markup
  have hat : nameAt (name ++ c :: rest) = name := by
    rw [nameAt, List.takeWhile_append_of_pos fun d hd => by simp [(hname.plain d hd).2]]
    simp [hc]
  rw [rootElement, if_pos ⟨rfl, by rw [hopens]; rfl⟩, elementName_eq, hat, if_neg hname.ne_nil]

end ConfigBrowser.Store

namespace ConfigBrowser.MemoryStore

open Store

/-- The type that a document gives when the search for its root element ends in front of a text. -/
def kindAt (behind : List Char) : String :=
  if nameAt behind = [] then unknownType else String.ofList (nameAt behind)

/-- The type of a new entity is the root element that the search finds. -/
theorem kind_entityOf (id name payload : String) :
    (entityOf id name payload).kind = (rootElement payload.toList).elim unknownType String.ofList :=
  rfl

/-- Where there is no name to read, the type is unknown. -/
theorem elim_elementName (behind : List Char) :
    (elementName behind).elim unknownType String.ofList = kindAt behind := by
  rw [elementName_eq, kindAt]
  split <;> rfl

section Document

variable {prolog name rest : List Char} {c : Char}

/-- A document: a prolog, and the start of its root element. -/
def document (prolog name : List Char) (c : Char) (rest : List Char) : String :=
  String.ofList (prolog ++ '<' :: (name ++ c :: rest))

/-- Behind a quiet prolog the search finds the root element. -/
theorem kind_of_quiet (hquiet : IsQuiet prolog) (hname : IsElementName name)
    (hc : endsName c = true) (id title : String) :
    (entityOf id title (document prolog name c rest)).kind = String.ofList name := by
  rw [kind_entityOf, document, String.toList_ofList, rootElement_append_of_quiet hquiet,
    rootElement_of_name hname hc]
  rfl

/-- The search never comes behind the first opening in a prolog. -/
theorem kind_of_firstOpening {behind : List Char} (hprolog : IsProlog prolog)
    (hfirst : FirstOpening prolog behind) (id title : String) :
    (entityOf id title (document prolog name c rest)).kind = kindAt behind := by
  rw [kind_entityOf, document, String.toList_ofList,
    rootElement_append_of_firstOpening (isClosed_of_isProlog hprolog) hfirst, elim_elementName]

/-- A new entity gets the name of the root element of its document as its type, unless a `<` in
front of that is taken for the start of an element. Then it gets what stands behind the first such
mark, up to a blank, `>` or a slash. An entity is created exactly if the counter of the store can be
moved on. -/
theorem stored_kind_iff (s : MemoryStore) {title : String} (htitle : Text.isAllBlank title = false)
    (hprolog : IsProlog prolog) (hname : IsElementName name) (hc : endsName c = true) :
    ((∃ id after, s.execute? (.put title (document prolog name c rest)) =
      some (.created id, after)) ↔ s.HasRoom) ∧
    ∀ id after, s.execute? (.put title (document prolog name c rest)) = some (.created id, after) →
      ∃ e, after.get? id = some e ∧
        (e.kind = String.ofList name ↔
          ∀ behind, FirstOpening prolog behind → kindAt behind = String.ofList name) := by
  have hkind (id : String) : (entityOf id title (document prolog name c rest)).kind =
      String.ofList name ↔
        ∀ behind, FirstOpening prolog behind → kindAt behind = String.ofList name := by
    rcases isQuiet_or_firstOpening prolog with hquiet | ⟨behind, hfirst⟩
    · exact iff_of_true (kind_of_quiet hquiet hname hc _ _)
        fun behind hfirst => absurd hfirst hquiet.not_firstOpening
    · exact ⟨fun hkind other hother =>
        (kind_of_firstOpening hprolog hother id title).symm.trans hkind,
        fun h => (kind_of_firstOpening hprolog hfirst id title).trans (h behind hfirst)⟩
  by_cases hroom : s.HasRoom
  · have hput : s.execute? (.put title (document prolog name c rest)) = _ :=
      put_of_hasRoom hroom htitle _
    refine ⟨iff_of_true ⟨_, _, hput⟩ hroom, fun id after hcreated => ?_⟩
    obtain ⟨rfl, rfl⟩ : s.freshId = id ∧ _ = after := by
      simpa using hput.symm.trans hcreated
    exact ⟨_, (SortedMap.get?_insert ..).trans (if_pos rfl), hkind s.freshId⟩
  · have hnone := (s.execute?_put_eq_none_iff htitle (document prolog name c rest)).2 hroom
    have hnever (id : String) (after : MemoryStore) :
        s.execute? (.put title (document prolog name c rest)) ≠ some (.created id, after) :=
      fun hcreated => Option.some_ne_none _ (hcreated.symm.trans hnone)
    refine ⟨iff_of_false ?_ hroom, fun id after hcreated => absurd hcreated (hnever id after)⟩
    rintro ⟨id, after, hcreated⟩
    exact hnever id after hcreated

end Document

/-- A prolog is passed over, also if a `<` in it stands before an exclamation mark. An element in a
comment is taken for the root element. -/
theorem stored_kind_behind_comment :
    let quiet := "<?xml?>\n<!DOCTYPE a \"b>\"><!--<!a>-->".toList
    let commented := "<!--<a>-->".toList
    (IsProlog quiet ∧ ∃ id after e,
      empty.execute? (.put "n" (document quiet ['b'] '/' ['>'])) = some (.created id, after) ∧
      after.get? id = some e ∧ e.kind = "b") ∧
    IsProlog commented ∧ FirstOpening commented "a>-->".toList ∧ ∃ id after e,
      empty.execute? (.put "n" (document commented ['b'] '/' ['>'])) = some (.created id, after) ∧
      after.get? id = some e ∧ e.kind ≠ "b" := by
  intro quiet commented
  have hname : IsElementName ['b'] :=
    ⟨by decide, by decide, List.forall_mem_singleton.2 (by decide)⟩
  have hend : endsName '/' = true := by decide
  have hquoted : IsDoctypeText [' ', 'a', ' ', '"', 'b', '>', '"'] :=
    .plain (by decide) (.plain (by decide) (.plain (by decide)
      (@IsDoctypeText.quoted '"' ['b', '>'] [] (by decide) (by decide) .nil)))
  have hprolog : IsProlog quiet :=
    .cons (@IsPrologItem.instruction "xml".toList (by decide)) (.cons (.blank (by decide))
      (.cons (.doctype hquoted) (.cons (@IsPrologItem.comment "<!a>".toList (by decide)) .nil)))
  have hcommented : IsProlog commented :=
    .cons (@IsPrologItem.comment "<a>".toList (by decide)) .nil
  have hquiet : IsQuiet quiet := by
    simp [quiet, isQuiet_cons_iff, isQuiet_nil, opensMarkup]
  have hfirst : FirstOpening commented "a>-->".toList :=
    .cons (by decide) (.cons (by decide) (.cons (by decide) (.cons (by decide) (.here rfl))))
  obtain ⟨hcreates, hkinds⟩ :=
    @stored_kind_iff quiet ['b'] ['>'] '/' empty "n" (by decide) hprolog hname hend
  obtain ⟨id, after, hput⟩ := hcreates.2 (by decide)
  obtain ⟨e, hget, hkind⟩ := hkinds id after hput
  obtain ⟨hcreates', hkinds'⟩ :=
    @stored_kind_iff commented ['b'] ['>'] '/' empty "n" (by decide) hcommented hname hend
  obtain ⟨id', after', hput'⟩ := hcreates'.2 (by decide)
  obtain ⟨e', hget', hkind'⟩ := hkinds' id' after' hput'
  refine ⟨⟨hprolog, id, after, e, hput, hget, hkind.2 fun _ h => absurd h hquiet.not_firstOpening⟩,
    hcommented, hfirst, id', after', e', hput', hget', fun h => ?_⟩
  exact absurd (hkind'.1 h _ hfirst) (by decide)

end ConfigBrowser.MemoryStore
