import TemplateTree.Proofs.Printing

/-!
# Reading written tags

Every way to write a start tag is read up to its end, and as it was meant unless a
slash stands directly behind a bare value: that slash belongs to the value. So the end
of a tag does not depend on how the tag is cut into attributes (`readStartTag?_unique`).
-/

namespace TemplateTree.Markup

open Text (Chars isBlank)
open Expression (takeWhile_append_stop)

-- ---------------------------------------------------------------------------
-- How tags are written
-- ---------------------------------------------------------------------------

def Quoting.Allows : Quoting → Chars → Prop
  | double, text => '\x22' ∉ text
  | single, text => '\x27' ∉ text
  | bare, text => text ≠ [] ∧ ∀ c ∈ text, isBareChar c = true

structure Assignment.Formed (a : Assignment) : Prop where
  before : ∀ c ∈ a.beforeSign, isBlank c = true
  after : ∀ c ∈ a.afterSign, isBlank c = true
  text : a.quoting.Allows a.text

structure Attribute.Formed (attr : Attribute) : Prop where
  gap_ne : attr.gap ≠ []
  gap : ∀ c ∈ attr.gap, isBlank c = true
  name_ne : attr.name ≠ []
  name : ∀ c ∈ attr.name, isAttributeChar c = true
  value : ∀ a ∈ attr.value, a.Formed

structure StartTag.Formed (tag : StartTag) : Prop where
  name : IsTagName tag.name
  attributes : ∀ attr ∈ tag.attributes, attr.Formed
  tail : ∀ c ∈ tag.tail, isBlank c = true

def Attribute.IsBare (attr : Attribute) : Prop := ∃ a ∈ attr.value, a.quoting = .bare

/-- No slash stands directly behind a bare value to close the tag. -/
def StartTag.Settled (tag : StartTag) : Prop :=
  tag.selfClosing = true → tag.tail = [] → ∀ last ∈ tag.attributes.getLast?, ¬ last.IsBare

/-- The second tag has the closing slash of the first in its last value. -/
def StartTag.TakesSlash (tag other : StartTag) : Prop :=
  ∃ (init : List Attribute) (last : Attribute) (a : Assignment), a.quoting = .bare ∧
    tag = ⟨tag.name, init ++ [{ last with value := some a }], [], true⟩ ∧
    other = ⟨tag.name, init ++ [{ last with value := some { a with text := a.text ++ ['/'] } }],
      [], false⟩

-- ---------------------------------------------------------------------------
-- Characters
-- ---------------------------------------------------------------------------

def members : List Nat → List Nat
  | lo :: hi :: rest => List.range' lo (hi - lo) ++ members rest
  | _ => []

theorem mem_members_of_within {borders : List Nat} {n : Nat} (hlen : borders.length % 2 = 0)
    (h : Text.within borders n = true) : n ∈ members borders := by
  fun_induction Text.within borders n with
  | case1 => cases h
  | case2 => simp at hlen
  | case3 => cases h
  | case4 lo hi rest n hlo hhi =>
    rw [members, List.mem_append, List.mem_range'_1]
    exact .inl (by omega)
  | case5 lo hi rest n _ _ ih =>
    rw [List.length_cons, List.length_cons] at hlen
    exact List.mem_append_right _ (ih (by omega) h)

theorem not_isTagChar_of_isBlank {c : Char} (h : isBlank c = true) : isTagChar c = false := by
  have hall : ∀ n ∈ members Text.blankBorders, isTagChar (Char.ofNat n) = false := by
    decide +kernel
  have hcode := hall c.toNat (mem_members_of_within (by decide) h)
  rwa [Char.ofNat_toNat] at hcode

theorem not_isBlank_of_isAttributeChar {c : Char} (h : isAttributeChar c = true) :
    isBlank c = false := by
  simp only [isAttributeChar, Bool.not_eq_true', Bool.or_eq_false_iff] at h
  exact h.1.1.1.1.1

theorem not_isAttributeChar_of_isBlank {c : Char} (h : isBlank c = true) :
    isAttributeChar c = false := by
  simp [isAttributeChar, h]

theorem not_isBareChar_of_isBlank {c : Char} (h : isBlank c = true) : isBareChar c = false := by
  simp [isBareChar, h]

-- ---------------------------------------------------------------------------
-- Reading what is written
-- ---------------------------------------------------------------------------

section
variable {text rest : Chars} {a : Assignment} {attr : Attribute} {attributes : List Attribute}

/-- An attribute ends before this text: the text does not make its name or its value
longer, and is no assignment. -/
structure Attribute.EndsBefore (attr : Attribute) (rest : Chars) : Prop where
  name : ∀ c ∈ rest.head?, isAttributeChar c = false
  sign : ∀ c ∈ (rest.dropWhile isBlank).head?, c ≠ '='
  bare : attr.IsBare → ∀ c ∈ rest.head?, isBareChar c = false

theorem readQuoted?_append {quote : Char} (h : quote ∉ text) :
    readQuoted? quote (text ++ quote :: rest) = some (text, rest) := by
  obtain ⟨htake, hdrop⟩ := takeWhile_append_stop (p := (· != quote)) (x := text)
    (y := quote :: rest) (fun c hc => by simpa using ne_of_mem_of_not_mem hc h) (by simp)
  simp [readQuoted?, htake, hdrop]

theorem readValue?_append {quoting : Quoting} (h : quoting.Allows text)
    (hr : quoting = .bare → ∀ c ∈ rest.head?, isBareChar c = false) :
    readValue? (quoting.marks ++ (text ++ (quoting.marks ++ rest))) =
      some (quoting, text, rest) := by
  cases quoting with
  | double => simp [Quoting.marks, readValue?, readQuoted?_append h]
  | single => simp [Quoting.marks, readValue?, readQuoted?_append h]
  | bare =>
    obtain ⟨hne, hall⟩ := h
    obtain ⟨c, text, rfl⟩ := List.exists_cons_of_ne_nil hne
    obtain ⟨hc, htail⟩ := List.forall_mem_cons.mp hall
    obtain ⟨htake, hdrop⟩ := takeWhile_append_stop htail (hr rfl)
    have hquotes : c ≠ '\x22' ∧ c ≠ '\x27' := by
      constructor <;> rintro rfl <;> exact absurd hc (by decide)
    simp [Quoting.marks, readValue?, hquotes, hc, htake, hdrop]

theorem Quoting.Allows.not_blank {quoting : Quoting} (h : quoting.Allows text) (rest : Chars) :
    ∀ c ∈ (quoting.marks ++ (text ++ (quoting.marks ++ rest))).head?, isBlank c = false := by
  cases quoting with
  | double => simp [Quoting.marks]; decide
  | single => simp [Quoting.marks]; decide
  | bare =>
    obtain ⟨hne, hall⟩ := h
    obtain ⟨c, text, rfl⟩ := List.exists_cons_of_ne_nil hne
    have hc := hall c (.head _)
    simp only [isBareChar, Bool.not_eq_true', Bool.or_eq_false_iff] at hc
    simp [Quoting.marks, hc]

theorem readAssignment?_append (h : a.Formed)
    (hr : a.quoting = .bare → ∀ c ∈ rest.head?, isBareChar c = false) :
    readAssignment? (a.written ++ rest) = some (some a, rest) := by
  have hsign : isBlank '=' = false := by decide
  obtain ⟨hbefore, hbehind⟩ := takeWhile_append_stop (p := isBlank) (x := a.beforeSign)
    (y := '=' :: (a.afterSign ++ (a.quoting.marks ++ (a.text ++ (a.quoting.marks ++ rest)))))
    h.before (by simpa using hsign)
  obtain ⟨hafter, hvalue⟩ := takeWhile_append_stop h.after (h.text.not_blank rest)
  simp only [Assignment.written, List.append_assoc, List.cons_append, readAssignment?, hbehind,
    hvalue, hbefore, hafter, readValue?_append h.text hr]

theorem readAssignment?_eq_none (h : ∀ c ∈ (rest.dropWhile isBlank).head?, c ≠ '=') :
    readAssignment? rest = some (none, rest) := by
  unfold readAssignment?
  split
  · rename_i behind hb
    rw [hb] at h
    exact absurd rfl (h '=' rfl)
  · rfl

theorem Attribute.Formed.readAssignment? (h : attr.Formed) (hr : attr.EndsBefore rest) :
    readAssignment? ((attr.value.map Assignment.written).getD [] ++ rest) =
      some (attr.value, rest) := by
  cases hv : attr.value with
  | none => exact readAssignment?_eq_none hr.sign
  | some a => exact readAssignment?_append (h.value a hv) fun hbare => hr.bare ⟨a, hv, hbare⟩

theorem Attribute.Formed.name_ends (h : attr.Formed) (hr : attr.EndsBefore rest) :
    ∀ c ∈ ((attr.value.map Assignment.written).getD [] ++ rest).head?,
      isAttributeChar c = false := by
  cases hv : attr.value with
  | none => exact hr.name
  | some a =>
    have hbefore := (h.value a hv).before
    cases hb : a.beforeSign with
    | nil => simp [Assignment.written, hb]; decide
    | cons c more =>
      rw [hb] at hbefore
      simpa [Assignment.written, hb] using not_isAttributeChar_of_isBlank (hbefore c (.head _))

def Stops (text : Chars) : Prop :=
  ∀ c ∈ (text.dropWhile isBlank).head?, isAttributeChar c = false ∧ c ≠ '='

theorem stops_nil : Stops [] := nofun

theorem Stops.head (h : Stops text) : ∀ c ∈ text.head?, isAttributeChar c = false := by
  cases text with
  | nil => simp
  | cons c rest =>
    rintro _ ⟨⟩
    by_cases hc : isBlank c = true
    · exact not_isAttributeChar_of_isBlank hc
    · rw [Stops, List.dropWhile_cons_of_neg hc] at h
      exact (h c rfl).1

theorem Stops.endsBefore (h : Stops rest)
    (hb : attr.IsBare → ∀ c ∈ rest.head?, isBareChar c = false) : attr.EndsBefore rest :=
  ⟨h.head, fun c hc => (h c hc).2, hb⟩

theorem Attribute.Formed.span_gap (h : attr.Formed) (rest : Chars) :
    (attr.written ++ rest).takeWhile isBlank = attr.gap ∧
    (attr.written ++ rest).dropWhile isBlank =
      attr.name ++ ((attr.value.map Assignment.written).getD [] ++ rest) := by
  have hname : ∀ c ∈ (attr.name ++ ((attr.value.map Assignment.written).getD [] ++ rest)).head?,
      isBlank c = false := by
    obtain ⟨first, tail, hname⟩ := List.exists_cons_of_ne_nil h.name_ne
    have hfirst := h.name first (hname ▸ .head _)
    simpa [hname] using not_isBlank_of_isAttributeChar hfirst
  rw [Attribute.written, List.append_assoc, List.append_assoc]
  exact takeWhile_append_stop h.gap hname

theorem Attribute.Formed.endsBefore (h : attr.Formed) (before : Attribute) (rest : Chars) :
    before.EndsBefore (attr.written ++ rest) := by
  obtain ⟨blank, gap, hgap⟩ := List.exists_cons_of_ne_nil h.gap_ne
  obtain ⟨first, tail, hname⟩ := List.exists_cons_of_ne_nil h.name_ne
  have hblank : isBlank blank = true := h.gap blank (hgap ▸ .head _)
  have hfirst : isAttributeChar first = true := h.name first (hname ▸ .head _)
  have hhead : (attr.written ++ rest).head? = some blank := by simp [Attribute.written, hgap]
  constructor
  · rw [hhead]
    rintro _ ⟨⟩
    exact not_isAttributeChar_of_isBlank hblank
  · rw [(h.span_gap rest).2, hname]
    rintro _ ⟨⟩ rfl
    exact absurd hfirst (by decide)
  · rw [hhead]
    rintro - _ ⟨⟩
    exact not_isBareChar_of_isBlank hblank

theorem Attribute.Formed.span_name (h : attr.Formed) (hr : attr.EndsBefore rest) :
    ∃ first behind, isAttributeChar first = true ∧
      attr.name ++ ((attr.value.map Assignment.written).getD [] ++ rest) = first :: behind ∧
      first :: behind.takeWhile isAttributeChar = attr.name ∧
      behind.dropWhile isAttributeChar = (attr.value.map Assignment.written).getD [] ++ rest := by
  obtain ⟨first, tail, hname⟩ := List.exists_cons_of_ne_nil h.name_ne
  have hchars := h.name
  rw [hname] at hchars
  obtain ⟨hfirst, htail⟩ := List.forall_mem_cons.mp hchars
  obtain ⟨htake, hdrop⟩ := takeWhile_append_stop htail (h.name_ends hr)
  exact ⟨first, _, hfirst, by rw [hname]; rfl, by rw [htake, hname], hdrop⟩

theorem readAttributes?_cons (h : attr.Formed) (hr : attr.EndsBefore rest) :
    readAttributes? (attr.written ++ rest) =
      (readAttributes? rest).map fun (more, rest) => (attr :: more, rest) := by
  obtain ⟨first, behind, hfirst, htext, hname, hdrop⟩ := h.span_name hr
  obtain ⟨hgap, hbehind⟩ := h.span_gap rest
  rw [htext] at hbehind
  have hvalue := h.readAssignment? hr
  rw [← hdrop] at hvalue
  rw [readAttributes?_step hgap h.gap_ne hbehind hfirst hvalue, hname]

theorem readAttributes?_of_stops (h : Stops rest) : readAttributes? rest = some ([], rest) := by
  rw [readAttributes?]
  split
  · rfl
  · rename_i c behind hb
    rw [Stops, hb] at h
    rw [dif_neg (by simp [(h c rfl).1])]

theorem Attribute.endsBefore_written (h : ∀ attr ∈ attributes, attr.Formed) (hs : Stops rest)
    (hb : attributes = [] → attr.IsBare → ∀ c ∈ rest.head?, isBareChar c = false) :
    attr.EndsBefore (writtenAttributes attributes ++ rest) := by
  cases attributes with
  | nil => exact hs.endsBefore (hb rfl)
  | cons next more =>
    rw [writtenAttributes, List.append_assoc]
    exact (h next (.head _)).endsBefore attr _

theorem readAttributes?_append (h : ∀ attr ∈ attributes, attr.Formed) (hs : Stops rest)
    (hb : ∀ last ∈ attributes.getLast?, last.IsBare → ∀ c ∈ rest.head?, isBareChar c = false) :
    readAttributes? (writtenAttributes attributes ++ rest) = some (attributes, rest) := by
  induction attributes with
  | nil => exact readAttributes?_of_stops hs
  | cons attr more ih =>
    obtain ⟨hattr, hmore⟩ := List.forall_mem_cons.mp h
    have hends : attr.EndsBefore (writtenAttributes more ++ rest) :=
      Attribute.endsBefore_written hmore hs fun hnil => hb attr (by rw [hnil]; rfl)
    have hlast : ∀ last ∈ more.getLast?, last.IsBare →
        ∀ c ∈ rest.head?, isBareChar c = false := by
      cases more with
      | nil => simp
      | cons next more => exact fun last hl => hb last (by rwa [List.getLast?_cons_cons])
    rw [writtenAttributes, List.append_assoc, readAttributes?_cons hattr hends, ih hmore hlast]
    rfl

theorem readAttributes?_writtenAttributes (h : ∀ attr ∈ attributes, attr.Formed) :
    readAttributes? (writtenAttributes attributes) = some (attributes, []) := by
  have hread : readAttributes? (writtenAttributes attributes ++ []) = some (attributes, []) :=
    readAttributes?_append h stops_nil (by simp)
  rwa [List.append_nil] at hread

end

section
variable {tag other : StartTag} {text rest : Chars}

theorem readTagEnd?_append {tail : Chars} (h : ∀ c ∈ tail, isBlank c = true) (selfClosing : Bool)
    (rest : Chars) :
    readTagEnd? (tail ++ ((if selfClosing then ['/', '>'] else ['>']) ++ rest)) =
      some (tail, selfClosing, rest) := by
  obtain ⟨htake, hdrop⟩ := takeWhile_append_stop (p := isBlank) (x := tail)
    (y := (if selfClosing then ['/', '>'] else ['>']) ++ rest) h
    (by cases selfClosing <;> simp <;> decide)
  rw [readTagEnd?, hdrop, htake]
  cases selfClosing <;> rfl

theorem StartTag.Formed.stops (h : tag.Formed) (rest : Chars) :
    Stops (tag.tail ++ ((if tag.selfClosing then ['/', '>'] else ['>']) ++ rest)) := by
  intro c hc
  rw [List.dropWhile_append_of_pos h.tail] at hc
  have hclosing : ∀ c : Char, c = '/' ∨ c = '>' → isBlank c = false ∧
      isAttributeChar c = false ∧ c ≠ '=' := by
    rintro c (rfl | rfl) <;> decide
  cases hsc : tag.selfClosing <;> simp [hsc, hclosing] at hc
  · exact hc ▸ (hclosing '>' (.inr rfl)).2
  · exact hc ▸ (hclosing '/' (.inl rfl)).2

theorem StartTag.Formed.name_ends (h : tag.Formed) (rest : Chars) :
    ∀ c ∈ (writtenAttributes tag.attributes ++
      (tag.tail ++ ((if tag.selfClosing then ['/', '>'] else ['>']) ++ rest))).head?,
      isTagChar c = false := by
  cases ha : tag.attributes with
  | nil =>
    cases ht : tag.tail with
    | nil =>
      cases tag.selfClosing <;> simp [writtenAttributes] <;> decide
    | cons blank tail =>
      have hblank := h.tail blank (ht ▸ .head _)
      simpa [writtenAttributes] using not_isTagChar_of_isBlank hblank
  | cons attr more =>
    have hattr := h.attributes attr (ha ▸ .head _)
    obtain ⟨blank, gap, hgap⟩ := List.exists_cons_of_ne_nil hattr.gap_ne
    have hblank := hattr.gap blank (hgap ▸ .head _)
    simpa [writtenAttributes, Attribute.written, hgap] using not_isTagChar_of_isBlank hblank

theorem StartTag.Settled.value_ends (hs : tag.Settled) (h : tag.Formed) (rest : Chars) :
    ∀ last ∈ tag.attributes.getLast?, last.IsBare →
      ∀ c ∈ (tag.tail ++ ((if tag.selfClosing then ['/', '>'] else ['>']) ++ rest)).head?,
        isBareChar c = false := by
  intro last hlast hbare
  cases ht : tag.tail with
  | nil =>
    have hopen : tag.selfClosing = false :=
      Bool.eq_false_iff.mpr fun hc => hs hc ht last hlast hbare
    simp [hopen]
    decide
  | cons blank tail =>
    have hblank := h.tail blank (ht ▸ .head _)
    simpa using not_isBareChar_of_isBlank hblank

theorem readStartTag?_append (h : tag.Formed) (hs : tag.Settled) (rest : Chars) :
    readStartTag? (tag.written.tail ++ rest) = some (tag, rest) := by
  have hname := readTagName?_append h.name (h.name_ends rest)
  have hattributes := readAttributes?_append h.attributes (h.stops rest) (hs.value_ends h rest)
  have hend := readTagEnd?_append h.tail tag.selfClosing rest
  have htext : tag.written.tail ++ rest = tag.name ++ (writtenAttributes tag.attributes ++
      (tag.tail ++ ((if tag.selfClosing then ['/', '>'] else ['>']) ++ rest))) := by
    simp [StartTag.written]
  rw [htext, readStartTag?, hname]
  simp only [Option.bind_eq_bind, Option.bind_some, hattributes, hend]
  rfl

theorem writtenAttributes_append (front back : List Attribute) :
    writtenAttributes (front ++ back) = writtenAttributes front ++ writtenAttributes back := by
  induction front with
  | nil => rfl
  | cons attr more ih => simp [writtenAttributes, ih]

theorem readEndTag?_append {name tail : Chars} (hname : IsTagName name)
    (htail : ∀ c ∈ tail, isBlank c = true) (rest : Chars) :
    readEndTag? (name ++ (tail ++ '>' :: rest)) = some (.endTag name tail, rest) := by
  have hends : ∀ c ∈ (tail ++ '>' :: rest).head?, isTagChar c = false := by
    cases tail with
    | nil => simp; decide
    | cons blank tail => simpa using not_isTagChar_of_isBlank (htail blank (.head _))
  obtain ⟨htake, hdrop⟩ := takeWhile_append_stop (p := isBlank) (x := tail) (y := '>' :: rest)
    htail (by simp; decide)
  rw [readEndTag?, readTagName?_append hname hends]
  simp only [Option.bind_eq_bind, Option.bind_some, hdrop, htake]

/-- Every way to write a tag is one of a settled tag. -/
theorem StartTag.Formed.exists_settled (h : tag.Formed) : ∃ settled : StartTag,
    settled.Formed ∧ settled.Settled ∧ settled.written = tag.written ∧
      (tag = settled ∨ tag.TakesSlash settled) := by
  by_cases hs : tag.Settled
  · exact ⟨tag, h, hs, rfl, .inl rfl⟩
  · obtain ⟨name, attributes, tail, selfClosing⟩ := tag
    simp only [Settled, not_forall, not_not] at hs
    obtain ⟨rfl, rfl, ⟨gap, key, value⟩, hlast, a, hvalue, hbare⟩ := hs
    obtain rfl : value = some a := hvalue
    obtain ⟨init, rfl⟩ := List.getLast?_eq_some_iff.mp hlast
    obtain ⟨before, after, quoting, text⟩ := a
    obtain rfl : quoting = .bare := hbare
    refine ⟨⟨name, init ++ [⟨gap, key, some ⟨before, after, .bare, text ++ ['/']⟩⟩], [], false⟩,
      ⟨h.name, ?_, by simp⟩, (fun hc => nomatch hc), ?_,
      .inr ⟨init, ⟨gap, key, none⟩, _, rfl, rfl, rfl⟩⟩
    · have hattrs := h.attributes
      rw [List.forall_mem_append, List.forall_mem_singleton] at hattrs ⊢
      obtain ⟨hinit, hattr⟩ := hattrs
      obtain ⟨hbefore, hafter, -, htext⟩ := hattr.value _ rfl
      refine ⟨hinit, hattr.gap_ne, hattr.gap, hattr.name_ne, hattr.name, ?_⟩
      rintro _ ⟨⟩
      refine ⟨hbefore, hafter, by simp, ?_⟩
      rw [List.forall_mem_append, List.forall_mem_singleton]
      exact ⟨htext, by decide⟩
    · simp [written, writtenAttributes_append, writtenAttributes, Attribute.written,
        Assignment.written, Quoting.marks]

theorem StartTag.Formed.exists_read (h : tag.Formed)
    (htext : tag.written ++ rest = '<' :: text) : ∃ settled : StartTag,
      readStartTag? text = some (settled, rest) ∧ settled.Settled ∧
        (tag = settled ∨ tag.TakesSlash settled) := by
  obtain ⟨settled, hformed, hsettled, hwritten, hsame⟩ := h.exists_settled
  rw [← hwritten] at htext
  have hbody : settled.written.tail ++ rest = text := (List.cons.inj htext).2
  have hread := readStartTag?_append hformed hsettled rest
  rw [hbody] at hread
  exact ⟨settled, hread, hsettled, hsame⟩

end

-- ---------------------------------------------------------------------------
-- What is read is well written
-- ---------------------------------------------------------------------------

section
variable {tag other : StartTag} {text rest remains : Chars} {quoting : Quoting}
variable {attributes : List Attribute}

theorem readQuoted?_not_mem {quote : Char} {value : Chars}
    (h : readQuoted? quote text = some (value, rest)) : quote ∉ value := by
  unfold readQuoted? at h
  split at h
  · cases h
  · cases h
    intro hmem
    simpa using List.mem_takeWhile_imp hmem

theorem readValue?_allows {value : Chars} (h : readValue? text = some (quoting, value, rest)) :
    quoting.Allows value := by
  unfold readValue? at h
  split at h
  · cases h
  · rename_i c behind
    split at h
    · rename_i hc
      obtain ⟨_, hq, he⟩ := Option.map_eq_some_iff.mp h
      cases he
      subst hc
      exact readQuoted?_not_mem hq
    · split at h
      · rename_i hc
        obtain ⟨_, hq, he⟩ := Option.map_eq_some_iff.mp h
        cases he
        subst hc
        exact readQuoted?_not_mem hq
      · split at h
        · rename_i hc
          cases h
          exact ⟨by simp, List.forall_mem_cons.mpr ⟨hc, fun d hd => List.mem_takeWhile_imp hd⟩⟩
        · cases h

theorem readAssignment?_formed {value : Option Assignment}
    (h : readAssignment? text = some (value, rest)) : ∀ a ∈ value, a.Formed := by
  unfold readAssignment? at h
  split at h
  · split at h
    · cases h
    · rename_i hv
      cases h
      rintro _ ⟨⟩
      exact ⟨fun c hc => List.mem_takeWhile_imp hc, fun c hc => List.mem_takeWhile_imp hc,
        readValue?_allows hv⟩
  · cases h
    nofun

theorem readAttributes?_formed (h : readAttributes? text = some (attributes, rest)) :
    ∀ attr ∈ attributes, attr.Formed := by
  fun_induction readAttributes? text generalizing attributes rest with
  | case1 =>
    cases h
    exact List.forall_mem_nil _
  | case2 => cases h
  | case3 text gap c behind hb hc value after ha =>
    rename_i ih
    obtain ⟨_, hmore, he⟩ := Option.map_eq_some_iff.mp h
    cases he
    rw [Bool.and_eq_true, Bool.not_eq_true', List.isEmpty_eq_false_iff] at hc
    refine List.forall_mem_cons.mpr ⟨?_, ih hmore⟩
    exact {
      gap_ne := hc.1
      gap := fun d hd => List.mem_takeWhile_imp hd
      name_ne := by simp
      name := List.forall_mem_cons.mpr ⟨hc.2, fun d hd => List.mem_takeWhile_imp hd⟩
      value := readAssignment?_formed ha }
  | case4 =>
    cases h
    exact List.forall_mem_nil _

theorem readStartTag?_wellFormed (h : readStartTag? text = some (tag, rest)) : tag.Formed := by
  simp only [readStartTag?, Option.bind_eq_bind, Option.bind_eq_some_iff, Option.pure_def,
    Option.some.injEq, Prod.mk.injEq, Prod.exists] at h
  obtain ⟨name, _, hname, attributes, _, hattributes, tail, _, _, hend, rfl, rfl⟩ := h
  refine ⟨readTagName?_isTagName hname, readAttributes?_formed hattributes, ?_⟩
  unfold readTagEnd? at hend
  split at hend <;> cases hend
  all_goals exact fun c hc => List.mem_takeWhile_imp hc

/-- However a tag in front of a text is cut, it ends where the tag that is read ends. -/
theorem readStartTag?_unique (h : readStartTag? text = some (tag, rest)) (ho : other.Formed)
    (htext : other.written ++ remains = '<' :: text) :
    remains = rest ∧ (other = tag ∨ other.TakesSlash tag) := by
  obtain ⟨settled, hread, -, hsame⟩ := ho.exists_read htext
  rw [h] at hread
  cases hread
  exact ⟨rfl, hsame⟩

/-- A slash behind a bare value belongs to the value. -/
theorem readStartTag?_settled (h : readStartTag? text = some (tag, rest)) : tag.Settled := by
  obtain ⟨settled, hread, hsettled, -⟩ :=
    (readStartTag?_wellFormed h).exists_read (readStartTag?_written h)
  rw [h] at hread
  cases hread
  exact hsettled

end

end TemplateTree.Markup
