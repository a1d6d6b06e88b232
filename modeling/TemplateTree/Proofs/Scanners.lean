import Mathlib.Data.List.Forall2
import TemplateTree.Proofs.Patterns
import TemplateTree.Proofs.Readings

/-!
# Scanners

Markup is found with one pattern, and the attributes of a start tag once more with
another. The first finds what the readers read (`findAll_markup`), and both cut a tag
into the same attributes (`Reads.cutAlike`): the tag ends at one place only, and between
its attributes there is nothing but blanks.
-/

namespace TemplateTree.Markup

open Text (Chars isBlank Pattern Groups Outcome)
open Text.Pattern (Found)
open Expression (takeWhile_append_stop)

-- ---------------------------------------------------------------------------
-- The patterns
-- ---------------------------------------------------------------------------

def blanks : Pattern := .many (.char isBlank)

def quotedPattern (quote : Char) (name : String) : Pattern :=
  .seq (.char (· == quote)) (.seq (.group name (.many (.char (· != quote)))) (.char (· == quote)))

def valuePattern : Pattern :=
  .either (quotedPattern '\x22' "dq")
    (.either (quotedPattern '\x27' "sq") (.group "bare" (.oneOrMore (.char isBareChar))))

def assignmentPattern : Pattern :=
  .seq blanks (.seq (.char (· == '=')) (.seq blanks valuePattern))

def attributePattern : Pattern :=
  .seq (.group "name" (.oneOrMore (.char isAttributeChar))) (.optional assignmentPattern)

/-- One attribute of a start tag. Its groups only note what was matched. -/
def roundPattern : Pattern := .seq (.oneOrMore (.char isBlank)) attributePattern

def tagNamePattern : Pattern := .seq (.char isTagStart) (.many (.char isTagChar))

def tagEndPattern : Pattern :=
  .seq blanks
    (.seq (.group "self_closing" (.optional (.char (· == '/')))) (.char (· == '>')))

def startTagPattern : Pattern :=
  .seq (.char (· == '<')) (.seq (.group "start" tagNamePattern)
    (.seq (.group "attrs" (.many roundPattern)) tagEndPattern))

def endTagPattern : Pattern :=
  .seq (.word ['<', '/']) (.seq (.group "end" tagNamePattern) (.seq blanks (.char (· == '>'))))

def commentPattern : Pattern :=
  .seq (.word commentOpening)
    (.seq (.group "comment" (.few (.char fun _ => true))) (.word commentClosing))

def markupPattern : Pattern := .either commentPattern (.either endTagPattern startTagPattern)

-- ---------------------------------------------------------------------------
-- What the groups hold
-- ---------------------------------------------------------------------------

def Quoting.groupName : Quoting → String
  | double => "dq"
  | single => "sq"
  | bare => "bare"

def Assignment.groups (a : Assignment) : Groups := [(a.quoting.groupName, a.text)]

def Attribute.groups (attr : Attribute) : Groups :=
  ("name", attr.name) :: (attr.value.map Assignment.groups).getD []

def StartTag.groups (tag : StartTag) : Groups :=
  ("start", tag.name) :: ("attrs", writtenAttributes tag.attributes) ::
    (tag.attributes.flatMap Attribute.groups ++
      [("self_closing", if tag.selfClosing then ['/'] else [])])

def Construct.groups : Construct → Groups
  | comment value => [("comment", value)]
  | endTag name _ => [("end", name)]
  | startTag tag => tag.groups

def Attribute.core (attr : Attribute) : Chars :=
  attr.name ++ (attr.value.map Assignment.written).getD []

-- ---------------------------------------------------------------------------
-- Everything that can be matched
-- ---------------------------------------------------------------------------

section
variable {matched text rest : Chars} {groups : Groups}

theorem covers_blanks (h : blanks.Covers matched groups) :
    (∀ c ∈ matched, isBlank c = true) ∧ groups = [] :=
  Pattern.covers_many_char.mp h

theorem covers_quoted {quote : Char} {name : String}
    (h : (quotedPattern quote name).Covers matched groups) :
    ∃ text, quote ∉ text ∧ matched = quote :: (text ++ [quote]) ∧ groups = [(name, text)] := by
  obtain ⟨_, _, _, _, hopen, ⟨text, _, _, _, ⟨_, htext, rfl⟩, hclose, rfl, rfl⟩, rfl, rfl⟩ := h
  obtain ⟨rfl, rfl⟩ := Pattern.covers_char_eq.mp hopen
  obtain ⟨rfl, rfl⟩ := Pattern.covers_char_eq.mp hclose
  obtain ⟨hall, rfl⟩ := Pattern.covers_many_char.mp htext
  exact ⟨text, fun hmem => by simpa using hall quote hmem, rfl, rfl⟩

theorem covers_value (h : valuePattern.Covers matched groups) :
    ∃ (quoting : Quoting) (text : Chars), quoting.Allows text ∧
      matched = quoting.marks ++ (text ++ quoting.marks) ∧
        groups = [(quoting.groupName, text)] := by
  rcases h with h | h | ⟨_, h, rfl⟩
  · obtain ⟨text, hallows, rfl, rfl⟩ := covers_quoted h
    exact ⟨.double, text, hallows, rfl, rfl⟩
  · obtain ⟨text, hallows, rfl, rfl⟩ := covers_quoted h
    exact ⟨.single, text, hallows, rfl, rfl⟩
  · obtain ⟨hne, hall, rfl⟩ := Pattern.covers_oneOrMore_char.mp h
    exact ⟨.bare, matched, ⟨hne, hall⟩, by simp [Quoting.marks], rfl⟩

theorem covers_assignment (h : assignmentPattern.Covers matched groups) :
    ∃ a : Assignment, a.Formed ∧ matched = a.written ∧ groups = a.groups := by
  obtain ⟨before, _, _, _, hbefore, ⟨_, _, _, _, hsign,
    ⟨after, _, _, _, hafter, hvalue, rfl, rfl⟩, rfl, rfl⟩, rfl, rfl⟩ := h
  obtain ⟨hb, rfl⟩ := covers_blanks hbefore
  obtain ⟨rfl, rfl⟩ := Pattern.covers_char_eq.mp hsign
  obtain ⟨ha, rfl⟩ := covers_blanks hafter
  obtain ⟨quoting, text, hallows, rfl, rfl⟩ := covers_value hvalue
  exact ⟨⟨before, after, quoting, text⟩, ⟨hb, ha, hallows⟩, rfl, rfl⟩

theorem covers_round (h : roundPattern.Covers matched groups) :
    ∃ attr : Attribute, attr.Formed ∧ matched = attr.written ∧ groups = attr.groups := by
  obtain ⟨gap, _, _, _, hgap, ⟨name, value, _, _, ⟨_, hname, rfl⟩, hvalue, rfl, rfl⟩,
    rfl, rfl⟩ := h
  obtain ⟨hgapNe, hgapBlank, rfl⟩ := Pattern.covers_oneOrMore_char.mp hgap
  obtain ⟨hnameNe, hnameChars, rfl⟩ := Pattern.covers_oneOrMore_char.mp hname
  rcases hvalue with hvalue | ⟨rfl, rfl⟩
  · obtain ⟨a, ha, rfl, rfl⟩ := covers_assignment hvalue
    refine ⟨⟨gap, name, some a⟩, ⟨hgapNe, hgapBlank, hnameNe, hnameChars, ?_⟩, rfl, rfl⟩
    rintro _ ⟨⟩
    exact ha
  · exact ⟨⟨gap, name, none⟩, ⟨hgapNe, hgapBlank, hnameNe, hnameChars, nofun⟩, rfl, rfl⟩

theorem covers_rounds {parts : List (Chars × Groups)}
    (h : ∀ part ∈ parts, roundPattern.Covers part.1 part.2) :
    ∃ attributes : List Attribute, (∀ attr ∈ attributes, attr.Formed) ∧
      parts = attributes.map fun attr => (attr.written, attr.groups) := by
  induction parts with
  | nil => exact ⟨[], nofun, rfl⟩
  | cons part parts ih =>
    obtain ⟨hpart, hparts⟩ := List.forall_mem_cons.mp h
    obtain ⟨attr, hattr, hmatched, hgroups⟩ := covers_round hpart
    obtain ⟨attributes, hattributes, rfl⟩ := ih hparts
    refine ⟨attr :: attributes, List.forall_mem_cons.mpr ⟨hattr, hattributes⟩, ?_⟩
    rw [List.map_cons, ← hmatched, ← hgroups]

theorem flatMap_written (attributes : List Attribute) :
    attributes.flatMap Attribute.written = writtenAttributes attributes := by
  induction attributes with
  | nil => rfl
  | cons attr more ih => rw [List.flatMap_cons, ih, writtenAttributes]

theorem covers_tagName (h : tagNamePattern.Covers matched groups) :
    IsTagName matched ∧ groups = [] := by
  obtain ⟨_, _, _, _, ⟨c, hc, rfl, rfl⟩, hmore, rfl, rfl⟩ := h
  obtain ⟨hall, rfl⟩ := Pattern.covers_many_char.mp hmore
  exact ⟨⟨hc, hall⟩, rfl⟩

theorem covers_tagEnd (h : tagEndPattern.Covers matched groups) :
    ∃ (tail : Chars) (selfClosing : Bool), (∀ c ∈ tail, isBlank c = true) ∧
      matched = tail ++ (if selfClosing then ['/', '>'] else ['>']) ∧
      groups = [("self_closing", if selfClosing then ['/'] else [])] := by
  obtain ⟨tail, _, _, _, htail, ⟨_, _, _, _, ⟨_, hslash, rfl⟩, hclose, rfl, rfl⟩, rfl, rfl⟩ := h
  obtain ⟨hblank, rfl⟩ := covers_blanks htail
  obtain ⟨rfl, rfl⟩ := Pattern.covers_char_eq.mp hclose
  rcases hslash with hslash | ⟨rfl, rfl⟩
  · obtain ⟨rfl, rfl⟩ := Pattern.covers_char_eq.mp hslash
    exact ⟨tail, true, hblank, rfl, rfl⟩
  · exact ⟨tail, false, hblank, rfl, rfl⟩

theorem covers_startTag (h : startTagPattern.Covers matched groups) :
    ∃ tag : StartTag, tag.Formed ∧ matched = tag.written ∧ groups = tag.groups := by
  obtain ⟨_, _, _, _, hopen, ⟨name, _, _, _, ⟨_, hname, rfl⟩, ⟨_, _, _, _,
    ⟨_, ⟨parts, hparts, rfl, rfl⟩, rfl⟩, hend, rfl, rfl⟩, rfl, rfl⟩, rfl, rfl⟩ := h
  obtain ⟨rfl, rfl⟩ := Pattern.covers_char_eq.mp hopen
  obtain ⟨hformed, rfl⟩ := covers_tagName hname
  obtain ⟨attributes, hattributes, rfl⟩ := covers_rounds fun part hp => (hparts part hp).2
  obtain ⟨tail, selfClosing, htail, rfl, rfl⟩ := covers_tagEnd hend
  refine ⟨⟨name, attributes, tail, selfClosing⟩, ⟨hformed, hattributes, htail⟩, ?_, ?_⟩
  · simp [StartTag.written, List.flatMap_map, flatMap_written]
  · simp [StartTag.groups, List.flatMap_map, flatMap_written]

theorem covers_endTag (h : endTagPattern.Covers matched groups) :
    ∃ name tail, IsTagName name ∧ (∀ c ∈ tail, isBlank c = true) ∧
      matched = (Construct.endTag name tail).written ∧ groups = [("end", name)] := by
  obtain ⟨_, _, _, _, hopen, ⟨name, _, _, _, ⟨_, hname, rfl⟩, ⟨tail, _, _, _, htail, hclose,
    rfl, rfl⟩, rfl, rfl⟩, rfl, rfl⟩ := h
  obtain ⟨rfl, rfl⟩ := Pattern.covers_word.mp hopen
  obtain ⟨hformed, rfl⟩ := covers_tagName hname
  obtain ⟨hblank, rfl⟩ := covers_blanks htail
  obtain ⟨rfl, rfl⟩ := Pattern.covers_char_eq.mp hclose
  exact ⟨name, tail, hformed, hblank, rfl, rfl⟩

end

-- ---------------------------------------------------------------------------
-- The preferred match is what is read
-- ---------------------------------------------------------------------------

section
variable {text body behind rest : Chars} {c : Char}

theorem head?_blanks (text : Chars) : (blanks.outcomes text).head? =
    some ⟨text.takeWhile isBlank, [], text.dropWhile isBlank⟩ :=
  Pattern.head?_many_char isBlank text

theorem outcomes_quoted_of_ne {quote : Char} (name : String) (h : c ≠ quote) :
    (quotedPattern quote name).outcomes (c :: text) = [] :=
  Pattern.outcomes_seq_of_nil (by simp [Pattern.outcomes, h])

theorem head?_quoted {quote : Char} {value : Chars} (name : String)
    (h : readQuoted? quote text = some (value, rest)) :
    ((quotedPattern quote name).outcomes (quote :: text)).head? =
      some ⟨quote :: (value ++ [quote]), [(name, value)], rest⟩ := by
  have hvalue := readQuoted?_not_mem h
  obtain rfl := readQuoted?_written h
  obtain ⟨htake, hdrop⟩ := takeWhile_append_stop (p := (· != quote)) (x := value)
    (y := quote :: rest) (fun c hc => by simpa using ne_of_mem_of_not_mem hc hvalue) (by simp)
  have hinner := Pattern.head?_many_char (· != quote) (value ++ quote :: rest)
  rw [htake, hdrop] at hinner
  exact Pattern.head?_seq_of_head? (Pattern.head?_char (by simp) _)
    (Pattern.head?_seq_of_head? (Pattern.head?_group name hinner)
      (Pattern.head?_char (by simp) _))

theorem head?_value {quoting : Quoting} {value : Chars}
    (h : readValue? text = some (quoting, value, rest)) :
    (valuePattern.outcomes text).head? =
      some ⟨quoting.marks ++ (value ++ quoting.marks), [(quoting.groupName, value)], rest⟩ := by
  unfold readValue? at h
  split at h
  · cases h
  · rename_i c behind
    by_cases hdouble : c = '\x22'
    · subst hdouble
      rw [if_pos rfl] at h
      obtain ⟨_, hq, he⟩ := Option.map_eq_some_iff.mp h
      cases he
      exact Pattern.head?_either_left (head?_quoted "dq" hq)
    · rw [if_neg hdouble] at h
      rw [valuePattern, Pattern.outcomes_either_right (outcomes_quoted_of_ne "dq" hdouble)]
      by_cases hsingle : c = '\x27'
      · subst hsingle
        rw [if_pos rfl] at h
        obtain ⟨_, hq, he⟩ := Option.map_eq_some_iff.mp h
        cases he
        exact Pattern.head?_either_left (head?_quoted "sq" hq)
      · rw [if_neg hsingle] at h
        rw [Pattern.outcomes_either_right (outcomes_quoted_of_ne "sq" hsingle)]
        split at h
        · rename_i hbare
          cases h
          rw [Quoting.marks, List.append_nil, List.nil_append]
          exact Pattern.head?_group "bare" (Pattern.head?_oneOrMore_char hbare behind)
        · cases h

theorem head?_assignment {a : Assignment} (h : readAssignment? text = some (some a, rest)) :
    (assignmentPattern.outcomes text).head? = some ⟨a.written, a.groups, rest⟩ := by
  unfold readAssignment? at h
  split at h
  · rename_i behind hsign
    split at h
    · cases h
    · rename_i hvalue
      cases h
      have hbefore := head?_blanks text
      rw [hsign] at hbefore
      exact Pattern.head?_seq_of_head? hbefore
        (Pattern.head?_seq_of_head? (Pattern.head?_char (by simp) _)
          (Pattern.head?_seq_of_head? (head?_blanks behind) (head?_value hvalue)))
  · cases h

theorem outcomes_assignment_of_none (h : readAssignment? text = some (none, rest)) :
    rest = text ∧ assignmentPattern.outcomes text = [] := by
  unfold readAssignment? at h
  split at h
  · split at h <;> cases h
  · rename_i hsign
    cases h
    refine ⟨rfl, Pattern.outcomes_eq_nil ?_⟩
    rintro matched groups rest hcovers rfl
    obtain ⟨a, ha, rfl, -⟩ := covers_assignment hcovers
    refine hsign (a.afterSign ++ (a.quoting.marks ++ (a.text ++ (a.quoting.marks ++ rest)))) ?_
    rw [Assignment.written, List.append_assoc, List.dropWhile_append_of_pos ha.before,
      List.cons_append, List.dropWhile_cons_of_neg (by decide)]
    simp

theorem head?_attribute {value : Option Assignment} (gap : Chars) (hc : isAttributeChar c = true)
    (h : readAssignment? (behind.dropWhile isAttributeChar) = some (value, rest)) :
    (attributePattern.outcomes (c :: behind)).head? =
      some ⟨Attribute.core ⟨gap, c :: behind.takeWhile isAttributeChar, value⟩,
        Attribute.groups ⟨gap, c :: behind.takeWhile isAttributeChar, value⟩, rest⟩ := by
  have hname := Pattern.head?_group "name" (Pattern.head?_oneOrMore_char hc behind)
  cases value with
  | none =>
    obtain ⟨rfl, hnil⟩ := outcomes_assignment_of_none h
    have hnone : ((Pattern.optional assignmentPattern).outcomes
        (behind.dropWhile isAttributeChar)).head? =
          some ⟨[], [], behind.dropWhile isAttributeChar⟩ := by
      rw [Pattern.optional, Pattern.outcomes_either_right hnil]
      rfl
    exact Pattern.head?_seq_of_head? hname hnone
  | some a =>
    exact Pattern.head?_seq_of_head? hname (Pattern.head?_either_left (head?_assignment h))

theorem outcomes_round_eq_nil (h : ∀ attr : Attribute, attr.Formed → ∀ rest,
    attr.written ++ rest ≠ text) : roundPattern.outcomes text = [] := by
  apply Pattern.outcomes_eq_nil
  rintro matched groups rest hcovers
  obtain ⟨attr, hattr, rfl, -⟩ := covers_round hcovers
  exact h attr hattr rest

theorem head?_rounds {attributes : List Attribute}
    (h : readAttributes? text = some (attributes, rest)) :
    ((Pattern.many roundPattern).outcomes text).head? =
      some ⟨writtenAttributes attributes, attributes.flatMap Attribute.groups, rest⟩ := by
  fun_induction readAttributes? text generalizing attributes rest with
  | case1 text hdrop =>
    cases h
    rw [Pattern.outcomes_many_of_nil (outcomes_round_eq_nil ?_)]
    · rfl
    · rintro attr hattr rest rfl
      rw [(hattr.span_gap rest).2] at hdrop
      exact hattr.name_ne (List.append_eq_nil_iff.mp hdrop).1
  | case2 => cases h
  | case3 text gap c behind hdrop hc value after hvalue =>
    rename_i ih
    obtain ⟨_, hmore, he⟩ := Option.map_eq_some_iff.mp h
    cases he
    rw [Bool.and_eq_true, Bool.not_eq_true', List.isEmpty_eq_false_iff] at hc
    have hgap : ((Pattern.oneOrMore (.char isBlank)).outcomes text).head? =
        some ⟨gap, [], c :: behind⟩ := hdrop ▸ Pattern.head?_oneOrMore_takeWhile hc.1
    have hround : (roundPattern.outcomes text).head? = some
        ⟨Attribute.written ⟨gap, c :: behind.takeWhile isAttributeChar, value⟩,
          Attribute.groups ⟨gap, c :: behind.takeWhile isAttributeChar, value⟩, after⟩ :=
      Pattern.head?_seq_of_head? hgap (head?_attribute gap hc.2 hvalue)
    have hshorter : after.length < text.length := by
      have htext := (Pattern.mem_outcomes.mp (List.mem_of_head? hround)).2
      have hpos := List.length_pos_iff.mpr hc.1
      simp only [← htext, Attribute.written, List.length_append]
      omega
    exact Pattern.head?_many_step hround hshorter (ih hmore)
  | case4 text gap c behind hdrop =>
    rename_i hc
    cases h
    rw [Pattern.outcomes_many_of_nil (outcomes_round_eq_nil ?_)]
    · rfl
    · rintro attr hattr rest rfl
      obtain ⟨hgap, hname⟩ := hattr.span_gap rest
      obtain ⟨first, tail, hfirst⟩ := List.exists_cons_of_ne_nil hattr.name_ne
      rw [hdrop, hfirst] at hname
      cases hname
      refine hc ?_
      rw [Bool.and_eq_true, Bool.not_eq_true', List.isEmpty_eq_false_iff]
      exact ⟨fun hnil => hattr.gap_ne (hgap.symm.trans hnil), hattr.name c (hfirst ▸ .head _)⟩

theorem head?_tagName {name : Chars} (h : readTagName? text = some (name, rest)) :
    (tagNamePattern.outcomes text).head? = some ⟨name, [], rest⟩ := by
  unfold readTagName? at h
  split at h
  · cases h
  · rename_i c behind
    split at h
    · rename_i hc
      cases h
      exact Pattern.head?_seq_of_head? (Pattern.head?_char hc _) (Pattern.head?_many_char _ _)
    · cases h

theorem head?_tagEnd {tail : Chars} {selfClosing : Bool}
    (h : readTagEnd? text = some (tail, selfClosing, rest)) :
    (tagEndPattern.outcomes text).head? =
      some ⟨tail ++ (if selfClosing then ['/', '>'] else ['>']),
        [("self_closing", if selfClosing then ['/'] else [])], rest⟩ := by
  have htail := head?_blanks text
  unfold readTagEnd? at h
  split at h
  · rename_i behind hdrop
    cases h
    rw [hdrop] at htail
    have hslash : ((Pattern.optional (.char (· == '/'))).outcomes ('/' :: '>' :: rest)).head? =
        some ⟨['/'], [], '>' :: rest⟩ :=
      Pattern.head?_either_left (Pattern.head?_char (by simp) _)
    exact Pattern.head?_seq_of_head? htail (Pattern.head?_seq_of_head?
      (Pattern.head?_group "self_closing" hslash) (Pattern.head?_char (by simp) _))
  · rename_i behind hdrop
    cases h
    rw [hdrop] at htail
    have hslash : ((Pattern.optional (.char (· == '/'))).outcomes ('>' :: rest)).head? =
        some ⟨[], [], '>' :: rest⟩ := by
      simp [Pattern.optional, Pattern.outcomes]
    exact Pattern.head?_seq_of_head? htail (Pattern.head?_seq_of_head?
      (Pattern.head?_group "self_closing" hslash) (Pattern.head?_char (by simp) _))
  · cases h

/-- A start tag is matched where one is read, and as it is read. Where none is read, no
second thoughts help: every other way to cut a tag would be read as well. -/
theorem head?_startTag (body : Chars) : (startTagPattern.outcomes ('<' :: body)).head? =
    (readStartTag? body).map fun read => ⟨read.1.written, read.1.groups, read.2⟩ := by
  cases h : readStartTag? body with
  | none =>
    rw [Pattern.outcomes_eq_nil]
    · rfl
    · rintro matched groups rest hcovers htext
      obtain ⟨tag, htag, rfl, -⟩ := covers_startTag hcovers
      obtain ⟨settled, hread, -⟩ := htag.exists_read htext
      rw [h] at hread
      cases hread
  | some read =>
    simp only [readStartTag?, Option.bind_eq_bind, Option.bind_eq_some_iff, Option.pure_def,
      Option.some.injEq, Prod.exists] at h
    obtain ⟨name, _, hname, attributes, _, hattributes, tail, selfClosing, rest, hend, rfl⟩ := h
    exact Pattern.head?_seq_of_head? (Pattern.head?_char (by simp) _)
      (Pattern.head?_seq_of_head? (Pattern.head?_group "start" (head?_tagName hname))
        (Pattern.head?_seq_of_head? (Pattern.head?_group "attrs" (head?_rounds hattributes))
          (head?_tagEnd hend)))

theorem head?_endTag (body : Chars) : (endTagPattern.outcomes ('<' :: '/' :: body)).head? =
    (readEndTag? body).map fun read => ⟨read.1.written, read.1.groups, read.2⟩ := by
  cases h : readEndTag? body with
  | none =>
    rw [Pattern.outcomes_eq_nil]
    · rfl
    · rintro matched groups rest hcovers htext
      obtain ⟨name, tail, hname, htail, rfl, -⟩ := covers_endTag hcovers
      have hread := readEndTag?_append hname htail rest
      have hbody : name ++ (tail ++ '>' :: rest) = body := by
        simpa [Construct.written] using htext
      rw [hbody, h] at hread
      cases hread
  | some read =>
    simp only [readEndTag?, Option.bind_eq_bind, Option.bind_eq_some_iff, Prod.exists] at h
    obtain ⟨name, behind, hname, h⟩ := h
    split at h
    · rename_i rest hclose
      cases h
      have htail := head?_blanks behind
      rw [hclose] at htail
      have hopen := congrArg List.head? (Pattern.outcomes_word_append ['<', '/'] body)
      exact Pattern.head?_seq_of_head? hopen
        (Pattern.head?_seq_of_head? (Pattern.head?_group "end" (head?_tagName hname))
          (Pattern.head?_seq_of_head? htail (Pattern.head?_char (by simp) _)))
    · cases h

theorem head?_comment (body : Chars) : (commentPattern.outcomes (commentOpening ++ body)).head? =
    (Text.cutAt? commentClosing body).map fun cut =>
      ⟨(Construct.comment cut.1).written, (Construct.comment cut.1).groups, cut.2⟩ := by
  rw [commentPattern, Pattern.head?_seq_of_singleton
    (Pattern.outcomes_word_append commentOpening body), Pattern.head?_upTo, Option.map_map]
  simp only [Function.comp_def, Outcome.followedBy, Construct.written, List.append_assoc]
  rfl

theorem outcomes_comment_eq_nil (h : ¬ commentOpening <+: text) :
    commentPattern.outcomes text = [] :=
  Pattern.outcomes_seq_of_nil (Pattern.outcomes_word_eq_nil h)

theorem outcomes_endTag_eq_nil (h : ¬ ['<', '/'] <+: text) :
    endTagPattern.outcomes text = [] :=
  Pattern.outcomes_seq_of_nil (Pattern.outcomes_word_eq_nil h)

theorem head?_markup (text : Chars) : (markupPattern.outcomes text).head? =
    (Construct.read? text).map fun read => ⟨read.1.written, read.1.groups, read.2⟩ := by
  rw [markupPattern, Pattern.head?_either, Pattern.head?_either]
  -- At most one of the three patterns has outcomes where the text starts with its mark.
  unfold Construct.read?
  split
  · rename_i body
    have hend : endTagPattern.outcomes ('<' :: '!' :: '-' :: '-' :: body) = [] :=
      outcomes_endTag_eq_nil (by simp)
    have hcomment := head?_comment body
    rw [commentOpening, List.cons_append, List.cons_append, List.cons_append, List.cons_append,
      List.nil_append] at hcomment
    rw [hcomment, hend, head?_startTag, Option.map_map]
    exact Option.or_none
  · rename_i body
    have hcomment : commentPattern.outcomes ('<' :: '/' :: body) = [] :=
      outcomes_comment_eq_nil (by simp [commentOpening])
    rw [hcomment, head?_endTag, head?_startTag]
    exact Option.or_none
  · rename_i body hmark hslash
    have hcomment : commentPattern.outcomes ('<' :: body) = [] := by
      refine outcomes_comment_eq_nil ?_
      rintro ⟨more, hmore⟩
      exact hmark more (List.cons.inj hmore).2.symm
    have hend : endTagPattern.outcomes ('<' :: body) = [] := by
      refine outcomes_endTag_eq_nil ?_
      rintro ⟨more, hmore⟩
      exact hslash more (List.cons.inj hmore).2.symm
    rw [hcomment, hend, head?_startTag, Option.map_map]
    rfl
  · rename_i hopen
    have hcomment : commentPattern.outcomes text = [] := by
      refine outcomes_comment_eq_nil ?_
      rintro ⟨more, rfl⟩
      exact hopen _ rfl
    have hend : endTagPattern.outcomes text = [] := by
      refine outcomes_endTag_eq_nil ?_
      rintro ⟨more, rfl⟩
      exact hopen _ rfl
    have hstart : startTagPattern.outcomes text = [] := by
      refine Pattern.outcomes_seq_of_nil ?_
      cases text with
      | nil => rfl
      | cons c rest =>
        have hc : c ≠ '<' := fun hc => hopen rest (hc ▸ rfl)
        simp [Pattern.outcomes, hc]
    rw [hcomment, hend, hstart]
    rfl

end

-- ---------------------------------------------------------------------------
-- Searching
-- ---------------------------------------------------------------------------

def Piece.construct? : Piece → Option Construct
  | text _ => none
  | construct c => some c

structure Reads (found : Found) (construct : Construct) : Prop where
  read : Construct.read? (found.matched ++ found.rest) = some (construct, found.rest)
  matched : found.matched = construct.written
  groups : found.groups = construct.groups

section
variable {text rest : Chars} {attr : Attribute} {attributes : List Attribute}

theorem first?_markup (text : Chars) : markupPattern.first? text =
    (Construct.read? text).map fun read => ⟨read.1.written, read.1.groups, read.2⟩ := by
  rw [Pattern.first?, head?_markup]
  cases h : Construct.read? text with
  | none => rfl
  | some read =>
    have hshorter := Construct.read?_shorter h
    simpa using hshorter

theorem constructs_textPiece (value : Chars) :
    (textPiece value).filterMap Piece.construct? = [] := by
  unfold textPiece
  split <;> rfl

theorem findFrom_markup (before text : Chars) :
    List.Forall₂ Reads (markupPattern.findFrom before text)
      ((piecesFrom before text).filterMap Piece.construct?) := by
  fun_induction piecesFrom before text with
  | case1 before text construct rest h ih =>
    have hfirst : markupPattern.first? text = some ⟨construct.written, construct.groups, rest⟩ := by
      rw [first?_markup, h]
      rfl
    rw [Pattern.findFrom_of_some hfirst, List.filterMap_append, constructs_textPiece]
    have hread : Construct.read? (construct.written ++ rest) = some (construct, rest) := by
      rw [Construct.read?_written h, h]
    exact .cons ⟨hread, rfl, rfl⟩ ih
  | case2 before h =>
    rw [Pattern.findFrom_nil, constructs_textPiece]
    exact .nil
  | case3 before c rest h ih =>
    rw [Pattern.findFrom_cons (by rw [first?_markup, h]; rfl)]
    exact ih

theorem findAll_markup (code : Chars) :
    List.Forall₂ Reads (markupPattern.findAll code)
      ((pieces code).filterMap Piece.construct?) :=
  findFrom_markup [] code

theorem exists_construct_of_mem_findAll {code : Chars} {found : Found}
    (h : found ∈ markupPattern.findAll code) :
    ∃ construct, .construct construct ∈ pieces code ∧ Reads found construct := by
  have hsame : ∀ {founds : List Found} {constructs : List Construct},
      List.Forall₂ Reads founds constructs → found ∈ founds →
        ∃ construct ∈ constructs, Reads found construct := by
    intro founds constructs hall hmem
    induction hall with
    | nil => cases hmem
    | cons hreads _ ih =>
      rcases List.mem_cons.mp hmem with rfl | hmem
      · exact ⟨_, .head _, hreads⟩
      · obtain ⟨construct, hc, hr⟩ := ih hmem
        exact ⟨construct, .tail _ hc, hr⟩
  obtain ⟨construct, hconstruct, hreads⟩ := hsame (findAll_markup code) h
  obtain ⟨piece, hpiece, heq⟩ := List.mem_filterMap.mp hconstruct
  cases piece with
  | text value => cases heq
  | construct c =>
    cases heq
    exact ⟨construct, hpiece, hreads⟩

theorem first?_attribute_blank {c : Char} (h : isBlank c = true) :
    attributePattern.first? (c :: text) = none := by
  have hname : (Pattern.oneOrMore (.char isAttributeChar)).outcomes (c :: text) = [] :=
    Pattern.outcomes_seq_of_nil (by simp [Pattern.outcomes, not_isAttributeChar_of_isBlank h])
  rw [Pattern.first?, attributePattern, Pattern.outcomes_seq_of_nil]
  · rfl
  · rw [Pattern.outcomes_group, hname, List.map_nil]

theorem first?_attribute_core (h : attr.Formed) (hr : attr.EndsBefore rest) :
    attributePattern.first? (attr.core ++ rest) = some ⟨attr.core, attr.groups, rest⟩ := by
  obtain ⟨first, behind, hfirst, htext, hname, hdrop⟩ := h.span_name hr
  have hvalue := h.readAssignment? hr
  rw [← hdrop] at hvalue
  have hhead := head?_attribute attr.gap hfirst hvalue
  rw [hname, ← htext, ← List.append_assoc, ← Attribute.core] at hhead
  have hshorter : rest.length < (attr.core ++ rest).length := by
    have hpos := List.length_pos_iff.mpr h.name_ne
    simp only [Attribute.core, List.length_append]
    omega
  rw [Pattern.first?, hhead, Option.filter_some, if_pos (by simpa using hshorter)]

theorem findFrom_gap {gap : Chars} (h : ∀ c ∈ gap, isBlank c = true) (before : Chars) :
    attributePattern.findFrom before (gap ++ text) =
      attributePattern.findFrom (gap.reverse ++ before) text := by
  induction gap generalizing before with
  | nil => rfl
  | cons c gap ih =>
    obtain ⟨hc, hgap⟩ := List.forall_mem_cons.mp h
    rw [List.cons_append, Pattern.findFrom_cons (first?_attribute_blank hc), ih hgap,
      List.reverse_cons, List.append_assoc]
    rfl

def foundAttributes : List Attribute → List Found
  | [] => []
  | attr :: more =>
    ⟨⟨attr.core, attr.groups, writtenAttributes more⟩, attr.gap⟩ :: foundAttributes more

theorem findAll_attributes (h : ∀ attr ∈ attributes, attr.Formed) :
    attributePattern.findAll (writtenAttributes attributes) = foundAttributes attributes := by
  unfold Pattern.findAll
  induction attributes with
  | nil => exact Pattern.findFrom_nil
  | cons attr more ih =>
    obtain ⟨hattr, hmore⟩ := List.forall_mem_cons.mp h
    have hends : attr.EndsBefore (writtenAttributes more) := by
      rw [← List.append_nil (writtenAttributes more)]
      exact attr.endsBefore_written hmore stops_nil (by simp)
    have htext : writtenAttributes (attr :: more) =
        attr.gap ++ (attr.core ++ writtenAttributes more) := by
      simp [writtenAttributes, Attribute.written, Attribute.core]
    rw [htext, findFrom_gap hattr.gap, Pattern.findFrom_of_some (first?_attribute_core hattr hends),
      foundAttributes, ih hmore]
    simp

end

-- ---------------------------------------------------------------------------
-- One tag, cut twice
-- ---------------------------------------------------------------------------

/-- Both patterns cut a start tag alike: `found` is the match of the tag and `group` holds
its attributes. -/
structure CutAlike (found : Found) (group : Chars) (tag : StartTag) : Prop where
  matched : found.matched = tag.written
  groups : found.groups = tag.groups
  attributes : group = writtenAttributes tag.attributes
  /-- No start tag that begins here ends elsewhere. Other ways to match it leave the
  closing slash out of the last value. -/
  ends : ∀ o ∈ startTagPattern.outcomes (found.matched ++ found.rest), o.rest = found.rest ∧
    ∃ other : StartTag, o.groups = other.groups ∧ (other = tag ∨ other.TakesSlash tag)
  settled : tag.Settled
  /-- Searched once more, the attributes have the same names and values. -/
  again : ((attributePattern.findAll group).map fun a => (a.before, a.matched, a.groups)) =
    tag.attributes.map fun attr => (attr.gap, attr.core, attr.groups)
  covered : ((attributePattern.findAll group).flatMap fun a => a.before ++ a.matched) = group
  gaps : ∀ a ∈ attributePattern.findAll group, a.before ≠ [] ∧ ∀ c ∈ a.before, isBlank c = true
  /-- There is one way to make up the attributes of rounds: each is a gap and a match. -/
  rounds : ∀ parts : List (Chars × Groups),
    (∀ part ∈ parts, roundPattern.Covers part.1 part.2) ∧ parts.flatMap Prod.fst = group ↔
      parts = (attributePattern.findAll group).map fun a => (a.before ++ a.matched, a.groups)

section
variable {attr : Attribute} {attributes others : List Attribute}

theorem map_foundAttributes {α : Type} (f : Chars → Chars → Groups → α)
    (attributes : List Attribute) :
    ((foundAttributes attributes).map fun a => f a.before a.matched a.groups) =
      attributes.map fun attr => f attr.gap attr.core attr.groups := by
  induction attributes with
  | nil => rfl
  | cons attr more ih => rw [foundAttributes, List.map_cons, ih, List.map_cons]

theorem writtenAttributes_injective (h : ∀ attr ∈ attributes, attr.Formed)
    (ho : ∀ attr ∈ others, attr.Formed)
    (heq : writtenAttributes attributes = writtenAttributes others) : attributes = others := by
  have hread := readAttributes?_writtenAttributes h
  rw [heq, readAttributes?_writtenAttributes ho] at hread
  cases hread
  rfl

theorem Attribute.Formed.covers (h : attr.Formed) :
    roundPattern.Covers attr.written attr.groups := by
  have hfirst := first?_attribute_core h (stops_nil.endsBefore (by simp))
  obtain ⟨hhead, -⟩ := Option.filter_eq_some_iff.mp hfirst
  obtain ⟨hcovers, -⟩ := Pattern.mem_outcomes.mp (List.mem_of_head? hhead)
  exact ⟨attr.gap, attr.core, [], attr.groups,
    Pattern.covers_oneOrMore_char.mpr ⟨h.gap_ne, h.gap, rfl⟩, hcovers, rfl, rfl⟩

theorem rounds_iff (h : ∀ attr ∈ attributes, attr.Formed) (parts : List (Chars × Groups)) :
    (∀ part ∈ parts, roundPattern.Covers part.1 part.2) ∧
        parts.flatMap Prod.fst = writtenAttributes attributes ↔
      parts = attributes.map fun attr => (attr.written, attr.groups) := by
  constructor
  · rintro ⟨hparts, heq⟩
    obtain ⟨others, hothers, rfl⟩ := covers_rounds hparts
    rw [List.flatMap_map, flatMap_written] at heq
    rw [writtenAttributes_injective hothers h heq]
  · rintro rfl
    rw [List.flatMap_map, flatMap_written]
    exact ⟨List.forall_mem_map.mpr fun attr hattr => (h attr hattr).covers, rfl⟩

theorem Attribute.name_of_mem_groups {group : String × Chars} (h : group ∈ attr.groups) :
    group.1 ∈ ["name", "dq", "sq", "bare"] := by
  obtain ⟨gap, name, value⟩ := attr
  rcases List.mem_cons.mp h with rfl | h
  · simp
  · cases value with
    | none => cases h
    | some a =>
      rw [List.mem_singleton.mp h]
      cases a.quoting <;> simp [Quoting.groupName]

theorem Construct.attrs_of_mem_groups {construct : Construct} {group : Chars}
    (h : ("attrs", group) ∈ construct.groups) :
    ∃ tag, construct = .startTag tag ∧ group = writtenAttributes tag.attributes := by
  cases construct with
  | comment value => simp [groups] at h
  | endTag name tail => simp [groups] at h
  | startTag tag =>
    refine ⟨tag, rfl, ?_⟩
    simp only [groups, StartTag.groups, List.mem_cons, List.mem_append, List.mem_flatMap,
      Prod.mk.injEq] at h
    rcases h with ⟨hname, -⟩ | ⟨-, hgroup⟩ | ⟨attr, -, hattr⟩ | ⟨hname, -⟩ | hnil
    · exact absurd hname (by decide)
    · exact hgroup
    · exact absurd (Attribute.name_of_mem_groups hattr) (by simp)
    · exact absurd hname (by decide)
    · cases hnil

end

theorem Reads.cutAlike {found : Found} {tag : StartTag} (h : Reads found (.startTag tag)) :
    CutAlike found (writtenAttributes tag.attributes) tag := by
  obtain ⟨body, hread⟩ : ∃ body, readStartTag? body = some (tag, found.rest) := by
    rcases Construct.read?_cases h.read with ⟨_, _, ⟨⟩, -⟩ | ⟨_, _, ⟨⟩⟩ | ⟨_, body, ⟨⟩, hread⟩
    exact ⟨body, hread⟩
  have htext : found.matched ++ found.rest = '<' :: body := by
    rw [h.matched]
    exact readStartTag?_written hread
  have hattributes := (readStartTag?_wellFormed hread).attributes
  have hagain := findAll_attributes hattributes
  refine ⟨h.matched, h.groups, rfl, ?ends, readStartTag?_settled hread, ?again, ?covered, ?gaps,
    ?rounds⟩
  case ends =>
    intro o ho
    rw [htext] at ho
    obtain ⟨hcovers, heq⟩ := Pattern.mem_outcomes.mp ho
    obtain ⟨other, hother, hmatched, hgroups⟩ := covers_startTag hcovers
    rw [hmatched] at heq
    obtain ⟨hrest, hsame⟩ := readStartTag?_unique hread hother heq
    exact ⟨hrest, other, hgroups, hsame⟩
  case again =>
    rw [hagain]
    exact map_foundAttributes (fun before matched groups => (before, matched, groups)) _
  case covered =>
    rw [hagain, List.flatMap_def, map_foundAttributes fun before matched _ => before ++ matched,
      ← List.flatMap_def]
    exact flatMap_written _
  case gaps =>
    rw [hagain]
    intro a ha
    have hgaps := map_foundAttributes (fun before _ _ => before) tag.attributes
    obtain ⟨attr, hattr, heq⟩ := List.mem_map.mp (hgaps ▸ List.mem_map_of_mem ha)
    rw [← heq]
    exact ⟨(hattributes attr hattr).gap_ne, (hattributes attr hattr).gap⟩
  case rounds =>
    intro parts
    rw [hagain, map_foundAttributes fun before matched groups => (before ++ matched, groups)]
    exact rounds_iff hattributes parts

/-- The matches of markup are the constructs of a text. A start tag among them ends at one
place only. Searched once more, its attributes are found as they were matched, with blanks
between them and nothing else; a slash behind a bare value belongs to the value. -/
theorem markup_attributes_agree (code : Chars) :
    List.Forall₂ Reads (markupPattern.findAll code)
      ((pieces code).filterMap Piece.construct?) ∧
    ∀ found ∈ markupPattern.findAll code, ∀ group, ("attrs", group) ∈ found.groups →
      found.matched ++ found.rest <:+ code ∧
        ∃ tag, .construct (.startTag tag) ∈ pieces code ∧ CutAlike found group tag := by
  refine ⟨findAll_markup code, fun found hf group hg => ?_⟩
  obtain ⟨construct, hpiece, hreads⟩ := exists_construct_of_mem_findAll hf
  rw [hreads.groups] at hg
  obtain ⟨tag, rfl, rfl⟩ := Construct.attrs_of_mem_groups hg
  refine ⟨?_, tag, hpiece, hreads.cutAlike⟩
  obtain ⟨suffix, hsuffix, hfirst⟩ := Pattern.exists_suffix_of_mem_findFrom hf
  obtain ⟨hhead, -⟩ := Option.filter_eq_some_iff.mp hfirst
  rwa [(Pattern.mem_outcomes.mp (List.mem_of_head? hhead)).2]

/-- A quote inside the other quotes, blanks around a sign, a name with a bracket in it, and a
slash behind a bare value. -/
def slashedTag : Found where
  before := []
  matched := "<p a = \x27x\x22\x27 b c<d e=/f/>".toList
  groups := [("start", ['p']), ("attrs", " a = \x27x\x22\x27 b c<d e=/f/".toList),
    ("name", ['a']), ("sq", ['x', '\x22']), ("name", ['b']), ("name", ['c', '<', 'd']),
    ("name", ['e']), ("bare", ['/', 'f', '/']), ("self_closing", [])]
  rest := ['g']

theorem markup_attributes_agree_slashedTag :
    slashedTag ∈ markupPattern.findAll "<p a = \x27x\x22\x27 b c<d e=/f/>g".toList ∧
    ("attrs", " a = \x27x\x22\x27 b c<d e=/f/".toList) ∈ slashedTag.groups ∧
    slashedTag.matched ++ slashedTag.rest <:+ "<p a = \x27x\x22\x27 b c<d e=/f/>g".toList ∧
      ∃ tag, .construct (.startTag tag) ∈ pieces "<p a = \x27x\x22\x27 b c<d e=/f/>g".toList ∧
        CutAlike slashedTag " a = \x27x\x22\x27 b c<d e=/f/".toList tag := by
  have hf : slashedTag ∈ markupPattern.findAll "<p a = \x27x\x22\x27 b c<d e=/f/>g".toList := by
    decide +kernel
  have hg : ("attrs", " a = \x27x\x22\x27 b c<d e=/f/".toList) ∈ slashedTag.groups := by
    decide +kernel
  exact ⟨hf, hg, (markup_attributes_agree _).2 slashedTag hf _ hg⟩

end TemplateTree.Markup
