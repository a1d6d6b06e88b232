import TemplateTree.Proofs.Origins
import TemplateTree.Proofs.Rendering

/-!
# Labels

The label of a node is made of its kind, its name, its former kind and its span.
Of these only the name can mean something to the console: a label with a plain name
is shown, and its name with it.
-/

namespace TemplateTree.Command

open Text (Chars)
open Console

-- ---------------------------------------------------------------------------
-- Styles
-- ---------------------------------------------------------------------------

def IsSimple (word : Chars) : Prop :=
  Text.lower word = word ∧ word ∉ ["on".toList, "not".toList, "link".toList]

instance (word : Chars) : Decidable (IsSimple word) := inferInstanceAs (Decidable (_ ∧ _))

section
variable {style : Style} {word text : Chars} {words : List Chars}

theorem ofWords_cons (h : IsSimple word) :
    style.ofWords (word :: words) =
      match attribute? word with
      | some name => (style.setFlag name true).ofWords words
      | none => (readColor word).bind fun color =>
        { style with color := some color }.ofWords words := by
  obtain ⟨hlower, hw⟩ := h
  simp only [List.mem_cons, List.not_mem_nil, or_false, not_or] at hw
  rw [Style.ofWords.eq_def]
  simp only [hlower, if_neg (ne_true_of_eq_false (beq_false_of_ne hw.1)),
    if_neg (ne_true_of_eq_false (beq_false_of_ne hw.2.1)),
    if_neg (ne_true_of_eq_false (beq_false_of_ne hw.2.2))]
  rfl

theorem ofWords_attribute {name : String} (h : IsSimple word)
    (hname : attribute? word = some name) :
    style.ofWords (word :: words) = (style.setFlag name true).ofWords words := by
  rw [ofWords_cons h, hname]

theorem ofWords_color (h : IsSimple word) (hname : attribute? word = none) :
    style.ofWords [word] =
      (readColor word).map fun color => { style with color := some color } := by
  rw [ofWords_cons h, hname]
  cases readColor word <;> rfl

theorem ofText_of_words (hn : Text.trim text ≠ "none".toList) (hw : Text.words text = words) :
    Style.ofText text = ({} : Style).ofWords words := by
  rw [Style.ofText, if_neg (ne_true_of_eq_false (beq_false_of_ne hn)), hw]

theorem readColor_cases (h : argument? "rgb".toList word = none) :
    readColor word = .ok word ∨ readColor word = .error .unknown := by
  unfold readColor
  split
  · exact .inl rfl
  · exact .inr (by rw [h])

/-- A style that ends with a color goes by its own name, whether the color is known
or not. -/
theorem exists_name_of_color {toStyle : Chars → Style}
    (h : Style.ofText text = (readColor word).map toStyle)
    (hw : argument? "rgb".toList word = none) (hn : (toStyle word).normalText = text)
    (hl : Text.lower (Text.trim text) = text) :
    ∃ name, normalName text = .ok name ∧ Style.ofText name ≠ .error .missingNumber := by
  refine ⟨text, ?_⟩
  unfold normalName normalStyle
  rcases readColor_cases hw with hc | hc
  · simp [h, hc, Except.map, hn]
  · simp [h, hc, Except.map, hl]

end

theorem isStyle_of_tag {c : Char} {rest : Chars}
    (htag : startsTag c = true ∧ c ≠ '/' ∧ rest.all (fun d => !(d == '[' || d == ']')) = true ∧
      tagParts (c :: rest) = (c :: rest, none))
    (hname : ∃ name, normalName (c :: rest) = .ok name ∧
      Style.ofText name ≠ .error .missingNumber) : IsStyle (c :: rest) where
  read _ := readTag?_eq_some.mpr ⟨rfl, c, rest, rfl, htag.1, List.all_eq_true.mp htag.2.2.1⟩
  parts := htag.2.2.2
  opens _ h := htag.2.1 (List.cons.inj h).1
  name := hname

theorem exists_name_color {color : Chars} (h : IsSimple color ∧ attribute? color = none)
    (hwords : Text.words color = [color] ∧ Text.trim color = color ∧ color ≠ "none".toList)
    (hrgb : argument? "rgb".toList color = none) :
    ∃ name, normalName color = .ok name ∧ Style.ofText name ≠ .error .missingNumber := by
  obtain ⟨hwords, htrim, hnone⟩ := hwords
  have htext : Style.ofText color = (readColor color).map fun color => { color := some color } := by
    rw [ofText_of_words (htrim.symm ▸ hnone) hwords, ofWords_color h.1 h.2]
  exact exists_name_of_color htext hrgb (by simp [Style.normalText, Style.normalWords])
    (by rw [htrim, h.1.1])

theorem isStyle_cyan : IsStyle "cyan".toList :=
  isStyle_of_tag (by decide) (exists_name_color (by decide +kernel) (by decide) (by decide))

theorem isStyle_yellow : IsStyle "yellow".toList :=
  isStyle_of_tag (by decide) (exists_name_color (by decide +kernel) (by decide) (by decide))

theorem isStyle_boldCyan : IsStyle "bold cyan".toList := by
  refine isStyle_of_tag (by decide) ?_
  have htext : Style.ofText "bold cyan".toList = (readColor "cyan".toList).map fun color =>
      { flags := [("bold", true)], color := some color } := by
    rw [ofText_of_words (by decide) (show _ = ["bold".toList, "cyan".toList] by decide),
      ofWords_attribute (by decide +kernel) (show _ = some "bold" by decide),
      ofWords_color (by decide +kernel) (by decide)]
    rfl
  exact exists_name_of_color htext (by decide) (by decide +kernel) (by decide +kernel)

theorem isStyle_dim : IsStyle "dim".toList := by
  refine isStyle_of_tag (by decide) ⟨"dim".toList, ?_⟩
  have htext : Style.ofText "dim".toList = .ok { flags := [("dim", true)] } := by
    rw [ofText_of_words (by decide) (show _ = ["dim".toList] by decide),
      ofWords_attribute (by decide +kernel) (show _ = some "dim" by decide)]
    rfl
  rw [normalName, normalStyle, htext]
  exact ⟨by decide +kernel, by simp⟩

-- ---------------------------------------------------------------------------
-- Styled texts
-- ---------------------------------------------------------------------------

/-- A plain text that may stand right before a tag: it ends with no backslash, which
would take the meaning from the tag, and with no bracket. -/
structure Fills (text : Chars) : Prop where
  plain : IsPlain text
  ends : ∃ front c, text = front ++ [c] ∧ c ≠ '\\' ∧ c ≠ '['

section
variable {before text more name : Chars} {style : String} {pos : Nat}

theorem piecesFrom_cons {c : Char} (hc : c ≠ '\\' ∧ c ≠ '[') :
    piecesFrom before 0 (c :: more) = piecesFrom (c :: before) 0 more := by
  rw [piecesFrom, if_neg hc.1, if_neg hc.2, List.replicate_zero, List.nil_append]

theorem piecesFrom_tag {inside rest : Chars} (h : Fills text)
    (ht : readTag? rest = some (inside, more)) :
    piecesFrom [] 0 (text ++ '[' :: rest) =
      textBefore text.reverse ++ .tag inside :: piecesFrom [] 0 more := by
  obtain ⟨front, c, rfl, hc⟩ := h.ends
  have hfront : Untagged front (c :: '[' :: rest) := by
    intro behind hbehind
    have hsuffix : '[' :: (behind ++ [c]) <:+ front ++ [c] := by
      obtain ⟨start, hstart⟩ := hbehind
      exact ⟨start, by rw [← hstart]; simp⟩
    simpa using h.plain.untagged_append (opensFirst_bracket rest) (behind ++ [c]) hsuffix
  rw [List.append_assoc, List.singleton_append, piecesFrom_append hfront (by simpa using hc),
    piecesFrom_cons hc, piecesFrom_of_some ht]
  simp [escapedTag]

theorem piecesFrom_styled (hs : IsStyle style.toList) (h : Fills text) :
    piecesFrom before 0 (styled style text ++ more) = textBefore before ++
      .tag style.toList :: textBefore text.reverse ++ .tag ['/'] :: piecesFrom [] 0 more := by
  have hstyled : styled style text ++ more =
      '[' :: (style.toList ++ ']' :: (text ++ '[' :: '/' :: ']' :: more)) := by
    simp [styled]
  have hclosing : readTag? ('/' :: ']' :: more) = some (['/'], more) :=
    readTag?_eq_some.mpr ⟨rfl, '/', [], rfl, by decide, by simp⟩
  rw [hstyled, piecesFrom_of_some (hs.read _), piecesFrom_tag h hclosing]
  simp [escapedTag]

theorem renderPieces_details {details : List Chars} (h : IsPlain before)
    (hs : IsStyle style.toList) (hdetails : ∀ detail ∈ details, Fills detail) :
    renderPieces pos [] (piecesFrom before.reverse 0
        (details.flatMap fun detail => ' ' :: styled style detail)) =
      .ok ⟨before ++ details.flatMap (' ' :: ·), []⟩ := by
  induction details generalizing before pos with
  | nil =>
    have hbefore := @renderPieces_textBefore before [] pos [] [] h.shown_eq rfl
    simpa [piecesFrom] using hbefore
  | cons detail details ih =>
    obtain ⟨hf, hrest⟩ := List.forall_mem_cons.mp hdetails
    have hblank : IsPlain (before ++ [' ']) := h.join isPlain_nil opensFirst_nil
    have hreverse : ' ' :: before.reverse = (before ++ [' ']).reverse := by simp
    have hmore : renderPieces (pos + (before ++ [' ']).length + detail.length) [] (piecesFrom [] 0
        (details.flatMap fun detail => ' ' :: styled style detail)) =
          .ok ⟨details.flatMap (' ' :: ·), []⟩ := ih isPlain_nil hrest
    rw [List.flatMap_cons, List.cons_append, piecesFrom_cons (by decide), hreverse,
      piecesFrom_styled hs hf, List.append_assoc, renderPieces_textBefore hblank.shown_eq
        (renderPieces_styled hs hf.plain.shown_eq hmore)]
    simp

/-- A label: a styled text, maybe a plain one, and details in a style of their own. -/
theorem shows_label {inner : String} {details : List Chars} (hs : IsStyle style.toList)
    (hf : Fills text) (hmore : IsPlain more) (hinner : IsStyle inner.toList)
    (hdetails : ∀ detail ∈ details, Fills detail) :
    Shows
      (styled style text ++ (more ++ details.flatMap fun detail => ' ' :: styled inner detail))
      (text ++ (more ++ details.flatMap (' ' :: ·))) := by
  have htail : OpensFirst (details.flatMap fun detail => ' ' :: styled inner detail) ∧
      ∀ c ∈ (details.flatMap fun detail => ' ' :: styled inner detail).head?,
        c ≠ '\\' ∧ c ≠ '[' := by
    cases details with
    | nil => exact ⟨opensFirst_nil, by simp⟩
    | cons detail details =>
      rw [List.flatMap_cons]
      refine ⟨OpensFirst.cons ?_ (by decide), by simp⟩
      simp only [styled, String.toList_append]
      exact opensFirst_bracket _
  have hlabel : renderPieces (0 + text.length) [] (piecesFrom [] 0
      (more ++ details.flatMap fun detail => ' ' :: styled inner detail)) =
        .ok ⟨more ++ details.flatMap (' ' :: ·), []⟩ := by
    rw [piecesFrom_append (hmore.untagged_append htail.1) htail.2, List.replicate_zero,
      List.nil_append, List.append_nil]
    exact renderPieces_details hmore hinner hdetails
  rw [Shows, render, pieces, piecesFrom_styled hs hf]
  simpa [textBefore] using renderPieces_styled hs hf.plain.shown_eq hlabel

theorem shows_styled (hs : IsStyle style.toList) (hf : Fills text) :
    Shows (styled style text) text := by
  have hlabel := shows_label hs hf isPlain_nil hs fun _ (hm : _ ∈ []) => nomatch hm
  simpa using hlabel

end

-- ---------------------------------------------------------------------------
-- The parts of labels
-- ---------------------------------------------------------------------------

section
variable {text : Chars}

def IsLetter (c : Char) : Prop := c ≠ '[' ∧ c ≠ ':' ∧ c ≠ '\\' ∧ isStripped c = false

instance (c : Char) : Decidable (IsLetter c) := inferInstanceAs (Decidable (_ ∧ _))

def IsWord (text : Chars) : Prop := ∀ c ∈ text, IsLetter c

-- Without this instance the search may decide the statement by a run over all characters.
instance (text : Chars) : Decidable (IsWord text) := List.decidableBAll IsLetter text

theorem isWord_append {more : Chars} : IsWord (text ++ more) ↔ IsWord text ∧ IsWord more :=
  List.forall_mem_append

theorem IsWord.isPlain (h : IsWord text) : IsPlain text :=
  isPlain_of_forall fun c hc => ⟨(h c hc).1, (h c hc).2.1, (h c hc).2.2.2⟩

theorem IsWord.fills (h : IsWord text) (hne : text ≠ []) : Fills text where
  plain := h.isPlain
  ends := by
    have hlast := h _ (List.getLast_mem hne)
    exact ⟨text.dropLast, text.getLast hne, (List.dropLast_append_getLast hne).symm,
      hlast.2.2.1, hlast.1⟩

def IsRangeChar (c : Char) : Prop := c.isDigit = true ∨ c ∈ ['-', ',', ' ', ')']

theorem IsRangeChar.isLetter {c : Char} (h : IsRangeChar c) : IsLetter c ∧ startsTag c = false := by
  rcases h with hdigit | hother
  · have hrange : 48 ≤ c.toNat ∧ c.toNat ≤ 57 := by
      simpa [Char.isDigit, UInt32.le_iff_toNat_le] using hdigit
    refine ⟨⟨?_, ?_, ?_, ?_⟩, ?_⟩
    · rintro rfl
      cases hdigit
    · rintro rfl
      cases hdigit
    · rintro rfl
      cases hdigit
    · simp [isStripped]
      omega
    · have hlow : ¬ 'a' ≤ c := by
        rw [Char.le_def, UInt32.le_iff_toNat_le]
        exact fun hle => absurd (Nat.le_trans hle hrange.2) (by decide)
      have hne : c ≠ '#' ∧ c ≠ '/' ∧ c ≠ '@' := by
        refine ⟨?_, ?_, ?_⟩ <;> rintro rfl <;> cases hdigit
      simp [startsTag, hlow, hne]
  · have hword : IsWord ['-', ',', ' ', ')'] := by decide
    have hall : ['-', ',', ' ', ')'].all (! startsTag ·) = true := by decide
    exact ⟨hword c hother, by simpa using List.all_eq_true.mp hall c hother⟩

theorem isRangeChar_toString (n : Int) : ∀ c ∈ (toString n).toList, IsRangeChar c := by
  intro c hc
  cases n with
  | ofNat n =>
    have hdigits : (toString (Int.ofNat n)).toList = Nat.toDigits 10 n := String.toList_ofList
    rw [hdigits] at hc
    exact .inl (Nat.isDigit_of_mem_toDigits (by decide) (by decide) hc)
  | negSucc n =>
    have hdigits : (toString (Int.negSucc n)).toList = '-' :: Nat.toDigits 10 (n + 1) := by
      show ("-" ++ String.ofList (Nat.toDigits 10 (n + 1))).toList = _
      simp
    rw [hdigits] at hc
    rcases List.mem_cons.mp hc with rfl | hc
    · exact .inr (.head _)
    · exact .inl (Nat.isDigit_of_mem_toDigits (by decide) (by decide) hc)

/-- No tag opens a range, as no number begins like one. -/
theorem fills_rangeText (first last : Int) :
    Fills (rangeText (toString first) (toString last)) := by
  have htext : rangeText (toString first) (toString last) =
      '[' :: ((toString first).toList ++ ',' :: ' ' :: (toString last).toList ++ [')']) := by
    simp [rangeText]
  have hchars : ∀ c ∈ (toString first).toList ++ ',' :: ' ' :: (toString last).toList ++ [')'],
      IsRangeChar c := by
    simp only [List.forall_mem_append, List.forall_mem_cons]
    exact ⟨⟨isRangeChar_toString first, .inr (by decide), .inr (by decide),
      isRangeChar_toString last⟩, .inr (by decide), by simp⟩
  rw [htext]
  generalize (toString first).toList ++ ',' :: ' ' :: (toString last).toList = inside at hchars
  have hword : IsWord (inside ++ [')']) := fun c hc => (hchars c hc).isLetter.1
  refine ⟨hword.isPlain.bracket ?_, '[' :: inside, ')', rfl, by decide⟩
  rw [Option.eq_none_iff_forall_ne_some]
  rintro ⟨name, rest⟩ hsome
  obtain ⟨heq, c, tail, rfl, hc, -⟩ := readTag?_eq_some.mp hsome
  rw [(hchars c (heq ▸ .head _)).isLetter.2] at hc
  cases hc

theorem fills_class : ∀ name ∈ walkedClasses, Fills name.toList := by
  have hall : ∀ name ∈ walkedClasses, IsWord name.toList ∧ name.toList ≠ [] := by decide +kernel
  exact fun name hm => (hall name hm).1.fills (hall name hm).2

theorem fills_former : ∀ member ∈ kindMembers,
    Fills ("(original_kind=" ++ member ++ ")").toList := by
  have hall : ∀ member ∈ kindMembers, IsWord ("(original_kind=" ++ member ++ ")").toList ∧
      ("(original_kind=" ++ member ++ ")").toList ≠ [] := by decide +kernel
  exact fun member hm => (hall member hm).1.fills (hall member hm).2

theorem fills_key : ∀ entry ∈ Graph.childKeyTable, ∀ key ∈ entry.2, Fills key.toList := by
  have hall : ∀ entry ∈ Graph.childKeyTable, ∀ key ∈ entry.2,
      IsWord key.toList ∧ key.toList ≠ [] := by decide +kernel
  exact fun entry he key hk => (hall entry he key hk).1.fills (hall entry he key hk).2

end

-- ---------------------------------------------------------------------------
-- Labels
-- ---------------------------------------------------------------------------

/-- What the label of a node shows besides its name: the name of its class, maybe a
former kind, and maybe two offsets. -/
structure Labelled (graph : Graph) (node : Value) : Prop where
  kind : ∃ name ∈ walkedClasses, graph.get node "kind" = .str name
  former : graph.get node "original_kind" = .null ∨ ∃ type member number,
    graph.get node "original_kind" = .enum type member number ∧ member ∈ kindMembers
  span : (graph.get node "source_span").isNull = true ∨ ∃ first last : Int,
    (graph.get node "source_span").isNull = false ∧
      offsetText graph (graph.get (graph.get node "source_span") "start") = toString first ∧
      offsetText graph (graph.get (graph.get node "source_span") "end") = toString last

def PlainlyNamed (graph : Graph) (node : Value) : Prop :=
  ∀ name, graph.get node "name" = .str name → IsPlain name.toList

section
variable {graph : Graph} {node : Value}

theorem intercalate_cons (text : Chars) (texts : List Chars) :
    [' '].intercalate (text :: texts) = text ++ texts.flatMap (' ' :: ·) := by
  induction texts generalizing text with
  | nil => simp [List.intercalate]
  | cons next texts ih =>
    have hnext := ih next
    simp only [List.intercalate] at hnext ⊢
    rw [List.flatMap_cons, List.cons_append, ← hnext]
    simp

def labelDetails (graph : Graph) (node : Value) : List Chars :=
  let former := (kindText? graph (graph.get node "original_kind")).map fun text =>
    ("(original_kind=" ++ text ++ ")").toList
  let span := graph.get node "source_span"
  let range :=
    if span.isNull then none
    else some (rangeText (offsetText graph (graph.get span "start"))
      (offsetText graph (graph.get span "end")))
  former.toList ++ range.toList

theorem labelParts_eq (graph : Graph) (node : Value) :
    labelParts graph node = styled "cyan" ((graph.get node "kind").str?.getD "").toList ::
      (((graph.get node "name").str?.map String.toList).toList ++
        (labelDetails graph node).map (styled "dim")) := by
  unfold labelParts labelDetails
  dsimp only
  split <;> cases kindText? graph (graph.get node "original_kind") <;> simp

theorem Labelled.fills_details (h : Labelled graph node) :
    ∀ detail ∈ labelDetails graph node, Fills detail := by
  unfold labelDetails
  rw [List.forall_mem_append]
  constructor
  · rcases h.former with hnull | ⟨type, member, number, henum, hm⟩
    · simp [hnull, kindText?]
    · rw [henum]
      exact List.forall_mem_singleton.mpr (fills_former member hm)
  · rcases h.span with hnull | ⟨first, last, hspan, hfirst, hlast⟩
    · simp [hnull]
    · rw [hspan, hfirst, hlast]
      exact List.forall_mem_singleton.mpr (fills_rangeText first last)

theorem exists_shows_nodeLabel (h : Labelled graph node) (hname : PlainlyNamed graph node) :
    ∃ shown, Shows (nodeLabel graph node) shown ∧
      ∀ name, graph.get node "name" = .str name → name.toList <:+: shown := by
  obtain ⟨kind, hkind, hk⟩ := h.kind
  have hlabel : nodeLabel graph node = styled "cyan" kind.toList ++
      ((((graph.get node "name").str?.map (' ' :: ·.toList)).getD []) ++
        (labelDetails graph node).flatMap fun detail => ' ' :: styled "dim" detail) := by
    rw [nodeLabel, labelParts_eq, intercalate_cons, hk, List.flatMap_append, List.flatMap_map]
    cases (graph.get node "name").str? <;> simp [Value.str?]
  have hplain : IsPlain (((graph.get node "name").str?.map (' ' :: ·.toList)).getD []) := by
    cases hn : graph.get node "name" with
    | str name => exact (hname name hn).cons (by decide)
    | _ => exact isPlain_nil
  refine ⟨_, hlabel ▸ shows_label isStyle_cyan (fills_class kind hkind) hplain isStyle_dim
    h.fills_details, fun name hn => ?_⟩
  rw [hn]
  exact ⟨kind.toList ++ [' '], (labelDetails graph node).flatMap (' ' :: ·), by simp [Value.str?]⟩

theorem exists_shows_rootLabel {file : String} (h : IsPlain file.toList) (range : Nat × Nat) :
    ∃ shown, Shows (rootLabel file range) shown := by
  have hrange : Fills (rangeText (toString range.1) (toString range.2)) :=
    fills_rangeText range.1 range.2
  have hdetail : Fills (file.toList ++ ' ' :: rangeText (toString range.1) (toString range.2)) := by
    obtain ⟨front, c, hfront, hc⟩ := hrange.ends
    have hopens : OpensFirst (rangeText (toString range.1) (toString range.2)) := by
      simp only [rangeText, String.toList_append]
      exact opensFirst_bracket _
    exact ⟨h.join hrange.plain hopens, file.toList ++ ' ' :: front, c, by rw [hfront]; simp, hc⟩
  have hlabel : rootLabel file range = styled "bold cyan" "Program".toList ++
      ([] ++ [file.toList ++ ' ' :: rangeText (toString range.1) (toString range.2)].flatMap
        fun detail => ' ' :: styled "dim" detail) := by
    simp [rootLabel]
  exact ⟨_, hlabel ▸ shows_label isStyle_boldCyan (fills_class "Program" (.head _)) isPlain_nil
    isStyle_dim (List.forall_mem_singleton.mpr hdetail)⟩

end

-- ---------------------------------------------------------------------------
-- The labels of nodes on a walk
-- ---------------------------------------------------------------------------

section
variable {graph after : Graph} {value place : Value}

theorem offsetText_of_get {offset : Int} (h : graph.get place "offset" = .int offset) :
    offsetText graph place = toString offset := by
  unfold Graph.get at h
  unfold offsetText
  cases hl : (graph.fieldsOf place).lookup "offset" with
  | none =>
    rw [hl] at h
    cases h
  | some held =>
    rw [hl] at h
    cases h
    rfl

theorem offsets_of_span {span : Span} (h : graph.Shows (.span span) value) :
    value.isNull = false ∧
      graph.get (graph.get value "start") "offset" = .int span.start.offset ∧
      graph.get (graph.get value "end") "offset" = .int span.stop.offset := by
  obtain ⟨site, records, hb, hat⟩ := h
  rw [Site.build_span] at hb
  obtain ⟨rfl, hextend⟩ := Prod.mk.inj hb
  rw [← Site.extend_inj hextend] at hat
  rw [Graph.get_of_get hat.tail.tail.head "start", Graph.get_of_get hat.tail.tail.head "end"]
  exact ⟨rfl, Graph.get_of_get hat.head "offset", Graph.get_of_get hat.tail.head "offset"⟩

theorem offsets_of_offsetSpan {first last : Int}
    (h : graph.Shows (.offsetSpan first last) value) :
    value.isNull = false ∧ graph.get value "start" = .int first ∧
      graph.get value "end" = .int last := by
  obtain ⟨site, records, hb, hat⟩ := h
  rw [Site.build, Site.add_eq] at hb
  obtain ⟨rfl, hextend⟩ := Prod.mk.inj hb
  rw [← Site.extend_inj hextend] at hat
  exact ⟨rfl, Graph.get_of_get hat.head "start", Graph.get_of_get hat.head "end"⟩

theorem exists_offsets {blueprint : Blueprint} (hg : Graph.Extends graph after)
    (ht : TellsSpan (some blueprint)) (hs : graph.Shows blueprint value) :
    ∃ first last : Int, value.isNull = false ∧
      offsetText after (after.get value "start") = toString first ∧
      offsetText after (after.get value "end") = toString last := by
  have hget {name : String} (hname : name ≠ "kind" ∧ name ≠ "original_kind") (value : Value) :
      after.get value name = graph.get value name := hg.get_eq hname.1 hname.2 value
  rw [hget (by decide), hget (by decide)]
  cases ht with
  | span span =>
    obtain ⟨hnull, hstart, hstop⟩ := offsets_of_span hs
    rw [← hget (by decide)] at hstart hstop
    exact ⟨_, _, hnull, offsetText_of_get hstart, offsetText_of_get hstop⟩
  | offsetSpan first last =>
    obtain ⟨hnull, hstart, hstop⟩ := offsets_of_offsetSpan hs
    rw [hstart, hstop]
    exact ⟨first, last, hnull, rfl, rfl⟩

theorem mem_kindMembers {blueprint : Blueprint} {type member : String} {number : Int}
    (ht : TellsKind (some blueprint)) (hs : graph.Shows blueprint (.enum type member number)) :
    member ∈ kindMembers := by
  obtain ⟨site, records, hb, -⟩ := hs
  cases ht with
  | text => cases congrArg Prod.fst hb
  | member hm =>
    cases congrArg Prod.fst hb
    exact hm

theorem labelled_of_reaches {source : Source} {program : Program} {site : Site} {root id : RecordId}
    (hbuild : (Site.ofSource source).build program.blueprint = (.ref root, site))
    (h : site.graph.Shaped root) (hs : Graph.StampedIn site.graph site.graph.Walkable after)
    (hv : Graph.Visits site.graph [.ref root] after)
    (hi : Graph.Reaches site.graph after root id) : Labelled after (.ref id) := by
  obtain ⟨old, name, hold, ht, hn, hname, -⟩ := hi.exists_stamped h hs hv
  obtain ⟨fields, htell, hshows⟩ := Program.exists_fields hbuild hold ht
  refine ⟨⟨name, hn, ?kind⟩, ?former, ?span⟩
  case kind => rw [hi.get_kind h hs hv, hs.grown.className_eq, hname]
  case former =>
    cases hformer : after.field? id "original_kind" with
    | none => exact .inl (congrArg (·.getD .null) hformer)
    | some value =>
      obtain ⟨-, hk, type, member, number, rfl⟩ := (Graph.originalKind_iff h hs hv).mp hformer
      rw [Graph.field?, Graph.fields_of_get hold] at hk
      obtain ⟨blueprint, hb, hshow⟩ := hshows.exists_lookup hk
      exact .inr ⟨type, member, number, congrArg (·.getD .null) hformer,
        mem_kindMembers (hb ▸ htell.kind) hshow⟩
  case span =>
    have hspan : after.get (.ref id) "source_span" =
        (old.fields.lookup "source_span").getD .null := by
      rw [hs.grown.get_eq (by decide) (by decide), Graph.get_of_get hold]
    rw [hspan]
    cases hl : old.fields.lookup "source_span" with
    | none => exact .inl rfl
    | some value =>
      obtain ⟨blueprint, hb, hshow⟩ := hshows.exists_lookup hl
      exact .inr (exists_offsets hs.grown (hb ▸ htell.span) hshow)

end

end TemplateTree.Command
