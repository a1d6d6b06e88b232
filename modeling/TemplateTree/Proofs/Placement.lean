import TemplateTree.Markup.Entries
import TemplateTree.Proofs.Source

/-!
# Where values stand

The offset that is worked out for a value on its way through a tag, through the
clauses of a directive or through the markers of a text is the offset at which
the value stands in the source.
-/

namespace TemplateTree

open Text (Chars isBlank)

variable {source : Source} {pos : Nat}

namespace Source

variable {body more part : Chars}

theorem HasAt.append (h : source.HasAt pos body) (h' : source.HasAt (pos + body.length) more) :
    source.HasAt pos (body ++ more) := by
  obtain ⟨before, after, ht, rfl⟩ := h
  obtain ⟨before', after', ht', hlen⟩ := h'
  have hsame : before ++ body = before' ∧ after = more ++ after' := by
    refine List.append_inj ?_ (by simp [hlen])
    rw [List.append_assoc, ← ht, ht']
  exact ⟨before, after', by rw [ht, hsame.2, List.append_assoc], rfl⟩

theorem HasAt.of_suffix (h : source.HasAt pos body) (hs : part <:+ body) :
    source.HasAt (pos + (body.length - part.length)) part := by
  obtain ⟨front, rfl⟩ := hs
  have hlen : (front ++ part).length - part.length = front.length := by simp
  rw [hlen]
  exact h.of_append.2

theorem HasAt.trim (h : source.HasAt pos body) :
    source.HasAt (pos + (body.length - (Text.trimLeft body).length)) (Text.trim body) := by
  have hleft : source.HasAt _ (Text.trimLeft body) := h.of_suffix (List.dropWhile_suffix _)
  have hright : Text.trim body <+: Text.trimLeft body := by
    rw [← List.reverse_suffix, Text.trim, Text.trimRight, List.reverse_reverse]
    exact List.dropWhile_suffix _
  obtain ⟨blanks, hb⟩ := hright
  generalize pos + (body.length - (Text.trimLeft body).length) = start at hleft ⊢
  rw [← hb] at hleft
  exact hleft.of_append.1

end Source

-- ---------------------------------------------------------------------------
-- Markers
-- ---------------------------------------------------------------------------

namespace Segments

def written : Segments → Chars
  | last text => text
  | marker before source rest => before ++ opening ++ source ++ closing ++ rest.written

theorem written_ofText (text : Chars) : (ofText text).written = text := by
  fun_induction ofText text with
  | case1 text h => rfl
  | case2 text before behind h h' => rfl
  | case3 text before behind h source rest h' ih =>
    rw [written, ih, Text.cutAt?_eq_some h, Text.cutAt?_eq_some h']
    simp

theorem ofText_of_cuts {text before behind body rest : Chars}
    (hopen : Text.cutAt? opening text = some (before, behind))
    (hclose : Text.cutAt? closing behind = some (body, rest)) :
    ofText text = .marker before body (ofText rest) := by
  rw [ofText]
  split
  · rename_i hnone
    rw [hopen] at hnone
    cases hnone
  · rename_i hsome
    rw [hopen] at hsome
    cases hsome
    split
    · rename_i hnone
      rw [hclose] at hnone
      cases hnone
    · rename_i hsome
      rw [hclose] at hsome
      cases hsome
      rfl

theorem hasAt_source {segments : Segments} {start : Nat}
    (h : source.HasAt (pos + start) segments.written) :
    ∀ marker ∈ segments.sources start, source.HasAt (pos + marker.2) marker.1 := by
  induction segments generalizing start with
  | last text => simp [sources]
  | marker before body rest ih =>
    simp only [written, List.append_assoc] at h
    have hopen := h.of_append.2.of_append.2
    have hbody := hopen.of_append.1
    have hrest := hopen.of_append.2.of_append.2
    have hopened : opening.length = 2 := rfl
    have hclosed : closing.length = 2 := rfl
    simp only [hopened, hclosed, Nat.add_assoc] at hbody hrest
    simp only [sources, List.forall_mem_cons, Nat.add_assoc]
    exact ⟨hbody, ih hrest⟩

end Segments

namespace Markup

-- ---------------------------------------------------------------------------
-- Attributes
-- ---------------------------------------------------------------------------

structure PlacedAttribute.Stands (source : Source) (attr : PlacedAttribute) : Prop where
  key : source.textOf attr.keySpan = attr.name
  value : source.HasAt attr.valueStart attr.value

theorem Attribute.place_stands {attr : Attribute} (h : source.HasAt pos attr.written) :
    (attr.place source pos).Stands source := by
  have hname := h.of_append.2.of_append.1
  have hvalue := h.of_append.2.of_append.2
  refine ⟨by simpa [place] using hname.textOf_span, ?_⟩
  cases hv : attr.value with
  | none =>
    rw [hv] at hvalue
    simpa [place, valueText, hv] using hvalue
  | some a =>
    rw [hv, Option.map_some, Option.getD_some, Assignment.written] at hvalue
    have hsign := hvalue.of_append.2
    rw [← List.singleton_append] at hsign
    have htext := hsign.of_append.2.of_append.2.of_append.2.of_append.1
    simpa [place, valueText, hv, Nat.add_assoc] using htext

theorem placeAttributes_stand {attributes : List Attribute}
    (h : source.HasAt pos (writtenAttributes attributes)) :
    ∀ attr ∈ placeAttributes source pos attributes, attr.Stands source := by
  induction attributes generalizing pos with
  | nil => simp [placeAttributes]
  | cons attr rest ih =>
    obtain ⟨hfirst, hrest⟩ := h.of_append
    exact List.forall_mem_cons.mpr ⟨attr.place_stands hfirst, ih hrest⟩

theorem StartTag.hasAt_attributes {tag : StartTag} (h : source.HasAt pos tag.written) :
    source.HasAt (pos + 1 + tag.name.length) (writtenAttributes tag.attributes) := by
  rw [StartTag.written, ← List.singleton_append] at h
  exact h.of_append.2.of_append.2.of_append.1

-- ---------------------------------------------------------------------------
-- Clauses
-- ---------------------------------------------------------------------------

theorem hasAt_clauseRuns {value run : Chars} {first start : Nat}
    (h : source.HasAt (pos + first) value) (hr : (start, run) ∈ clauseRuns first value) :
    source.HasAt (pos + start) run := by
  induction value generalizing first start run with
  | nil => cases hr
  | cons c rest ih =>
    rw [← List.singleton_append] at h
    obtain ⟨hc, hrest⟩ := h.of_append
    rw [List.length_singleton, Nat.add_assoc] at hrest
    unfold clauseRuns at hr
    split at hr
    · exact ih hrest hr
    · split at hr
      · rename_i start' run' more heq
        have hnext : source.HasAt (pos + start') run' := ih hrest (heq ▸ .head _)
        split at hr
        · rename_i hs
          rcases List.mem_cons.mp hr with hr | hr
          · cases hr
            rw [beq_iff_eq] at hs
            rw [hs, ← Nat.add_assoc] at hnext
            exact hc.append hnext
          · exact ih hrest (heq ▸ .tail _ hr)
        · rcases List.mem_cons.mp hr with hr | hr
          · cases hr
            exact hc
          · exact ih hrest (heq ▸ hr)
      · rw [List.mem_singleton] at hr
        cases hr
        exact hc

section
variable {text rest name : Chars}

theorem readWord?_suffix {word : Chars} (h : readWord? word text = some rest) : rest <:+ text := by
  unfold readWord? at h
  split at h
  · cases h
    exact List.drop_suffix _ _
  · cases h

theorem readBlanks?_suffix (h : readBlanks? text = some rest) : rest <:+ text := by
  unfold readBlanks? at h
  split at h
  · cases h
    exact List.dropWhile_suffix _
  · cases h

theorem readIdentifier?_suffix (h : readIdentifier? text = some (name, rest)) : rest <:+ text := by
  unfold readIdentifier? at h
  split at h
  · cases h
  · cases h
    exact List.dropWhile_suffix _

theorem readKeyedBody?_suffix (h : readKeyedBody? text = some rest) : rest <:+ text := by
  unfold readKeyedBody? at h
  extract_lets afterColon at h
  have hcolon : afterColon <:+ text := by
    unfold afterColon
    split
    · rename_i behind hb
      have hbehind : ':' :: behind <:+ text := hb ▸ List.dropWhile_suffix _
      exact (List.dropWhile_suffix _).trans ((List.suffix_cons _ _).trans hbehind)
    · exact List.nil_suffix
  clear_value afterColon
  split at h
  · cases h
    exact hcolon
  · split at h
    · rename_i hb
      cases h
      exact readBlanks?_suffix hb
    · cases h

end

def Clause.expression? : Clause → Option (Chars × Nat)
  | .forEach _ _ expression shift | .keyed _ expression shift => some (expression, shift)
  | .assign _ _ | .renamed _ _ | .plain => none

section
variable {text : Chars} {clause : Clause}

def Clause.EndsIn (text : Chars) (clause : Clause) : Prop :=
  ∀ expression shift, clause.expression? = some (expression, shift) →
    expression <:+ text ∧ shift = text.length - expression.length

theorem readForEach?_endsIn (h : readForEach? text = some clause) : clause.EndsIn text := by
  simp only [readForEach?, Option.bind_eq_bind, Option.bind_eq_some_iff, Option.pure_def,
    Prod.exists] at h
  obtain ⟨_, hw, _, hb, _, _, hn, _, hb', _, _, hk, expression, he, h⟩ := h
  split at h
  · cases h
  · cases h
    rintro _ _ ⟨⟩
    refine ⟨?_, rfl⟩
    exact (readBlanks?_suffix he).trans <| (readIdentifier?_suffix hk).trans <|
      (readBlanks?_suffix hb').trans <| (readIdentifier?_suffix hn).trans <|
      (readBlanks?_suffix hb).trans (readWord?_suffix hw)

theorem readKeyed?_endsIn (h : readKeyed? text = some clause) : clause.EndsIn text := by
  simp only [readKeyed?, Option.bind_eq_bind, Option.bind_eq_some_iff, Option.pure_def,
    Prod.exists] at h
  obtain ⟨_, _, hk, expression, he, h⟩ := h
  cases h
  rintro _ _ ⟨⟩
  exact ⟨(readKeyedBody?_suffix he).trans (readIdentifier?_suffix hk), rfl⟩

theorem readAssign?_endsIn (h : readAssign? text = some clause) : clause.EndsIn text := by
  simp only [readAssign?, Option.bind_eq_bind, Option.bind_eq_some_iff, Option.pure_def,
    Prod.exists] at h
  obtain ⟨_, -, _, -, _, _, -, _, -, _, -, h⟩ := h
  cases h
  rintro _ _ ⟨⟩

theorem readAlias?_endsIn (h : readAlias? text = some clause) : clause.EndsIn text := by
  simp only [readAlias?, Option.bind_eq_bind, Option.bind_eq_some_iff, Option.pure_def,
    Prod.exists] at h
  obtain ⟨_, _, -, _, -, _, -, _, -, _, -, h⟩ := h
  cases h
  rintro _ _ ⟨⟩

theorem Clause.ofText_endsIn (first : Bool) (text : Chars) :
    (Clause.ofText first text).EndsIn text := by
  unfold Clause.ofText
  dsimp only
  cases ha : readAssign? text with
  | some clause => exact readAssign?_endsIn ha
  | none =>
    cases hf : readForEach? text with
    | some clause => exact readForEach?_endsIn hf
    | none =>
      cases hr : readAlias? text with
      | some clause => exact readAlias?_endsIn hr
      | none =>
        cases first with
        | true => rintro _ _ ⟨⟩
        | false =>
          cases hk : readKeyed? text with
          | some clause => exact readKeyed?_endsIn hk
          | none => rintro _ _ ⟨⟩

end

end Markup

end TemplateTree
