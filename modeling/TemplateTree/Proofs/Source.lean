import TemplateTree.Source.Basic

/-!
# Offsets inside a source

Offsets up to the length of the text are located where they are, so the span
of a part of the text covers exactly that part.
-/

namespace TemplateTree.Source

open Text (Chars)

variable {source : Source} {body more : Chars} {pos : Nat}

theorem clamp_of_le {offset : Nat} (h : offset ≤ source.text.length) :
    source.clamp offset = offset := by
  simp only [clamp, Int.toNat_natCast]
  exact Nat.min_eq_left h

@[simp] theorem span_start_offset (start stop : Int) :
    (source.span start stop).start.offset = source.clamp start := rfl

@[simp] theorem span_stop_offset (start stop : Int) :
    (source.span start stop).stop.offset = source.clamp stop := rfl

theorem locate_locate_offset (offset : Int) :
    source.locate (source.locate offset).offset = source.locate offset := by
  have hc : source.clamp (source.clamp offset) = source.clamp offset :=
    clamp_of_le (Nat.min_le_right _ _)
  simp only [locate, hc]

def HasAt (source : Source) (pos : Nat) (body : Chars) : Prop :=
  ∃ before after, source.text = before ++ (body ++ after) ∧ before.length = pos

theorem HasAt.of_append (h : source.HasAt pos (body ++ more)) :
    source.HasAt pos body ∧ source.HasAt (pos + body.length) more := by
  obtain ⟨before, after, ht, rfl⟩ := h
  exact ⟨⟨before, more ++ after, by simpa using ht, rfl⟩,
    ⟨before ++ body, after, by simpa using ht, by simp⟩⟩

theorem HasAt.le_length (h : source.HasAt pos body) : pos + body.length ≤ source.text.length := by
  obtain ⟨before, after, ht, rfl⟩ := h
  have := congrArg List.length ht
  simp only [List.length_append] at this
  omega

theorem HasAt.span_start (h : source.HasAt pos body) (stop : Int) :
    (source.span pos stop).start.offset = pos :=
  clamp_of_le (by have := h.le_length; omega)

theorem HasAt.span_stop (h : source.HasAt pos body) (start : Int) :
    (source.span start (pos + body.length)).stop.offset = pos + body.length := by
  rw [← Int.natCast_add]
  exact clamp_of_le h.le_length

theorem HasAt.textOf_span (h : source.HasAt pos body) :
    source.textOf (source.span pos (pos + body.length)) = body := by
  have hstart := h.span_start (pos + body.length)
  have hstop := h.span_stop pos
  obtain ⟨before, after, ht, rfl⟩ := h
  rw [textOf, hstart, hstop, ht]
  simp [List.take_append]

end TemplateTree.Source
