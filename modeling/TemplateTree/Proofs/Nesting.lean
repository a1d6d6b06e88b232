import TemplateTree.Text.Letter

/-!
# Nested tags

Tags are well nested if they pair up without crossing. A scan with a stack of
open elements decides it.
-/

namespace TemplateTree.Markup

open Text (Chars)

inductive Bracket where
  | opening (name : Chars)
  | closing (name : Chars)
  deriving DecidableEq, Repr

/-- Every opening tag has an end tag of its own, with the same name up to case,
and what stands between them is nested. -/
inductive Nested : List Bracket → Prop
  | nil : Nested []
  | pair {name name' inner rest} :
      Text.lower name = Text.lower name' → Nested inner → Nested rest →
      Nested (.opening name :: (inner ++ .closing name' :: rest))

/-- Starting with these open elements, innermost first, everything is closed at
the end. -/
def Closes : List Chars → List Bracket → Prop
  | stack, [] => stack = []
  | stack, .opening name :: rest => Closes (name :: stack) rest
  | [], .closing _ :: _ => False
  | top :: stack, .closing name :: rest => Text.lower top = Text.lower name ∧ Closes stack rest

theorem Nested.closes_append {inner : List Bracket} (h : Nested inner) (stack : List Chars)
    (rest : List Bracket) : Closes stack (inner ++ rest) ↔ Closes stack rest := by
  induction h generalizing stack rest with
  | nil => rfl
  | @pair name name' inner after hn _ _ ihi iha =>
    rw [List.cons_append, List.append_assoc, List.cons_append]
    simp only [Closes, ihi, iha, hn, true_and]

theorem Closes.split {top : Chars} {stack : List Chars} {brackets : List Bracket}
    (h : Closes (top :: stack) brackets) :
    ∃ inner name rest, brackets = inner ++ .closing name :: rest ∧ Nested inner ∧
      Text.lower top = Text.lower name ∧ Closes stack rest := by
  -- Both what is behind the opening tag and what is behind its end tag are shorter.
  induction hlen : brackets.length using Nat.strongRecOn
    generalizing top stack brackets with
  | _ n ih =>
    match brackets, h with
    | .closing name :: rest, h => exact ⟨[], name, rest, rfl, .nil, h.1, h.2⟩
    | .opening opened :: rest, h =>
      rw [List.length_cons] at hlen
      simp only [Closes] at h
      obtain ⟨inner, name, rest, rfl, hi, hn, hr⟩ := ih _ (by omega) h rfl
      simp only [List.length_append, List.length_cons] at hlen
      obtain ⟨inner', name', rest', rfl, hi', hn', hr'⟩ := ih _ (by omega) hr rfl
      refine ⟨.opening opened :: (inner ++ .closing name :: inner'), name', rest', ?_,
        .pair hn hi hi', hn', hr'⟩
      simp

theorem closes_nil_iff (brackets : List Bracket) : Closes [] brackets ↔ Nested brackets := by
  constructor
  · intro h
    induction hlen : brackets.length using Nat.strongRecOn generalizing brackets with
    | _ n ih =>
      match brackets, h with
      | [], _ => exact .nil
      | .opening opened :: rest, h =>
        obtain ⟨inner, name, rest, rfl, hi, hn, hr⟩ := Closes.split h
        simp only [List.length_append, List.length_cons] at hlen
        exact .pair hn hi (ih _ (by omega) rest hr rfl)
  · intro h
    have hc := h.closes_append [] []
    rw [List.append_nil] at hc
    exact hc.mpr rfl

end TemplateTree.Markup
