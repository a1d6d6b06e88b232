import TemplateTree.Proofs.Faults
import TemplateTree.Proofs.Offsets

/-!
# Cutting at markers

A text with markers and the strings and sources that it is cut into determine
each other. A mark is a character twice, so it stands first where no earlier
half of it is in the way: the conditions on strings and sources say no more than
that, and a rest may hold opening marks as long as none of them is closed.
-/

namespace TemplateTree

open Text (Chars)

-- ---------------------------------------------------------------------------
-- Where a mark is found
-- ---------------------------------------------------------------------------

theorem Text.cutAt?_eq_none {pattern text : Chars} :
    cutAt? pattern text = none ↔ ¬ pattern <:+: text := by
  rw [← Markup.contains_iff_infix, contains, Bool.not_eq_true, Option.isSome_eq_false_iff,
    Option.isNone_iff_eq_none]

/-- Where a character stands twice for the first time: it does not stand twice
before that, nor as the last one before it. -/
theorem Text.cutAt?_twice_iff {c : Char} {text before after : Chars} :
    cutAt? [c, c] text = some (before, after) ↔
      text = before ++ ([c, c] ++ after) ∧ ¬ [c, c] <:+: before ∧ before.getLast? ≠ some c := by
  induction text generalizing before with
  | nil => simp [cutAt?]
  | cons d rest ih =>
    rw [cutAt?]
    by_cases hp : [c, c].isPrefixOf (d :: rest) = true
    · rw [if_pos hp]
      obtain ⟨behind, hb⟩ := List.isPrefixOf_iff_prefix.mp hp
      rw [← hb]
      constructor
      · intro h
        cases h
        simp
      · rintro ⟨htext, hinside, hlast⟩
        rcases before with - | ⟨e, - | ⟨f, before⟩⟩
        · simpa using htext
        · simp only [List.cons_append, List.cons.injEq] at htext
          exact absurd (by simp [← htext.1]) hlast
        · simp only [List.cons_append, List.nil_append, List.cons.injEq] at htext
          obtain ⟨rfl, rfl, -⟩ := htext
          exact absurd (List.prefix_append [c, c] before).isInfix hinside
    · rw [if_neg hp]
      have hfirst : ∀ {tail : Chars}, d :: rest = c :: c :: tail → False := fun h =>
        hp (List.isPrefixOf_iff_prefix.mpr (h ▸ List.prefix_append [c, c] _))
      simp only [Option.map_eq_some_iff, Prod.exists, Prod.mk.injEq]
      constructor
      · rintro ⟨front, _, hcut, rfl, rfl⟩
        obtain ⟨rfl, hinside, hlast⟩ := ih.mp hcut
        refine ⟨rfl, ?_, ?_⟩
        · rw [List.infix_cons_iff, not_or]
          refine ⟨fun hpre => hp ?_, hinside⟩
          exact List.isPrefixOf_iff_prefix.mpr (hpre.trans (List.prefix_append (d :: front) _))
        · cases front with
          | nil =>
            intro hd
            obtain rfl : d = c := by simpa using hd
            exact hfirst rfl
          | cons e front => simpa using hlast
      · rintro ⟨htext, hinside, hlast⟩
        cases before with
        | nil => exact absurd htext hfirst
        | cons e front =>
          obtain ⟨rfl, rfl⟩ := List.cons.inj htext
          refine ⟨front, after, ih.mpr ⟨rfl, ?_, ?_⟩, rfl, rfl⟩
          · exact fun hi => hinside (List.infix_cons hi)
          · cases front with
            | nil => simp
            | cons f front => simpa using hlast

theorem Text.suffix_of_cutAt?_twice {c : Char} {text before after front behind : Chars}
    (h : cutAt? [c, c] text = some (before, after)) (ht : text = front ++ ([c, c] ++ behind)) :
    behind <:+ after := by
  obtain ⟨htext, hinside, hlast⟩ := cutAt?_twice_iff.mp h
  have hafter : after <:+ text := ⟨before ++ [c, c], by simp [htext]⟩
  have hbehind : behind <:+ text := ⟨front ++ [c, c], by simp [ht]⟩
  have hbefore : before <+: text := ⟨_, htext.symm⟩
  have hlen := congrArg List.length htext
  have hlen' := congrArg List.length ht
  simp only [List.length_append, List.length_cons, List.length_nil] at hlen hlen'
  by_cases hle : behind.length ≤ after.length
  · exact List.suffix_of_suffix_length_le hbehind hafter hle
  · -- Otherwise it stands before the first place, at least with its first half.
    exfalso
    have hhalf : front ++ [c] <+: before :=
      List.prefix_of_prefix_length_le ⟨[c] ++ behind, by simp [ht]⟩ hbefore
        (by simp only [List.length_append, List.length_cons, List.length_nil]; omega)
    by_cases hboth : front.length + 2 ≤ before.length
    · have hwhole : front ++ [c, c] <+: before :=
        List.prefix_of_prefix_length_le ⟨behind, by simp [ht]⟩ hbefore (by simpa using hboth)
      exact hinside ((List.suffix_append front [c, c]).isInfix.trans hwhole.isInfix)
    · have hsame : front ++ [c] = before := by
        refine hhalf.eq_of_length ?_
        simp only [List.length_append, List.length_cons, List.length_nil]
        omega
      exact hlast (by simp [← hsame])

namespace Segments

-- ---------------------------------------------------------------------------
-- Strings and sources
-- ---------------------------------------------------------------------------

def weave : List Chars → List Chars → Chars
  | string :: strings, source :: sources =>
    string ++ (opening ++ (source ++ (closing ++ weave strings sources)))
  | strings, _ => strings.flatten

def offsets (strings sources : List Chars) : List Nat :=
  (List.range sources.length).map fun i =>
    (weave (strings.take (i + 1)) (sources.take i)).length + opening.length

structure Canonical (strings sources : List Chars) : Prop where
  count : strings.length = sources.length + 1
  /-- No string before a marker holds an opening mark or ends with half of one. -/
  literals : ∀ string ∈ strings.dropLast, ¬ opening <:+: string ∧ string.getLast? ≠ some '\x7b'
  enclosed : ∀ source ∈ sources, ¬ closing <:+: source ∧ source.getLast? ≠ some '\x7d'
  /-- Behind no opening mark of the last string there is a closing mark. -/
  tail : ∀ string ∈ strings.getLast?, ∀ before behind, string = before ++ (opening ++ behind) →
    ¬ closing <:+: behind

variable {text before behind source rest string : Chars} {strings sources : List Chars}

theorem canonical_singleton : Canonical [string] [] ↔
    ∀ before behind, string = before ++ (opening ++ behind) → ¬ closing <:+: behind :=
  ⟨fun h => h.tail string rfl, fun h => ⟨rfl, by simp, by simp, by simpa using h⟩⟩

theorem canonical_cons (hne : strings ≠ []) :
    Canonical (string :: strings) (source :: sources) ↔
      (¬ opening <:+: string ∧ string.getLast? ≠ some '\x7b') ∧
      (¬ closing <:+: source ∧ source.getLast? ≠ some '\x7d') ∧ Canonical strings sources := by
  have hdrop : (string :: strings).dropLast = string :: strings.dropLast :=
    List.dropLast_cons_of_ne_nil hne
  have hlast : (string :: strings).getLast? = strings.getLast? := by
    cases strings with
    | nil => exact absurd rfl hne
    | cons _ _ => exact List.getLast?_cons_cons
  constructor
  · intro h
    have hs := h.literals
    rw [hdrop, List.forall_mem_cons] at hs
    obtain ⟨hsource, hsources⟩ := List.forall_mem_cons.mp h.enclosed
    refine ⟨hs.1, hsource, ⟨?_, hs.2, hsources, hlast ▸ h.tail⟩⟩
    simpa using h.count
  · rintro ⟨hstring, hsource, h⟩
    refine ⟨by simp [h.count], ?_, List.forall_mem_cons.mpr ⟨hsource, h.enclosed⟩, hlast ▸ h.tail⟩
    rw [hdrop, List.forall_mem_cons]
    exact ⟨hstring, h.literals⟩

theorem offsets_cons : offsets (string :: strings) (source :: sources) =
    (string.length + 2) ::
      (offsets strings sources).map (string.length + 2 + source.length + 2 + ·) := by
  have hopened : opening.length = 2 := rfl
  have hclosed : closing.length = 2 := rfl
  simp only [offsets, List.length_cons, List.range_succ_eq_map, List.map_cons, List.map_map]
  refine congrArg₂ _ ?_ (List.map_congr_left fun i _ => ?_)
  · simp [weave, hopened]
  · simp only [Function.comp_apply, Nat.succ_eq_add_one, List.take_succ_cons, weave,
      List.length_append, hopened, hclosed]
    omega

-- ---------------------------------------------------------------------------
-- Cutting
-- ---------------------------------------------------------------------------

def Unclosed (text : Chars) : Prop :=
  ∀ before behind, Text.cutAt? opening text = some (before, behind) →
    Text.cutAt? closing behind = none

theorem ofText_of_unclosed (h : Unclosed text) : ofText text = .last text := by
  rw [ofText]
  split
  · rfl
  · rename_i hopen
    split
    · rfl
    · rename_i hclose
      rw [h _ _ hopen] at hclose
      cases hclose

/-- It is enough to look behind the first opening mark. -/
theorem unclosed_iff : Unclosed text ↔
    ∀ before behind, text = before ++ (opening ++ behind) → ¬ closing <:+: behind := by
  constructor
  · intro h front behind htext hinside
    have hcontains : ¬ Text.cutAt? opening text = none := by
      rw [Text.cutAt?_eq_none, not_not]
      exact ⟨front, behind, by simp [htext]⟩
    obtain ⟨⟨before, after⟩, hopen⟩ := Option.ne_none_iff_exists'.mp hcontains
    have hbehind := Text.suffix_of_cutAt?_twice hopen htext
    exact Text.cutAt?_eq_none.mp (h before after hopen) (hinside.trans hbehind.isInfix)
  · intro h before behind hopen
    exact Text.cutAt?_eq_none.mpr (h before behind (Text.cutAt?_twice_iff.mp hopen).1)

theorem strings_ne_nil (segments : Segments) : segments.strings ≠ [] := by
  cases segments <;> simp [strings]

/-- Where the text begins decides the offsets of the sources only. -/
theorem map_fst_sources (segments : Segments) (pos : Nat) :
    (segments.sources pos).map Prod.fst = (segments.sources 0).map Prod.fst := by
  induction segments generalizing pos with
  | last text => rfl
  | marker before source rest ih =>
    simp only [sources, List.map_cons]
    rw [ih, ih (0 + before.length + 2 + source.length + 2)]

theorem map_snd_sources (segments : Segments) (pos : Nat) :
    (segments.sources pos).map Prod.snd =
      (offsets segments.strings ((segments.sources 0).map Prod.fst)).map (pos + ·) := by
  induction segments generalizing pos with
  | last text => rfl
  | marker before source rest ih =>
    simp only [sources, strings, List.map_cons, ih]
    rw [map_fst_sources rest (0 + _ + 2 + _ + 2), offsets_cons, List.map_cons, List.map_map]
    refine congrArg₂ _ (by omega) (List.map_congr_left fun i _ => ?_)
    simp only [Function.comp_apply]
    omega

theorem canonical_ofText (text : Chars) :
    Canonical (ofText text).strings (markers text) ∧
      weave (ofText text).strings (markers text) = text := by
  have hopen : ∀ {text : Chars}, Unclosed text → Canonical [text] [] ∧ weave [text] [] = text :=
    fun h => ⟨canonical_singleton.mpr (unclosed_iff.mp h), by simp [weave]⟩
  unfold markers
  fun_induction ofText text with
  | case1 text h =>
    refine hopen fun _ _ hopened => ?_
    rw [h] at hopened
    cases hopened
  | case2 text before behind h h' =>
    refine hopen fun _ _ hopened => ?_
    rw [h] at hopened
    cases hopened
    exact h'
  | case3 text before behind h source rest h' ih =>
    obtain ⟨hcanonical, hwoven⟩ := ih
    obtain ⟨rfl, hstring⟩ := Text.cutAt?_twice_iff.mp h
    obtain ⟨rfl, hsource⟩ := Text.cutAt?_twice_iff.mp h'
    rw [strings, sources, List.map_cons, map_fst_sources, canonical_cons (strings_ne_nil _), weave,
      hwoven]
    exact ⟨⟨hstring, hsource, hcanonical⟩, rfl⟩

theorem ofText_weave (h : Canonical strings sources) :
    (ofText (weave strings sources)).strings = strings ∧
      markers (weave strings sources) = sources := by
  induction sources generalizing strings with
  | nil =>
    obtain ⟨string, rfl⟩ := List.length_eq_one_iff.mp h.count
    have hlast : ofText (weave [string] []) = .last string := by
      rw [show weave [string] [] = string by simp [weave]]
      exact ofText_of_unclosed (unclosed_iff.mpr (canonical_singleton.mp h))
    simp [markers, hlast, Segments.strings, Segments.sources]
  | cons source sources ih =>
    obtain ⟨string, strings, rfl⟩ :=
      List.exists_cons_of_ne_nil (List.ne_nil_of_length_eq_add_one h.count)
    have hne : strings ≠ [] := by
      rintro rfl
      simpa using h.count
    obtain ⟨hstring, hsource, h⟩ := (canonical_cons hne).mp h
    have hopen := Text.cutAt?_twice_iff.mpr
      ⟨(rfl : weave (string :: strings) (source :: sources) = _), hstring⟩
    have hclose := Text.cutAt?_twice_iff.mpr
      ⟨(rfl : source ++ (closing ++ weave strings sources) = _), hsource⟩
    obtain ⟨ihs, ihm⟩ := ih h
    rw [markers, ofText_of_cuts hopen hclose, Segments.strings, Segments.sources, List.map_cons,
      map_fst_sources, ← markers, ihs, ihm]
    exact ⟨rfl, rfl⟩

theorem sources_increasing (segments : Segments) (pos : Nat) :
    (∀ marker ∈ segments.sources pos, pos < marker.2) ∧
      (segments.sources pos).Pairwise fun a b => a.2 < b.2 := by
  induction segments generalizing pos with
  | last text => exact ⟨by simp [sources], .nil⟩
  | marker before source rest ih =>
    obtain ⟨hlater, hpairs⟩ := ih (pos + before.length + 2 + source.length + 2)
    rw [sources, List.forall_mem_cons]
    refine ⟨⟨by omega, fun marker hm => ?_⟩, .cons (fun marker hm => ?_) hpairs⟩
    · have := hlater marker hm
      omega
    · have := hlater marker hm
      dsimp only
      omega

/-- A text with markers and what it is cut into determine each other: the strings
and the sources are those that fulfil the conditions and give the text when they
are woven together, and the offsets are those of the sources in the text. -/
theorem ofText_iff_canonical (text : Chars) :
    (∀ strings expressions,
      (ofText text).strings = strings ∧ (ofText text).sources 0 = expressions ↔
        Canonical strings (expressions.map Prod.fst) ∧
        weave strings (expressions.map Prod.fst) = text ∧
        expressions.map Prod.snd = offsets strings (expressions.map Prod.fst)) ∧
    (∀ expression ∈ (ofText text).sources 0,
      (text.drop expression.2).take expression.1.length = expression.1) ∧
    ((ofText text).sources 0).Pairwise (fun a b => a.2 < b.2) := by
  have hoffsets : ∀ segments : Segments, (segments.sources 0).map Prod.snd =
      offsets segments.strings ((segments.sources 0).map Prod.fst) := by
    intro segments
    rw [map_snd_sources]
    simp
  refine ⟨fun strings expressions => ⟨?_, ?_⟩, fun expression he => ?_,
    (sources_increasing _ 0).2⟩
  · rintro ⟨rfl, rfl⟩
    obtain ⟨hcanonical, hwoven⟩ := canonical_ofText text
    exact ⟨hcanonical, hwoven, hoffsets _⟩
  · rintro ⟨hcanonical, rfl, hplaces⟩
    obtain ⟨hstrings, hmarkers⟩ := ofText_weave hcanonical
    refine ⟨hstrings, ?_⟩
    have hfst : ((ofText _).sources 0).map Prod.fst = expressions.map Prod.fst := hmarkers
    have hsnd := hoffsets (ofText (weave strings (expressions.map Prod.fst)))
    rw [hfst, hstrings, ← hplaces] at hsnd
    have hzip : ∀ pairs : List (Chars × Nat),
        (pairs.map Prod.fst).zip (pairs.map Prod.snd) = pairs :=
      fun pairs => by simpa only [List.unzip_eq_map] using List.zip_unzip pairs
    rw [← hzip ((ofText _).sources 0), hfst, hsnd, hzip]
  · -- The text is a source of its own.
    have hown : (Source.ofText text "").HasAt (0 + 0) (ofText text).written := by
      rw [written_ofText]
      exact Source.hasAt_ofText text ""
    obtain ⟨before, after, htext, hlen⟩ := hasAt_source hown expression he
    change text = _ at htext
    rw [Nat.zero_add] at hlen
    rw [htext, ← hlen]
    simp

example : let cut := ofText "\x7b\x7b\x7ba\x7d\x7d\x7d \x7b\x7b".toList
    cut.strings = ["".toList, "\x7d \x7b\x7b".toList] ∧ cut.sources 0 = [("\x7ba".toList, 2)] := by
  decide +kernel

end Segments

end TemplateTree
