import TemplateTree.Proofs.Extents
import TemplateTree.Proofs.Scanners

/-!
# Comment tokens

The tokens of comments are sorted by where they start, and those that start together
keep their order. In an analyzed template they are the comments that the pattern of
markup finds, from left to right: `run_comments` says what a scan collects and
`commentMatches_eq` that this is what is found.
-/

namespace TemplateTree

open Text (Chars)
open Text.Pattern (Found)
open Markup
open Expression (bind_eq_ok exists_ok_of_isOk)

-- ---------------------------------------------------------------------------
-- Sorting
-- ---------------------------------------------------------------------------

namespace CommentToken

theorem ofComments_perm (comments : List Comment) :
    (ofComments comments).Perm (comments.map Comment.toToken) :=
  List.mergeSort_perm _ _

theorem startLe_trans (a b c : CommentToken) (hab : decide (a.start ≤ b.start) = true)
    (hbc : decide (b.start ≤ c.start) = true) : decide (a.start ≤ c.start) = true := by
  rw [decide_eq_true_eq] at hab hbc ⊢
  exact hab.trans hbc

theorem startLe_total (a b : CommentToken) :
    (decide (a.start ≤ b.start) || decide (b.start ≤ a.start)) = true := by
  simpa using Nat.le_total a.start b.start

theorem ofComments_sorted (comments : List Comment) :
    (ofComments comments).Pairwise fun a b => a.start ≤ b.start := by
  have hsorted := List.pairwise_mergeSort startLe_trans startLe_total
    (comments.map Comment.toToken)
  simpa only [ofComments, decide_eq_true_eq] using hsorted

theorem ofComments_filter (comments : List Comment) (start : Nat) :
    (ofComments comments).filter (·.start = start) =
      (comments.map Comment.toToken).filter (·.start = start) := by
  -- Those that start together are in order already, so sorting keeps them as they are.
  have hkept : List.Sublist ((comments.map Comment.toToken).filter (·.start = start))
      (ofComments comments) := by
    refine List.sublist_mergeSort startLe_trans startLe_total ?_ List.filter_sublist
    rw [List.pairwise_filter]
    refine List.pairwise_of_forall fun a b ha hb => ?_
    rw [decide_eq_true_eq] at ha hb ⊢
    rw [ha, hb]
  have hsub := hkept.filter (·.start = start)
  rw [List.filter_filter, funext fun token => Bool.and_self _] at hsub
  have hperm := (ofComments_perm comments).filter (·.start = start)
  exact (hsub.eq_of_length hperm.length_eq.symm).symm

theorem ofComments_of_sorted {comments : List Comment}
    (h : (comments.map Comment.toToken).Pairwise fun a b => a.start ≤ b.start) :
    ofComments comments = comments.map Comment.toToken :=
  List.mergeSort_of_pairwise (h.imp fun hab => decide_eq_true hab)

end CommentToken

-- ---------------------------------------------------------------------------
-- Comments among pieces
-- ---------------------------------------------------------------------------

structure CommentSpot where
  text : Chars
  start : Nat
  stop : Nat
  deriving DecidableEq, Repr

def CommentSpot.comment (source : Source) (spot : CommentSpot) : Comment :=
  ⟨spot.text, source.span spot.start spot.stop⟩

def CommentToken.spot (token : CommentToken) : CommentSpot :=
  ⟨token.text, token.start, token.stop⟩

namespace Markup

def Piece.comment? : Piece → Option Chars
  | .construct (.comment value) => some value
  | _ => none

def commentSpots (pos : Nat) : List Piece → List CommentSpot
  | [] => []
  | piece :: rest =>
    let stop := pos + piece.written.length
    (piece.comment?.map fun value => ⟨value, pos, stop⟩).toList ++ commentSpots stop rest

section
variable {source : Source} {options : ParseOptions} {pos : Nat} {state state' : State}
variable {piece : Piece} {pieces : List Piece} {value : Chars}

theorem Piece.comment?_eq_some (h : piece.comment? = some value) :
    piece = .construct (.comment value) := by
  unfold Piece.comment? at h
  split at h
  · cases h
    rfl
  · cases h

theorem step_comments (h : state.step source options pos piece = .ok state') :
    state'.comments = state.comments ++ (piece.comment?.map fun value =>
      CommentSpot.comment source ⟨value, pos, pos + piece.written.length⟩).toList := by
  cases piece with
  | text value =>
    rcases addText_cases h with ⟨-, rfl⟩ | ⟨-, -, -, rfl⟩ | ⟨-, _, _, -, rfl⟩ <;>
      simp [Piece.comment?, State.report]
  | construct c =>
    cases c with
    | comment value =>
      rw [step_comment] at h
      cases h
      simp [Piece.comment?, CommentSpot.comment, Piece.written]
    | endTag name tail =>
      rw [step_endTag] at h
      cases h
      rcases closeElement_cases state source name
        (source.span pos (pos + (Construct.endTag name tail).written.length)) with
        ⟨_, _, -, -, he⟩ | ⟨-, he⟩ <;>
        simp [he, Piece.comment?, State.report]
    | startTag tag =>
      obtain ⟨_, _, -, ⟨-, rfl⟩ | ⟨-, rfl⟩⟩ := openElement_cases h <;>
        simp [Piece.comment?, State.report]

theorem run_comments (h : state.run source options pos pieces = .ok state') :
    state'.comments =
      state.comments ++ (commentSpots pos pieces).map (CommentSpot.comment source) := by
  induction pieces generalizing pos state with
  | nil =>
    cases h
    simp [commentSpots]
  | cons piece rest ih =>
    obtain ⟨mid, hs, hr⟩ := bind_eq_ok.mp h
    rw [ih hr, step_comments hs, List.append_assoc, commentSpots, List.map_append]
    cases piece.comment? <;> rfl

structure SpotFits (source : Source) (pieces : List Piece) (pos : Nat) (spot : CommentSpot) :
    Prop where
  mem : .construct (.comment spot.text) ∈ pieces
  start : pos ≤ spot.start
  stop : spot.stop = spot.start + (Construct.comment spot.text).written.length
  stands : source.HasAt spot.start (Construct.comment spot.text).written

theorem commentSpots_fit (hat : source.HasAt pos (pieces.flatMap Piece.written)) :
    ∀ spot ∈ commentSpots pos pieces, SpotFits source pieces pos spot := by
  induction pieces generalizing pos with
  | nil => simp [commentSpots]
  | cons piece rest ih =>
    obtain ⟨hfirst, hrest⟩ := Source.HasAt.of_append (List.flatMap_cons ▸ hat)
    rw [commentSpots, List.forall_mem_append]
    constructor
    · intro spot hspot
      obtain ⟨value, hvalue, rfl⟩ := Option.map_eq_some_iff.mp (Option.mem_toList.mp hspot)
      obtain rfl := Piece.comment?_eq_some hvalue
      exact ⟨.head _, le_rfl, rfl, hfirst⟩
    · intro spot hspot
      have hfit := ih hrest spot hspot
      exact ⟨.tail _ hfit.mem, (Nat.le_add_right _ _).trans hfit.start, hfit.stop, hfit.stands⟩

theorem commentSpots_apart (hat : source.HasAt pos (pieces.flatMap Piece.written)) :
    (commentSpots pos pieces).Pairwise fun a b => a.stop ≤ b.start := by
  induction pieces generalizing pos with
  | nil => exact .nil
  | cons piece rest ih =>
    obtain ⟨-, hrest⟩ := Source.HasAt.of_append (List.flatMap_cons ▸ hat)
    rw [commentSpots, List.pairwise_append]
    refine ⟨?_, ih hrest, fun first hfirst second hsecond => ?_⟩
    · cases piece.comment? <;> simp
    · obtain ⟨_, -, rfl⟩ := Option.map_eq_some_iff.mp (Option.mem_toList.mp hfirst)
      exact (commentSpots_fit hrest second hsecond).start

end

-- ---------------------------------------------------------------------------
-- Comments among matches
-- ---------------------------------------------------------------------------

/-- A match of markup that has noted a comment. What is left of the text tells where the
match stands. -/
def commentSpot? (code : Chars) (found : Found) : Option CommentSpot :=
  (found.groups.lookup "comment").map fun text =>
    ⟨text, code.length - (found.matched ++ found.rest).length, code.length - found.rest.length⟩

def commentMatches (code : Chars) : List CommentSpot :=
  (markupPattern.findAll code).filterMap (commentSpot? code)

section
variable {code before text : Chars} {pos : Nat}

theorem lookup_comment (construct : Construct) :
    construct.groups.lookup "comment" = (Piece.construct construct).comment? := by
  cases construct with
  | comment value => rfl
  | endTag name tail => rfl
  | startTag tag =>
    have hnone : tag.groups.lookup "comment" = none := by
      rw [List.lookup_eq_none_iff]
      simp only [StartTag.groups, List.forall_mem_cons, List.forall_mem_append, List.mem_flatMap]
      refine ⟨by decide, by decide, ?_, by decide, by simp⟩
      rintro group ⟨attr, -, hgroup⟩
      have hname := Attribute.name_of_mem_groups hgroup
      have hne : "comment" ≠ group.1 := by
        rintro h
        simp [← h] at hname
      simpa using hne
    exact hnone

theorem commentSpots_textPiece (pos : Nat) (value : Chars) (rest : List Piece) :
    commentSpots pos (textPiece value ++ rest) = commentSpots (pos + value.length) rest := by
  cases value <;> rfl

theorem filterMap_findFrom (h : pos + before.length + text.length = code.length) :
    (markupPattern.findFrom before text).filterMap (commentSpot? code) =
      commentSpots pos (piecesFrom before text) := by
  fun_induction piecesFrom before text generalizing pos with
  | case1 before text construct rest hread ih =>
    have hfirst : markupPattern.first? text = some ⟨construct.written, construct.groups, rest⟩ := by
      rw [first?_markup, hread]
      rfl
    have hlength := congrArg List.length (Construct.read?_written hread)
    rw [List.length_append] at hlength
    have hstart : code.length - (construct.written ++ rest).length = pos + before.length := by
      rw [List.length_append]
      omega
    have hstop : code.length - rest.length =
        pos + before.length + (Piece.construct construct).written.length := by
      simp only [Piece.written]
      omega
    have hrest := @ih (pos + before.length + construct.written.length) (by simp; omega)
    rw [Text.Pattern.findFrom_of_some hfirst, commentSpots_textPiece, commentSpots,
      List.length_reverse, ← lookup_comment]
    simp only [List.filterMap_cons, commentSpot?, hstart, hstop]
    cases construct.groups.lookup "comment" <;> simp [hrest, Piece.written]
  | case2 before hread =>
    rw [Text.Pattern.findFrom_nil]
    simpa [commentSpots] using (commentSpots_textPiece pos before.reverse []).symm
  | case3 before c rest hread ih =>
    have hnone : markupPattern.first? (c :: rest) = none := by
      rw [first?_markup, hread]
      rfl
    rw [Text.Pattern.findFrom_cons hnone]
    exact ih (by simp only [List.length_cons] at h ⊢; omega)

theorem commentMatches_eq (code : Chars) : commentMatches code = commentSpots 0 (pieces code) :=
  filterMap_findFrom (by simp)

end

end Markup

-- ---------------------------------------------------------------------------
-- The tokens of a template
-- ---------------------------------------------------------------------------

/-- The tokens of comments: each comment with its own text and place, sorted by start, and
in the order of the comments where the starts are equal. -/
structure CommentToken.Sorts (comments : List Comment) (tokens : List CommentToken) : Prop where
  perm : tokens.Perm (comments.map fun comment =>
    ⟨comment.value, comment.span.toLoc, comment.span.start.offset, comment.span.stop.offset⟩)
  sorted : tokens.Pairwise fun a b => a.start ≤ b.start
  stable : ∀ start, tokens.filter (·.start = start) =
    (comments.map Comment.toToken).filter (·.start = start)

/-- Tokens that follow one another in a source, each of which covers the comment that it
tells of. -/
structure CommentToken.Stream (source : Source) (tokens : List CommentToken) : Prop where
  increasing : tokens.Pairwise fun a b => a.start < b.start ∧ a.stop ≤ b.start
  inside : ∀ token ∈ tokens, token.start < token.stop ∧ token.stop ≤ source.text.length
  covers : ∀ token ∈ tokens, (source.text.take token.stop).drop token.start =
    commentOpening ++ token.text ++ commentClosing
  closed : ∀ token ∈ tokens, ¬ commentClosing <:+: token.text
  located : ∀ token ∈ tokens, token.loc =
    ⟨(source.locate token.start).toPosition, (source.locate token.stop).toPosition⟩

theorem CommentToken.ofComments_sorts (comments : List Comment) :
    Sorts comments (ofComments comments) :=
  ⟨ofComments_perm comments, ofComments_sorted comments, ofComments_filter comments⟩

namespace Markup

section
variable {source : Source} {pieces : List Piece} {pos : Nat} {spot : CommentSpot}

theorem SpotFits.token_eq (h : SpotFits source pieces pos spot) :
    (spot.comment source).toToken =
      ⟨spot.text, (source.span spot.start spot.stop).toLoc, spot.start, spot.stop⟩ := by
  have hstart : source.clamp spot.start = spot.start := h.stands.span_start 0
  have hstop : source.clamp spot.stop = spot.stop := by
    rw [h.stop]
    exact Source.clamp_of_le h.stands.le_length
  simp [CommentSpot.comment, Comment.toToken, hstart, hstop]

theorem SpotFits.lt (h : SpotFits source pieces pos spot) : spot.start < spot.stop := by
  rw [h.stop]
  exact Nat.lt_add_of_pos_right (List.length_pos_iff.mpr (Construct.written_ne_nil _))

theorem SpotFits.slice (h : SpotFits source pieces pos spot) :
    (source.text.take spot.stop).drop spot.start =
      commentOpening ++ spot.text ++ commentClosing := by
  obtain ⟨before, after, htext, hlength⟩ := h.stands
  rw [h.stop, htext, ← hlength, List.take_length_add_append, List.drop_left,
    List.take_left, Construct.written]

end

/-- The comments of a text, as tokens: they are sorted already. -/
theorem stream_of_commentMatches (source : Source) :
    let comments := (commentMatches source.text).map (CommentSpot.comment source)
    (CommentToken.ofComments comments).map CommentToken.spot = commentMatches source.text ∧
      CommentToken.Stream source (CommentToken.ofComments comments) := by
  have hat : source.HasAt 0 ((pieces source.text).flatMap Piece.written) :=
    ⟨[], [], by simp [written_pieces], rfl⟩
  have hfit := commentSpots_fit hat
  have hapart := commentSpots_apart hat
  rw [← commentMatches_eq] at hfit hapart
  generalize commentMatches source.text = spots at hfit hapart
  intro comments
  have htokens : comments.map Comment.toToken = spots.map fun spot =>
      ⟨spot.text, (source.span spot.start spot.stop).toLoc, spot.start, spot.stop⟩ := by
    rw [List.map_map]
    exact List.map_congr_left fun spot hspot => (hfit spot hspot).token_eq
  have hincreasing : spots.Pairwise fun a b => a.start < b.start ∧ a.stop ≤ b.start :=
    hapart.imp_of_mem fun ha _ hab => ⟨(hfit _ ha).lt.trans_le hab, hab⟩
  rw [CommentToken.ofComments_of_sorted, htokens]
  · refine ⟨?_, ?_, ?_, ?_, ?_, ?_⟩
    · simp [CommentToken.spot, Function.comp_def]
    · exact List.pairwise_map.mpr hincreasing
    all_goals rw [List.forall_mem_map]; intro spot hspot
    · exact ⟨(hfit spot hspot).lt, (hfit spot hspot).stop ▸ (hfit spot hspot).stands.le_length⟩
    · exact (hfit spot hspot).slice
    · exact not_closed_of_mem_pieces (hfit spot hspot).mem
    · rfl
  · rw [htokens, List.pairwise_map]
    exact hincreasing.imp fun hab => hab.1.le

end Markup

theorem parseTemplate_comments {code : Chars} {url : String} {options : ParseOptions}
    {parsed : ParsedTemplate} (hc : options.collectComments = true)
    (h : parseTemplate code url options = .ok parsed) :
    parsed.comments =
      some ((commentMatches code).map (CommentSpot.comment (Source.ofText code url))) := by
  obtain ⟨state, hrun, -, -, rfl⟩ := parseTemplate_ok_iff.mp h
  simp only [hc, if_true, run_comments hrun, commentMatches_eq, List.nil_append]

-- ---------------------------------------------------------------------------
-- The record of a document
-- ---------------------------------------------------------------------------

structure Graph.IsToken (graph : Graph) (value : Value) (token : CommentToken) : Prop where
  kind : graph.get value "kind" = .str CommentToken.kind
  text : graph.get value "text" = .str (String.ofList token.text)
  range : graph.get value "range" = .tuple [.int token.start, .int token.stop]
  start : graph.IsPosition (graph.get (graph.get value "loc") "start") token.loc.start
  stop : graph.IsPosition (graph.get (graph.get value "loc") "end") token.loc.stop

def Graph.TellsComments (graph : Graph) (root : Value) (tokens : List CommentToken) : Prop :=
  ∃ items, graph.get root "comments" = .list items ∧ List.Forall₂ graph.IsToken items tokens

section
variable {graph after : Graph} {value : Value} {slots : List (String × Slot)}
variable {fields : List (String × Blueprint)} {classes : List String} {parts : List Blueprint}

theorem Graph.Shows.get {name key : String} {blueprint : Blueprint}
    (hs : schema.lookup (.node name) = some slots) (hf : BuildsFields slots fields)
    (h : graph.Shows (.node name fields) value) (hl : fields.lookup key = some blueprint) :
    graph.Shows blueprint (graph.get value key) := by
  obtain ⟨site, records, hb, hat⟩ := h
  obtain ⟨values, more, hbuild, -, hshows⟩ := build_node hs hf site
  rw [hbuild] at hb
  obtain ⟨rfl, hextend⟩ := Prod.mk.inj hb
  rw [← Site.extend_inj hextend] at hat
  obtain ⟨held, hheld, hshow⟩ := exists_lookup_of_shows (hshows graph hat.tail) hl
  rw [Graph.get_of_get hat.head, hheld]
  exact hshow

theorem buildList_shows (h : ∀ part ∈ parts, Builds (.one classes) part) (site : Site) :
    ∃ values records, site.buildList parts = (values, site.extend records) ∧
      ∀ graph : Graph, graph.HasAt site.graph.size records →
        List.Forall₂ graph.Shows parts values := by
  induction parts generalizing site with
  | nil => exact ⟨[], [], by simp [Site.buildList], fun _ _ => .nil⟩
  | cons part rest ih =>
    obtain ⟨hpart, hrest⟩ := List.forall_mem_cons.mp h
    obtain ⟨value, records, hb, -⟩ := hpart site
    obtain ⟨values, more, hbs, hshows⟩ := ih hrest (site.extend records)
    refine ⟨value :: values, records ++ more, by simp [Site.buildList, hb, hbs], ?_⟩
    intro graph hat
    rw [Site.size_extend] at hshows
    exact .cons ⟨site, records, hb, hat.left⟩ (hshows graph hat.right)

theorem Graph.Shows.items (hp : ∀ part ∈ parts, Builds (.one classes) part)
    (h : graph.Shows (.list parts) value) :
    ∃ values, value = .list values ∧ List.Forall₂ graph.Shows parts values := by
  obtain ⟨site, records, hb, hat⟩ := h
  obtain ⟨values, more, hbuild, hshows⟩ := buildList_shows hp site
  rw [Site.build, hbuild] at hb
  obtain ⟨rfl, hextend⟩ := Prod.mk.inj hb
  rw [← Site.extend_inj hextend] at hat
  exact ⟨values, rfl, hshows graph hat⟩

theorem Graph.Shows.str {text : String} (h : graph.Shows (.str text) value) :
    value = .str text := by
  obtain ⟨site, records, hb, -⟩ := h
  exact (congrArg Prod.fst hb).symm

theorem Graph.Shows.isToken {token : CommentToken} (h : graph.Shows token.blueprint value) :
    graph.IsToken value token := by
  obtain ⟨slots, hs, hf⟩ : ∃ slots, schema.lookup (.node "Token") = some slots ∧
      BuildsFields slots [("kind", .str CommentToken.kind), ("text", .text token.text),
        ("loc", .loc token.loc), ("range", .tuple [.int token.start, .int token.stop])] :=
    ⟨_, rfl, .cons (builds_constant _) <| .cons (builds_text token.text) <|
      .cons (builds_loc token.loc) <| .cons (builds_range _ _) .nil⟩
  have hget {key : String} {blueprint : Blueprint} :=
    @Graph.Shows.get _ _ _ _ "Token" key blueprint hs hf h
  exact ⟨(hget rfl).str, (hget rfl).str, (hget rfl).range, (hget rfl).loc.1, (hget rfl).loc.2⟩

theorem Graph.IsToken.extends {token : CommentToken} (ht : graph.IsToken value token)
    (h : Graph.Extends graph after) : after.IsToken value token := by
  have hget : ∀ name ∈ ["text", "range", "loc", "start", "end", "line", "column"],
      ∀ value, after.get value name = graph.get value name := by
    intro name hm value
    refine h.get_eq ?_ ?_ value <;> rintro rfl <;> revert hm <;> decide
  constructor
  · have hkind := ht.kind
    cases value with
    | ref id =>
      obtain ⟨record, hr, hu⟩ := Graph.usable_of_get ⟨_, by decide, hkind⟩
      rw [Graph.get_of_get (h.get_usable hr hu), ← Graph.get_of_get hr]
      exact hkind
    | _ => cases hkind
  · simpa only [hget "text" (by decide)] using ht.text
  · simpa only [hget "range" (by decide)] using ht.range
  · simpa only [Graph.IsPosition, hget "loc" (by decide), hget "start" (by decide),
      hget "line" (by decide), hget "column" (by decide)] using ht.start
  · simpa only [Graph.IsPosition, hget "loc" (by decide), hget "end" (by decide),
      hget "line" (by decide), hget "column" (by decide)] using ht.stop

theorem Graph.TellsComments.extends {root : Value} {tokens : List CommentToken}
    (ht : graph.TellsComments root tokens) (h : Graph.Extends graph after) :
    after.TellsComments root tokens := by
  obtain ⟨items, hitems, htokens⟩ := ht
  refine ⟨items, ?_, htokens.imp fun _ _ htoken => htoken.extends h⟩
  rw [h.get_eq (by decide) (by decide), hitems]

end

theorem Program.tellsComments {source : Source} {program : Program} {root : Value} {site : Site}
    (hb : (Site.ofSource source).build program.blueprint = (root, site)) :
    site.graph.TellsComments root program.comments := by
  obtain ⟨slots, fields, hs, hfields, hf⟩ := program.buildsFields
  obtain ⟨value, records, hbuild, -⟩ := program.builds (Site.ofSource source)
  obtain ⟨-, hsite⟩ := Prod.mk.inj (hb.symm.trans hbuild)
  have hshows : site.graph.Shows program.blueprint root :=
    ⟨_, records, hsite ▸ hb, hsite ▸ Site.hasAt_extend _ records⟩
  cases hfields
  have hlist : site.graph.Shows (.list (program.comments.map CommentToken.blueprint))
      (site.graph.get root "comments") := hshows.get hs hf rfl
  obtain ⟨items, hitems, htokens⟩ := hlist.items
    (List.forall_mem_map.mpr fun token _ => token.builds)
  rw [List.forall₂_map_left_iff] at htokens
  exact ⟨items, hitems, htokens.flip.imp fun _ _ htoken => Graph.Shows.isToken htoken⟩

theorem analyze_of_parsed {code : Chars} {path : String} {config : Config}
    {parsed : ParsedTemplate} (h : parseTemplate code path config.parseOptions = .ok parsed) :
    ∃ site analysis, analyze code path config = .ok analysis ∧
      (Site.ofSource parsed.source).build (Program.ofTemplate code parsed).blueprint =
        (analysis.root, site) ∧
      analysis.program = Program.ofTemplate code parsed ∧
      Graph.Extends site.graph analysis.graph := by
  obtain ⟨site, hbuild, hshaped⟩ := Program.shaped parsed.source (Program.ofTemplate code parsed)
  obtain ⟨after, hdone, hs⟩ := hshaped.exists_done config.missingChild
  refine ⟨site, ⟨Program.ofTemplate code parsed, after, .ref 1, moduleScope 1⟩, ?_, hbuild, rfl,
    hs.grown⟩
  rw [analyze, h]
  exact Analysis.ofTemplate_of_done hbuild hdone

/-- The tokens of comments are a stable sorting of them. Those of an analyzed template are
the comments that the pattern of markup finds in it, one behind the other, each of them cut
where it is first closed; the record of the document holds them. -/
theorem commentTokens_stream :
    (∀ comments, CommentToken.Sorts comments (CommentToken.ofComments comments)) ∧
    ∀ (code : Chars) (path : String) (config : Config) (analysis : Analysis),
      config.collectComments = true → analyze code path config = .ok analysis →
      analysis.program.comments.map CommentToken.spot = commentMatches code ∧
      CommentToken.Stream (Source.ofText code path) analysis.program.comments ∧
      analysis.graph.TellsComments analysis.root analysis.program.comments := by
  refine ⟨CommentToken.ofComments_sorts, fun code path config analysis hc h => ?_⟩
  cases hparse : parseTemplate code path config.parseOptions with
  | error error => simp [analyze, hparse] at h
  | ok parsed =>
    obtain ⟨site, other, ho, hbuild, hprogram, hgrown⟩ := analyze_of_parsed hparse
    cases h.symm.trans ho
    have hcomments : analysis.program.comments = CommentToken.ofComments
        ((commentMatches code).map (CommentSpot.comment (Source.ofText code path))) := by
      rw [hprogram, Program.ofTemplate, parseTemplate_comments hc hparse, Option.getD_some]
    have hstream := stream_of_commentMatches (Source.ofText code path)
    refine ⟨?_, ?_, ?_⟩
    · rw [hcomments]
      exact hstream.1
    · rw [hcomments]
      exact hstream.2
    · rw [hprogram]
      exact (Program.tellsComments hbuild).extends hgrown

/-- Dashes before the mark that closes, what looks like a comment inside a value, a comment
in an element, and two that touch. -/
theorem commentTokens_stream_dashes :
    let code := "<!-- a ---><p t=\"<!--x-->\"><!-->--></p><!----><!-- <!-- -->".toList
    ∃ analysis, analyze code "t.html" {} = .ok analysis ∧
      analysis.program.comments.map CommentToken.spot =
        [ ⟨" a -".toList, 0, 11⟩, ⟨">".toList, 27, 35⟩, ⟨[], 39, 46⟩
        , ⟨" <!-- ".toList, 46, 59⟩ ] ∧
      CommentToken.Stream (Source.ofText code "t.html") analysis.program.comments ∧
      analysis.graph.TellsComments analysis.root analysis.program.comments := by
  intro code
  obtain ⟨parsed, hparse⟩ : ∃ parsed, parseTemplate code "t.html" {} = .ok parsed :=
    exists_ok_of_isOk (by decide +kernel)
  obtain ⟨_, analysis, h, -⟩ := @analyze_of_parsed code "t.html" {} parsed hparse
  obtain ⟨hspots, hstream, htells⟩ := commentTokens_stream.2 code "t.html" {} analysis rfl h
  exact ⟨analysis, h, hspots.trans (by decide +kernel), hstream, htells⟩

-- Of two comments that start together, the first one stays the first.
example : (CommentToken.ofComments
    [ ⟨['b'], ⟨⟨5, 0, 5⟩, ⟨9, 0, 9⟩⟩⟩, ⟨['c'], ⟨⟨5, 0, 5⟩, ⟨7, 0, 7⟩⟩⟩
    , ⟨['a'], ⟨⟨0, 0, 0⟩, ⟨4, 0, 4⟩⟩⟩ ]).map (·.text) = [['a'], ['b'], ['c']] := by
  cbv

end TemplateTree
