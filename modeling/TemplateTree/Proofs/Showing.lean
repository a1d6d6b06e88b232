import TemplateTree.Command.Run
import TemplateTree.Proofs.Labels

/-!
# What is shown of a template

The labels of the tree that is drawn are those of the nodes on a walk, of the fields
that hold them, and of the document. Where names, comments and the name of the file
are plain, all of them are shown as they are, and nothing fails.
-/

namespace TemplateTree.Command

open Text (Chars)
open Console
open Expression (exists_ok_of_isOk)

-- ---------------------------------------------------------------------------
-- The labels of a tree
-- ---------------------------------------------------------------------------

theorem mem_forestLabels {label : Chars} {trees : List Tree} :
    label ∈ forestLabels trees ↔ ∃ tree ∈ trees, label ∈ tree.labels := by
  induction trees with
  | nil => simp [forestLabels]
  | cons tree rest ih => simp [forestLabels, ih]

section
variable {graph : Graph} {depth : Nat} {node value : Value} {nodes : List Value} {label : Chars}

theorem mem_labels_branches_succ : label ∈ forestLabels (branches graph (depth + 1) node) ↔
    ∃ key ∈ graph.childKeys node, graph.childrenAt node key ≠ [] ∧
      (label = styled "dim" key.toList ∨ ∃ child ∈ graph.childrenAt node key,
        label = nodeLabel graph child ∨ label ∈ forestLabels (branches graph depth child)) := by
  have hchildren {key : String} : label ∈ forestLabels ((graph.childrenAt node key).map fun child =>
      .node (nodeLabel graph child) (branches graph depth child)) ↔
        ∃ child ∈ graph.childrenAt node key,
          label = nodeLabel graph child ∨ label ∈ forestLabels (branches graph depth child) := by
    simp [mem_forestLabels, Tree.labels]
  rw [branches, mem_forestLabels]
  simp only [List.mem_filterMap, ite_eq_iff, List.isEmpty_iff, Option.some.injEq, reduceCtorEq,
    and_false, false_or, ← hchildren]
  constructor
  · rintro ⟨_, ⟨key, hkey, hne, rfl⟩, hl⟩
    exact ⟨key, hkey, hne, List.mem_cons.mp hl⟩
  · rintro ⟨key, hkey, hne, hl⟩
    exact ⟨_, ⟨key, hkey, hne, rfl⟩, List.mem_cons.mpr hl⟩

theorem mem_of_walkWithin (h : graph.walkWithin depth node = some nodes) : node ∈ nodes := by
  cases depth with
  | zero => cases h
  | succ depth =>
    obtain ⟨below, -, rfl⟩ := Graph.walkWithin_eq_some.mp h
    exact .head _

theorem of_mem_labels_branches (h : graph.walkWithin depth node = some nodes)
    (hl : label ∈ forestLabels (branches graph depth node)) :
    (∃ child ∈ nodes, label = nodeLabel graph child) ∨
      ∃ parent ∈ nodes, ∃ key ∈ graph.childKeys parent, graph.childrenAt parent key ≠ [] ∧
        label = styled "dim" key.toList := by
  induction depth generalizing node nodes with
  | zero => cases h
  | succ depth ih =>
    obtain ⟨below, hb, rfl⟩ := Graph.walkWithin_eq_some.mp h
    obtain ⟨key, hkey, hne, rfl | ⟨child, hchild, hlabel⟩⟩ := mem_labels_branches_succ.mp hl
    · exact .inr ⟨node, .head _, key, hkey, hne, rfl⟩
    · have hc : child ∈ graph.children node := List.mem_flatMap.mpr ⟨key, hkey, hchild⟩
      obtain ⟨l, hwalk⟩ := Graph.exists_joinAll.mp ⟨below, hb⟩ child hc
      have hsub : ∀ value ∈ l, value ∈ node :: below := fun value hm =>
        .tail _ ((Graph.mem_joinAll hb).mpr ⟨child, hc, l, hwalk, hm⟩)
      rcases hlabel with rfl | hlabel
      · exact .inl ⟨child, hsub child (mem_of_walkWithin hwalk), rfl⟩
      · rcases ih hwalk hlabel with ⟨value, hm, hv⟩ | ⟨parent, hm, hp⟩
        · exact .inl ⟨value, hsub value hm, hv⟩
        · exact .inr ⟨parent, hsub parent hm, hp⟩

theorem mem_labels_branches (h : graph.walkWithin depth node = some nodes) (hm : value ∈ nodes) :
    value = node ∨ nodeLabel graph value ∈ forestLabels (branches graph depth node) := by
  induction depth generalizing node nodes with
  | zero => cases h
  | succ depth ih =>
    obtain ⟨below, hb, rfl⟩ := Graph.walkWithin_eq_some.mp h
    rcases List.mem_cons.mp hm with rfl | hm
    · exact .inl rfl
    · obtain ⟨child, hc, l, hwalk, hl⟩ := (Graph.mem_joinAll hb).mp hm
      obtain ⟨key, hkey, hchild⟩ := List.mem_flatMap.mp hc
      refine .inr (mem_labels_branches_succ.mpr ⟨key, hkey, List.ne_nil_of_mem hchild,
        .inr ⟨child, hchild, ?_⟩⟩)
      exact (ih hwalk hl).imp_left (congrArg (nodeLabel graph))

end

-- ---------------------------------------------------------------------------
-- Analyzed templates
-- ---------------------------------------------------------------------------

theorem exists_labelled_walk {code : Chars} {path : String} {config : Config} {analysis : Analysis}
    (h : analyze code path config = .ok analysis) :
    ∃ nodes, analysis.graph.walk? analysis.root = some nodes ∧
      (∀ node ∈ nodes, Labelled analysis.graph node) ∧
      ∀ node ∈ nodes, ∀ key ∈ analysis.graph.childKeys node,
        analysis.graph.childrenAt node key ≠ [] → Fills key.toList := by
  cases hparse : parseTemplate code path config.parseOptions with
  | error error => simp [analyze, hparse] at h
  | ok parsed =>
    obtain ⟨site, hbuild, hshaped⟩ := Program.shaped parsed.source (Program.ofTemplate code parsed)
    obtain ⟨after, nodes, hdone, hwalk, hby⟩ := hshaped.exists_walk config.missingChild
    obtain ⟨after', hdone', hs⟩ := hshaped.exists_done config.missingChild
    rw [hdone] at hdone'
    cases hdone'
    rw [analyze, hparse] at h
    simp only [Analysis.ofTemplate_of_done hbuild hdone] at h
    cases h
    obtain ⟨_, hr, hu, -⟩ := hshaped.exists_root
    have hv := Graph.normalize_visits hshaped.wellFormed hr hu hdone
    refine ⟨nodes, hwalk, fun node hm => ?_, fun node hm key hkey hne => ?_⟩
    · obtain ⟨id, rfl, hi⟩ := (hshaped.mem_walk hdone hwalk node).mp hm
      exact labelled_of_reaches hbuild hshaped hs hv hi
    · have hkind := hby.kind node hm
      cases hl : Graph.childKeyTable.lookup (after.className node) with
      | some keys =>
        have hkeys : after.childKeys node = keys := by simp [Graph.childKeys, hkind, Value.str?, hl]
        exact fills_key _ (mem_of_lookup hl) key (hkeys ▸ hkey)
      | none =>
        have hleaf := hby.leaf node hm _ hkind hl
        exact absurd (List.flatMap_eq_nil_iff.mp hleaf key hkey) hne

theorem exists_templateTree_lines {file : String} {analysis : Analysis} {nodes : List Value}
    (hwalk : analysis.graph.walk? analysis.root = some nodes)
    (hlabels : ∀ node ∈ nodes, ∃ shown, Shows (nodeLabel analysis.graph node) shown)
    (hkeys : ∀ node ∈ nodes, ∀ key ∈ analysis.graph.childKeys node,
      analysis.graph.childrenAt node key ≠ [] → Fills key.toList)
    (hfile : IsPlain file.toList) : ∃ lines, (templateTree file analysis).lines = .ok lines := by
  refine Tree.exists_draw [] [] _ (List.forall_mem_cons.mpr
    ⟨exists_shows_rootLabel hfile _, fun label hl => ?_⟩)
  rcases of_mem_labels_branches hwalk hl with ⟨node, hm, rfl⟩ | ⟨node, hm, key, hkey, hne, rfl⟩
  · exact hlabels node hm
  · exact ⟨_, shows_styled isStyle_dim (hkeys node hm key hkey hne)⟩

theorem loadAnalysis_of_analyze {find? : String → Option Entry} {file : String} {text : Chars}
    {analysis : Analysis} (hfile : find? file = some (.file text))
    (h : analyze (Text.universalLines text) file {} = .ok analysis) :
    loadAnalysis find? file none = .ok analysis := by
  simp [loadAnalysis, loadFile, hfile, loadConfig, h, bind, Except.bind, pure, Except.pure]

theorem exists_showComments {tokens : List CommentToken}
    (h : ∀ token ∈ tokens, IsPlain ((Text.trim token.text).take commentLength)) :
    ∃ output, showComments tokens = .printed output := by
  unfold showComments
  split
  · have hnone : IsWord "No comments found.".toList := by decide +kernel
    obtain ⟨lines, hlines⟩ :=
      (shows_styled isStyle_yellow (hnone.fills (by decide))).exists_labelLines lineWidth
    rw [hlines]
    exact ⟨_, rfl⟩
  · have hshown {text : Chars} (h : IsWord text) : ∃ shown, Shows text shown :=
      ⟨text, h.isPlain.shows⟩
    have hnumber (n : Nat) : IsWord (toString n).toList :=
      fun c hc => (isRangeChar_toString n c hc).isLetter.1
    have htitle : IsWord (commentTable tokens).title := by
      simp only [commentTable, String.toList_append, isWord_append]
      exact ⟨⟨by decide +kernel, hnumber _⟩, by decide +kernel⟩
    have hhead : ∀ column ∈ (commentTable []).columns, IsWord column.header := by decide +kernel
    have hrows : ∀ row ∈ (commentTable tokens).rows, ∀ cell ∈ row, ∃ shown, Shows cell shown := by
      simp only [commentTable, List.forall_mem_map, commentRow, List.forall_mem_cons]
      intro token hm
      refine ⟨hshown ?_, hshown (hnumber _), hshown (by decide +kernel), ⟨_, (h token hm).shows⟩,
        by simp⟩
      simp only [String.toList_append, isWord_append]
      exact ⟨⟨hnumber _, by decide +kernel⟩, hnumber _⟩
    obtain ⟨lines, hlines⟩ := Table.exists_lines (hshown htitle)
      (fun column hm => hshown (hhead column hm)) hrows
    rw [hlines]
    exact ⟨_, rfl⟩

-- ---------------------------------------------------------------------------
-- Closing tags
-- ---------------------------------------------------------------------------

section
variable {before name after : Chars}

theorem exists_close_eq_error (closing : Chars) : ∃ error, close closing [] = .error error := by
  unfold close
  dsimp only
  by_cases hempty : (Text.trim closing).isEmpty = true
  · rw [if_pos hempty]
    exact ⟨_, rfl⟩
  · rw [if_neg hempty]
    cases normalName (Text.trim closing) <;> exact ⟨_, rfl⟩

theorem tagParts_closing (name : Chars) :
    ∃ closing, (tagParts ('/' :: name)).1 = '/' :: closing := by
  unfold tagParts
  rw [Text.cutAt?, if_neg (by simp)]
  cases Text.cutAt? ['='] name with
  | none => exact ⟨name, rfl⟩
  | some parts => exact ⟨parts.1, rfl⟩

theorem exists_renderPieces_closing (pos : Nat) (name : Chars) (pieces : List Piece) :
    ∃ error, renderPieces pos [] (.tag ('/' :: name) :: pieces) = .error error := by
  obtain ⟨closing, hparts⟩ := tagParts_closing name
  obtain ⟨error, herror⟩ := exists_close_eq_error closing
  refine ⟨error, ?_⟩
  rw [renderPieces]
  simp only [hparts]
  rw [herror]
  rfl

theorem exists_render_eq_error (h : before = [] ∨ Fills before)
    (hname : ∀ c ∈ name, c ≠ '[' ∧ c ≠ ']') :
    ∃ error, render (before ++ '[' :: '/' :: (name ++ ']' :: after)) = .error error := by
  have htag : readTag? ('/' :: (name ++ ']' :: after)) = some ('/' :: name, after) :=
    readTag?_eq_some.mpr ⟨rfl, '/', name, rfl, by decide, by simpa using hname⟩
  obtain ⟨error, herror⟩ :=
    exists_renderPieces_closing (0 + before.length) name (piecesFrom [] 0 after)
  refine ⟨error, ?_⟩
  rw [render, pieces]
  rcases h with rfl | h
  · rw [List.nil_append, piecesFrom_of_some htag]
    simpa [textBefore, escapedTag] using herror
  · rw [piecesFrom_tag h htag, renderPieces_textBefore_map h.plain.shown_eq, herror]
    rfl

theorem exists_mapM_eq_error {α β : Type} {f : α → Except MarkupError β} {xs : List α} {x : α}
    (hm : x ∈ xs) (h : ∃ error, f x = .error error) : ∃ error, xs.mapM f = .error error := by
  induction xs with
  | nil => cases hm
  | cons first rest ih =>
    rw [List.mapM_cons]
    cases hfirst : f first with
    | error error => exact ⟨error, rfl⟩
    | ok y =>
      rcases List.mem_cons.mp hm with rfl | hm
      · obtain ⟨error, herror⟩ := h
        rw [hfirst] at herror
        cases herror
      · obtain ⟨error, herror⟩ := ih hm
        rw [herror]
        exact ⟨error, rfl⟩

theorem exists_lines_eq_error {table : Table} {row : List Chars} {cell : Chars}
    (hrow : row ∈ table.rows) (hcell : cell ∈ row) (h : ∃ error, render cell = .error error) :
    ∃ error, table.lines = .error error := by
  obtain ⟨error, herror⟩ := exists_mapM_eq_error hrow (exists_mapM_eq_error hcell h)
  unfold Table.lines
  cases render table.title with
  | error error => exact ⟨error, rfl⟩
  | ok title =>
    simp only [bind, Except.bind]
    cases table.columns.mapM fun column => render column.header with
    | error error => exact ⟨error, rfl⟩
    | ok head =>
      rw [herror]
      exact ⟨error, rfl⟩

end

/-- The label of every node of an accepted template is in the tree and shows the name
of the node, and the last cell of each comment shows its text, as far as these mean
nothing to the console. If none of them do, and the name of the file neither, both
commands end well. -/
theorem run_shows {find? : String → Option Entry} {file : String} {text : Chars}
    {analysis : Analysis} (hfile : find? file = some (.file text))
    (h : analyze (Text.universalLines text) file {} = .ok analysis) :
    ∃ nodes, analysis.graph.walk? analysis.root = some nodes ∧
      (∀ node ∈ nodes,
        (node = analysis.root ∨
          nodeLabel analysis.graph node ∈ (templateTree file analysis).labels) ∧
        (PlainlyNamed analysis.graph node →
          ∃ shown, render (nodeLabel analysis.graph node) = .ok ⟨shown, []⟩ ∧
            ∀ name, analysis.graph.get node "name" = .str name → name.toList <:+: shown)) ∧
      (∀ token ∈ analysis.program.comments, IsPlain ((Text.trim token.text).take commentLength) →
        ∃ cell, (commentRow token).getLast? = some cell ∧
          render cell = .ok ⟨(Text.trim token.text).take commentLength, []⟩) ∧
      (IsPlain file.toList → (∀ node ∈ nodes, PlainlyNamed analysis.graph node) →
        ((Request.parse file .tree none).run find?).exitCode = 0) ∧
      ((∀ token ∈ analysis.program.comments,
          IsPlain ((Text.trim token.text).take commentLength)) →
        ((Request.comments file).run find?).exitCode = 0) := by
  obtain ⟨nodes, hwalk, hlabelled, hkeys⟩ := exists_labelled_walk h
  have hload := loadAnalysis_of_analyze hfile h
  have hlabels : ∀ node ∈ nodes, PlainlyNamed analysis.graph node →
      ∃ shown, Shows (nodeLabel analysis.graph node) shown ∧
        ∀ name, analysis.graph.get node "name" = .str name → name.toList <:+: shown :=
    fun node hm => exists_shows_nodeLabel (hlabelled node hm)
  refine ⟨nodes, hwalk, fun node hm => ⟨?place, hlabels node hm⟩,
    fun token _ hplain => ⟨_, rfl, hplain.shows⟩, fun hplain hnames => ?tree,
    fun hplain => ?comments⟩
  case place => exact (mem_labels_branches hwalk hm).imp_right fun hl => .tail _ hl
  case tree =>
    obtain ⟨lines, hlines⟩ := exists_templateTree_lines hwalk
      (fun node hm => (hlabels node hm (hnames node hm)).imp fun _ h => h.1) hkeys hplain
    simp only [Request.run, hload, showAnalysis, hlines]
    rfl
  case comments =>
    obtain ⟨output, houtput⟩ := exists_showComments hplain
    simp only [Request.run, hload, houtput]
    rfl

/-- A name with a bracket that closes nothing, and a comment with a number in brackets. -/
theorem run_shows_brackets :
    let text := "<p a]=\"b\"><!-- see [1] --></p>".toList
    let find? := Entry.find? [("t.html", text)]
    find? "t.html" = some (.file text) ∧
    ∃ analysis nodes, analyze (Text.universalLines text) "t.html" {} = .ok analysis ∧
      analysis.graph.walk? analysis.root = some nodes ∧
      nodes.filterMap (fun node => (analysis.graph.get node "name").str?) = ["p", "a]"] ∧
      (∀ node ∈ nodes, ∃ shown, render (nodeLabel analysis.graph node) = .ok ⟨shown, []⟩ ∧
        ∀ name, analysis.graph.get node "name" = .str name → name.toList <:+: shown) ∧
      (∀ token ∈ analysis.program.comments, ∃ cell, (commentRow token).getLast? = some cell ∧
        render cell = .ok ⟨"see [1]".toList, []⟩) ∧
      ((Request.parse "t.html" .tree none).run find?).exitCode = 0 ∧
      ((Request.comments "t.html").run find?).exitCode = 0 := by
  intro text find?
  have hfile : find? "t.html" = some (.file text) := by decide +kernel
  obtain ⟨analysis, h⟩ : ∃ analysis,
      analyze (Text.universalLines text) "t.html" {} = .ok analysis :=
    exists_ok_of_isOk (by decide +kernel)
  have hwalked : (analyze (Text.universalLines text) "t.html" {}).toOption.bind (fun analysis =>
      (analysis.graph.walk? analysis.root).map
        (·.filterMap fun node => (analysis.graph.get node "name").str?)) =
        some ["p", "a]"] := by decide +kernel
  have hread : (analyze (Text.universalLines text) "t.html" {}).toOption.map (fun analysis =>
      analysis.program.comments.map fun token => (Text.trim token.text).take commentLength) =
        some ["see [1]".toList] := by decide +kernel
  rw [h] at hwalked hread
  obtain ⟨nodes, hwalk, hnodes, hcomments, htree, htable⟩ := run_shows hfile h
  have hnames : nodes.filterMap (fun node => (analysis.graph.get node "name").str?) =
      ["p", "a]"] := by
    simpa [Except.toOption, hwalk] using hwalked
  have hplain : ∀ name ∈ ["t.html", "p", "a]"], IsPlain name.toList := by
    have hwords : ∀ name ∈ ["t.html", "p", "a]"], IsWord name.toList := by decide +kernel
    exact fun name hm => (hwords name hm).isPlain
  have hnamed : ∀ node ∈ nodes, PlainlyNamed analysis.graph node := by
    intro node hm name hname
    refine hplain name (.tail _ (hnames ▸ List.mem_filterMap.mpr ⟨node, hm, ?_⟩))
    rw [hname]
    rfl
  have htexts : ∀ token ∈ analysis.program.comments,
      (Text.trim token.text).take commentLength = "see [1]".toList := by
    have hall := Option.some.inj hread
    intro token hm
    have hcell := List.mem_map_of_mem (f := fun token : CommentToken =>
      (Text.trim token.text).take commentLength) hm
    dsimp only at hall
    rw [hall] at hcell
    exact List.mem_singleton.mp hcell
  have hcells : ∀ token ∈ analysis.program.comments,
      IsPlain ((Text.trim token.text).take commentLength) := by
    have hsee : IsWord "see".toList := by decide
    have hnumber : IsWord "1]".toList := by decide
    intro token hm
    rw [htexts token hm]
    exact hsee.isPlain.join (hnumber.isPlain.bracket (by decide)) (opensFirst_bracket _)
  refine ⟨hfile, analysis, nodes, h, hwalk, hnames,
    fun node hm => (hnodes node hm).2 (hnamed node hm), fun token hm => ?_,
    htree (hplain _ (.head _)) hnamed, htable hcells⟩
  rw [← htexts token hm]
  exact hcomments token hm (hcells token hm)

/-- A comment that closes what is not open ends the program, although it is part of an
accepted template. -/
theorem run_comments_fails {find? : String → Option Entry} {file : String}
    {text before name after : Chars} {analysis : Analysis} {token : CommentToken}
    (hfile : find? file = some (.file text))
    (h : analyze (Text.universalLines text) file {} = .ok analysis)
    (hm : token ∈ analysis.program.comments)
    (hcell : (Text.trim token.text).take commentLength =
      before ++ '[' :: '/' :: (name ++ ']' :: after))
    (hbefore : before = [] ∨ Fills before) (hname : ∀ c ∈ name, c ≠ '[' ∧ c ≠ ']') :
    ∃ error, (Request.comments file).run find? = .failed (.markup error) := by
  have hrow : commentRow token ∈ (commentTable analysis.program.comments).rows :=
    List.mem_map_of_mem hm
  have hlast : before ++ '[' :: '/' :: (name ++ ']' :: after) ∈ commentRow token := by
    rw [← hcell]
    simp [commentRow]
  obtain ⟨error, herror⟩ :=
    exists_lines_eq_error hrow hlast (exists_render_eq_error hbefore hname)
  have hempty : ¬ analysis.program.comments.isEmpty = true := by
    simpa using List.ne_nil_of_mem hm
  refine ⟨error, ?_⟩
  simp only [Request.run, loadAnalysis_of_analyze hfile h]
  rw [showComments, if_neg hempty, herror]
  rfl

example : (Request.comments "t.html").run (Entry.find? [("t.html", "<!-- [/] -->".toList)]) =
    .failed (.markup .unmatched) := by decide +kernel

end TemplateTree.Command
