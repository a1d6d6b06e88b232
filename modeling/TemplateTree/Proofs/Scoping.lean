import Mathlib.Data.List.Pairwise
import Mathlib.Logic.Relation
import TemplateTree.Scope

/-!
# Runs over scope graphs

Scopes are made, listed and looked up in any order, for any number of managers.
What a graph holds after such a run can be read off the steps: which scopes were
made, below which one, and what each manager was given. `Reflects` says so, and
every step keeps it.
-/

namespace TemplateTree

variable {Block : Type}

inductive ScopeStep (Block : Type) where
  | create (manager : Nat) (kind : String) (upper : Option Nat) (block : Block) (strict : Bool)
  | add (manager scope : Nat)
  | acquire (manager : Nat) (block : Block)
  | globalScope (manager : Nat)
  deriving DecidableEq, Repr

namespace ScopeGraph

def step (graph : ScopeGraph Block) : ScopeStep Block → ScopeGraph Block
  | .create manager kind upper block strict => graph.create manager kind upper block strict
  | .add manager scope => graph.add manager scope
  | .acquire _ _ | .globalScope _ => graph

def run (graph : ScopeGraph Block) (steps : List (ScopeStep Block)) : ScopeGraph Block :=
  steps.foldl step graph

def Allows (graph : ScopeGraph Block) : ScopeStep Block → Prop
  | .create manager _ upper _ _ =>
    manager < graph.managers.length ∧ ∀ scope ∈ upper, scope < graph.scopes.length
  | .add manager scope => manager < graph.managers.length ∧ scope < graph.scopes.length
  | .acquire manager _ | .globalScope manager => manager < graph.managers.length

def AllowsAll (graph : ScopeGraph Block) : List (ScopeStep Block) → Prop
  | [] => True
  | next :: rest => graph.Allows next ∧ (graph.step next).AllowsAll rest

instance (graph : ScopeGraph Block) (next : ScopeStep Block) : Decidable (graph.Allows next) :=
  match next with
  | .create manager _ upper _ _ => inferInstanceAs (Decidable
      (manager < graph.managers.length ∧ ∀ scope ∈ upper, scope < graph.scopes.length))
  | .add manager scope => inferInstanceAs (Decidable
      (manager < graph.managers.length ∧ scope < graph.scopes.length))
  | .acquire manager _ | .globalScope manager =>
    inferInstanceAs (Decidable (manager < graph.managers.length))

instance decideAllowsAll :
    (graph : ScopeGraph Block) → (steps : List (ScopeStep Block)) →
      Decidable (graph.AllowsAll steps)
  | _, [] => isTrue trivial
  | graph, next :: rest =>
    have := decideAllowsAll (graph.step next) rest
    inferInstanceAs (Decidable (graph.Allows next ∧ (graph.step next).AllowsAll rest))

-- ---------------------------------------------------------------------------
-- What the steps of a run say
-- ---------------------------------------------------------------------------

def made? : ScopeStep Block → Option (Scope Block)
  | .create _ kind upper block strict => some { kind, upper, block, strict }
  | _ => none

def made (steps : List (ScopeStep Block)) : List (Scope Block) := steps.filterMap made?

def madeBelow (scopes : List (Scope Block)) (upper : Nat) : List Nat :=
  (List.range scopes.length).filter fun i => scopes[i]?.bind (·.upper) == some upper

/-- What one step gives to a manager, if `next` is the number of the next scope. -/
def given (manager next : Nat) : ScopeStep Block → List Nat
  | .create other _ _ _ _ => if other = manager then [next] else []
  | .add other scope => if other = manager then [scope] else []
  | .acquire _ _ | .globalScope _ => []

def givenFrom (manager : Nat) : Nat → List (ScopeStep Block) → List Nat
  | _, [] => []
  | next, first :: rest =>
    given manager next first ++ givenFrom manager (next + (made [first]).length) rest

/-- The constructions and additions of a manager in the order of the steps. -/
def givenTo (manager : Nat) (steps : List (ScopeStep Block)) : List Nat :=
  givenFrom manager 0 steps

theorem made_append (steps more : List (ScopeStep Block)) :
    made (steps ++ more) = made steps ++ made more := List.filterMap_append

theorem givenFrom_append (manager next : Nat) (steps more : List (ScopeStep Block)) :
    givenFrom manager next (steps ++ more) =
      givenFrom manager next steps ++ givenFrom manager (next + (made steps).length) more := by
  induction steps generalizing next with
  | nil => simp [givenFrom, made]
  | cons first rest ih =>
    have hlen : (made (first :: rest)).length = (made [first]).length + (made rest).length := by
      rw [← List.singleton_append, made_append, List.length_append]
    rw [List.cons_append, givenFrom, givenFrom, ih, hlen, List.append_assoc, Nat.add_assoc]

theorem givenTo_snoc (manager : Nat) (steps : List (ScopeStep Block)) (last : ScopeStep Block) :
    givenTo manager (steps ++ [last]) =
      givenTo manager steps ++ given manager (made steps).length last := by
  simp [givenTo, givenFrom_append, givenFrom]

theorem madeBelow_snoc (scopes : List (Scope Block)) (last : Scope Block) (upper : Nat) :
    madeBelow (scopes ++ [last]) upper =
      madeBelow scopes upper ++ if last.upper = some upper then [scopes.length] else [] := by
  have hbefore : (List.range scopes.length).filter (fun i =>
      (scopes ++ [last])[i]?.bind (·.upper) == some upper) = madeBelow scopes upper := by
    refine List.filter_congr fun i hi => ?_
    rw [List.getElem?_append_left (List.mem_range.mp hi)]
  rw [madeBelow, List.length_append, List.length_singleton, List.range_succ, List.filter_append,
    hbefore]
  simp [List.filter_cons]

theorem mem_madeBelow {scopes : List (Scope Block)} {upper child : Nat} :
    child ∈ madeBelow scopes upper ↔ ∃ scope, scopes[child]? = some scope ∧
      scope.upper = some upper := by
  simp only [madeBelow, List.mem_filter, List.mem_range, beq_iff_eq, Option.bind_eq_some_iff]
  exact and_iff_right_of_imp fun ⟨_, hs, _⟩ => (List.getElem?_eq_some_iff.mp hs).1

theorem madeBelow_increasing (scopes : List (Scope Block)) (upper : Nat) :
    (madeBelow scopes upper).Pairwise (· < ·) := List.pairwise_lt_range.filter _

-- ---------------------------------------------------------------------------
-- Steps keep the graph in line with the run
-- ---------------------------------------------------------------------------

/-- The graph is what the steps of a run over `count` managers say. -/
structure Reflects (count : Nat) (steps : List (ScopeStep Block)) (graph : ScopeGraph Block) :
    Prop where
  scopes : graph.scopes = (made steps).mapIdx fun i scope =>
    { scope with children := madeBelow (made steps) i }
  managers : graph.managers = (List.range count).map fun manager => givenTo manager steps
  uppers : ∀ i (scope : Scope Block) upper, (made steps)[i]? = some scope →
    scope.upper = some upper → upper < i

section
variable {count : Nat} {steps : List (ScopeStep Block)} {graph : ScopeGraph Block}

theorem reflects_start (count : Nat) : Reflects count [] (start count : ScopeGraph Block) := by
  refine ⟨rfl, ?_, by simp [made]⟩
  simp [start, givenTo, givenFrom, List.map_const']

theorem Reflects.length_scopes (h : Reflects count steps graph) :
    graph.scopes.length = (made steps).length := by
  simp [h.scopes]

theorem Reflects.scopesOf_eq (h : Reflects count steps graph) {manager : Nat}
    (hm : manager < count) : graph.scopesOf manager = givenTo manager steps := by
  simp [scopesOf, h.managers, hm]

theorem modify_givenTo (steps : List (ScopeStep Block)) {last : ScopeStep Block}
    {manager scope : Nat} (h : ∀ other, given other (made steps).length last =
      if manager = other then [scope] else []) :
    ((List.range count).map fun other => givenTo other steps).modify manager (· ++ [scope]) =
      (List.range count).map fun other => givenTo other (steps ++ [last]) := by
  refine List.ext_getElem? fun i => ?_
  rw [List.getElem?_modify]
  by_cases hi : i < count
  · simp only [List.getElem?_map, List.getElem?_range hi, Option.map_some, givenTo_snoc, h]
    split <;> simp
  · simp [hi]

/-- Entering a new scope below its upper scope gives every scope what was made below it. -/
theorem link_eq (scopes : List (Scope Block)) (new : Scope Block) :
    (match new.upper with
      | none => scopes.mapIdx fun i scope => { scope with children := madeBelow scopes i }
      | some u => (scopes.mapIdx fun i scope => { scope with children := madeBelow scopes i }).modify
          u fun scope => { scope with children := scope.children ++ [scopes.length] }) =
      scopes.mapIdx fun i scope => { scope with children := madeBelow (scopes ++ [new]) i } := by
  refine List.ext_getElem? fun i => ?_
  cases hu : new.upper with
  | none => simp [madeBelow_snoc, hu]
  | some u =>
    rw [List.getElem?_modify, List.getElem?_mapIdx, List.getElem?_mapIdx]
    simp only [madeBelow_snoc, hu, Option.some.injEq]
    cases scopes[i]? with
    | none => simp
    | some scope => split <;> simp

theorem Reflects.madeBelow_next (h : Reflects count steps graph) :
    madeBelow (made steps) (made steps).length = [] := by
  rw [List.eq_nil_iff_forall_not_mem]
  intro child hc
  obtain ⟨scope, hs, hu⟩ := mem_madeBelow.mp hc
  have hlow := h.uppers child scope _ hs hu
  have hchild := (List.getElem?_eq_some_iff.mp hs).1
  omega

theorem Reflects.create (h : Reflects count steps graph) (manager : Nat) (kind : String)
    (upper : Option Nat) (block : Block) (strict : Bool)
    (hu : ∀ scope ∈ upper, scope < graph.scopes.length) :
    Reflects count (steps ++ [.create manager kind upper block strict])
      (graph.create manager kind upper block strict) := by
  generalize hnew : ({ kind, upper, block, strict } : Scope Block) = new
  have hupper : new.upper = upper := by rw [← hnew]
  have hmade : made (steps ++ [.create manager kind upper block strict]) = made steps ++ [new] := by
    rw [← hnew]
    exact made_append _ _
  rw [h.length_scopes] at hu
  refine ⟨?_, ?_, ?_⟩
  · have hnone : madeBelow (made steps ++ [new]) (made steps).length = [] := by
      rw [madeBelow_snoc, h.madeBelow_next, hupper, if_neg fun he => ?_]
      · rfl
      · exact Nat.lt_irrefl _ (hu _ he)
    have hlink := link_eq (made steps) new
    rw [hupper] at hlink
    rw [hmade, List.mapIdx_concat, ← hlink, hnone, ← h.scopes, ← hnew, ← h.length_scopes]
    rfl
  · have hgiven : ∀ other, given other (made steps).length
        (.create manager kind upper block strict) =
          if manager = other then [graph.scopes.length] else [] := by
      intro other
      rw [h.length_scopes]
      rfl
    rw [← modify_givenTo steps hgiven, ← h.managers]
    rfl
  · intro i scope above hi ha
    rw [hmade] at hi
    by_cases hlast : i < (made steps).length
    · rw [List.getElem?_append_left hlast] at hi
      exact h.uppers i scope above hi ha
    · rw [List.getElem?_append_right (by omega), List.getElem?_singleton] at hi
      split at hi
      · cases hi
        rw [hupper] at ha
        have := hu above ha
        omega
      · cases hi

theorem Reflects.add (h : Reflects count steps graph) (manager scope : Nat) :
    Reflects count (steps ++ [.add manager scope]) (graph.add manager scope) := by
  have hmade : made (steps ++ [.add manager scope]) = made steps := by simp [made, made?]
  refine ⟨by rw [hmade]; exact h.scopes, ?_, by rw [hmade]; exact h.uppers⟩
  rw [← modify_givenTo steps fun other => rfl, ← h.managers]
  rfl

theorem Reflects.lookUp (h : Reflects count steps graph) {last : ScopeStep Block}
    (hm : made? last = none) (hg : ∀ manager next, given manager next last = []) :
    Reflects count (steps ++ [last]) graph := by
  have hmade : made (steps ++ [last]) = made steps := by simp [made, hm]
  refine ⟨by rw [hmade]; exact h.scopes, ?_, by rw [hmade]; exact h.uppers⟩
  simp only [givenTo_snoc, hg, List.append_nil]
  exact h.managers

/-- A step that is allowed keeps the graph in line with the run. -/
theorem Reflects.step (h : Reflects count steps graph) {next : ScopeStep Block}
    (ha : graph.Allows next) : Reflects count (steps ++ [next]) (graph.step next) := by
  cases next with
  | create manager kind upper block strict => exact h.create manager kind upper block strict ha.2
  | add manager scope => exact h.add manager scope
  | acquire manager block | globalScope manager => exact h.lookUp rfl fun _ _ => rfl

theorem Reflects.run (h : Reflects count steps graph) {more : List (ScopeStep Block)}
    (ha : graph.AllowsAll more) : Reflects count (steps ++ more) (graph.run more) := by
  induction more generalizing graph steps with
  | nil =>
    rw [List.append_nil]
    exact h
  | cons next rest ih =>
    have hrest := ih (h.step ha.1) ha.2
    rwa [List.append_assoc, List.singleton_append] at hrest

theorem reflects_run (ha : (start count).AllowsAll steps) :
    Reflects count steps ((start count).run steps) := (reflects_start count).run ha

end

-- ---------------------------------------------------------------------------
-- The scopes above a scope, and the last scope of a block
-- ---------------------------------------------------------------------------

def Below (graph : ScopeGraph Block) (upper scope : Nat) : Prop :=
  graph.scopes[scope]?.bind (·.upper) = some upper

def block? (graph : ScopeGraph Block) (scope : Nat) : Option Block :=
  graph.scopes[scope]?.map (·.block)

/-- `scope` is the last one of a list that is attached to the block; `none` if there is none. -/
def IsLastOf (graph : ScopeGraph Block) (block : Block) (scopes : List Nat) :
    Option Nat → Prop
  | none => ∀ scope ∈ scopes, graph.block? scope ≠ some block
  | some scope => ∃ before after, scopes = before ++ scope :: after ∧
      graph.block? scope = some block ∧ ∀ other ∈ after, graph.block? other ≠ some block

section
variable {count : Nat} {steps : List (ScopeStep Block)} {graph : ScopeGraph Block}

theorem Reflects.getElem?_scopes (h : Reflects count steps graph) (i : Nat) :
    graph.scopes[i]? = (made steps)[i]?.map fun scope =>
      { scope with children := madeBelow (made steps) i } := by
  rw [h.scopes, List.getElem?_mapIdx]

theorem Reflects.lt_of_below (h : Reflects count steps graph) {upper scope : Nat}
    (hb : graph.Below upper scope) : upper < scope := by
  rw [Below, h.getElem?_scopes, Option.bind_eq_some_iff] at hb
  obtain ⟨_, hs, hu⟩ := hb
  obtain ⟨new, hnew, rfl⟩ := Option.map_eq_some_iff.mp hs
  exact h.uppers scope new upper hnew hu

theorem Reflects.lt_of_transGen (h : Reflects count steps graph) {upper scope : Nat}
    (hb : Relation.TransGen graph.Below upper scope) : upper < scope := by
  induction hb with
  | single hb => exact h.lt_of_below hb
  | tail _ hb ih => exact Nat.lt_trans ih (h.lt_of_below hb)

theorem acquire?_isLastOf [DecidableEq Block] (graph : ScopeGraph Block) (manager : Nat)
    (block : Block) :
    graph.IsLastOf block (graph.scopesOf manager) (graph.acquire? manager block) := by
  cases ha : graph.acquire? manager block with
  | none =>
    intro scope hs
    have hnone := List.find?_eq_none.mp ha scope (List.mem_reverse.mpr hs)
    simpa [block?] using hnone
  | some scope =>
    obtain ⟨hblock, front, back, hsplit, hfront⟩ := List.find?_eq_some_iff_append.mp ha
    refine ⟨back.reverse, front.reverse, ?_, by simpa [block?] using hblock, ?_⟩
    · rw [← List.reverse_reverse (graph.scopesOf manager), hsplit]
      simp
    · intro other ho
      have := hfront other (List.mem_reverse.mp ho)
      simpa [block?] using this

theorem givenFrom_increasing {manager next : Nat}
    (h : ∀ other scope, ScopeStep.add other scope ∉ steps) :
    (givenFrom manager next steps).Pairwise (· < ·) ∧
      ∀ scope ∈ givenFrom manager next steps, next ≤ scope := by
  induction steps generalizing next with
  | nil => simp [givenFrom]
  | cons first rest ih =>
    have hrest := fun next => @ih next fun other scope hm => h other scope (.tail _ hm)
    obtain ⟨hinc, hlow⟩ := hrest (next + (made [first]).length)
    cases first with
    | create other kind upper block strict =>
      have hlen : (made [ScopeStep.create other kind upper block strict]).length = 1 := rfl
      rw [hlen] at hinc hlow
      simp only [givenFrom, given, hlen]
      split
      · refine ⟨List.pairwise_cons.mpr ⟨fun scope hs => hlow scope hs, hinc⟩, ?_⟩
        exact List.forall_mem_cons.mpr ⟨Nat.le_refl _, fun scope hs => by
          have := hlow scope hs
          omega⟩
      · exact ⟨hinc, fun scope hs => by have := hlow scope hs; omega⟩
    | add other scope => exact absurd (.head _) (h other scope)
    | acquire other block | globalScope other => exact ⟨hinc, hlow⟩

end

structure Follows [DecidableEq Block] (count : Nat) (steps : List (ScopeStep Block))
    (graph : ScopeGraph Block) : Prop where
  /-- No scope stands below itself. -/
  acyclic : ∀ scope, ¬ Relation.TransGen graph.Below scope scope
  /-- But for what stands below them, scopes stay as they were made. -/
  scopes : graph.scopes.map (fun scope => { scope with children := [] }) = made steps
  /-- Below a scope stand those that were made below it, each once and in order. -/
  children : ∀ (i : Nat) (scope : Scope Block), graph.scopes[i]? = some scope →
    (∀ child, child ∈ scope.children ↔
      ∃ new, (made steps)[child]? = some new ∧ new.upper = some i) ∧
    scope.children.Pairwise (· < ·)
  listed : ∀ manager < count, graph.scopesOf manager = givenTo manager steps
  first : ∀ manager < count, graph.globalScope? manager = (givenTo manager steps).head?
  last : ∀ manager < count, ∀ block,
    graph.IsLastOf block (givenTo manager steps) (graph.acquire? manager block)
  innermost : (∀ manager scope, ScopeStep.add manager scope ∉ steps) →
    ∀ manager < count, ∀ block scope, graph.acquire? manager block = some scope →
      ∀ inner ∈ graph.scopesOf manager, Relation.TransGen graph.Below scope inner →
        graph.block? inner ≠ some block

section
variable {count : Nat} {steps : List (ScopeStep Block)} {graph : ScopeGraph Block}

theorem children_of_mem_made {scope : Scope Block} (h : scope ∈ made steps) :
    scope.children = [] := by
  obtain ⟨next, -, hn⟩ := List.mem_filterMap.mp h
  cases next with
  | create manager kind upper block strict =>
    cases hn
    rfl
  | add manager scope | acquire manager block | globalScope manager => cases hn

theorem Reflects.map_scopes (h : Reflects count steps graph) :
    graph.scopes.map (fun scope => { scope with children := [] }) = made steps := by
  refine List.ext_getElem? fun i => ?_
  rw [List.getElem?_map, h.getElem?_scopes]
  cases hi : (made steps)[i]? with
  | none => rfl
  | some scope =>
    have hnone := children_of_mem_made (List.mem_of_getElem? hi)
    obtain ⟨kind, upper, block, strict, vars, references, through, children⟩ := scope
    cases hnone
    rfl

/-- A scope below the one that is found would stand behind it in the list. -/
theorem Reflects.innermost [DecidableEq Block] (h : Reflects count steps graph)
    (hadd : ∀ manager scope, ScopeStep.add manager scope ∉ steps) {manager : Nat}
    (hm : manager < count) {block : Block} {scope inner : Nat}
    (ha : graph.acquire? manager block = some scope) (hi : inner ∈ graph.scopesOf manager)
    (hb : Relation.TransGen graph.Below scope inner) : graph.block? inner ≠ some block := by
  have hlast := acquire?_isLastOf graph manager block
  rw [ha] at hlast
  obtain ⟨before, after, hsplit, -, hafter⟩ := hlast
  have hinc : (graph.scopesOf manager).Pairwise (· < ·) := by
    rw [h.scopesOf_eq hm]
    exact (givenFrom_increasing hadd).1
  have hlt := h.lt_of_transGen hb
  rw [hsplit] at hi hinc
  rcases List.mem_append.mp hi with hbefore | hrest
  · have := (List.pairwise_append.mp hinc).2.2 inner hbefore scope (.head _)
    omega
  · rcases List.mem_cons.mp hrest with rfl | hrest
    · exact absurd hlt (Nat.lt_irrefl _)
    · exact hafter inner hrest

theorem Reflects.follows [DecidableEq Block] (h : Reflects count steps graph) :
    Follows count steps graph where
  acyclic := fun _ hb => Nat.lt_irrefl _ (h.lt_of_transGen hb)
  scopes := h.map_scopes
  children := by
    intro i scope hs
    rw [h.getElem?_scopes] at hs
    obtain ⟨new, -, rfl⟩ := Option.map_eq_some_iff.mp hs
    exact ⟨fun _ => mem_madeBelow, madeBelow_increasing _ _⟩
  listed := fun _ hm => h.scopesOf_eq hm
  first := fun _ hm => by rw [globalScope?, h.scopesOf_eq hm]
  last := fun manager hm block => h.scopesOf_eq hm ▸ acquire?_isLastOf graph manager block
  innermost := fun hadd _ hm _ _ ha _ hi hb => h.innermost hadd hm ha hi hb

end

/-- After every run over any number of managers, the scopes form a forest in the
order in which they were made, and each manager lists what it was given: the scope
it finds for a block is the last of these, and its first scope is the same after
every longer run. -/
theorem run_follows [DecidableEq Block] (count : Nat) (steps : List (ScopeStep Block))
    (h : (start count).AllowsAll steps) :
    Follows count steps ((start count).run steps) ∧
    ∀ more, (start count).AllowsAll (steps ++ more) → ∀ manager < count, ∀ scope,
      ((start count).run steps).globalScope? manager = some scope →
      ((start count : ScopeGraph Block).run (steps ++ more)).globalScope? manager =
        some scope := by
  have hfollows := (reflects_run h).follows
  refine ⟨hfollows, fun more hmore manager hm scope hs => ?_⟩
  rw [hfollows.first manager hm, givenTo] at hs
  rw [(reflects_run hmore).follows.first manager hm, givenTo, givenFrom_append, List.head?_append,
    hs]
  rfl

/-- Two managers, a scope below one of the other manager, a scope listed twice,
and two scopes of one block. -/
theorem run_follows_shared :
    let steps : List (ScopeStep String) :=
      [ .create 0 "module" none "a" false, .create 1 "function" (some 0) "b" true
      , .create 0 "block" (some 0) "a" false, .add 1 0, .acquire 0 "a", .globalScope 1 ]
    (start 2).AllowsAll steps ∧ Follows 2 steps ((start 2).run steps) ∧
      ((start 2).run steps).acquire? 0 "a" = some 2 ∧
      ((start 2).run steps).scopesOf 1 = [1, 0] := by
  intro steps
  have h : (start 2).AllowsAll steps := by decide
  exact ⟨h, (run_follows 2 steps h).1, by decide, by decide⟩

end ScopeGraph

end TemplateTree
