import Motif.Proofs.Triangles.Total

/-!
# How the intersector is called

An intersector that writes down its arguments sees all calls of a run. Watched in this way, a run
gives what it gives unwatched, and its calls are those listed in advance: one for every edge whose
larger end has two neighbors, always with ascending arrays, and none at all off the dense path to a
total. So a run cannot tell two intersectors apart that agree on ascending arrays.
-/

set_option autoImplicit false

namespace Motif.Triangles

open Sorted

/-- The arguments of a call. -/
abbrev Query := Array Nat × Array Nat

section Through

variable {m : Type → Type} [Monad m] [MonadLiftT (Except Error) m]

/-- `countByIntersecting`, by an intersector that may do more than answer. -/
def countThrough (g : Graph) (intersect : Array Nat → Array Nat → m Nat) : m Nat := do
  total (← (← queries g).mapM fun q => intersect q.1 q.2)

/-- `rankWith`, by an intersector that may do more than answer. -/
def rankThrough (options : Options) (g : Graph) (intersect : Array Nat → Array Nat → m Nat) :
    m Ranking :=
  if g.isEmpty then
    match options.task with
    | .total => return .total 0
    | .perVertex => return .perVertex #[]
  else do
    let plan ← options.plan g
    match options.task with
    | .total =>
      let count ←
        if plan.dense then countThrough plan.graph intersect
        else countByScanning plan.graph
      return .total count
    | .perVertex =>
      let counts ← countPerVertex plan.graph
      match plan.oldIds? with
      | some oldIds => return .perVertex (← restore oldIds counts)
      | none => return .perVertex counts

end Through

/-- An intersector that only answers makes it the same run. -/
theorem rankThrough_eq (options : Options) (g : Graph) (intersect : Intersector) :
    rankThrough options g intersect = rankWith options g intersect := rfl

section Lifted

variable {m : Type → Type} [Monad m] [LawfulMonad m] [MonadLiftT (Except Error) m]
  [LawfulMonadLiftT (Except Error) m]

theorem liftM_ok_bind {α β : Type} (a : α) (next : α → m β) :
    (liftM (Except.ok a : Except Error α) >>= next) = next a := by
  rw [show (Except.ok a : Except Error α) = pure a from rfl, liftM_pure, pure_bind]

end Lifted

/-- A run asks its calls one after the other, and goes on from the answers alone. -/
theorem exists_finish {options : Options} {g : Graph} {listed : List Query}
    (asks : calls options g = .ok listed) :
    ∃ finish : List Nat → Except Error Ranking, ∀ {m : Type → Type} [Monad m] [LawfulMonad m]
      [MonadLiftT (Except Error) m] [LawfulMonadLiftT (Except Error) m]
      (intersect : Array Nat → Array Nat → m Nat),
      rankThrough options g intersect =
        (listed.mapM fun q => intersect q.1 q.2) >>= fun answers => liftM (finish answers) := by
  rw [calls] at asks
  by_cases empty : g.isEmpty = true
  · rw [if_pos empty, Except.ok.injEq] at asks
    subst asks
    refine ⟨fun _ => rankWith options g fun _ _ => .ok 0, fun intersect => ?_⟩
    rw [rankThrough, rankWith, if_pos empty, if_pos empty, List.mapM_nil, pure_bind]
    cases options.task <;> exact (liftM_pure _).symm
  · rw [if_neg empty] at asks
    obtain ⟨plan, planned, asks⟩ := bind_eq_ok.mp asks
    by_cases dense : options.task = .total ∧ plan.dense = true
    · rw [if_pos dense] at asks
      refine ⟨fun answers => do return Ranking.total (← total answers), fun intersect => ?_⟩
      rw [rankThrough, if_neg empty, planned, liftM_ok_bind, dense.1]
      dsimp only
      rw [if_pos dense.2, countThrough, asks, liftM_ok_bind, bind_assoc]
      simp only [liftM_bind, liftM_pure]
    · -- no answer is needed, so any intersector may stand in
      rw [if_neg dense, Except.ok.injEq] at asks
      subst asks
      refine ⟨fun _ => rankWith options g fun _ _ => .ok 0, fun intersect => ?_⟩
      rw [rankThrough, rankWith, if_neg empty, if_neg empty, planned, List.mapM_nil, pure_bind,
        liftM_ok_bind, ok_bind]
      cases task : options.task with
      | total =>
        dsimp only
        have sparse : ¬ plan.dense = true := fun h => dense ⟨task, h⟩
        rw [if_neg sparse, if_neg sparse, liftM_bind]
        simp only [liftM_pure]
      | perVertex =>
        dsimp only
        rw [liftM_bind]
        cases plan.oldIds? with
        | none => simp only [liftM_pure]
        | some oldIds => simp only [liftM_bind, liftM_pure]

/-- Steps that may fail and write down calls. -/
abbrev Recorder := ExceptT Error (StateM (List Query))

/-- Writes down the arguments before it answers. -/
def recording (intersect : Intersector) (u v : Array Nat) : Recorder Nat := do
  modify (· ++ [(u, v)])
  intersect u v

/-- The result of a run, and the calls that it made. -/
def watch (options : Options) (g : Graph) (intersect : Intersector) :
    Except Error Ranking × List Query :=
  (rankThrough options g (recording intersect)).run.run []

/-- Recorded steps that end in `result` and make the calls of a list: all of them if they succeed,
else those up to the failure. -/
def Makes {α : Type} (steps : Recorder α) (result : Except Error α) (listed : List Query) : Prop :=
  ∀ before, ∃ made, steps.run.run before = (result, before ++ made) ∧ made <+: listed ∧
    ∀ a, result = .ok a → made = listed

namespace Makes

variable {α β : Type}

theorem lift (result : Except Error α) : Makes (result : Recorder α) result [] := by
  intro before
  refine ⟨[], ?_, List.prefix_refl _, fun _ _ => rfl⟩
  rw [List.append_nil]
  rfl

theorem call (intersect : Intersector) (u v : Array Nat) :
    Makes (recording intersect u v) (intersect u v) [(u, v)] := by
  intro before
  exact ⟨[(u, v)], rfl, List.prefix_refl _, fun _ _ => rfl⟩

theorem bind {steps : Recorder α} {result : Except Error α} {first : List Query}
    {next : α → Recorder β} {result' : α → Except Error β} {second : List Query}
    (head : Makes steps result first)
    (tail : ∀ a, result = .ok a → Makes (next a) (result' a) second) :
    Makes (steps >>= next) (result >>= result') (first ++ second) := by
  intro before
  obtain ⟨made, ran, front, whole⟩ := head before
  -- behind a failure nothing is called, so what was called until then is a front of all
  cases result with
  | error e =>
    refine ⟨made, ?_, front.trans (List.prefix_append _ _), nofun⟩
    rw [ExceptT.run_bind, StateT.run_bind, ran]
    rfl
  | ok a =>
    obtain ⟨made', ran', front', whole'⟩ := tail a rfl (before ++ made)
    obtain rfl := whole a rfl
    refine ⟨made ++ made', ?_, (List.prefix_append_right_inj made).mpr front', ?_⟩
    · rw [ExceptT.run_bind, StateT.run_bind, ran]
      rw [List.append_assoc] at ran'
      exact ran'
    · intro b success
      rw [whole' b success]

/-- What goes on without a call makes no more calls. -/
theorem bind_lift {steps : Recorder α} {result : Except Error α} {listed : List Query}
    (head : Makes steps result listed) (next : α → Except Error β) :
    Makes (steps >>= fun a => liftM (next a)) (result >>= next) listed := by
  rw [← List.append_nil listed]
  exact head.bind fun a _ => lift (next a)

/-- Calls made one after the other, each for one element of a list. -/
theorem mapM (intersect : Intersector) (queries : List Query) :
    Makes (queries.mapM fun q => recording intersect q.1 q.2)
      (queries.mapM fun q => intersect q.1 q.2) queries := by
  induction queries with
  | nil => exact lift (.ok [])
  | cons q queries ih =>
    rw [List.mapM_cons, List.mapM_cons]
    exact (call intersect q.1 q.2).bind fun answer _ =>
      ih.bind_lift fun answers => .ok (answer :: answers)

end Makes

section Run

variable {options : Options} {g : Graph} {listed : List Query} (asks : calls options g = .ok listed)
include asks

/-- The recorded calls of a run are the listed ones. -/
theorem makes_rankThrough (intersect : Intersector) :
    Makes (rankThrough options g (recording intersect)) (rankWith options g intersect) listed := by
  obtain ⟨finish, goesOn⟩ := exists_finish asks
  rw [← rankThrough_eq, goesOn, goesOn]
  exact (Makes.mapM intersect listed).bind_lift finish

/-- A run tells two intersectors apart by its calls only. -/
theorem rankWith_congr {intersect intersect' : Intersector}
    (agree : ∀ q ∈ listed, intersect q.1 q.2 = intersect' q.1 q.2) :
    rankWith options g intersect = rankWith options g intersect' := by
  obtain ⟨finish, goesOn⟩ := exists_finish asks
  rw [← rankThrough_eq, ← rankThrough_eq, goesOn, goesOn, mapM_congr agree]

end Run

section Asked

variable {g : Graph}

/-- The edges that are asked for, each from its larger end. -/
def askedEdges (g : Graph) : List (Nat × Nat) :=
  g.vertices.flatMap fun u =>
    if (g.neighborList u).length < 2 then [] else (lowerList g u).map fun v => (u, v)

theorem queryList_eq_map (g : Graph) :
    queryList g =
      (askedEdges g).map fun e => ((g.neighborList e.1).toArray, (lowerList g e.2).toArray) := by
  rw [queryList, askedEdges, List.map_flatMap]
  congr 1
  funext u
  split
  · rfl
  · rw [List.map_map]
    rfl

variable (wf : g.WellFormed)
include wf

theorem mem_askedEdges {u v : Nat} :
    (u, v) ∈ askedEdges g ↔ v < u ∧ g.Adj u v ∧ 2 ≤ (g.neighborList u).length := by
  rw [askedEdges, List.mem_flatMap]
  constructor
  · rintro ⟨u', _, listed⟩
    split at listed
    case isTrue => cases listed
    case isFalse several =>
      obtain ⟨v', hv, same⟩ := List.mem_map.mp listed
      obtain ⟨rfl, rfl⟩ := Prod.mk.inj same
      exact ⟨(mem_lowerList.mp hv).1, (mem_lowerList.mp hv).2, Nat.le_of_not_lt several⟩
  · rintro ⟨hvu, huv, several⟩
    refine ⟨u, Graph.mem_vertices.mpr (wf.lt_of_adj huv), ?_⟩
    rw [if_neg (Nat.not_lt.mpr several)]
    exact List.mem_map_of_mem (mem_lowerList.mpr ⟨hvu, huv⟩)

theorem nodup_askedEdges : (askedEdges g).Nodup := by
  rw [askedEdges, List.nodup_flatMap]
  constructor
  · intro u _
    split
    · exact List.nodup_nil
    · exact (ascending_lowerList wf u).nodup.map fun v v' same => (Prod.mk.inj same).2
  · refine List.nodup_range.imp fun {u u'} hne e he he' => ?_
    have first {u : Nat} (he : e ∈ if (g.neighborList u).length < 2 then []
        else (lowerList g u).map fun v => (u, v)) : e.1 = u := by
      split at he
      · cases he
      · obtain ⟨v, -, rfl⟩ := List.mem_map.mp he
        rfl
    exact hne ((first he).symm.trans (first he'))

theorem ascending_of_mem_queryList {q : Query} (hq : q ∈ queryList g) :
    Ascending q.1.toList ∧ Ascending q.2.toList := by
  rw [queryList_eq_map] at hq
  obtain ⟨e, -, rfl⟩ := List.mem_map.mp hq
  exact ⟨wf.ascending' e.1, ascending_lowerList wf e.2⟩

end Asked

/-- Whether a run is one for a total on the dense path. -/
def Options.Intersects (options : Options) (g : Graph) : Prop :=
  options.task = .total ∧ 0 < g.vertexCount ∧ options.threshold ≤ g.edgeCount / g.vertexCount

/-- The graph that is counted on the dense path. -/
def Options.Selects (options : Options) (g counted : Graph) : Prop :=
  if options.renumber then ∃ r, g.renumberByDegree = .ok r ∧ counted = r.graph else counted = g

/-- A call for the edge from `u` down to `v`: the neighbors of `u`, and those of `v` below it. -/
def AsksFor (g : Graph) (u v : Nat) (q : Query) : Prop :=
  g.neighborsOf u = .ok q.1 ∧ ∃ ns, g.neighborsOf v = .ok ns ∧ q.2.toList = ns.toList.filter (· < v)

theorem forall₂_askedEdges {g : Graph} (wf : g.WellFormed) :
    List.Forall₂ (fun e q => AsksFor g e.1 e.2 q) (askedEdges g) (queryList g) := by
  rw [queryList_eq_map, List.forall₂_map_right_iff, List.forall₂_same]
  intro e he
  obtain ⟨-, adj, -⟩ := (mem_askedEdges wf).mp he
  exact ⟨wf.neighborsOf_eq (wf.lt_of_adj adj), _, wf.neighborsOf_eq (wf.lt_of_adj' adj), rfl⟩

/-- A graph that has vertices is dense by its edges, and what is counted is well-formed. -/
theorem plan_eq {g : Graph} (wf : g.WellFormed) (nonempty : 0 < g.vertexCount) (options : Options) :
    ∃ counted oldIds?, options.plan g =
        .ok ⟨decide (options.threshold ≤ g.edgeCount / g.vertexCount), counted, oldIds?⟩ ∧
      (options.threshold ≤ g.edgeCount / g.vertexCount → options.Selects g counted) ∧
      counted.WellFormed := by
  obtain ⟨r, made, renumbers⟩ := wf.renumberByDegree_spec
  have average : averageDegree g = .ok (g.edgeCount / g.vertexCount) := divide_of_pos _ nonempty
  rw [Options.plan, average, ok_bind, made]
  cases renumber : options.renumber with
  | false =>
    refine ⟨g, none, ?_, fun _ => ?_, wf⟩
    · dsimp only
      rw [Bool.and_false]
      rfl
    · rw [Options.Selects, renumber]
      rfl
  | true =>
    by_cases dense : options.threshold ≤ g.edgeCount / g.vertexCount
    · refine ⟨r.graph, some r.oldIds, ?_, fun _ => ?_, renumbers.wellFormed⟩
      · rw [decide_eq_true dense]
        rfl
      · rw [Options.Selects, renumber]
        exact ⟨r, made, rfl⟩
    · refine ⟨g, none, ?_, fun h => absurd h dense, wf⟩
      rw [decide_eq_false dense]
      rfl

/-- The calls of a run are the queries of the graph that is counted, and there are none off the
dense path. -/
theorem calls_spec {g : Graph} (wf : g.WellFormed) (options : Options) :
    ∃ listed, calls options g = .ok listed ∧ (¬ options.Intersects g → listed = []) ∧
      (options.Intersects g → ∃ counted, options.Selects g counted ∧ counted.WellFormed ∧
        listed = queryList counted ∧ ∀ intersect, rankWith options g intersect =
          Ranking.total <$> countByIntersecting counted intersect) := by
  by_cases empty : g.isEmpty = true
  · refine ⟨[], by rw [calls, if_pos empty], fun _ => rfl, fun intersects => ?_⟩
    have none := Graph.isEmpty_iff.mp empty
    have some := intersects.2.1
    omega
  · have nonempty := Graph.not_isEmpty_iff.mp empty
    obtain ⟨counted, oldIds?, planned, counts, wf'⟩ := plan_eq wf nonempty options
    rw [calls, if_neg empty, planned, ok_bind]
    dsimp only
    by_cases intersects : options.Intersects g
    · have dense := intersects.2.2
      rw [if_pos ⟨intersects.1, decide_eq_true dense⟩, queries_eq wf']
      refine ⟨_, rfl, fun h => absurd intersects h, fun _ => ⟨counted, counts dense, wf', rfl, ?_⟩⟩
      intro intersect
      rw [rankWith, if_neg empty, planned, ok_bind, intersects.1]
      dsimp only
      rw [if_pos (decide_eq_true dense)]
      exact bind_pure_comp _ _
    · rw [if_neg fun h => intersects ⟨h.1, nonempty, of_decide_eq_true h.2⟩]
      exact ⟨[], rfl, fun _ => rfl, fun h => absurd h intersects⟩

theorem countByIntersecting_of_answers {g : Graph} (wf : g.WellFormed) {intersect : Intersector}
    {answer : Query → Nat} (answers : ∀ q ∈ queryList g, intersect q.1 q.2 = .ok (answer q)) :
    countByIntersecting g intersect = fit ((queryList g).map answer).sum := by
  rw [countByIntersecting, queries_eq wf, ok_bind, mapM_eq_map answers, ok_bind, total_eq_fit]

/-- Watching a run changes nothing. It asks its intersector, only with ascending arrays, once for
each edge of the graph that is counted whose larger end has two neighbors, and adds up the answers;
off the dense path to a total it asks nothing. So intersectors that agree on ascending arrays give
the same, and off this path any two do. -/
theorem rankWith_asks_edges {g : Graph} (constructed : g.Constructed) (options : Options) :
    ∃ listed, calls options g = .ok listed ∧
      (∀ intersect, (watch options g intersect).1 = rankWith options g intersect ∧
        (watch options g intersect).2 <+: listed ∧
        ∀ ranking, rankWith options g intersect = .ok ranking →
          (watch options g intersect).2 = listed) ∧
      (∀ q ∈ listed, Ascending q.1.toList ∧ Ascending q.2.toList) ∧
      (options.Intersects g → ∃ counted, options.Selects g counted ∧
        (∃ edges : List (Nat × Nat), edges.Nodup ∧
          (∀ u v : Nat, (u, v) ∈ edges ↔ v < u ∧ counted.hasEdge u v = .ok true ∧
            ∃ d, counted.degreeOf u = .ok d ∧ 2 ≤ d) ∧
          List.Forall₂ (fun e q => AsksFor counted e.1 e.2 q) edges listed) ∧
        ∀ (intersect : Intersector) (answer : Query → Nat),
          (∀ q ∈ listed, intersect q.1 q.2 = .ok (answer q)) →
          rankWith options g intersect = Ranking.total <$> fit (listed.map answer).sum) ∧
      (¬ options.Intersects g → listed = []) ∧
      (∀ intersect intersect' : Intersector,
        (∀ u v : Array Nat, Ascending u.toList → Ascending v.toList →
          intersect u v = intersect' u v) →
        rankWith options g intersect = rankWith options g intersect') ∧
      (¬ options.Intersects g → ∀ intersect intersect',
        rankWith options g intersect = rankWith options g intersect') := by
  obtain ⟨listed, asks, none, some⟩ := calls_spec constructed.wellFormed options
  have ascending : ∀ q ∈ listed, Ascending q.1.toList ∧ Ascending q.2.toList := by
    intro q hq
    by_cases intersects : options.Intersects g
    · obtain ⟨counted, -, wf, rfl, -⟩ := some intersects
      exact ascending_of_mem_queryList wf hq
    · rw [none intersects] at hq
      cases hq
  refine ⟨listed, asks, ?_, ascending, ?_, none, ?_, ?_⟩
  · intro intersect
    obtain ⟨made, ran, front, whole⟩ := makes_rankThrough asks intersect []
    rw [watch, ran]
    exact ⟨rfl, front, whole⟩
  · intro intersects
    obtain ⟨counted, counts, wf, rfl, adds⟩ := some intersects
    refine ⟨counted, counts, ⟨askedEdges counted, nodup_askedEdges wf, ?_,
      forall₂_askedEdges wf⟩, ?_⟩
    · intro u v
      rw [mem_askedEdges wf, wf.hasEdge_eq_true_iff]
      refine and_congr_right fun _ => and_congr_right fun adj => ?_
      rw [wf.degreeOf_eq (wf.lt_of_adj adj)]
      simp
    · intro intersect answer answers
      rw [adds, countByIntersecting_of_answers wf answers]
  · intro intersect intersect' agree
    exact rankWith_congr asks fun q hq => agree _ _ (ascending q hq).1 (ascending q hq).2
  · intro off intersect intersect'
    have nothing := none off
    exact rankWith_congr asks (by simp [nothing])

/-- Two triangles on one edge, and a vertex of degree one that no call is made for. Under new ids
the vertices `2` and `3` have the same neighbors, so two pairs of calls look alike. -/
theorem rankWith_asks_edges_common_edge : ∃ g,
    Graph.ofEdges [(0, 1), (1, 2), (2, 0), (3, 1), (3, 2), (4, 1)] = .ok g ∧
      Options.Intersects ⟨.total, true, 1⟩ g ∧
      watch ⟨.total, true, 1⟩ g (fun _ v => .ok v.size) = (.ok (.total 2),
        [(#[0, 2, 3], #[]), (#[0, 1], #[]), (#[0, 1], #[0]), (#[0, 1], #[]), (#[0, 1], #[0])]) := by
  have made : Graph.ofEdges [(0, 1), (1, 2), (2, 0), (3, 1), (3, 2), (4, 1)] =
      .ok ⟨6, #[0, 2, 6, 9, 11, 12], #[1, 2, 0, 2, 3, 4, 0, 1, 3, 1, 2, 1],
        #[2, 4, 3, 2, 1]⟩ := by cbv
  have asked : calls ⟨.total, true, 1⟩ ⟨6, #[0, 2, 6, 9, 11, 12],
      #[1, 2, 0, 2, 3, 4, 0, 1, 3, 1, 2, 1], #[2, 4, 3, 2, 1]⟩ = .ok
        [(#[0, 2, 3], #[]), (#[0, 1], #[]), (#[0, 1], #[0]), (#[0, 1], #[]), (#[0, 1], #[0])] := by
    cbv
  obtain ⟨listed, asks, watched, -, dense, -⟩ :=
    rankWith_asks_edges (.ofEdges made) ⟨.total, true, 1⟩
  rw [asked, Except.ok.injEq] at asks
  subst asks
  have intersects : Options.Intersects ⟨.total, true, 1⟩ ⟨6, #[0, 2, 6, 9, 11, 12],
      #[1, 2, 0, 2, 3, 4, 0, 1, 3, 1, 2, 1], #[2, 4, 3, 2, 1]⟩ :=
    ⟨rfl, by decide, by decide⟩
  obtain ⟨-, -, -, adds⟩ := dense intersects
  obtain ⟨same, -, whole⟩ := watched fun _ v => .ok v.size
  have two := adds (fun _ v => .ok v.size) (fun q => q.2.size) fun _ _ => rfl
  exact ⟨_, made, intersects, Prod.ext (same.trans two) (whole _ two)⟩

end Motif.Triangles
