import Motif.Proofs.Graph.Mapped
import Motif.Proofs.Matching.Embeddings

/-!
# Embeddings under new ids

A row is an embedding exactly when the map that it tabulates is one, and maps compose. Renumbering
maps a graph onto its renumbered one and back, so going through both on either side of a row carries
the embeddings under new ids to those under old ids and back. The two searches meet them in
different orders.
-/

set_option autoImplicit false

namespace Motif.Matching

/-- A map that keeps the vertices of `h` apart and adjacent in `g` and, if it has to be induced, apart
from adjacency too. -/
structure Embeds (kind : Kind) (f : Nat → Nat) (h g : Graph) : Prop extends
    Graph.MapsInto f h g where
  reflects : kind = .induced → ∀ a < h.vertexCount, ∀ b < h.vertexCount, a ≠ b →
    g.Adj (f a) (f b) → h.Adj a b

theorem Embeds.comp {kind : Kind} {f f' : Nat → Nat} {g h k : Graph} (inner : Embeds kind f h g)
    (outer : Embeds kind f' g k) : Embeds kind (f' ∘ f) h k where
  inside a ha := outer.inside _ (inner.inside a ha)
  injective a ha b hb same :=
    inner.injective a ha b hb (outer.injective _ (inner.inside a ha) _ (inner.inside b hb) same)
  adj a b hab := outer.adj _ _ (inner.adj a b hab)
  reflects induced a ha b hb hne hab := by
    have apart : f a ≠ f b := fun same => hne (inner.injective a ha b hb same)
    exact inner.reflects induced a ha b hb hne
      (outer.reflects induced _ (inner.inside a ha) _ (inner.inside b hb) apart hab)

section Renumbers

variable {g : Graph} {r : Graph.Renumbered} (renumbers : g.Renumbers r) (kind : Kind)
include renumbers

theorem embeds_old : Embeds kind (fun a => r.oldIds[a]?.getD 0) r.graph g where
  toMapsInto := renumbers.mapsInto_old
  reflects := by
    intro _ a ha b hb _ hab
    rw [renumbers.vertexCount, ← renumbers.size_oldIds] at ha hb
    apply (renumbers.adj a b).mpr
    exact ⟨_, _, by simp [ha], by simp [hb], hab⟩

theorem embeds_new (wf : g.WellFormed) : Embeds kind r.oldIds.toList.idxOf g r.graph where
  toMapsInto := renumbers.mapsInto_new wf
  reflects := by
    intro _ v hv w hw _ hvw
    obtain ⟨v', w', hv', hw', hvw⟩ := (renumbers.adj _ _).mp hvw
    rw [renumbers.getElem?_idxOf hv, Option.some.injEq] at hv'
    rw [renumbers.getElem?_idxOf hw, Option.some.injEq] at hw'
    rw [hv', hw']
    exact hvw

end Renumbers

/-- The row of a map of the first `columns` vertices. -/
def tabulate (columns : Nat) (f : Nat → Nat) : Array Nat := ((List.range columns).map f).toArray

@[simp] theorem size_tabulate (columns : Nat) (f : Nat → Nat) :
    (tabulate columns f).size = columns := by
  simp [tabulate]

theorem getElem?_tabulate {columns v : Nat} (f : Nat → Nat) (hv : v < columns) :
    (tabulate columns f)[v]? = some (f v) := by
  simp [tabulate, hv]

theorem tabulate_eq {columns : Nat} {row : Array Nat} {f : Nat → Nat} (size : row.size = columns)
    (entries : ∀ v < columns, row[v]? = some (f v)) : tabulate columns f = row := by
  apply Array.ext_getElem?
  intro v
  by_cases hv : v < columns
  · rw [getElem?_tabulate f hv, entries v hv]
  · rw [Array.getElem?_eq_none (by simpa using hv), Array.getElem?_eq_none (by omega)]

/-- A row is an embedding exactly when the map that it tabulates is one. -/
theorem isEmbedding_tabulate {kind : Kind} {target pattern : Graph} (source : pattern.WellFormed)
    {f : Nat → Nat} :
    IsEmbedding kind target pattern (tabulate pattern.vertexCount f) ↔
      Embeds kind f pattern target := by
  have entry {v x : Nat} : (tabulate pattern.vertexCount f)[v]? = some x ↔
      v < pattern.vertexCount ∧ f v = x := by
    by_cases hv : v < pattern.vertexCount
    · rw [getElem?_tabulate f hv, Option.some.injEq, and_iff_right hv]
    · rw [Array.getElem?_eq_none (by simpa using hv)]
      exact ⟨nofun, fun h => absurd h.1 hv⟩
  constructor
  · intro h
    refine ⟨⟨?_, ?_, ?_⟩, ?_⟩
    · exact fun v hv => h.inside v _ (entry.mpr ⟨hv, rfl⟩)
    · exact fun u hu v hv same => h.injective u v _ (entry.mpr ⟨hu, same⟩) (entry.mpr ⟨hv, rfl⟩)
    · intro u v huv
      exact h.edges u v _ _ (entry.mpr ⟨source.lt_of_adj huv, rfl⟩)
        (entry.mpr ⟨source.lt_of_adj' huv, rfl⟩) huv
    · intro induced u hu v hv hne hxy
      by_contra huv
      exact h.induced induced u v _ _ (entry.mpr ⟨hu, rfl⟩) (entry.mpr ⟨hv, rfl⟩) hne huv hxy
  · intro h
    refine ⟨size_tabulate _ _, ?_, ?_, ?_, ?_⟩
    · intro v x hx
      obtain ⟨hv, rfl⟩ := entry.mp hx
      exact h.inside v hv
    · intro u v x hx hx'
      obtain ⟨hu, same⟩ := entry.mp hx
      obtain ⟨hv, rfl⟩ := entry.mp hx'
      exact h.injective u hu v hv same
    · intro u v x y hx hy huv
      obtain ⟨-, rfl⟩ := entry.mp hx
      obtain ⟨-, rfl⟩ := entry.mp hy
      exact h.adj u v huv
    · intro induced u v x y hx hy hne huv hxy
      obtain ⟨hu, rfl⟩ := entry.mp hx
      obtain ⟨hv, rfl⟩ := entry.mp hy
      exact huv (h.reflects induced u hu v hv hne hxy)

/-- The map that an embedding tabulates. -/
theorem IsEmbedding.embeds {kind : Kind} {target pattern : Graph} {row : Array Nat}
    (h : IsEmbedding kind target pattern row) (source : pattern.WellFormed) :
    Embeds kind (fun v => row[v]?.getD 0) pattern target := by
  rw [← isEmbedding_tabulate source, tabulate_eq h.size]
  · exact h
  · intro v hv
    have : v < row.size := h.size ▸ hv
    simp [this]

section Rows

variable (t p : Graph.Renumbered) (row : Array Nat)

/-- A row for renumbered graphs, with the old ids of both. -/
def oldRow : Array Nat :=
  tabulate p.oldIds.size fun v => t.oldIds[row[p.oldIds.toList.idxOf v]?.getD 0]?.getD 0

/-- A row for the graphs before they are renumbered, with the new ids of both. -/
def newRow : Array Nat :=
  tabulate p.oldIds.size fun a => t.oldIds.toList.idxOf (row[p.oldIds[a]?.getD 0]?.getD 0)

end Rows

section Carried

variable {target pattern : Graph} {t p : Graph.Renumbered} (targets : target.Renumbers t)
  (patterns : pattern.Renumbers p) {kind : Kind} {row : Array Nat}
include targets patterns

theorem isEmbedding_oldRow (source : pattern.WellFormed)
    (h : IsEmbedding kind t.graph p.graph row) :
    IsEmbedding kind target pattern (oldRow t p row) := by
  have maps := (embeds_new patterns kind source).comp (h.embeds patterns.wellFormed)
  rw [oldRow, patterns.size_oldIds]
  exact (isEmbedding_tabulate source).mpr (maps.comp (embeds_old targets kind))

theorem isEmbedding_newRow (targetFits : target.WellFormed) (source : pattern.WellFormed)
    (h : IsEmbedding kind target pattern row) :
    IsEmbedding kind t.graph p.graph (newRow t p row) := by
  have maps := (embeds_old patterns kind).comp (h.embeds source)
  rw [newRow, patterns.size_oldIds, ← patterns.vertexCount]
  exact (isEmbedding_tabulate patterns.wellFormed).mpr
    (maps.comp (embeds_new targets kind targetFits))

/-- The entry for an old pattern vertex is the old id of the entry for its new one. -/
theorem getElem?_oldRow (h : IsEmbedding kind t.graph p.graph row) {a v : Nat}
    (hv : p.oldIds[a]? = some v) :
    ∃ x y, row[a]? = some x ∧ t.oldIds[x]? = some y ∧ (oldRow t p row)[v]? = some y := by
  obtain ⟨ha, rfl⟩ := Array.getElem?_eq_some_iff.mp hv
  have inside : a < row.size := by
    rw [h.size, patterns.vertexCount, ← patterns.size_oldIds]
    exact ha
  have image : row[a] < t.oldIds.size := by
    rw [targets.size_oldIds, ← targets.vertexCount]
    exact h.inside a _ (Array.getElem?_eq_getElem inside)
  have column : p.oldIds[a] < p.oldIds.size := by
    rw [patterns.size_oldIds, ← patterns.mem_oldIds]
    exact Array.getElem_mem_toList ha
  refine ⟨row[a], t.oldIds[row[a]], by simp [inside], by simp [image], ?_⟩
  have position : p.oldIds.toList.idxOf p.oldIds[a] = a := patterns.nodup.idxOf_getElem a ha
  rw [oldRow, getElem?_tabulate _ column, position]
  simp [inside, image]

theorem newRow_oldRow (h : IsEmbedding kind t.graph p.graph row) :
    newRow t p (oldRow t p row) = row := by
  have size : row.size = p.oldIds.size := by
    rw [h.size, patterns.vertexCount, patterns.size_oldIds]
  apply tabulate_eq size
  intro a ha
  have old : p.oldIds[a]? = some p.oldIds[a] := Array.getElem?_eq_getElem ha
  obtain ⟨x, y, hx, hy, carried⟩ := getElem?_oldRow targets patterns h old
  obtain ⟨hlt, rfl⟩ := Array.getElem?_eq_some_iff.mp hy
  have position : t.oldIds.toList.idxOf t.oldIds[x] = x := targets.nodup.idxOf_getElem x hlt
  rw [hx, old, Option.getD_some, carried, Option.getD_some, position]

theorem oldRow_newRow (h : IsEmbedding kind target pattern row) :
    oldRow t p (newRow t p row) = row := by
  have size : row.size = p.oldIds.size := by rw [h.size, patterns.size_oldIds]
  apply tabulate_eq size
  intro v hv
  have old := patterns.getElem?_idxOf (patterns.size_oldIds ▸ hv)
  have column : p.oldIds.toList.idxOf v < p.oldIds.size := (Array.getElem?_eq_some_iff.mp old).1
  have inside : v < row.size := by omega
  have image := targets.getElem?_idxOf (h.inside v row[v] (by simp [inside]))
  rw [newRow, getElem?_tabulate _ column, Option.getD_some, old, Option.getD_some,
    Array.getElem?_eq_getElem inside, Option.getD_some, image, Option.getD_some]

theorem bijOn_oldRow (targetFits : target.WellFormed) (source : pattern.WellFormed) (kind : Kind) :
    Set.BijOn (oldRow t p) {row | IsEmbedding kind t.graph p.graph row}
      {row | IsEmbedding kind target pattern row} := by
  have inverse : Set.InvOn (newRow t p) (oldRow t p) {row | IsEmbedding kind t.graph p.graph row}
      {row | IsEmbedding kind target pattern row} := by
    constructor
    · exact fun row h => newRow_oldRow targets patterns h
    · exact fun row h => oldRow_newRow targets patterns h
  apply inverse.bijOn
  · exact fun row h => isEmbedding_oldRow targets patterns source h
  · exact fun row h => isEmbedding_newRow targets patterns targetFits source h

end Carried

/-- Searching the renumbered graphs finds the same embeddings under new ids: taking old ids for new
ones in its rows, on the side of the target and on that of the pattern, is a bijection onto the rows of
the graphs as they were. -/
theorem embeddings_renumbered {target pattern : Graph} (targetMade : target.Constructed)
    (patternMade : pattern.Constructed) (targetSome : 0 < target.vertexCount)
    (patternSome : 0 < pattern.vertexCount) (kind : Kind) :
    ∃ t p found renumbered, target.renumberByDegree = .ok t ∧ pattern.renumberByDegree = .ok p ∧
      Finds ⟨kind, false, 0⟩ target pattern found ∧
      Finds ⟨kind, false, 0⟩ t.graph p.graph renumbered ∧
      (∀ row, row ∈ found.table.rows ↔ IsEmbedding kind target pattern row) ∧
      (∀ row ∈ renumbered.table.rows, (oldRow t p row).size = pattern.vertexCount ∧
        ∀ a v : Nat, p.oldIds[a]? = some v → ∃ x y, row[a]? = some x ∧ t.oldIds[x]? = some y ∧
          (oldRow t p row)[v]? = some y) ∧
      Set.BijOn (oldRow t p) {row | row ∈ renumbered.table.rows} {row | row ∈ found.table.rows} ∧
      (renumbered.table.rows.map (oldRow t p)).Perm found.table.rows ∧
      renumbered.count = found.count := by
  have targetFits := targetMade.wellFormed
  have source := patternMade.wellFormed
  obtain ⟨t, turnedTarget, targets⟩ := targetFits.renumberByDegree_spec
  obtain ⟨p, turnedPattern, patterns⟩ := source.renumberByDegree_spec
  obtain ⟨found, run, complete⟩ := exists_complete targetFits source targetSome patternSome kind
  obtain ⟨renumbered, run', complete'⟩ := exists_complete targets.wellFormed patterns.wellFormed
    (targets.vertexCount ▸ targetSome) (patterns.vertexCount ▸ patternSome) kind
  have bijective : Set.BijOn (oldRow t p) {row | row ∈ renumbered.table.rows}
      {row | row ∈ found.table.rows} := by
    simp only [complete.mem_rows, complete'.mem_rows]
    exact bijOn_oldRow targets patterns targetFits source kind
  have distinct : (renumbered.table.rows.map (oldRow t p)).Nodup :=
    complete'.nodup.map_on fun row hrow row' hrow' same => bijective.injOn hrow hrow' same
  have same : (renumbered.table.rows.map (oldRow t p)).Perm found.table.rows := by
    rw [List.perm_ext_iff_of_nodup distinct complete.nodup]
    intro row
    rw [List.mem_map]
    exact Set.ext_iff.mp bijective.image_eq row
  refine ⟨t, p, found, renumbered, turnedTarget, turnedPattern, run, run', complete.mem_rows, ?_,
    bijective, same, ?_⟩
  · intro row hrow
    have embedding := (complete'.mem_rows row).mp hrow
    refine ⟨by rw [oldRow, size_tabulate, patterns.size_oldIds], ?_⟩
    intro a v hv
    exact getElem?_oldRow targets patterns embedding hv
  · rw [complete.count, complete'.count, ← same.length_eq, List.length_map]

/-- Neither renumbering is its own inverse: the vertices of the path are `1, 2, 0, 3` in their new
order, and those of the target `2, 3, 1, 0, 4, 5`. -/
theorem embeddings_renumbered_path : ∃ target pattern t p found renumbered,
    Graph.ofEdges [(0, 1), (0, 2), (1, 2), (2, 3), (2, 4), (1, 3), (3, 4), (3, 5)] = .ok target ∧
      Graph.ofEdges [(0, 1), (1, 2), (2, 3)] = .ok pattern ∧
      target.renumberByDegree = .ok t ∧ pattern.renumberByDegree = .ok p ∧
      Finds ⟨.induced, false, 0⟩ target pattern found ∧
      Finds ⟨.induced, false, 0⟩ t.graph p.graph renumbered ∧
      oldRow t p #[2, 1, 3, 5] = #[0, 1, 3, 5] ∧
      (∃ row ∈ renumbered.table.rows, oldRow t p row = #[0, 1, 3, 5]) ∧
      renumbered.count = found.count := by
  have targetMade : Graph.ofEdges
      [(0, 1), (0, 2), (1, 2), (2, 3), (2, 4), (1, 3), (3, 4), (3, 5)] =
      .ok ⟨8, #[0, 2, 5, 9, 13, 15, 16], #[1, 2, 0, 2, 3, 0, 1, 3, 4, 1, 2, 4, 5, 2, 3, 3],
        #[2, 3, 4, 4, 2, 1]⟩ := by cbv
  have patternMade : Graph.ofEdges [(0, 1), (1, 2), (2, 3)] =
      .ok ⟨3, #[0, 1, 3, 5, 6], #[1, 0, 2, 1, 3, 2], #[1, 2, 2, 1]⟩ := by cbv
  have targetIds : (·.oldIds) <$> Graph.renumberByDegree ⟨8, #[0, 2, 5, 9, 13, 15, 16],
      #[1, 2, 0, 2, 3, 0, 1, 3, 4, 1, 2, 4, 5, 2, 3, 3], #[2, 3, 4, 4, 2, 1]⟩ =
      .ok #[2, 3, 1, 0, 4, 5] := by cbv
  have patternIds : (·.oldIds) <$> Graph.renumberByDegree
      ⟨3, #[0, 1, 3, 5, 6], #[1, 0, 2, 1, 3, 2], #[1, 2, 2, 1]⟩ = .ok #[1, 2, 0, 3] := by cbv
  obtain ⟨t, p, found, renumbered, turned, turned', run, run', rows, -, bijective, -, count⟩ :=
    embeddings_renumbered (.ofEdges targetMade) (.ofEdges patternMade) (by decide) (by decide)
      .induced
  have embedding : #[0, 1, 3, 5] ∈ found.table.rows := by
    rw [rows]
    decide +kernel
  obtain ⟨row, hrow, carried⟩ := bijective.surjOn embedding
  rw [turned] at targetIds
  rw [turned'] at patternIds
  have old : t.oldIds = #[2, 3, 1, 0, 4, 5] := Except.ok.inj targetIds
  have old' : p.oldIds = #[1, 2, 0, 3] := Except.ok.inj patternIds
  refine ⟨_, _, t, p, found, renumbered, targetMade, patternMade, turned, turned', run, run', ?_,
    ⟨row, hrow, carried⟩, count⟩
  rw [oldRow, old, old']
  decide

end Motif.Matching
