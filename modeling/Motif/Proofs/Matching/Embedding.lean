import Motif.Proofs.Matching.Extensions

/-!
# Leaves are embeddings

The images of all depths, put in the order of the pattern vertices, are an embedding exactly when
each of them was a candidate. Checking an edge at its later end is enough, as both graphs are
symmetric; and a low degree rules out no embedding, since an embedding maps the neighbors of a
vertex to different neighbors of its image.
-/

set_option autoImplicit false

namespace Motif.Matching

/-- A row that maps the vertices of a pattern to different target vertices, edges to edges and, if
it has to be induced, pairs without an edge to pairs without an edge. -/
structure IsEmbedding (kind : Kind) (target pattern : Graph) (row : Array Nat) : Prop where
  size : row.size = pattern.vertexCount
  inside : ∀ v x : Nat, row[v]? = some x → x < target.vertexCount
  injective : ∀ u v x : Nat, row[u]? = some x → row[v]? = some x → u = v
  edges : ∀ u v x y : Nat, row[u]? = some x → row[v]? = some y → pattern.Adj u v → target.Adj x y
  induced : kind = .induced → ∀ u v x y : Nat, row[u]? = some x → row[v]? = some y → u ≠ v →
    ¬ pattern.Adj u v → ¬ target.Adj x y

/-- Being an embedding is a matter of the entries of a row, two at a time. -/
theorem isEmbedding_iff {kind : Kind} {target pattern : Graph} {row : Array Nat} :
    IsEmbedding kind target pattern row ↔
      row.size = pattern.vertexCount ∧ (∀ u < row.size, row[u]?.getD 0 < target.vertexCount) ∧
      ∀ u < row.size, ∀ v < row.size,
        (row[u]?.getD 0 = row[v]?.getD 0 → u = v) ∧
        (pattern.Adj u v → target.Adj (row[u]?.getD 0) (row[v]?.getD 0)) ∧
        (kind = .induced ∧ u ≠ v ∧ ¬ pattern.Adj u v →
          ¬ target.Adj (row[u]?.getD 0) (row[v]?.getD 0)) := by
  have entry {u : Nat} (hu : u < row.size) : row[u]? = some (row[u]?.getD 0) := by simp [hu]
  have column {u x : Nat} (hx : row[u]? = some x) : u < row.size ∧ row[u]?.getD 0 = x :=
    ⟨(Array.getElem?_eq_some_iff.mp hx).1, by rw [hx]; rfl⟩
  constructor
  · intro h
    refine ⟨h.size, fun u hu => h.inside u _ (entry hu), fun u hu v hv => ⟨fun same => ?_, ?_, ?_⟩⟩
    · exact h.injective u v _ (entry hu) (same ▸ entry hv)
    · exact h.edges u v _ _ (entry hu) (entry hv)
    · exact fun ⟨kind, hne, hadj⟩ => h.induced kind u v _ _ (entry hu) (entry hv) hne hadj
  · rintro ⟨size, inside, pairs⟩
    refine ⟨size, ?_, ?_, ?_, ?_⟩
    · intro v x hx
      obtain ⟨hv, rfl⟩ := column hx
      exact inside v hv
    · intro u v x hu hv
      exact (pairs u (column hu).1 v (column hv).1).1 ((column hu).2.trans (column hv).2.symm)
    · intro u v x y hx hy
      obtain ⟨hu, rfl⟩ := column hx
      obtain ⟨hv, rfl⟩ := column hy
      exact (pairs u hu v hv).2.1
    · intro kind u v x y hx hy hne hadj
      obtain ⟨hu, rfl⟩ := column hx
      obtain ⟨hv, rfl⟩ := column hy
      exact (pairs u hu v hv).2.2 ⟨kind, hne, hadj⟩

instance (kind : Kind) (target pattern : Graph) (row : Array Nat) :
    Decidable (IsEmbedding kind target pattern row) :=
  decidable_of_iff' _ isEmbedding_iff

/-- Different elements stand at one position each. -/
theorem position_unique {xs : List Nat} (nodup : xs.Nodup) {i j x : Nat} (hi : xs[i]? = some x)
    (hj : xs[j]? = some x) : i = j := by
  have inside := (List.getElem?_eq_some_iff.mp hi).1
  exact (List.getElem?_inj inside nodup).mp (hi.trans hj.symm)

theorem IsEmbedding.nodup {kind : Kind} {target pattern : Graph} {row : Array Nat}
    (h : IsEmbedding kind target pattern row) : row.toList.Nodup := by
  rw [List.nodup_iff_pairwise_ne, List.pairwise_iff_getElem]
  intro i j hi hj hij same
  have := h.injective i j row.toList[i] (by simp) (by simp [same])
  omega

/-- A larger pattern does not fit into a target. -/
theorem IsEmbedding.vertexCount_le {kind : Kind} {target pattern : Graph} {row : Array Nat}
    (h : IsEmbedding kind target pattern row) : pattern.vertexCount ≤ target.vertexCount := by
  have inside : row.toList ⊆ List.range target.vertexCount := by
    intro x hx
    obtain ⟨v, hv⟩ := List.mem_iff_getElem?.mp hx
    exact List.mem_range.mpr (h.inside v x (by simpa using hv))
  simpa [h.size] using (h.nodup.subperm inside).length_le

/-- The neighbors of a vertex have different images, all of them neighbors of its image. -/
theorem IsEmbedding.degree_le {kind : Kind} {target pattern : Graph} {row : Array Nat}
    (h : IsEmbedding kind target pattern row) (source : pattern.WellFormed) {v y : Nat}
    (hv : row[v]? = some y) : (pattern.neighborList v).length ≤ (target.neighborList y).length := by
  have mapped {u : Nat} (hu : pattern.Adj v u) : row[u]? = some (row[u]?.getD 0) := by
    have : u < row.size := h.size ▸ source.lt_of_adj' hu
    simp [this]
  have distinct : ((pattern.neighborList v).map fun u => row[u]?.getD 0).Nodup := by
    refine List.Nodup.map_on ?_ (source.ascending' v).nodup
    intro u hu u' hu' same
    exact h.injective u u' _ (mapped hu) (same ▸ mapped hu')
  have inside : ((pattern.neighborList v).map fun u => row[u]?.getD 0) ⊆ target.neighborList y := by
    intro x hx
    obtain ⟨u, hu, rfl⟩ := List.mem_map.mp hx
    exact h.edges v u y _ hv (mapped hu) hu
  simpa using (distinct.subperm inside).length_le

/-- The images by pattern vertex. -/
def arrange (order : Array Nat) (images : List Nat) : Array Nat :=
  ((List.range order.size).map fun v => images[order.toList.idxOf v]?.getD 0).toArray

@[simp] theorem size_arrange (order : Array Nat) (images : List Nat) :
    (arrange order images).size = order.size := by
  simp [arrange]

theorem size_of_mem_map_arrange {order : Array Nat} {leaves : List (List Nat)} :
    ∀ row ∈ leaves.map (arrange order), row.size = order.size := by
  intro row hrow
  obtain ⟨images, -, rfl⟩ := List.mem_map.mp hrow
  exact size_arrange order images

section Order

variable {order : Array Nat} {n : Nat} (permutes : order.toList.Perm (List.range n))
include permutes

theorem size_order : order.size = n := by
  simpa using permutes.length_eq

theorem nodup_order : order.toList.Nodup :=
  permutes.nodup_iff.mpr List.nodup_range

theorem depth_unique {i j v : Nat} (hi : order[i]? = some v) (hj : order[j]? = some v) : i = j := by
  rw [← Array.getElem?_toList] at hi hj
  exact position_unique (nodup_order permutes) hi hj

theorem exists_depth {v : Nat} (hv : v < n) : ∃ k : Nat, order[k]? = some v := by
  have hmem : v ∈ order.toList := permutes.mem_iff.mpr (List.mem_range.mpr hv)
  obtain ⟨k, hk⟩ := List.mem_iff_getElem?.mp hmem
  exact ⟨k, by simpa using hk⟩

/-- Column `v` holds the image of the depth that visits `v`. -/
theorem getElem?_arrange {images : List Nat} (length : images.length = n) {k v : Nat}
    (hv : order[k]? = some v) : (arrange order images)[v]? = images[k]? := by
  have size := size_order permutes
  obtain ⟨hk, rfl⟩ := Array.getElem?_eq_some_iff.mp hv
  have inside : order[k] < n :=
    List.mem_range.mp (permutes.mem_iff.mp (Array.getElem_mem_toList hk))
  have position : order.toList.idxOf order[k] = k := (nodup_order permutes).idxOf_getElem k hk
  have some : k < images.length := by omega
  simp [arrange, size, inside, position, some]

theorem arrange_inj {images images' : List Nat} (length : images.length = n)
    (length' : images'.length = n) (same : arrange order images = arrange order images') :
    images = images' := by
  apply List.ext_getElem?
  intro k
  rcases Nat.lt_or_ge k n with hk | hk
  · obtain ⟨v, hv⟩ : ∃ v, order[k]? = some v :=
      ⟨_, Array.getElem?_eq_getElem (size_order permutes ▸ hk)⟩
    rw [← getElem?_arrange permutes length hv, ← getElem?_arrange permutes length' hv, same]
  · rw [List.getElem?_eq_none (by omega), List.getElem?_eq_none (by omega)]

/-- Every row is arranged from the images that it has. -/
theorem exists_arrange {row : Array Nat} (size : row.size = n) :
    ∃ images, images.length = n ∧ arrange order images = row := by
  refine ⟨order.toList.map fun v => row[v]?.getD 0, ?_, ?_⟩
  · rw [List.length_map, Array.length_toList, size_order permutes]
  · apply Array.ext_getElem?
    intro v
    rcases Nat.lt_or_ge v n with hv | hv
    · obtain ⟨k, hk⟩ := exists_depth permutes hv
      have hk' : order.toList[k]? = some v := by simpa using hk
      rw [getElem?_arrange permutes (by simp [size_order permutes]) hk, List.getElem?_map, hk']
      simp [size, hv]
    · rw [Array.getElem?_eq_none (by simp [size_order permutes, hv]),
        Array.getElem?_eq_none (by omega)]

end Order

section Leaves

variable {p : Problem} {pattern : Graph} (visits : p.order.Visits pattern) {images : List Nat}

include visits in
/-- What a depth has checked about an earlier one. -/
theorem AdmissibleFrom.checked (h : AdmissibleFrom p 1 images) {i j u v x y : Nat} (hij : i < j)
    (hu : p.order.order[i]? = some u) (hv : p.order.order[j]? = some v)
    (hx : images[i]? = some x) (hy : images[j]? = some y) :
    (pattern.Adj u v → p.target.Adj x y) ∧
      (p.kind = .induced → ¬ pattern.Adj u v → ¬ p.target.Adj x y) := by
  have hj : j < images.length := (List.getElem?_eq_some_iff.mp hy).1
  have depth : (images.take j).length = j := by
    rw [List.length_take]
    omega
  have earlier : (images.take j)[i]? = some x := by rw [List.getElem?_take_of_lt hij, hx]
  have fits := (mem_candidateList.mp (h j y (Nat.one_le_of_lt hij) hy)).2
  rw [extends_iff visits (by rw [depth]; exact hv), depth] at fits
  refine ⟨fun hadj => fits.1 i ?_ x earlier, fun kind hadj => fits.2.2.2 kind i ?_ x earlier⟩
  · exact VisitOrder.mem_joined.mpr ⟨hij, u, hu, hadj⟩
  · exact VisitOrder.mem_apart.mpr ⟨hij, u, hu, hadj⟩

variable (target : p.target.WellFormed) (source : pattern.WellFormed)
include visits target source

theorem isEmbedding_of_admissibleFrom (length : images.length = pattern.vertexCount)
    (inside : ∀ x ∈ images.head?, x < p.target.vertexCount) (h : AdmissibleFrom p 1 images) :
    IsEmbedding p.kind p.target pattern (arrange p.order.order images) := by
  have permutes := visits.permutes
  -- each entry of the row is the image of a depth
  have entry {v x : Nat} (hx : (arrange p.order.order images)[v]? = some x) :
      ∃ k : Nat, p.order.order[k]? = some v ∧ images[k]? = some x := by
    have hv : v < pattern.vertexCount := by
      have := (Array.getElem?_eq_some_iff.mp hx).1
      rwa [size_arrange, size_order permutes] at this
    obtain ⟨k, hk⟩ := exists_depth permutes hv
    exact ⟨k, hk, by rw [← getElem?_arrange permutes length hk, hx]⟩
  refine ⟨by rw [size_arrange, size_order permutes], ?_, ?_, ?_, ?_⟩
  · intro v x hx
    obtain ⟨k, -, hk⟩ := entry hx
    rcases Nat.eq_zero_or_pos k with rfl | later
    · exact inside x (List.head?_eq_getElem? ▸ hk)
    · exact h.inside later hk
  · intro u v x hu hv
    obtain ⟨i, hi, hxi⟩ := entry hu
    obtain ⟨j, hj, hxj⟩ := entry hv
    rw [position_unique h.nodup hxi hxj, hj, Option.some.injEq] at hi
    exact hi.symm
  · intro u v x y hx hy hadj
    obtain ⟨i, hi, hxi⟩ := entry hx
    obtain ⟨j, hj, hyj⟩ := entry hy
    rcases Nat.lt_trichotomy i j with hij | rfl | hji
    · exact (h.checked visits hij hi hj hxi hyj).1 hadj
    · rw [hi, Option.some.injEq] at hj
      exact absurd hj (source.ne_of_adj hadj)
    · exact target.symmetric y x ((h.checked visits hji hj hi hyj hxi).1 (source.symmetric u v hadj))
  · intro kind u v x y hx hy hne hadj
    obtain ⟨i, hi, hxi⟩ := entry hx
    obtain ⟨j, hj, hyj⟩ := entry hy
    rcases Nat.lt_trichotomy i j with hij | rfl | hji
    · exact (h.checked visits hij hi hj hxi hyj).2 kind hadj
    · rw [hi, Option.some.injEq] at hj
      exact absurd hj hne
    · intro hxy
      exact (h.checked visits hji hj hi hyj hxi).2 kind
        (fun h => hadj (source.symmetric v u h)) (target.symmetric x y hxy)

omit target in
theorem admissible_of_isEmbedding (length : images.length = pattern.vertexCount)
    (h : IsEmbedding p.kind p.target pattern (arrange p.order.order images)) :
    Admissible p images := by
  have permutes := visits.permutes
  intro k y hy
  have hk : k < images.length := (List.getElem?_eq_some_iff.mp hy).1
  have depth : (images.take k).length = k := by
    rw [List.length_take]
    omega
  obtain ⟨v, hv⟩ : ∃ v, p.order.order[k]? = some v := by
    have : k < p.order.order.size := by rw [size_order permutes, ← length]; exact hk
    exact ⟨_, Array.getElem?_eq_getElem this⟩
  have column {j u : Nat} (hu : p.order.order[j]? = some u) :
      (arrange p.order.order images)[u]? = images[j]? := getElem?_arrange permutes length hu
  have hvy := (column hv).trans hy
  rw [mem_candidateList, extends_iff visits (by rw [depth]; exact hv), depth]
  refine ⟨h.inside v y hvy, ?_, ?_, ?_, ?_⟩
  · intro j hj x hx
    obtain ⟨hjk, u, hu, hadj⟩ := VisitOrder.mem_joined.mp hj
    rw [Option.mem_def, List.getElem?_take_of_lt hjk] at hx
    exact h.edges u v x y ((column hu).trans hx) hvy hadj
  · exact h.degree_le source hvy
  · intro taken
    obtain ⟨j, hj⟩ := List.mem_iff_getElem?.mp taken
    have hjk : j < k := by
      have := (List.getElem?_eq_some_iff.mp hj).1
      omega
    rw [List.getElem?_take_of_lt hjk] at hj
    obtain ⟨u, hu⟩ : ∃ u, p.order.order[j]? = some u := by
      have : j < p.order.order.size := by rw [size_order permutes, ← length]; omega
      exact ⟨_, Array.getElem?_eq_getElem this⟩
    have same : u = v := h.injective u v y ((column hu).trans hj) hvy
    have := depth_unique permutes (same ▸ hu) hv
    omega
  · intro kind j hj x hx
    obtain ⟨hjk, u, hu, hadj⟩ := VisitOrder.mem_apart.mp hj
    rw [Option.mem_def, List.getElem?_take_of_lt hjk] at hx
    refine h.induced kind u v x y ((column hu).trans hx) hvy ?_ hadj
    rintro rfl
    have := depth_unique permutes hu hv
    omega

/-- The rows of the leaves below a root are the embeddings with this image of the first visited
vertex. A root of a low degree has none. -/
theorem mem_map_arrange_root {root first : Nat} (inside : root < p.target.vertexCount)
    (visited : p.order.order[0]? = some first) (row : Array Nat) :
    row ∈ (extensions p (p.order.size - 1) [root]).map (arrange p.order.order) ↔
      IsEmbedding p.kind p.target pattern row ∧ row[first]? = some root := by
  have size : p.order.size = pattern.vertexCount := size_order visits.permutes
  have room : 0 < p.order.size := (Array.getElem?_eq_some_iff.mp visited).1
  have column {images : List Nat} (length : images.length = pattern.vertexCount) :
      (arrange p.order.order images)[first]? = images[0]? :=
    getElem?_arrange visits.permutes length visited
  rw [List.mem_map]
  constructor
  · rintro ⟨images, himages, rfl⟩
    obtain ⟨⟨tail, rfl⟩, length, later⟩ := mem_extensions.mp himages
    have length : ([root] ++ tail).length = pattern.vertexCount := by
      rw [length, List.length_singleton]
      omega
    refine ⟨isEmbedding_of_admissibleFrom visits target source length ?_ later, ?_⟩
    · rintro x ⟨⟩
      exact inside
    · rw [column length]
      rfl
  · rintro ⟨h, hroot⟩
    obtain ⟨images, length, rfl⟩ := exists_arrange visits.permutes h.size
    have admissible := admissible_of_isEmbedding visits source length h
    rw [column length] at hroot
    cases images with
    | nil => cases hroot
    | cons x tail =>
      obtain rfl : x = root := by simpa using hroot
      refine ⟨x :: tail, mem_extensions.mpr ⟨⟨tail, rfl⟩, ?_, admissible.from 1⟩, rfl⟩
      rw [length, List.length_singleton]
      omega

/-- The rows of the leaves are the embeddings. -/
theorem mem_map_arrange (row : Array Nat) :
    row ∈ (extensions p pattern.vertexCount []).map (arrange p.order.order) ↔
      IsEmbedding p.kind p.target pattern row := by
  rw [List.mem_map]
  constructor
  · rintro ⟨images, himages, rfl⟩
    obtain ⟨-, length, admissible⟩ := mem_extensions.mp himages
    rw [List.length_nil, Nat.zero_add] at length
    refine isEmbedding_of_admissibleFrom visits target source length (fun x hx => ?_)
      fun k w _ => admissible k w (Nat.zero_le k)
    rw [Option.mem_def, List.head?_eq_getElem?] at hx
    exact admissible.inside (Nat.zero_le 0) hx
  · intro h
    obtain ⟨images, length, rfl⟩ := exists_arrange visits.permutes h.size
    have admissible := admissible_of_isEmbedding visits source length h
    exact ⟨images, mem_extensions.mpr
      ⟨List.nil_prefix, length.trans (Nat.zero_add _).symm, admissible.from 0⟩, rfl⟩

omit target source in
theorem nodup_map_arrange_below {levels : Nat}
    (whole : images.length + levels = pattern.vertexCount) :
    ((extensions p levels images).map (arrange p.order.order)).Nodup := by
  refine (nodup_extensions _ _).map_on fun a ha b hb same => ?_
  have length {leaf : List Nat} (h : leaf ∈ extensions p levels images) :
      leaf.length = pattern.vertexCount := (mem_extensions.mp h).2.1.trans whole
  exact arrange_inj visits.permutes (length ha) (length hb) same

omit target source in
theorem nodup_map_arrange :
    ((extensions p pattern.vertexCount []).map (arrange p.order.order)).Nodup :=
  nodup_map_arrange_below visits (Nat.zero_add _)

end Leaves

end Motif.Matching
