import Motif.Proofs.Matching.Candidates

/-!
# The tree that is searched

Below the images of some depths stand their candidates, and so on down to the last depth. The
leaves are the lists in which every image is a candidate behind those before it, each once.
-/

set_option autoImplicit false

namespace Motif.Matching

/-- The images of `levels` more depths behind those given, in the order of the search. -/
def extensions (p : Problem) : Nat → List Nat → List (List Nat)
  | 0, images => [images]
  | levels + 1, images =>
    (candidateList p images).flatMap fun w => extensions p levels (images ++ [w])

/-- Every image is a candidate behind those before it. -/
def Admissible (p : Problem) (images : List Nat) : Prop :=
  ∀ k w, images[k]? = some w → w ∈ candidateList p (images.take k)

/-- The images of the depths from `start` on are candidates behind those before them. -/
def AdmissibleFrom (p : Problem) (start : Nat) (images : List Nat) : Prop :=
  ∀ k w, start ≤ k → images[k]? = some w → w ∈ candidateList p (images.take k)

variable {p : Problem}

theorem Admissible.from {images : List Nat} (h : Admissible p images) (start : Nat) :
    AdmissibleFrom p start images := fun k w _ => h k w

/-- A root may stand in front whatever its degree; the images behind it are still distinct. -/
theorem AdmissibleFrom.nodup {images : List Nat} (h : AdmissibleFrom p 1 images) :
    images.Nodup := by
  rw [List.nodup_iff_pairwise_ne, List.pairwise_iff_getElem]
  intro i j hi hj hij same
  have hmem := (mem_candidateList.mp
    (h j _ (Nat.one_le_of_lt hij) (List.getElem?_eq_getElem hj))).2.2.1
  rw [← same] at hmem
  exact hmem (List.mem_take_iff_getElem.mpr ⟨i, by omega, rfl⟩)

theorem AdmissibleFrom.inside {images : List Nat} {start k w : Nat}
    (h : AdmissibleFrom p start images) (hk : start ≤ k) (hw : images[k]? = some w) :
    w < p.target.vertexCount :=
  (mem_candidateList.mp (h k w hk hw)).1

theorem admissibleFrom_length {images full : List Nat} {w : Nat} (front : images ++ [w] <+: full) :
    AdmissibleFrom p images.length full ↔
      w ∈ candidateList p images ∧ AdmissibleFrom p (images.length + 1) full := by
  obtain ⟨tail, rfl⟩ := front
  have here : (images ++ [w] ++ tail)[images.length]? = some w := by simp
  have before : (images ++ [w] ++ tail).take images.length = images := by simp
  constructor
  · intro h
    have hw := h images.length w (Nat.le_refl _) here
    rw [before] at hw
    exact ⟨hw, fun k x hk => h k x (Nat.le_of_succ_le hk)⟩
  · rintro ⟨hw, later⟩ k x hk hx
    rcases Nat.eq_or_lt_of_le hk with rfl | hk
    · rw [here, Option.some.injEq] at hx
      rw [before, ← hx]
      exact hw
    · exact later k x hk hx

/-- The leaves below some images are their extensions by candidates. -/
theorem mem_extensions {levels : Nat} {images full : List Nat} :
    full ∈ extensions p levels images ↔
      images <+: full ∧ full.length = images.length + levels ∧
        AdmissibleFrom p images.length full := by
  induction levels generalizing images with
  | zero =>
    rw [extensions, List.mem_singleton]
    constructor
    · rintro rfl
      refine ⟨List.prefix_rfl, rfl, fun k w hk hw => ?_⟩
      rw [List.getElem?_eq_none hk] at hw
      cases hw
    · exact fun ⟨front, length, _⟩ => (front.eq_of_length length.symm).symm
  | succ levels ih =>
    have snoc (w : Nat) : (images ++ [w]).length = images.length + 1 := by simp
    rw [extensions, List.mem_flatMap]
    constructor
    · rintro ⟨w, hw, hfull⟩
      obtain ⟨front, length, later⟩ := ih.mp hfull
      rw [snoc] at length later
      exact ⟨(List.prefix_append images [w]).trans front, by omega,
        (admissibleFrom_length front).mpr ⟨hw, later⟩⟩
    · rintro ⟨⟨tail, rfl⟩, length, h⟩
      cases tail with
      | nil =>
        rw [List.append_nil] at length
        omega
      | cons w tail =>
        have front : images ++ [w] <+: images ++ w :: tail := ⟨tail, by simp⟩
        obtain ⟨hw, later⟩ := (admissibleFrom_length front).mp h
        exact ⟨w, hw, ih.mpr ⟨front, by rw [length, snoc]; omega, snoc w ▸ later⟩⟩

theorem prefix_of_mem_extensions {levels : Nat} {images full : List Nat}
    (h : full ∈ extensions p levels images) : images <+: full :=
  (mem_extensions.mp h).1

/-- No leaf is reached twice. -/
theorem nodup_extensions (levels : Nat) (images : List Nat) :
    (extensions p levels images).Nodup := by
  induction levels generalizing images with
  | zero => exact List.nodup_singleton _
  | succ levels ih =>
    rw [extensions, List.nodup_flatMap]
    refine ⟨fun w _ => ih _, ?_⟩
    refine (List.nodup_range.filter _).imp fun {w w'} hne full hw hw' => hne ?_
    have front := prefix_of_mem_extensions hw
    have front' := prefix_of_mem_extensions hw'
    have same := List.prefix_of_prefix_length_le front front' (by simp)
    have := same.eq_of_length (by simp)
    simpa using this

end Motif.Matching
