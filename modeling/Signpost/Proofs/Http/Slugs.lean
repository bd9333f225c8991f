import Mathlib.Data.List.Induction
import Signpost.Http.Request

/-! Slugs that are bound from pairs of names and values. A name may come several times. -/
namespace Signpost.Http.Slugs

theorem ofPairsConcat (pairs : List (String × String)) (p : String × String) :
    ofPairs (pairs ++ [p]) = (ofPairs pairs).insert p.1 p.2 := by
  rw [ofPairs, List.foldl_append]
  rfl

/- Of several values under one name the last one stays. -/
theorem getOfPairs (pairs : List (String × String)) (name : String) :
    (ofPairs pairs).get? name = (pairs.reverse.find? (·.1 == name)).map Prod.snd := by
  induction pairs using List.reverseRecOn with
  | nil => rfl
  | append_singleton pairs p ih =>
    rw [ofPairsConcat, getInsert, ih, List.reverse_append, List.reverse_singleton,
      List.singleton_append]
    by_cases same : p.1 = name <;> simp [same]

theorem getBound {pairs : List (String × String)} {name : String}
    (named : name ∈ pairs.map Prod.fst) : ((ofPairs pairs).get? name).isSome = true := by
  obtain ⟨pair, member, rfl⟩ := List.mem_map.mp named
  rw [getOfPairs, Option.isSome_map, List.find?_isSome]
  exact ⟨pair, List.mem_reverse.mpr member, by simp⟩

theorem getOnce {pairs : List (String × String)} {name value : String}
    (member : (name, value) ∈ pairs) (once : ∀ pair ∈ pairs, pair.1 = name → pair.2 = value) :
    (ofPairs pairs).get? name = some value := by
  obtain ⟨found, bound⟩ := Option.isSome_iff_exists.mp
    (getBound (List.mem_map.mpr ⟨_, member, rfl⟩))
  rw [bound]
  rw [getOfPairs] at bound
  obtain ⟨pair, first, rfl⟩ := Option.map_eq_some_iff.mp bound
  have named := List.find?_some first
  rw [once pair (List.mem_reverse.mp (List.mem_of_find?_eq_some first)) (by simpa using named)]

/- Names with values in step. -/
theorem getZipped {names values : List String} (enough : names.length ≤ values.length) {i : Nat}
    {name : String} (named : names[i]? = some name) :
    ((ofPairs (names.zip values)).get? name).isSome = true ∧
      ((∀ j, names[j]? = some name → j = i) →
        (ofPairs (names.zip values)).get? name = values[i]?) := by
  have inside := (List.getElem?_eq_some_iff.mp named).1
  have valued : values[i]? = some values[i] := List.getElem?_eq_getElem (by omega)
  refine ⟨getBound ?_, fun once => ?_⟩
  · rw [List.map_fst_zip enough]
    exact List.mem_of_getElem? named
  · rw [valued]
    refine getOnce (List.mem_of_getElem? (List.getElem?_zip_eq_some.mpr ⟨named, valued⟩)) ?_
    rintro ⟨other, value⟩ member rfl
    obtain ⟨j, here⟩ := List.mem_iff_getElem?.mp member
    obtain ⟨first, second⟩ := List.getElem?_zip_eq_some.mp here
    cases once j first
    exact Option.some.inj (second.symm.trans valued)

/- The last pair under the name stands there. -/
def LastAt (pairs : List (String × String)) (name value : String) (i : Nat) : Prop :=
  pairs[i]? = some (name, value) ∧ ∀ (j : Nat) other, i < j → pairs[j]? ≠ some (name, other)

section
variable {pairs : List (String × String)} {p q : String × String} {name value : String} {i : Nat}

theorem concatAt : (pairs ++ [p])[i]? = some q ↔ pairs[i]? = some q ∨ i = pairs.length ∧ p = q := by
  rcases Nat.lt_trichotomy i pairs.length with before | same | behind
  · rw [List.getElem?_append_left before]
    exact ⟨.inl, fun given => given.elim id fun same => absurd before (same.1 ▸ Nat.lt_irrefl _)⟩
  · subst same
    simp
  · rw [List.getElem?_eq_none (by simp; omega), List.getElem?_eq_none (Nat.le_of_lt behind)]
    simp only [reduceCtorEq, false_or, false_iff, not_and]
    intro same
    omega

theorem lastSame (same : p.1 = name) :
    LastAt (pairs ++ [p]) name value i ↔ i = pairs.length ∧ p = (name, value) := by
  simp only [LastAt, concatAt, ne_eq]
  constructor
  · intro given
    obtain ⟨early | last, none⟩ := given
    · have bound := (List.getElem?_eq_some_iff.mp early).1
      exact absurd (.inr ⟨rfl, Prod.ext same rfl⟩) (none pairs.length p.2 bound)
    · exact last
  · intro last
    refine ⟨.inr last, fun j other later found => ?_⟩
    rcases found with early | ⟨rfl, _⟩
    · have bound := (List.getElem?_eq_some_iff.mp early).1
      omega
    · exact Nat.lt_irrefl _ (last.1 ▸ later)

theorem lastOther (different : p.1 ≠ name) :
    LastAt (pairs ++ [p]) name value i ↔ LastAt pairs name value i := by
  have apart : ∀ {j : Nat} {value}, ¬ (j = pairs.length ∧ p = (name, value)) :=
    fun given => different (congrArg Prod.fst given.2)
  simp only [LastAt, concatAt, apart, or_false, ne_eq]

end

/- Of the pairs under one name the last one counts. -/
theorem getLast {pairs : List (String × String)} {name value : String} :
    (ofPairs pairs).get? name = some value ↔ ∃ i, LastAt pairs name value i := by
  induction pairs using List.reverseRecOn with
  | nil =>
    have none : (ofPairs []).get? name = none := rfl
    simp [none, LastAt]
  | append_singleton pairs p ih =>
    rw [ofPairsConcat, getInsert]
    split
    next same =>
      simp only [lastSame same, exists_and_right, exists_eq, true_and, Option.some.injEq]
      exact ⟨fun here => Prod.ext same here, fun last => congrArg Prod.snd last⟩
    next different => simp only [ih, lastOther different]

end Signpost.Http.Slugs
