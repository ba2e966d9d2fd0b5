import Banter.Path

namespace Banter.Path

/-- Whether a path goes on from another one after a slash. -/
def GoesOn (front path : String) : Prop :=
  ∃ back, path = front ++ "/" ++ back

theorem GoesOn.trans {a b c : String} (hab : GoesOn a b) (hbc : GoesOn b c) : GoesOn a c := by
  obtain ⟨back, rfl⟩ := hab
  obtain ⟨back', rfl⟩ := hbc
  exact ⟨back ++ "/" ++ back', by simp only [String.append_assoc]⟩

theorem cut_cons (c : Char) (cs : List Char) :
    cut (c :: cs) = if c = '/' then ([], (cut cs).1 :: (cut cs).2) else (c :: (cut cs).1, (cut cs).2) := rfl

theorem intercalate_cut (cs : List Char) : ['/'].intercalate ((cut cs).1 :: (cut cs).2) = cs := by
  induction cs with
  | nil => rfl
  | cons c cs ih =>
    rw [cut_cons]
    split
    next hslash =>
      rw [List.intercalate_cons_cons, ih, hslash]
      rfl
    next => rw [List.intercalate_cons_cons_left, ih]

theorem intercalate_steps (path : String) : "/".intercalate (steps path) = path := by
  apply String.toList_inj.mp
  rw [String.toList_intercalate, steps, firstStep, furtherSteps, List.map_cons, List.map_map]
  simpa [Function.comp_def] using intercalate_cut path.toList

theorem ofWay_steps (path : String) : ofWay (steps path).reverse = path := by
  rw [ofWay, List.reverse_reverse, intercalate_steps]

theorem suffix_of_mem_waysOutward {steps way : List String} (h : way ∈ waysOutward steps) :
    way <:+ steps ∧ way ≠ [] := by
  fun_induction waysOutward steps with
  | case1 => exact absurd h List.not_mem_nil
  | case2 => exact absurd h List.not_mem_nil
  | case3 first =>
    rw [List.mem_singleton.mp h]
    exact ⟨List.suffix_refl _, List.cons_ne_nil _ _⟩
  | case4 step outer _ _ ih =>
    obtain ⟨hsuffix, hsome⟩ := ih h
    exact ⟨hsuffix.trans (List.suffix_cons step outer), hsome⟩
  | case5 step outer _ _ ih =>
    rcases List.mem_cons.mp h with rfl | hmem
    · exact ⟨List.suffix_refl _, List.cons_ne_nil _ _⟩
    · obtain ⟨hsuffix, hsome⟩ := ih hmem
      exact ⟨hsuffix.trans (List.suffix_cons step outer), hsome⟩

/-- The ways outward after the first are shorter than what they begin with. -/
theorem suffix_of_mem_tail_waysOutward {steps way : List String} (h : way ∈ (waysOutward steps).tail) :
    way <:+ steps.tail ∧ way ≠ [] := by
  fun_induction waysOutward steps with
  | case1 => exact absurd h List.not_mem_nil
  | case2 => exact absurd h List.not_mem_nil
  | case3 => exact absurd h List.not_mem_nil
  | case4 step outer _ _ ih =>
    obtain ⟨hsuffix, hsome⟩ := ih h
    exact ⟨hsuffix.trans (List.tail_suffix outer), hsome⟩
  | case5 step outer _ _ _ => exact suffix_of_mem_waysOutward h

theorem goesOn_of_mem_tail_ways {path : String} {way : List String} (h : way ∈ (ways path).tail) :
    GoesOn (ofWay way) path := by
  obtain ⟨⟨more, hmore⟩, hsome⟩ := suffix_of_mem_tail_waysOutward h
  cases hsteps : (steps path).reverse with
  | nil =>
    rw [hsteps] at hmore
    exact absurd (List.append_eq_nil_iff.mp hmore).2 hsome
  | cons last outer =>
    rw [hsteps, List.tail_cons] at hmore
    have hsplit : steps path = way.reverse ++ (last :: more).reverse := by
      rw [← List.reverse_append, List.cons_append, hmore, ← hsteps, List.reverse_reverse]
    refine ⟨ofWay (last :: more), ?_⟩
    rw [← intercalate_steps path, hsplit, String.intercalate_append_of_ne_nil (by simpa using hsome) (by simp),
      ofWay, ofWay]

theorem folder_cases (path : String) :
    folder path = "." ∨ folder path = "/" ∨ GoesOn (folder path) path := by
  unfold folder
  split
  next => exact Or.inl rfl
  next =>
    split
    next => exact Or.inr (Or.inl rfl)
    next => exact Or.inl rfl
  next way _ hways => exact Or.inr (Or.inr (goesOn_of_mem_tail_ways (by simp [hways])))

end Banter.Path
