import PathPolicy.Proofs.Files.Lookup

/-! Writing a file that is there already. Every path leads where it led before, and only what is
in the one place is another content. -/

namespace PathPolicy.Files.Disk

variable {d : Disk} {place other : List String} {item : Item} {bytes content : List UInt8} {p : Path}

theorem lookup_others (items : List (List String × Item)) (place other : List String) :
    (items.filter (·.1 ≠ place)).lookup other =
      if other = place then none else items.lookup other := by
  by_cases hother : other = place
  · rw [if_pos hother, List.lookup_eq_none_iff]
    intro e he
    have hkey : e.1 ≠ place := by simpa using (List.mem_filter.1 he).2
    simpa [hother] using Ne.symm hkey
  · rw [if_neg hother]
    induction items with
    | nil => rfl
    | cons e rest ih =>
      by_cases he : e.1 = place
      · have hkey : (other == e.1) = false := beq_eq_false_iff_ne.2 (he ▸ hother)
        rw [List.filter_cons_of_neg (by simpa using he), ih, List.lookup, hkey]
      · rw [List.filter_cons_of_pos (by simpa using he), List.lookup, List.lookup, ih]

theorem lookup_put (d : Disk) (place other : List String) (item : Item) :
    (d.put place item).items.lookup other =
      if other = place then some item else d.items.lookup other := by
  unfold put
  rw [List.lookup_append, lookup_others]
  by_cases hother : other = place
  · simp [hother]
  · simp [hother, List.lookup, beq_eq_false_iff_ne.2 hother]

/-- A file is listed, as a directory need not be. -/
theorem lookup_of_file (h : d.find? place = some (.file bytes)) :
    d.items.lookup place = some (.file bytes) := by
  unfold find? at h
  split at h
  · next item hitem =>
    rw [hitem]
    exact h
  · split at h <;> cases h

theorem isAbove_put (h : d.find? place = some (.file bytes)) :
    (d.put place item).isAbove other = d.isAbove other := by
  obtain ⟨before, after, hitems, -⟩ := List.lookup_eq_some_iff.1 (lookup_of_file h)
  have hplaces (parts : List String) : parts ∈ (d.put place item).items.map (·.1) ↔
      parts ∈ d.items.map (·.1) := by
    have hplace : place ∈ d.items.map (·.1) := by simp [hitems]
    by_cases hparts : parts = place
    · subst hparts
      simpa [put] using hplace
    · simp [put, hparts]
  rw [Bool.eq_iff_iff, isAbove_iff, isAbove_iff]
  simp only [List.mem_append, hplaces]
  rfl

theorem find?_put (h : d.find? place = some (.file bytes)) :
    (d.put place item).find? other = if other = place then some item else d.find? other := by
  unfold find?
  rw [lookup_put, isAbove_put h]
  by_cases hother : other = place
  · simp [hother]
  · simp [hother]

theorem isDirectory_put (h : d.find? place = some (.file bytes)) :
    (d.put place (.file content)).isDirectory other = d.isDirectory other := by
  unfold isDirectory
  rw [find?_put h]
  by_cases hother : other = place
  · rw [if_pos hother, hother, h]
    rfl
  · rw [if_neg hother]

theorem walk_put (h : d.find? place = some (.file bytes)) (start : List String)
    (parts : List String) :
    (d.put place (.file content)).walk start parts = d.walk start parts := by
  induction parts generalizing start with
  | nil => rfl
  | cons p rest ih => simp only [walk, isDirectory_put h, isSome_find?, isAbove_put h, ih]

theorem locate_put (h : d.find? place = some (.file bytes)) :
    (d.put place (.file content)).locate p = d.locate p := by
  unfold locate
  rw [walk_put h]
  rfl

theorem contains_put (h : d.find? place = some (.file bytes)) :
    (d.put place (.file content)).contains p = d.contains p :=
  congrArg (Except.map Option.isSome) (locate_put h)

/-- What was written is what is read then. -/
theorem read_put (h : d.find? place = some (.file bytes)) (hp : d.locate p = .ok (some place)) :
    (d.put place (.file content)).read p = .ok content :=
  read_eq_ok_iff.2 ⟨place, (locate_put h).trans hp, by rw [find?_put h, if_pos rfl]⟩

end PathPolicy.Files.Disk
