import PathPolicy.Proofs.Files.Lookup

/-! Paths below what is no directory lead nowhere. A path that is asked for on the disk as it stands
and one that is resolved first need not lead to the same place. -/

namespace PathPolicy.Files

namespace Path

variable {p q : Path} {cs : List Char} {c : Char}

theorem exists_mem_splitOn (hc : c ∈ cs) (hslash : c ≠ '/') : ∃ piece ∈ cs.splitOn '/', c ∈ piece := by
  have hor {α : Type} {a s : α} {as : List α} (h : a ∈ as.intersperse s) : a = s ∨ a ∈ as := by
    fun_induction List.intersperse s as with
    | case1 => cases h
    | case2 => exact .inr h
    | case3 => grind
  have hjoin : ['/'].intercalate (cs.splitOn '/') = cs := List.intercalate_splitOn '/'
  rw [← hjoin, List.intercalate, List.mem_flatten] at hc
  obtain ⟨piece, hpiece, hmem⟩ := hc
  rcases hor hpiece with rfl | hpiece
  · exact (hslash (List.mem_singleton.1 hmem)).elim
  · exact ⟨piece, hpiece, hmem⟩

/-- A character that is neither a slash nor a dot is in some part. -/
theorem partsOf_ne_nil (hc : c ∈ cs) (hslash : c ≠ '/') (hdot : c ≠ '.') : partsOf cs ≠ [] := by
  obtain ⟨piece, hpiece, hmem⟩ := exists_mem_splitOn hc hslash
  have hkept : piece ∈ (cs.splitOn '/').filter fun p => !p.isEmpty && p ≠ ['.'] := by
    refine List.mem_filter.2 ⟨hpiece, ?_⟩
    have hne : piece ≠ [] := List.ne_nil_of_mem hmem
    have hne' : piece ≠ ['.'] := fun h => hdot (by simpa [h] using hmem)
    simp [hne, hne']
  exact List.ne_nil_of_mem (List.mem_map_of_mem hkept)

theorem isAbsolute_ofText (s : String) : (ofText s).isAbsolute = (s.toList.head? == some '/') := by
  unfold isAbsolute ofText rootOf
  cases s.toList with
  | nil => rfl
  | cons c cs =>
    by_cases hc : c = '/'
    · subst hc
      rw [List.takeWhile_cons_of_pos (by simp), List.length_cons]
      rcases (cs.takeWhile (· = '/')).length with _ | _ | n <;> rfl
    · rw [List.takeWhile_cons_of_neg (by simpa using hc), List.head?_cons, Option.some_beq_some,
        beq_eq_false_iff_ne.2 hc]
      rfl

/-- What stands after a text does not change where it begins. -/
theorem absolute_append {name : String} (h : (ofText name).isAbsolute = true) (after : String) :
    (ofText (name ++ after)).isAbsolute = true := by
  rw [isAbsolute_ofText, beq_iff_eq] at h ⊢
  rw [String.toList_append, List.head?_append, h]
  rfl

theorem relative_append {name after : String} (h : (ofText name).isAbsolute = false)
    (hafter : after.toList.head? ≠ some '/') : (ofText (name ++ after)).isAbsolute = false := by
  rw [isAbsolute_ofText, beq_eq_false_iff_ne] at h ⊢
  rw [String.toList_append, List.head?_append]
  cases hname : name.toList with
  | nil => simpa using hafter
  | cons c cs => simpa [hname] using h

theorem join_of_absolute (h : q.isAbsolute = true) : p.join q = q := if_pos h

theorem join_of_relative (h : q.isAbsolute = false) : p.join q = { p with parts := p.parts ++ q.parts } :=
  if_neg (by simp [h])

end Path

namespace Disk

variable {d : Disk} {p q : Path}

theorem nul_of_expandHome (hexpand : d.expandHome p = .ok q) (h : p.hasNul = true) :
    q.hasNul = true := by
  unfold expandHome at hexpand
  split at hexpand
  · next first rest _ hparts =>
    split at hexpand
    · next hfirst =>
      cases hexpand
      subst hfirst
      rw [Path.hasNul, hparts, List.any_cons] at h
      have hrest : rest.any (·.toList.contains '\x00') = true := by simpa using h
      rw [Path.hasNul, Path.join_of_relative rfl, List.any_append, hrest, Bool.or_true]
    · split at hexpand
      · cases hexpand
      · cases hexpand
        exact h
  · cases hexpand
    exact h

/-- The place that a path begins at. -/
def start (d : Disk) (p : Path) : List String := if p.isAbsolute then [] else d.work

/-- Leads up nowhere, and is short enough to be looked up from the root as well. -/
structure Plain (d : Disk) (p : Path) : Prop where
  nul : p.hasNul = false
  dots : ".." ∉ p.parts
  reached : d.walk [] (d.start p) = .ok (d.start p)
  short : ¬longestPath < (Path.text ⟨"/", d.start p ++ p.parts⟩).utf8ByteSize

theorem collapse_of_no_dots {done parts : List String} (h : ".." ∉ parts) :
    Path.collapse done parts = done ++ parts := by
  induction parts generalizing done with
  | nil => simp [Path.collapse]
  | cons part rest ih =>
    rw [List.mem_cons, not_or] at h
    rw [Path.collapse, if_neg (Ne.symm h.1), ih h.2, List.append_assoc]
    rfl

/-- A plain path that is no directory is none after it is resolved. -/
theorem isDirectoryAt_resolve (h : Plain d p) (hp : d.isDirectoryAt p = .ok false) :
    ∃ q, d.resolve p = .ok q ∧ d.isDirectoryAt q = .ok false := by
  refine ⟨⟨"/", d.start p ++ p.parts⟩, ?_, ?_⟩
  · rw [resolve, h.nul, collapse_of_no_dots h.dots]
    rfl
  · have hwalk : d.walk [] (d.start p ++ p.parts) = d.walk (d.start p) p.parts := by
      rw [walk_append, h.reached]
      rfl
    obtain ⟨-, hp⟩ := (isDirectoryAt_eq_false_iff.1 hp).resolve_left (by simp [h.nul])
    refine isDirectoryAt_eq_false_iff.2 (.inr ⟨h.short, ?_⟩)
    show d.walk [] _ = _ ∨ ∃ place, d.walk [] _ = _ ∧ _
    rw [hwalk]
    exact hp

/-- What is there has a resolved path. -/
theorem resolve_of_locate {place : List String} (h : d.locate p = .ok (some place)) :
    d.resolve p = .ok ⟨"/", Path.collapse (if p.isAbsolute then [] else d.work) p.parts⟩ := by
  rw [resolve, (locate_eq_some_iff.1 h).1]
  rfl

end Disk

end PathPolicy.Files
