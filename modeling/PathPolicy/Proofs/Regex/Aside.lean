import PathPolicy.Regex.Reading
import Mathlib.Tactic.SplitIfs

/-! Flags that an expression turns on for the whole of itself. They stand before its first part,
where only comments and, if it does not count, spacing may stand besides. -/

namespace PathPolicy.Regex

/-- What follows the first `stop` that no backslash stands before. -/
def past? (stop : Char) : List Char → Option (List Char)
  | [] => none
  | '\\' :: _ :: r => past? stop r
  | c :: r => if c = stop then some r else past? stop r

/-- Letters up to a closing parenthesis as flags, and what follows. -/
def letters? : List Char → Option (List Flag × List Char)
  | [] => none
  | c :: r =>
    match Flag.ofLetter? c with
    | some f => (letters? r).map fun x => (f :: x.1, x.2)
    | none => if c = ')' then some ([], r) else none

/-- After a parenthesis: a comment, or flags for the whole expression. With the flags comes what
follows. -/
def remark? : List Char → Option (List Flag × List Char)
  | '?' :: c :: r =>
    match Flag.ofLetter? c with
    | some f => (letters? r).map fun x => (f :: x.1, x.2)
    | none => if c = '#' then (past? ')' r).map ([], ·) else none
  | _ => none

/-- Something that is no part of the expression: a remark or, where they do not count, a space or
a line. -/
def aside? (verbose : Bool) : List Char → Option (List Flag × List Char)
  | [] => none
  | c :: r =>
    if verbose && Reading.isSpacing c then some ([], r)
    else if verbose && c = '#' then (past? '\n' r).map ([], ·)
    else if c = '(' then remark? r
    else none

theorem length_past? {stop : Char} {cs r : List Char} (h : past? stop cs = some r) :
    r.length < cs.length := by
  fun_induction past? stop cs with
  | case1 => cases h
  | case2 c rest ih =>
    have := ih h
    simp only [List.length_cons]
    omega
  | case3 =>
    cases h
    simp
  | case4 c rest hslash hc ih =>
    have := ih h
    simp only [List.length_cons]
    omega

theorem length_letters? {cs r : List Char} {on : List Flag} (h : letters? cs = some (on, r)) :
    r.length < cs.length := by
  induction cs generalizing on with
  | nil => cases h
  | cons c cs ih =>
    rw [letters?] at h
    cases hf : Flag.ofLetter? c with
    | some f =>
      simp only [hf, Option.map_eq_some_iff, Prod.mk.injEq] at h
      obtain ⟨x, hx, -, rfl⟩ := h
      exact Nat.lt_trans (ih hx) (by simp)
    | none =>
      simp only [hf, Option.ite_none_right_eq_some, Option.some.injEq, Prod.mk.injEq] at h
      simp [h.2.2]

theorem length_remark? {cs r : List Char} {on : List Flag} (h : remark? cs = some (on, r)) :
    r.length < cs.length := by
  unfold remark? at h
  split at h
  · next c rest =>
    split at h
    · simp only [Option.map_eq_some_iff, Prod.mk.injEq] at h
      obtain ⟨x, hx, -, rfl⟩ := h
      have := length_letters? hx
      simp only [List.length_cons]
      omega
    · simp only [Option.ite_none_right_eq_some, Option.map_eq_some_iff, Prod.mk.injEq] at h
      obtain ⟨-, x, hx, -, rfl⟩ := h
      have := length_past? hx
      simp only [List.length_cons]
      omega
  · cases h

theorem length_aside? {verbose : Bool} {cs r : List Char} {on : List Flag}
    (h : aside? verbose cs = some (on, r)) : r.length < cs.length := by
  cases cs with
  | nil => cases h
  | cons c cs =>
    rw [aside?] at h
    rw [List.length_cons, Nat.lt_succ_iff]
    split_ifs at h
    · cases h
      exact Nat.le_refl _
    · simp only [Option.map_eq_some_iff, Prod.mk.injEq] at h
      obtain ⟨x, hx, -, rfl⟩ := h
      exact Nat.le_of_lt (length_past? hx)
    · exact Nat.le_of_lt (length_remark? h)

/-- The flags that an expression turns on for the whole of itself. -/
def globalFlags (verbose : Bool) (cs : List Char) : List Flag :=
  match _h : aside? verbose cs with
  | none => []
  | some (on, r) => on ++ globalFlags (verbose || on.contains .verbose) r
termination_by cs.length
decreasing_by exact length_aside? ‹_›

section

variable {verbose : Bool} {cs r : List Char} {on : List Flag}

theorem globalFlags_of_none (h : aside? verbose cs = none) : globalFlags verbose cs = [] := by
  rw [globalFlags]
  split
  · rfl
  · next h' => simp [h] at h'

theorem globalFlags_of_some (h : aside? verbose cs = some (on, r)) :
    globalFlags verbose cs = on ++ globalFlags (verbose || on.contains .verbose) r := by
  rw [globalFlags]
  split
  · next h' => simp [h] at h'
  · next h' =>
    rw [h, Option.some.injEq, Prod.mk.injEq] at h'
    rw [h'.1, h'.2]

example : globalFlags false "(?#\\)i)(?xm) (?s)#u\n(?u)a(?i)".toList =
    [.verbose, .multiline, .dotAll, .unicode] := by cbv

end

end PathPolicy.Regex
