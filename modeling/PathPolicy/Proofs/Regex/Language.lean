import PathPolicy.Regex.Match
import Mathlib

/-! The words that an expression stands for, and that matching by trying finds exactly
those. A matcher is judged by what it does to any continuation: if that accepts the rests of
a language, the matcher accepts the rests that begin with one of its own words. What was
passed before and what groups have captured plays no part. -/

namespace PathPolicy.Regex

open scoped Computability

variable {l k : Language Char} {m : Mode}

/-- The words of one character that is accepted. -/
def one (accepts : Nat → Bool) : Language Char := {w | ∃ c : Char, w = [c] ∧ accepts c.toNat = true}

/-- Words of `l` one after another, as many as the bounds allow. -/
def rounds (l : Language Char) (least : Nat) (most : Option Nat) : Language Char :=
  {w | ∃ n, least ≤ n ∧ (∀ top ∈ most, n ≤ top) ∧ w ∈ l ^ n}

/-- No part of the expression looks at anything but the text that it passes, and rounds can be
given back. -/
inductive Node.Regular : Node → Prop
  | empty : Regular .empty
  | char (code : Nat) : Regular (.char code)
  | notChar (code : Nat) : Regular (.notChar code)
  | any : Regular .any
  | oneOf (negated : Bool) (items : List ClassItem) : Regular (.oneOf negated items)
  | cat {a b : Node} : Regular a → Regular b → Regular (.cat a b)
  | alt {a b : Node} : Regular a → Regular b → Regular (.alt a b)
  | group {body : Node} (index : Option Nat) (scope : Scope) :
    Regular body → Regular (.group index scope body)
  | loop {body : Node} {greed : Greed} {least : Nat} {most : Option Nat} :
    greed ≠ .possessive → (∀ top ∈ most, least ≤ top) → Regular body →
      Regular (.loop greed least most body)

/-- The words of a regular expression. -/
def Node.language (m : Mode) : Node → Language Char
  | .empty => 1
  | .char code => one (charHolds m code)
  | .notChar code => one fun n => !charHolds m code n
  | .any => one fun n => m.dotAll || n != 0x0A
  | .oneOf negated items => one fun n => classHolds m items n != negated
  | .cat a b => a.language m * b.language m
  | .alt a b => a.language m + b.language m
  | .group _ scope body => body.language (scope.enter m)
  | .loop _ least most body => rounds (body.language m) least most
  | _ => 0

/-! Words of many rounds. -/

theorem mem_one {accepts : Nat → Bool} {w : List Char} :
    w ∈ one accepts ↔ ∃ c : Char, w = [c] ∧ accepts c.toNat = true := Iff.rfl

theorem mem_rounds {least : Nat} {most : Option Nat} {w : List Char} :
    w ∈ rounds l least most ↔ ∃ n, least ≤ n ∧ (∀ top ∈ most, n ≤ top) ∧ w ∈ l ^ n := Iff.rfl

/-- Empty rounds at the front can be left out. -/
theorem eq_nil_or_split_of_mem_pow {n : Nat} {w : List Char} (h : w ∈ l ^ n) :
    w = [] ∨ ∃ u v j, w = u ++ v ∧ u ∈ l ∧ u ≠ [] ∧ j < n ∧ v ∈ l ^ j := by
  induction n generalizing w with
  | zero => exact .inl (by simpa using h)
  | succ n ih =>
    rw [pow_succ', Language.mem_mul] at h
    obtain ⟨u, hu, v, hv, rfl⟩ := h
    by_cases hne : u = []
    · subst hne
      rcases ih hv with rfl | ⟨x, y, j, rfl, hx, hxne, hj, hy⟩
      · exact .inl rfl
      · exact .inr ⟨x, y, j, rfl, hx, hxne, by omega, hy⟩
    · exact .inr ⟨u, v, n, rfl, hu, hne, by omega, hv⟩

theorem rounds_zero : rounds l 0 (some 0) = 1 := by
  ext w
  simp [mem_rounds]

/-- One round, and then one less at most. -/
theorem mul_rounds_le {most : Option Nat} (h : most ≠ some 0) :
    l * rounds l 0 (Matcher.fewer most) ≤ rounds l 0 most := by
  rintro w hw
  obtain ⟨u, hu, v, ⟨n, -, hn, hv⟩, rfl⟩ := Language.mem_mul.1 hw
  refine ⟨n + 1, by omega, ?_, ?_⟩
  · rintro top rfl
    have := hn (top - 1) rfl
    have : top ≠ 0 := fun e => h (by rw [e])
    omega
  · rw [pow_succ']
    exact Language.append_mem_mul hu hv

theorem one_le_rounds {most : Option Nat} : (1 : Language Char) ≤ rounds l 0 most := by
  rintro w rfl
  exact ⟨0, le_rfl, by simp, by simp⟩

theorem rounds_eq_pow_mul {least : Nat} {most : Option Nat} (h : ∀ top ∈ most, least ≤ top) :
    rounds l least most = l ^ least * rounds l 0 (most.map (· - least)) := by
  ext w
  rw [Language.mem_mul]
  constructor
  · rintro ⟨n, hn, hmost, hw⟩
    obtain ⟨j, rfl⟩ := Nat.exists_eq_add_of_le hn
    rw [pow_add, Language.mem_mul] at hw
    obtain ⟨u, hu, v, hv, rfl⟩ := hw
    refine ⟨u, hu, v, ⟨j, by omega, ?_, hv⟩, rfl⟩
    rintro top htop
    obtain ⟨t, ht, rfl⟩ := Option.mem_map.1 htop
    have := hmost t ht
    omega
  · rintro ⟨u, hu, v, ⟨j, -, hmost, hv⟩, rfl⟩
    refine ⟨least + j, by omega, ?_, ?_⟩
    · intro top htop
      have := hmost (top - least) (Option.mem_map_of_mem _ htop)
      have := h top htop
      omega
    · rw [pow_add]
      exact Language.append_mem_mul hu hv

/-! Matchers. -/

/-- The continuation succeeds at the places where a word of the language is left. -/
def Accepts (next : Next) (l : Language Char) : Prop := ∀ s, (next s).isSome ↔ s.rest ∈ l

namespace Matcher

/-- In front of any continuation the matcher stands for the words of `l`. -/
def Denotes (body : Matcher) (l : Language Char) : Prop :=
  ∀ next k, Accepts next k → Accepts (body next) (l * k)

variable {body a b : Matcher}

theorem Denotes.one {accepts : Nat → Bool} :
    Denotes (fun next s => (s.pass? accepts).bind next) (Regex.one accepts) := by
  intro next k hk s
  rw [Language.mem_mul]
  constructor
  · intro h
    obtain ⟨before, _ | ⟨c, rest⟩, marks⟩ := s
    · simp [Spot.pass?] at h
    · by_cases hc : accepts c.toNat = true
      · simp only [Spot.pass?, hc, if_true, Option.bind_some] at h
        exact ⟨[c], ⟨c, rfl, hc⟩, rest, (hk _).1 h, rfl⟩
      · simp [Spot.pass?, hc] at h
  · rintro ⟨_, ⟨c, rfl, hc⟩, v, hv, hs⟩
    obtain ⟨before, rest, marks⟩ := s
    simp only at hs
    subst hs
    simp only [Spot.pass?, List.cons_append, List.nil_append, hc, if_true, Option.bind_some]
    exact (hk _).2 hv

theorem Denotes.orElse (ha : Denotes a l) (hb : Denotes b k) : Denotes (orElse a b) (l + k) := by
  intro next rest hrest s
  have h : (Matcher.orElse a b next s).isSome ↔ (a next s).isSome ∨ (b next s).isSome := by
    unfold Matcher.orElse
    cases a next s <;> simp
  rw [h, ha next rest hrest s, hb next rest hrest s, add_mul, Language.mem_add]

theorem Denotes.times (h : Denotes body l) (n : Nat) : Denotes (times body n) (l ^ n) := by
  induction n with
  | zero =>
    intro next k hk s
    rw [pow_zero, one_mul]
    exact hk s
  | succ n ih =>
    intro next k hk
    rw [pow_succ', mul_assoc]
    exact h _ _ (ih next k hk)

/-- What may be left after a round that began with `size` characters left. A round that used
up no text is the last. -/
def afterRound (l k : Language Char) (most : Option Nat) (size : Nat) : Language Char :=
  {v | if v.length < size then v ∈ rounds l 0 (fewer most) * k else v ∈ k}

theorem mem_afterRound {most : Option Nat} {size : Nat} {v : List Char} :
    v ∈ afterRound l k most size ↔
      if v.length < size then v ∈ rounds l 0 (fewer most) * k else v ∈ k := Iff.rfl

/-- Nothing is lost if an empty round is the last. -/
theorem mem_mul_afterRound {most : Option Nat} (hmost : most ≠ some 0) {w : List Char} :
    w ∈ l * afterRound l k most w.length ∨ w ∈ k ↔ w ∈ rounds l 0 most * k := by
  constructor
  · rintro (h | h)
    · obtain ⟨u, hu, v, hv, rfl⟩ := Language.mem_mul.1 h
      rw [mem_afterRound] at hv
      split at hv
      · obtain ⟨x, hx, y, hy, rfl⟩ := Language.mem_mul.1 hv
        rw [← List.append_assoc]
        exact Language.append_mem_mul (mul_rounds_le hmost (Language.append_mem_mul hu hx)) hy
      · have hround : u ++ [] ∈ l * rounds l 0 (fewer most) :=
          Language.append_mem_mul hu (one_le_rounds Language.nil_mem_one)
        rw [List.append_nil] at hround
        exact Language.append_mem_mul (mul_rounds_le hmost hround) hv
    · exact Language.append_mem_mul (one_le_rounds Language.nil_mem_one) h
  · intro h
    obtain ⟨x, ⟨n, -, hn, hx⟩, y, hy, rfl⟩ := Language.mem_mul.1 h
    rcases eq_nil_or_split_of_mem_pow hx with rfl | ⟨u, v, j, rfl, hu, hne, hj, hv⟩
    · exact .inr hy
    · have hpos := List.length_pos_iff.2 hne
      refine .inl ?_
      rw [List.append_assoc]
      refine Language.append_mem_mul hu ?_
      rw [mem_afterRound, if_pos (by simp only [List.length_append]; omega)]
      refine Language.append_mem_mul ⟨j, by omega, ?_, hv⟩ hy
      intro top htop
      obtain ⟨t, ht, rfl⟩ := Option.mem_map.1 htop
      have := hn t ht
      omega

/-- The continuation of a round, if more rounds do what they should at all places with less
text left. -/
theorem accepts_afterRound {next : Next} (hk : Accepts next k) {more : Next} {most : Option Nat}
    {size : Nat}
    (h : ∀ t : Spot, t.rest.length < size →
      ((more t).isSome ↔ t.rest ∈ rounds l 0 (fewer most) * k)) :
    Accepts (fun t => if _h : t.rest.length < size then more t else next t)
      (afterRound l k most size) := by
  intro t
  rw [mem_afterRound]
  by_cases ht : t.rest.length < size
  · simpa only [dif_pos ht, if_pos ht] using h t ht
  · simpa only [dif_neg ht, if_neg ht] using hk t

theorem Denotes.greedy (h : Denotes body l) (most : Option Nat) :
    Denotes (fun next => greedy body next most) (rounds l 0 most) := by
  intro next k hk s
  induction hn : s.rest.length using Nat.strong_induction_on generalizing s most with
  | _ n ih =>
    subst hn
    show (Matcher.greedy body next most s).isSome ↔ _
    rw [Matcher.greedy]
    by_cases hmost : most = some 0
    · rw [if_pos hmost, hmost, rounds_zero, one_mul]
      exact hk s
    · have hround := h _ _ (accepts_afterRound hk (fun t ht => ih _ ht (fewer most) t rfl)) s
      rw [if_neg hmost, ← mem_mul_afterRound hmost, ← hround, ← hk s]
      split <;> simp_all

theorem Denotes.lazy (h : Denotes body l) (most : Option Nat) :
    Denotes (fun next => lazy body next most) (rounds l 0 most) := by
  intro next k hk s
  induction hn : s.rest.length using Nat.strong_induction_on generalizing s most with
  | _ n ih =>
    subst hn
    show (Matcher.lazy body next most s).isSome ↔ _
    rw [Matcher.lazy]
    by_cases hmost : most = some 0
    · rw [if_pos hmost, hmost, rounds_zero, one_mul, ← hk s]
      split <;> simp_all
    · have hround := h _ _ (accepts_afterRound hk (fun t ht => ih _ ht (fewer most) t rfl)) s
      rw [if_neg hmost, ← mem_mul_afterRound hmost, ← hround, ← hk s]
      split <;> simp_all

theorem Denotes.loop {greed : Greed} {least : Nat} {most : Option Nat} (h : Denotes body l)
    (hg : greed ≠ .possessive) (hb : ∀ top ∈ most, least ≤ top) :
    Denotes (loop greed least most body) (rounds l least most) := by
  intro next k hk
  rw [rounds_eq_pow_mul hb, mul_assoc]
  cases greed with
  | greedy => exact h.times least _ _ (h.greedy _ next k hk)
  | lazy => exact h.times least _ _ (h.lazy _ next k hk)
  | possessive => exact absurd rfl hg

end Matcher

/-- Marks of groups change no place's text. -/
theorem Accepts.finish? {next : Next} (h : Accepts next k) (group : Option Nat) :
    Accepts (fun t => next (t.finish? group)) k := by
  intro t
  rw [h]
  cases group <;> rfl

theorem Node.Regular.denotes {n : Node} (h : n.Regular) :
    Matcher.Denotes (n.run m) (n.language m) := by
  induction h generalizing m with
  | empty =>
    intro next k hk
    rw [Node.language, one_mul]
    exact hk
  | char code => exact .one
  | notChar code => exact .one
  | any => exact .one
  | oneOf negated items => exact .one
  | cat _ _ iha ihb =>
    intro next k hk
    rw [Node.language, mul_assoc]
    exact iha _ _ (ihb next k hk)
  | alt _ _ iha ihb => exact iha.orElse ihb
  | group index scope _ ih =>
    intro next k hk s
    have := ih (m := scope.enter m) _ _ (hk.finish? index) (s.begin? index)
    cases index <;> exact this
  | loop hg hb _ ih => exact ih.loop hg hb

/-- A text is matched as a whole if and only if it is a word of the expression. -/
theorem Node.Regular.matchesAll_iff {n : Node} (h : n.Regular) (text : List Char) :
    n.matchesAll m text = true ↔ text ∈ n.language m := by
  have hend : Accepts (fun s => if s.rest.isEmpty then some s else none) 1 := by
    intro s
    rw [Language.mem_one, ← List.isEmpty_iff]
    show (if s.rest.isEmpty then some s else none).isSome ↔ _
    split <;> simp_all
  rw [Node.matchesAll, h.denotes _ _ hend, mul_one]

end PathPolicy.Regex
