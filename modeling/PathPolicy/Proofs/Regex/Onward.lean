import PathPolicy.Proofs.Regex.Repeat
import PathPolicy.Proofs.Regex.Flags
import PathPolicy.Regex.Reading
import Mathlib

/-! Where readers go. Every reader goes forward in the text and turns on no flag that is not
allowed in a text, and those that read no count of a repeat fail for nothing but malformed text. -/

set_option mvcgen.warning false

namespace PathPolicy.Regex

open Std.Do

variable {text : List Char} {w : Flags}

/-- All that is left, the token that comes next included. -/
def ReadState.left (s : ReadState) : List Char := (s.next.elim [] Token.chars) ++ s.rest

/-- The digits are a count in the braces of a repeat in the text. -/
def Counted (text ds : List Char) : Prop :=
  ∃ q : Quantifier, q.Written ∧ q.text <:+: text ∧ ds ∈ q.counts

/-- The text asks for too much: a count is too long or too large. -/
inductive Excess (text : List Char) : Fault → Prop
  | digits {ds : List Char} : Counted text ds → Number.longestInteger < ds.length →
    Excess text (.integerTooLong ds.length)
  | value {ds : List Char} : Counted text ds →
    Reading.repeatLimit ≤ Reading.digitsValue 10 ds → Excess text .repeatTooLarge

/-- A fault that the text alone accounts for. -/
inductive Fault.OfText (text : List Char) : Fault → Prop
  | malformed (reason : Malformed) : OfText text (.malformed reason)
  | excess {f : Fault} : Excess text f → OfText text f

theorem Fault.OfText.mono {r : List Char} {f : Fault} (h : f.OfText r) (hr : r <:+ text) :
    f.OfText text := by
  have hcounted {ds : List Char} : Counted r ds → Counted text ds :=
    fun ⟨q, hq, hinfix, hds⟩ => ⟨q, hq, hinfix.trans hr.isInfix, hds⟩
  cases h with
  | malformed reason => exact .malformed reason
  | excess hexcess =>
    refine .excess ?_
    cases hexcess with
    | digits hds hlong => exact .digits (hcounted hds) hlong
    | value hds hlarge => exact .value (hcounted hds) hlarge

/-- The reader is in the text, and has not turned on the flag that no text can turn on. -/
structure ReadState.Within (s : ReadState) (text : List Char) (w : Flags) : Prop where
  suffix : s.left <:+ text
  locale : s.flags.has .locale = true → w.has .locale = true

namespace Reading

variable {α : Type}

/-- The reader stays in the text, and fails there for no other reason. -/
abbrev Keeps (text : List Char) (w : Flags) {α : Type} (m : Reading α) : Prop :=
  ⦃fun s => ⌜s.Within text w⌝⦄ m
  ⦃post⟨fun _ s => ⌜s.Within text w⌝, fun e => ⌜e.OfText text⌝⟩⦄

theorem triple_iff {m : Reading α} {P : ReadState → Prop} {Q : α → ReadState → Prop}
    {E : Fault → Prop} :
    (⦃fun s => ⌜P s⌝⦄ m ⦃post⟨fun a s => ⌜Q a s⌝, fun e => ⌜E e⌝⟩⦄) ↔
      ∀ s, P s → (∀ a t, m s = .ok (a, t) → Q a t) ∧ ∀ e, m s = .error e → E e := by
  constructor
  · intro h s hs
    have hpost : ⦃⌜True⌝⦄ (m s : Except Fault (α × ReadState))
        ⦃post⟨fun x => ⌜Q x.1 x.2⌝, fun e => ⌜E e⌝⟩⦄ := fun _ => h s hs
    constructor
    · intro a t ht
      rw [ht] at hpost
      exact hpost trivial
    · intro e he
      rw [he] at hpost
      exact hpost trivial
  · intro h s hs
    obtain ⟨hok, herror⟩ := h s hs
    have hpost : ⦃⌜True⌝⦄ (m s : Except Fault (α × ReadState))
        ⦃post⟨fun x => ⌜Q x.1 x.2⌝, fun e => ⌜E e⌝⟩⦄ := by
      cases hm : m s with
      | ok x => exact fun _ => hok x.1 x.2 hm
      | error e => exact fun _ => herror e hm
    exact hpost trivial

@[spec]
theorem fail_spec {α : Type} (reason : Malformed)
    (Q : α → Assertion (.arg ReadState (.except Fault .pure))) :
    ⦃fun _ => ⌜True⌝⦄ (fail reason : Reading α) ⦃post⟨Q, fun e => ⌜e.OfText text⌝⟩⦄ := by
  intro s _
  exact .malformed reason

theorem left_at (s : ReadState) (cs : List Char) : (s.at cs).left = cs := by
  unfold ReadState.at ReadState.left tokenAt afterToken
  split <;> simp_all [Token.chars]

theorem suffix_rest (s : ReadState) : s.rest <:+ s.left := List.suffix_append _ _

theorem within_at {s : ReadState} (h : s.Within text w) : (s.at s.rest).Within text w :=
  ⟨by rw [left_at]; exact (suffix_rest s).trans h.suffix, h.locale⟩

theorem advance_cases (s : ReadState) :
    advance s = .ok ((), s.at s.rest) ∨ advance s = .error (.malformed .escapeAtEnd) := by
  cases h : advance s with
  | ok x =>
    obtain ⟨⟨⟩, t⟩ := x
    rw [at_of_advance h]
    exact .inl rfl
  | error e =>
    rw [advance, bind_ok get_ok] at h
    generalize s.rest = r at h
    split at h <;> cases h
    exact .inr rfl

@[spec]
theorem advance_spec : Keeps text w advance := by
  rw [Keeps, triple_iff]
  intro s hs
  rcases advance_cases s with h | h <;> rw [h]
  · refine ⟨fun _ t ht => ?_, fun e he => ?_⟩ <;> cases ‹Except.ok _ = _›
    exact within_at hs
  · refine ⟨fun _ t ht => ?_, fun e he => ?_⟩ <;> cases ‹Except.error _ = _›
    exact .malformed _

@[spec]
theorem peek_spec : Keeps text w peek := by
  unfold peek
  mvcgen

@[spec]
theorem take_spec : Keeps text w take := by
  unfold take
  mvcgen

@[spec]
theorem accept_spec (c : Char) : Keeps text w (accept c) := by
  unfold accept
  mvcgen

@[spec]
theorem takeWhile_spec (kind : Char → Bool) (n : Nat) : Keeps text w (takeWhile kind n) := by
  induction n with
  | zero =>
    unfold takeWhile
    mvcgen
  | succ n ih =>
    unfold takeWhile
    mvcgen [ih]

@[spec]
theorem takeUntil_spec (stop : Char) (reason : Malformed) (fuel : Nat) :
    Keeps text w (takeUntil stop reason fuel) := by
  induction fuel with
  | zero =>
    unfold takeUntil
    mvcgen
  | succ fuel ih =>
    unfold takeUntil
    mvcgen [ih]

@[spec]
theorem takeName_spec (stop : Char) (reason : Malformed) :
    Keeps text w (takeName stop reason) := by
  unfold takeName
  mvcgen

@[spec]
theorem openGroup_spec (name : Option (List Char)) : Keeps text w (openGroup name) := by
  unfold openGroup
  mvcgen
  · next h _ _ _ _ _ => exact ⟨h.suffix, h.locale⟩
  · next h _ _ _ _ _ _ _ _ _ => exact ⟨h.suffix, h.locale⟩

@[spec]
theorem closeGroup_spec (index : Nat) (body : Node) : Keeps text w (closeGroup index body) := by
  unfold closeGroup
  mvcgen
  next h _ => exact ⟨h.suffix, h.locale⟩

@[spec]
theorem checkLookbehind_spec (group : Nat) : Keeps text w (checkLookbehind group) := by
  unfold checkLookbehind
  mvcgen

@[spec]
theorem reference_spec (group : Nat) : Keeps text w (reference group) := by
  unfold reference
  mvcgen

/-! Escapes and classes. -/

@[spec]
theorem hexCode_spec (count : Nat) : Keeps text w (hexCode count) := by
  unfold hexCode
  mvcgen

@[spec]
theorem numberEscape_spec (c : Char) : Keeps text w (numberEscape c) := by
  unfold numberEscape
  mvcgen

@[spec]
theorem range_spec (lo hi : ClassItem) : Keeps text w (range lo hi) := by
  unfold range
  mvcgen

section

variable [CharacterNames]

@[spec]
theorem namedCode_spec : Keeps text w namedCode := by
  unfold namedCode
  mvcgen

@[spec]
theorem plainEscape_spec (c : Char) : Keeps text w (plainEscape c) := by
  unfold plainEscape
  mvcgen

@[spec]
theorem classEscape_spec (c : Char) : Keeps text w (classEscape c) := by
  unfold classEscape
  mvcgen

@[spec]
theorem escape_spec (c : Char) : Keeps text w (escape c) := by
  unfold escape
  mvcgen

@[spec]
theorem classItem_spec (token : Token) : Keeps text w (classItem token) := by
  unfold classItem
  mvcgen

@[spec]
theorem classItems_spec (items : List ClassItem) (fuel : Nat) :
    Keeps text w (classItems items fuel) := by
  induction fuel generalizing items with
  | zero =>
    unfold classItems
    mvcgen
  | succ fuel ih =>
    unfold classItems
    mvcgen [ih]

@[spec]
theorem characterClass_spec : Keeps text w characterClass := by
  unfold characterClass
  mvcgen

end

/-! Groups. -/

@[spec]
theorem greed_spec : Keeps text w greed := by
  unfold greed
  mvcgen

@[spec]
theorem repeated_spec (p : Piece) : Keeps text w p.repeated := by
  unfold Piece.repeated
  mvcgen

@[spec]
theorem flagOf_spec (token : Option Token) : Keeps text w (flagOf token) := by
  unfold flagOf
  mvcgen

@[spec]
theorem flagsOff_spec (off : List Flag) (flag : Flag) (fuel : Nat) :
    Keeps text w (flagsOff off flag fuel) := by
  induction fuel generalizing off flag with
  | zero =>
    unfold flagsOff
    mvcgen
  | succ fuel ih =>
    unfold flagsOff
    mvcgen [ih]

@[spec]
theorem groupName_spec (stop : Char) : Keeps text w (groupName stop) := by
  unfold groupName
  mvcgen

@[spec]
theorem namedGroup_spec (name : List Char) : Keeps text w (namedGroup name) := by
  unfold namedGroup
  mvcgen

@[spec]
theorem conditionGroup_spec : Keeps text w conditionGroup := by
  unfold conditionGroup
  mvcgen
  next h _ => exact ⟨h.suffix, h.locale⟩

@[spec]
theorem flagsOn_spec (on : List Flag) (flag : Flag) (fuel : Nat) :
    Keeps text w (flagsOn on flag fuel) := by
  induction fuel generalizing on flag with
  | zero =>
    unfold flagsOn
    mvcgen
  | succ fuel ih =>
    unfold flagsOn
    mvcgen [ih]

theorem flags_keeps (first : Char) : Keeps text w (flags first) := by
  unfold flags
  mvcgen

theorem Gives.bind_of {β : Type} {P : α → Prop} {Q : β → Prop} {m : Reading α}
    {f : α → Reading β} (hm : Gives P m) (hf : ∀ a, P a → Gives Q (f a)) :
    Gives Q (m >>= f) := by
  intro s b t hb
  obtain ⟨a, u, ha, hb⟩ := exists_of_bind_eq_ok hb
  exact hf a (hm s a u ha) u b t hb

theorem gives_flagsOn {on : List Flag} (hon : .locale ∉ on) (flag : Flag) (fuel : Nat) :
    Gives (fun x => .locale ∉ x.1) (flagsOn on flag fuel) := by
  induction fuel generalizing on flag with
  | zero => exact .fail _
  | succ fuel ih =>
    intro s x t h
    rw [flagsOn] at h
    obtain ⟨hflag, h⟩ := of_check h
    obtain ⟨-, h⟩ := of_check h
    obtain ⟨token, u, -, h⟩ := exists_of_bind_eq_ok h
    have hmore : .locale ∉ on ++ [flag] := fun hmem => (List.mem_append.1 hmem).elim hon
      fun h => hflag (beq_iff_eq.2 (List.mem_singleton.1 h).symm)
    split at h
    · cases h
      exact hmore
    · cases h
      exact hmore
    · cases h
      exact hmore
    · obtain ⟨next, v, -, h⟩ := exists_of_bind_eq_ok h
      exact ih hmore next v x t h

/-- No text turns the flag for the locale on. -/
theorem gives_flags (first : Char) :
    Gives (fun found => ∀ on, found = .inl on → .locale ∉ on) (flags first) := by
  unfold flags
  refine .bind fun s => ?_
  dsimp only
  split
  case' h_1 f hf =>
    have hon : Gives (fun x => .locale ∉ x.1) (flagsOn [] f (s.rest.length + 2)) :=
      gives_flagsOn (by simp) f _
  case' h_2 hf =>
    have hon : Gives (fun x => .locale ∉ x.1) (pure ([], '-') : Reading (List Flag × Char)) :=
      .pure (by simp)
  all_goals
    refine hon.bind_of fun x hx => .ite (.pure ?_) (.check (.ite (.pure (by simp)) ?_))
    · rintro on ⟨⟩
      exact hx
    · exact .bind fun _ => .bind fun _ => .bind fun _ => .check (.pure (by simp))

@[spec]
theorem flags_spec (first : Char) :
    ⦃fun s => ⌜s.Within text w⌝⦄ flags first
    ⦃post⟨fun found s => ⌜s.Within text w ∧ ∀ on, found = .inl on → .locale ∉ on⌝,
      fun e => ⌜e.OfText text⌝⟩⦄ := by
  rw [triple_iff]
  intro s hs
  obtain ⟨hok, herror⟩ := triple_iff.1 (flags_keeps first) s hs
  exact ⟨fun found t ht => ⟨hok found t ht, gives_flags first s found t ht⟩, herror⟩

@[spec]
theorem skipComment_spec (fuel : Nat) : Keeps text w (skipComment fuel) := by
  induction fuel with
  | zero =>
    unfold skipComment
    mvcgen
  | succ fuel ih =>
    unfold skipComment
    mvcgen [ih]

@[spec]
theorem namedHeading_spec : Keeps text w namedHeading := by
  unfold namedHeading
  mvcgen

@[spec]
theorem lookHeading_spec (c : Char) : Keeps text w (lookHeading c) := by
  unfold lookHeading
  mvcgen

@[spec]
theorem heading_spec (isStart : Bool) : Keeps text w (heading isStart) := by
  unfold heading
  mvcgen
  · next h => exact h.1
  · next h _ =>
    obtain ⟨hs, hon⟩ := h
    refine ⟨hs.suffix, fun hlocale => ?_⟩
    rcases Flags.has_addAll.1 hlocale with hlocale | hlocale
    · exact hs.locale hlocale
    · exact absurd hlocale (hon _ rfl)

@[spec]
theorem expectClose_spec : Keeps text w expectClose := by
  unfold expectClose
  mvcgen

@[spec]
theorem skipLine_spec (fuel : Nat) : Keeps text w (skipLine fuel) := by
  induction fuel with
  | zero =>
    unfold skipLine
    mvcgen
  | succ fuel ih =>
    unfold skipLine
    mvcgen [ih]

end Reading

end PathPolicy.Regex
