import PathPolicy.Proofs.Regex.Repeat
import PathPolicy.Regex.Reading

/-! What the reader does not look at. Flags are written only at the start of an expression, and
of the flags so far nothing is read but whether spaces count, and that only between parts; so a
reader that is past the start does the same under other flags and hands them on as they came. -/

namespace PathPolicy.Regex

def ReadState.withFlags (s : ReadState) (w : Flags) : ReadState := { s with flags := w }

namespace Reading

variable {α β : Type} {seen : Flags → Bool}

/-- Under other flags, if they look the same, the reader does the same. -/
def Indifferent (seen : Flags → Bool) (m : Reading α) : Prop :=
  ∀ (s : ReadState) (w : Flags), seen w = seen s.flags →
    m (s.withFlags w) = (m s).map fun x => (x.1, x.2.withFlags w)

namespace Indifferent

variable {m : Reading α} {f : α → Reading β} {s t : ReadState} {a : α}

theorem flags (h : Indifferent seen m) (hm : m s = .ok (a, t)) : t.flags = s.flags := by
  have hsame := h s s.flags rfl
  rw [show s.withFlags s.flags = s from rfl, hm] at hsame
  exact congrArg (fun x : α × ReadState => x.2.flags) (Except.ok.inj hsame)

theorem seen_eq (h : Indifferent seen m) {w : Flags} (hw : seen w = seen s.flags)
    (hm : m s = .ok (a, t)) : seen w = seen t.flags := by
  rw [h.flags hm, hw]

theorem ok (h : Indifferent seen m) {w : Flags} (hw : seen w = seen s.flags)
    (hm : m s = .ok (a, t)) : m (s.withFlags w) = .ok (a, t.withFlags w) := by
  rw [h s w hw, hm]
  rfl

theorem ok_at (h : Indifferent seen m) {w : Flags} {cs : List Char}
    (hw : seen w = seen s.flags) (hm : m (s.at cs) = .ok (a, t)) :
    m ((s.withFlags w).at cs) = .ok (a, t.withFlags w) := by
  refine h.ok ?_ hm
  exact hw

/-- A reader that looks at no flag does the same under any. -/
theorem ok_of_blind (h : Indifferent (fun _ => true) m) (hm : m s = .ok (a, t)) (w : Flags) :
    m (s.withFlags w) = .ok (a, t.withFlags w) := h.ok rfl hm

theorem pure (a : α) : Indifferent seen (Pure.pure a : Reading α) := fun _ _ _ => rfl

theorem throw (e : Fault) : Indifferent seen (throw e : Reading α) := fun _ _ _ => rfl

theorem fail (reason : Malformed) : Indifferent seen (fail reason : Reading α) := fun _ _ _ => rfl

theorem fail_bind (reason : Malformed) (f : α → Reading β) :
    Indifferent seen (Reading.fail reason >>= f) := fun _ _ _ => rfl

/-- What follows may be two readers, as long as they do the same here. -/
theorem bind_at {f' : α → Reading β} (hm : Indifferent seen m) {w : Flags}
    (hw : seen w = seen s.flags)
    (h : ∀ a t, m s = .ok (a, t) →
      f' a (t.withFlags w) = (f a t).map fun x => (x.1, x.2.withFlags w)) :
    (m >>= f') (s.withFlags w) = ((m >>= f) s).map fun x => (x.1, x.2.withFlags w) := by
  show (m (s.withFlags w) >>= fun x => f' x.1 x.2) = (m s >>= fun x => f x.1 x.2).map _
  rw [hm s w hw]
  cases hs : m s with
  | error e => rfl
  | ok x => exact h x.1 x.2 hs

theorem bind_of (hm : Indifferent seen m)
    (hf : ∀ s a t, m s = .ok (a, t) → Indifferent seen (f a)) : Indifferent seen (m >>= f) :=
  fun s w hw => hm.bind_at hw fun a t ht => hf s a t ht t w (hm.seen_eq hw ht)

theorem bind (hm : Indifferent seen m) (hf : ∀ a, Indifferent seen (f a)) :
    Indifferent seen (m >>= f) :=
  hm.bind_of fun _ a _ _ => hf a

/-- What is read of the state may be anything but the flags. -/
theorem get_bind {f : ReadState → Reading β} (hf : ∀ s, Indifferent seen (f s))
    (hsame : ∀ s w, seen w = seen s.flags → f (s.withFlags w) = f s) :
    Indifferent seen (get >>= f) := by
  intro s w hw
  show f (s.withFlags w) (s.withFlags w) = (f s s).map _
  rw [hsame s w hw, hf s s w hw]

theorem modify {g : ReadState → ReadState} (hg : ∀ s w, g (s.withFlags w) = (g s).withFlags w) :
    Indifferent seen (modify g : Reading PUnit) := by
  intro s w _
  show Except.ok (PUnit.unit, g (s.withFlags w)) = .ok (PUnit.unit, (g s).withFlags w)
  rw [hg]

theorem ite {c : Prop} [Decidable c] {p q : Reading α} (hp : Indifferent seen p)
    (hq : Indifferent seen q) : Indifferent seen (if c then p else q) := by
  split
  · exact hp
  · exact hq

/-- A check that stops the reading or lets the rest of it go on. -/
theorem check {c : Prop} [Decidable c] {m : Reading PUnit} {k : PUnit → Reading α}
    (hm : Indifferent seen m) (hk : Indifferent seen (k ⟨⟩)) :
    Indifferent seen (if c then m >>= k else k ⟨⟩) :=
  .ite (hm.bind fun _ => hk) hk

end Indifferent

theorem indifferent_advance : Indifferent seen advance := by
  rintro ⟨next, rest, flags, names, widths, lookbehindFrom, conditions⟩ w _
  rw [advance, bind_ok get_ok, bind_ok get_ok]
  dsimp only [ReadState.withFlags]
  cases rest with
  | nil => rfl
  | cons c rest =>
    cases rest with
    | nil => by_cases hc : c = '\\' <;> simp [hc] <;> rfl
    | cons d rest => by_cases hc : c = '\\' <;> simp [hc] <;> rfl

theorem indifferent_peek : Indifferent seen peek :=
  .get_bind (fun s => .pure s.next) fun _ _ _ => rfl

theorem indifferent_take : Indifferent seen take :=
  indifferent_peek.bind fun token => indifferent_advance.bind fun _ => .pure token

theorem indifferent_accept (c : Char) : Indifferent seen (accept c) := by
  unfold accept
  refine indifferent_peek.bind fun token => .ite ?_ (.pure false)
  exact indifferent_advance.bind fun _ => .pure true

theorem indifferent_takeWhile (kind : Char → Bool) (n : Nat) :
    Indifferent seen (takeWhile kind n) := by
  induction n with
  | zero => exact .pure []
  | succ n ih =>
    unfold takeWhile
    refine indifferent_peek.bind fun token => ?_
    split
    · refine .ite ?_ (.pure [])
      exact indifferent_advance.bind fun _ => ih.bind fun cs => .pure _
    · exact .pure []

theorem indifferent_takeUntil (stop : Char) (reason : Malformed) (fuel : Nat) :
    Indifferent seen (takeUntil stop reason fuel) := by
  induction fuel with
  | zero => exact .fail reason
  | succ fuel ih =>
    unfold takeUntil
    refine indifferent_take.bind fun token => ?_
    cases token with
    | none => exact .fail reason
    | some token => exact .ite (.pure []) (ih.bind fun cs => .pure _)

theorem indifferent_takeName (stop : Char) (reason : Malformed) :
    Indifferent seen (takeName stop reason) := by
  refine .get_bind (fun s => ?_) fun _ _ _ => rfl
  exact (indifferent_takeUntil stop reason _).bind fun name => .check (.fail reason) (.pure name)

theorem indifferent_openGroup (name : Option (List Char)) : Indifferent seen (openGroup name) := by
  intro s w _
  unfold openGroup
  rw [bind_ok get_ok, bind_ok get_ok]
  have hcount : groupCount (s.withFlags w) = groupCount s := rfl
  have hnames : (s.withFlags w).names = s.names := rfl
  dsimp only
  rw [hcount, hnames]
  split
  · rfl
  · cases name with
    | none => rfl
    | some cs =>
      dsimp only
      split <;> rfl

theorem indifferent_closeGroup (index : Nat) (body : Node) :
    Indifferent seen (closeGroup index body) := .modify fun _ _ => rfl

theorem indifferent_checkLookbehind (group : Nat) : Indifferent seen (checkLookbehind group) := by
  refine .get_bind (fun s => ?_) fun _ _ _ => rfl
  cases s.lookbehindFrom with
  | none => exact .pure ()
  | some first => exact .check (.fail _) (.ite (.fail _) (.pure ()))

theorem indifferent_reference (group : Nat) : Indifferent seen (reference group) := by
  refine .get_bind (fun s => ?_) fun _ _ _ => rfl
  refine .check (.fail _) (.check (.fail _) ?_)
  exact (indifferent_checkLookbehind group).bind fun _ => .pure _

/-! Escapes and classes. -/

theorem indifferent_hexCode (count : Nat) : Indifferent seen (hexCode count) :=
  (indifferent_takeWhile isHex count).bind fun _ => .check (.fail _) (.check (.fail _) (.pure _))

theorem indifferent_numberEscape (c : Char) : Indifferent seen (numberEscape c) := by
  refine (indifferent_takeWhile _ 1).bind fun more => ?_
  split
  · next d =>
    have hreference : Indifferent seen (reference (digitsValue 10 [c, d])) :=
      indifferent_reference _
    refine .ite ((indifferent_takeWhile _ 1).bind fun last => ?_) hreference
    split
    · exact .check (.fail _) (.pure _)
    · exact hreference
  · exact indifferent_reference _

theorem indifferent_range (lo hi : ClassItem) : Indifferent seen (range lo hi) := by
  unfold range
  split
  · exact .ite (.fail _) (.pure _)
  · exact .fail _

section

variable [CharacterNames]

theorem indifferent_namedCode : Indifferent seen namedCode := by
  refine (indifferent_accept _).bind fun _ => .check (.fail _) ?_
  refine (indifferent_takeName _ _).bind fun name => ?_
  split
  · exact .pure _
  · exact .fail _

theorem indifferent_plainEscape (c : Char) : Indifferent seen (plainEscape c) := by
  unfold plainEscape
  refine .ite (indifferent_hexCode 2) (.ite (indifferent_hexCode 4) ?_)
  exact .ite (indifferent_hexCode 8) (.ite indifferent_namedCode (.ite (.fail _) (.pure _)))

theorem indifferent_classEscape (c : Char) : Indifferent seen (classEscape c) := by
  unfold classEscape
  cases control? c with
  | some code => exact .pure _
  | none =>
    cases category? c with
    | some cat => exact .pure _
    | none =>
      refine .ite ?_ ((indifferent_plainEscape c).bind fun _ => .pure _)
      exact (indifferent_takeWhile _ 2).bind fun _ => .check (.fail _) (.pure _)

theorem indifferent_escape (c : Char) : Indifferent seen (escape c) := by
  unfold escape
  cases anchor? c with
  | some a => exact .pure _
  | none =>
    cases category? c with
    | some cat => exact .pure _
    | none =>
      cases control? c with
      | some code => exact .pure _
      | none =>
        refine .ite ((indifferent_takeWhile _ 2).bind fun _ => .pure _) ?_
        exact .ite (indifferent_numberEscape c) ((indifferent_plainEscape c).bind fun _ => .pure _)

theorem indifferent_classItem (token : Token) : Indifferent seen (classItem token) := by
  cases token with
  | char c => exact .pure _
  | escaped c => exact indifferent_classEscape c

theorem indifferent_classItems (items : List ClassItem) (fuel : Nat) :
    Indifferent seen (classItems items fuel) := by
  induction fuel generalizing items with
  | zero => exact .fail _
  | succ fuel ih =>
    refine indifferent_take.bind fun token => ?_
    cases token with
    | none => exact .fail _
    | some token =>
      refine .ite (.pure _) ((indifferent_classItem token).bind fun item => ?_)
      refine (indifferent_accept '-').bind fun _ => .ite ?_ (ih _)
      refine indifferent_take.bind fun last => ?_
      cases last with
      | none => exact .fail _
      | some last =>
        refine .ite (.pure _) ((indifferent_classItem last).bind fun top => ?_)
        exact (indifferent_range item top).bind fun _ => ih _

theorem indifferent_characterClass : Indifferent seen characterClass := by
  refine (indifferent_accept '^').bind fun negated => .get_bind (fun s => ?_) fun _ _ _ => rfl
  refine (indifferent_classItems [] _).bind fun items => ?_
  split
  · exact .pure _
  · exact .pure _

end

/-! Repeats. -/

theorem indifferent_count (digits : List Char) : Indifferent seen (count digits) := by
  unfold count
  exact .check (.throw _) (.check (.throw _) (.pure _))

theorem indifferent_closeBraces {s t : ReadState} {w : Flags} {lo hi : List Char}
    (hw : seen w = seen t.flags) :
    closeBraces (s.withFlags w) lo hi (t.withFlags w) =
      (closeBraces s lo hi t).map fun x => (x.1, x.2.withFlags w) := by
  refine (indifferent_accept _).bind_at hw fun closed u hu => ?_
  cases closed with
  | false => rfl
  | true =>
    have hcounts : ∀ least : Nat, Indifferent seen (do
        if hi.isEmpty then return some (least, none)
        let most ← count hi
        if most < least then fail .repeatBoundsSwapped
        return some (least, some most)) := fun least =>
      .ite (.pure _) ((indifferent_count hi).bind fun most => .check (.fail _) (.pure _))
    have hbounds : Indifferent seen (if lo.isEmpty then _ else _) :=
      .ite ((Indifferent.pure 0).bind hcounts) ((indifferent_count lo).bind hcounts)
    exact hbounds u w ((indifferent_accept _).seen_eq hw hu)

/-- The place before the braces is put back, with the flags as they are. -/
theorem indifferent_braces? : Indifferent seen braces? := by
  intro s w hw
  rw [braces?_eq, bind_ok get_ok, bind_ok get_ok]
  refine indifferent_peek.bind_at hw fun token t ht => ?_
  replace hw := indifferent_peek.seen_eq hw ht
  split
  · rfl
  · refine (indifferent_takeWhile _ _).bind_at hw fun lo u hu => ?_
    replace hw := (indifferent_takeWhile _ _).seen_eq hw hu
    refine (indifferent_accept ',').bind_at hw fun comma v hv => ?_
    replace hw := (indifferent_accept _).seen_eq hw hv
    cases comma with
    | false => exact indifferent_closeBraces hw
    | true =>
      refine (indifferent_takeWhile _ _).bind_at hw fun hi x hx => ?_
      exact indifferent_closeBraces ((indifferent_takeWhile _ _).seen_eq hw hx)

theorem indifferent_bounds? (sign : Char) : Indifferent seen (bounds? sign) :=
  .ite (.pure _) (.ite (.pure _) (.ite (.pure _) indifferent_braces?))

theorem indifferent_greed : Indifferent seen greed := by
  refine (indifferent_accept _).bind fun _ => .ite (.pure _) ?_
  exact (indifferent_accept _).bind fun _ => .ite (.pure _) (.pure _)

theorem indifferent_repeated (p : Piece) : Indifferent seen p.repeated := by
  cases p with
  | node n => exact .ite (.fail _) (.ite (.fail _) (.pure _))
  | inlined parts => exact .pure _

/-! What follows a parenthesis. -/

theorem indifferent_flagOf (token : Option Token) : Indifferent seen (flagOf token) := by
  unfold flagOf
  split
  · split
    · exact .pure _
    · exact .fail _
  · exact .fail _

theorem indifferent_flagsOn (on : List Flag) (flag : Flag) (fuel : Nat) :
    Indifferent seen (flagsOn on flag fuel) := by
  induction fuel generalizing on flag with
  | zero => exact .fail _
  | succ fuel ih =>
    unfold flagsOn
    refine .check (.fail _) (.check (.fail _) (indifferent_take.bind fun token => ?_))
    split
    · exact .pure _
    · exact .pure _
    · exact .pure _
    · exact (indifferent_flagOf token).bind fun next => ih _ next

theorem indifferent_flagsOff (off : List Flag) (flag : Flag) (fuel : Nat) :
    Indifferent seen (flagsOff off flag fuel) := by
  induction fuel generalizing off flag with
  | zero => exact .fail _
  | succ fuel ih =>
    unfold flagsOff
    refine .check (.fail _) (indifferent_take.bind fun token => ?_)
    split
    · exact .pure _
    · exact (indifferent_flagOf token).bind fun next => ih _ next

theorem indifferent_flags (first : Char) : Indifferent seen (flags first) := by
  refine .get_bind (fun s => ?_) fun _ _ _ => rfl
  dsimp only
  split
  case' h_1 f hf => refine (indifferent_flagsOn [] f _).bind fun x => ?_
  case' h_2 hf => refine (Indifferent.pure _).bind fun x => ?_
  all_goals
    refine .ite (.pure _) (.check (.fail _) (.ite (.pure _) ?_))
    refine indifferent_take.bind fun token => (indifferent_flagOf token).bind fun flag => ?_
    exact (indifferent_flagsOff [] flag _).bind fun off => .check (.fail _) (.pure _)

theorem indifferent_groupName (stop : Char) : Indifferent seen (groupName stop) :=
  (indifferent_takeName _ _).bind fun _ => .check (.fail _) (.pure _)

theorem indifferent_namedGroup (name : List Char) : Indifferent seen (namedGroup name) := by
  refine .get_bind (fun s => ?_) fun _ _ _ => rfl
  split
  · exact .pure _
  · exact .fail _

theorem indifferent_conditionGroup : Indifferent seen conditionGroup := by
  refine (indifferent_takeName _ _).bind fun name => .ite (indifferent_namedGroup name) ?_
  split
  · exact .fail _
  · refine .check (.fail _) (.check (.fail _) ?_)
    exact (Indifferent.modify fun _ _ => rfl).bind fun _ => .pure _

theorem indifferent_skipComment (fuel : Nat) : Indifferent seen (skipComment fuel) := by
  induction fuel with
  | zero => exact .fail _
  | succ fuel ih =>
    refine indifferent_peek.bind fun token => ?_
    cases token with
    | none => exact .fail _
    | some token => exact indifferent_advance.bind fun _ => .ite (.pure _) ih

theorem indifferent_namedHeading : Indifferent seen namedHeading := by
  refine (indifferent_accept _).bind fun _ => .ite ?_ ?_
  · exact (indifferent_groupName _).bind fun _ => .pure _
  · refine (indifferent_accept _).bind fun _ => .ite ?_ (.fail _)
    refine (indifferent_groupName _).bind fun name => (indifferent_namedGroup name).bind ?_
    exact fun group => (indifferent_reference group).bind fun _ => .pure _

theorem indifferent_lookHeading (c : Char) : Indifferent seen (lookHeading c) := by
  refine .ite (.pure _) (.ite (.pure _) (indifferent_take.bind fun token => ?_))
  split
  · exact .pure _
  · exact .pure _
  · exact .fail _

/-- Past the start no flags are set for the whole expression. -/
theorem indifferent_heading : Indifferent seen (heading false) := by
  refine (indifferent_accept '?').bind fun _ => .ite (.pure _) ?_
  refine indifferent_take.bind fun token => ?_
  split
  · exact .fail _
  · exact .fail _
  · next c =>
    refine .ite indifferent_namedHeading (.ite (.pure _) (.ite ?_ (.ite ?_ (.ite ?_ ?_))))
    · refine .get_bind (fun s => ?_) fun _ _ _ => rfl
      exact (indifferent_skipComment _).bind fun _ => .pure _
    · exact indifferent_lookHeading c
    · refine indifferent_conditionGroup.bind fun group => ?_
      exact (indifferent_checkLookbehind group).bind fun _ => .pure _
    · refine .ite (.pure _) (.ite ((indifferent_flags c).bind fun found => ?_) (.fail _))
      cases found with
      | inl on => exact .fail_bind _ _
      | inr scope => exact .pure _

/-! Sequences and branches. -/

theorem indifferent_expectClose : Indifferent seen expectClose :=
  (indifferent_accept _).bind fun _ => .ite (.fail _) (.pure _)

theorem indifferent_skipLine (fuel : Nat) : Indifferent seen (skipLine fuel) := by
  induction fuel with
  | zero => exact .pure _
  | succ fuel ih =>
    refine indifferent_take.bind fun token => ?_
    split
    · exact .pure _
    · exact .pure _
    · exact ih

theorem indifferent_repeatPiece (sign : Char) (pieces : List Piece) :
    Indifferent seen (repeatPiece sign pieces) := by
  refine (indifferent_bounds? sign).bind fun bounds => ?_
  cases bounds with
  | none => exact .pure _
  | some bounds =>
    cases pieces with
    | nil => exact .fail _
    | cons last before =>
      refine (indifferent_repeated last).bind fun _ => indifferent_greed.bind fun _ => .pure _

theorem gives_repeatPiece (sign : Char) (pieces : List Piece) :
    Gives (· ≠ []) (repeatPiece sign pieces) := by
  refine .bind fun bounds => ?_
  cases bounds with
  | none => exact .pure (by simp)
  | some bounds =>
    cases pieces with
    | nil => exact .fail _
    | cons last before => exact .bind fun _ => .bind fun _ => .pure (by simp)

variable [CharacterNames]

theorem indifferent_simplePiece (token : Token) (pieces : List Piece) :
    Indifferent seen (simplePiece token pieces) := by
  cases token with
  | escaped c => exact (indifferent_escape c).bind fun _ => .pure _
  | char c =>
    refine .ite (indifferent_characterClass.bind fun _ => .pure _) ?_
    refine .ite (indifferent_repeatPiece c pieces) (.ite (.pure _) ?_)
    exact .ite (.pure _) (.ite (.pure _) (.pure _))

theorem gives_simplePiece (token : Token) (pieces : List Piece) :
    Gives (· ≠ []) (simplePiece token pieces) := by
  cases token with
  | escaped c => exact .bind fun _ => .pure (by simp)
  | char c =>
    refine .ite (.bind fun _ => .pure (by simp)) (.ite (gives_repeatPiece c pieces) ?_)
    exact .ite (.pure (by simp)) (.ite (.pure (by simp)) (.ite (.pure (by simp)) (.pure (by simp))))

/-- A simple piece is never nothing, and what follows one is past the start. -/
theorem indifferent_simple {depth fuel : Nat} {verbose first : Bool} (token : Token)
    (pieces : List Piece)
    (h : ∀ next, next ≠ [] → Indifferent seen (sequence depth verbose first next fuel)) :
    Indifferent seen (simplePiece token pieces >>= fun next =>
      sequence depth verbose first next fuel) :=
  (indifferent_simplePiece token pieces).bind_of fun s next t hnext =>
    h next (gives_simplePiece token pieces s next t hnext)

/-- What `opened` reads after the heading of a group. -/
theorem indifferent_opened {fuel : Nat}
    (halternation : ∀ depth verbose done, depth ≠ 0 →
      Indifferent seen (alternation depth verbose done fuel))
    (hsequence : ∀ depth verbose, Indifferent seen (sequence depth verbose false [] fuel))
    (depth : Nat) (verbose : Bool) : Indifferent seen (opened depth verbose false (fuel + 1)) := by
  unfold opened
  refine indifferent_heading.bind fun h => ?_
  cases h with
  | done o => exact .pure o
  | body kind =>
    have hbody := fun verbose => halternation (depth + 1) verbose [] (by omega)
    have hbranch := fun verbose => hsequence (depth + 1) verbose
    match kind with
    | .capturing name =>
      refine (indifferent_openGroup name).bind fun index => (hbody verbose).bind fun parts => ?_
      exact indifferent_expectClose.bind fun _ => (indifferent_closeGroup _ _).bind fun _ => .pure _
    | .scoped scope =>
      refine (hbody _).bind fun parts => indifferent_expectClose.bind fun _ => ?_
      exact .ite (.pure _) (.pure _)
    | .atomic =>
      refine (hbody verbose).bind fun parts => ?_
      exact indifferent_expectClose.bind fun _ => .pure _
    | .look behind negated =>
      refine .get_bind (fun s => .check (.modify fun _ _ => rfl) ?_) fun _ _ _ => rfl
      refine (hbody verbose).bind fun parts => .check (.modify fun _ _ => rfl) ?_
      refine indifferent_expectClose.bind fun _ => .get_bind (fun s => ?_) fun _ _ _ => rfl
      exact .pure _
    | .given group =>
      refine (hbranch verbose).bind fun yes => (indifferent_accept '|').bind fun more => .ite ?_ ?_
      · refine (hbranch verbose).bind fun no => indifferent_peek.bind fun token => ?_
        exact .check (.fail _) (indifferent_expectClose.bind fun _ => .pure _)
      · exact indifferent_expectClose.bind fun _ => .pure _

section

variable {depth fuel : Nat} {first : Bool}

/-- A branch that is past the start, and those behind the next bar. -/
theorem indifferent_alternation {done : List (List Node)}
    (halternation : ∀ verbose done, done ≠ [] →
      Indifferent (Flags.has · .verbose) (alternation depth verbose done fuel))
    (hsequence : ∀ verbose,
      Indifferent (Flags.has · .verbose) (sequence depth verbose false [] fuel))
    (hpast : depth ≠ 0 ∨ done ≠ []) (verbose : Bool) :
    Indifferent (Flags.has · .verbose) (alternation depth verbose done (fuel + 1)) := by
  unfold alternation
  have hfirst : (depth == 0 && done.isEmpty) = false := by
    rcases hpast with h | h <;> simp [h]
  rw [hfirst]
  refine (hsequence verbose).bind fun parts => ?_
  refine (indifferent_accept '|').bind fun more => .ite ?_ (.pure _)
  refine .get_bind (fun s => halternation _ _ (by simp)) fun s w hw => ?_
  rw [show (s.withFlags w).flags = w from rfl, hw]

/-- A part of a branch that is past the start, and those behind it. -/
theorem indifferent_sequence {pieces : List Piece}
    (hsequence : ∀ verbose pieces, (first && pieces.isEmpty) = false →
      Indifferent (Flags.has · .verbose) (sequence depth verbose first pieces fuel))
    (hopened : ∀ verbose, Indifferent (Flags.has · .verbose) (opened depth verbose false fuel))
    (hpast : (first && pieces.isEmpty) = false) (verbose : Bool) :
    Indifferent (Flags.has · .verbose) (sequence depth verbose first pieces (fuel + 1)) := by
  unfold sequence
  refine indifferent_peek.bind fun token => ?_
  cases token with
  | none => exact .pure _
  | some token =>
    refine .ite (.pure _) (indifferent_advance.bind fun _ => ?_)
    have hsame := hsequence verbose pieces hpast
    have hsimple := indifferent_simple token pieces fun next hnext =>
      hsequence verbose next (by simp [hnext])
    cases token with
    | escaped c => exact hsimple
    | char c =>
      refine .ite hsame (.ite ?_ (.ite ?_ hsimple))
      · exact .get_bind (fun s => (indifferent_skipLine _).bind fun _ => hsame) fun _ _ _ => rfl
      · rw [hpast]
        refine (hopened verbose).bind fun o => ?_
        cases o with
        | nothing => exact hsame
        | globalFlags on =>
          refine .get_bind (fun s => hsequence _ pieces hpast) fun s w hw => ?_
          rw [show (s.withFlags w).flags = w from rfl, hw]
        | part p => exact hsequence verbose (p :: pieces) (by simp)

end

/-- Past the start of the expression, at every depth. -/
theorem indifferent_reading (fuel : Nat) :
    (∀ depth verbose done, depth ≠ 0 ∨ done ≠ [] →
      Indifferent (Flags.has · .verbose) (alternation depth verbose done fuel)) ∧
    (∀ depth verbose first pieces, (first && pieces.isEmpty) = false →
      Indifferent (Flags.has · .verbose) (sequence depth verbose first pieces fuel)) ∧
    ∀ depth verbose, Indifferent (Flags.has · .verbose) (opened depth verbose false fuel) := by
  induction fuel with
  | zero => exact ⟨fun _ _ _ _ => .throw _, fun _ _ _ _ _ => .throw _, fun _ _ => .throw _⟩
  | succ fuel ih =>
    obtain ⟨halternation, hsequence, hopened⟩ := ih
    have hbranch (depth : Nat) (verbose : Bool) := hsequence depth verbose false [] rfl
    refine ⟨fun depth verbose done hpast => ?_, fun depth verbose first pieces hpast => ?_,
      fun depth verbose => ?_⟩
    · exact indifferent_alternation (fun verbose done h => halternation depth verbose done (.inr h))
        (hbranch depth) hpast verbose
    · exact indifferent_sequence (fun verbose => hsequence depth verbose first) (hopened depth) hpast
        verbose
    · exact indifferent_opened (fun depth _ _ h => halternation depth _ _ (.inl h)) hbranch depth
        verbose

end Reading

end PathPolicy.Regex
