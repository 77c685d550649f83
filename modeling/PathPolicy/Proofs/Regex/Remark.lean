import PathPolicy.Proofs.Regex.Aside
import PathPolicy.Proofs.Regex.Indifference

/-! The reader at an opening parenthesis where flags may stand. A remark is passed over, and the
flags that it turns on are added to those so far, whatever they are; anything else is read as it
would be elsewhere. -/

namespace PathPolicy.Regex

namespace Reading

variable {s t : ReadState} {c : Char} {cs r : List Char} {fuel : Nat}

/-- Token by token. -/
theorem past?_eq {stop : Char} : past? stop cs = (tokenAt cs).bind fun token =>
    if token = .char stop then some (afterToken cs) else past? stop (afterToken cs) := by
  fun_cases past? stop cs with
  | case1 => rfl
  | case2 c rest => rfl
  | case3 r hslash => simp [tokenAt, afterToken]
  | case4 c r hslash hc => simp [tokenAt, afterToken, hc]

theorem of_skipComment (h : skipComment fuel (s.at cs) = .ok ((), t)) :
    ∃ r, past? ')' cs = some r ∧ t = s.at r := by
  induction fuel generalizing cs with
  | zero => cases h
  | succ fuel ih =>
    rw [skipComment, bind_ok peek_at] at h
    rw [past?_eq]
    cases htoken : tokenAt cs with
    | none =>
      rw [htoken] at h
      cases h
    | some token =>
      rw [htoken] at h
      obtain ⟨⟨⟩, u, hadvance, h⟩ := exists_of_bind_eq_ok h
      obtain rfl := at_of_advance hadvance
      by_cases hclose : token = .char ')'
      · simp only [hclose, beq_self_eq_true, if_true] at h
        cases h
        exact ⟨_, by simp [hclose], rfl⟩
      · simp only [beq_iff_eq, hclose, if_false] at h
        obtain ⟨r, hr, rfl⟩ := ih h
        exact ⟨r, by simpa [hclose] using hr, rfl⟩

/-- Without an end of the line, the text ends. -/
theorem of_skipLine (hfuel : cs.length ≤ fuel) (h : skipLine fuel (s.at cs) = .ok ((), t)) :
    t = s.at ((past? '\n' cs).getD []) := by
  induction fuel generalizing cs with
  | zero =>
    obtain rfl : cs = [] := List.length_eq_zero_iff.1 (by omega)
    cases h
    rfl
  | succ fuel ih =>
    obtain ⟨token, u, htake, h⟩ := exists_of_bind_eq_ok h
    obtain ⟨rfl, rfl⟩ := of_take htake
    rw [past?_eq]
    generalize htoken : tokenAt cs = token at h
    split at h
    · cases h
      rw [nil_of_tokenAt htoken]
      rfl
    · cases h
      simp
    · next token hline =>
      have hle : (afterToken cs).length ≤ fuel := by
        have := length_afterToken_lt htoken
        omega
      simpa [show token ≠ .char '\n' by rintro rfl; exact hline rfl] using ih hle h

theorem of_flagOf {token : Option Token} {f : Flag} (h : flagOf token s = .ok (f, t)) :
    ∃ c, token = some (.char c) ∧ Flag.ofLetter? c = some f ∧ t = s := by
  match token with
  | none => cases h
  | some (.escaped c) => cases h
  | some (.char c) =>
    rw [flagOf] at h
    cases hf : Flag.ofLetter? c with
    | none =>
      rw [hf] at h
      cases h
    | some g =>
      rw [hf] at h
      cases h
      exact ⟨c, rfl, hf, rfl⟩

theorem of_flagsOn {on found : List Flag} {f : Flag} {sign : Char}
    (h : flagsOn on f fuel (s.at cs) = .ok ((found, sign), t)) :
    (sign = ')' ∧ ∃ more r, letters? cs = some (more, r) ∧ found = on ++ f :: more ∧ t = s.at r) ∨
      (sign ≠ ')' ∧ letters? cs = none) := by
  induction fuel generalizing on f cs with
  | zero => cases h
  | succ fuel ih =>
    rw [flagsOn] at h
    obtain ⟨-, h⟩ := of_check h
    obtain ⟨-, h⟩ := of_check h
    obtain ⟨token, u, htake, h⟩ := exists_of_bind_eq_ok h
    obtain ⟨rfl, rfl⟩ := of_take htake
    generalize htoken : tokenAt cs = token at h
    split at h
    · cases h
      rw [cons_of_tokenAt htoken]
      exact .inl ⟨rfl, [], _, rfl, rfl, rfl⟩
    · cases h
      rw [cons_of_tokenAt htoken]
      exact .inr ⟨by decide, rfl⟩
    · cases h
      rw [cons_of_tokenAt htoken]
      exact .inr ⟨by decide, rfl⟩
    · obtain ⟨next, v, hflag, h⟩ := exists_of_bind_eq_ok h
      obtain ⟨c, rfl, hletter, rfl⟩ := of_flagOf hflag
      rw [cons_of_tokenAt htoken, letters?, hletter]
      rcases ih h with ⟨rfl, more, r, hmore, rfl, rfl⟩ | ⟨hsign, hnone⟩
      · exact .inl ⟨rfl, next :: more, r, by simp [hmore], by simp, rfl⟩
      · exact .inr ⟨hsign, by simp [hnone]⟩

/-- Flags for the whole expression are letters up to the parenthesis, and no others are. -/
theorem of_flags {found : List Flag ⊕ Scope} (h : flags c (s.at cs) = .ok (found, t)) :
    (∃ f more r, Flag.ofLetter? c = some f ∧ letters? cs = some (more, r) ∧
        found = .inl (f :: more) ∧ t = s.at r) ∨
      ((∀ f ∈ Flag.ofLetter? c, letters? cs = none) ∧ ∃ scope, found = .inr scope) := by
  rw [flags, bind_ok get_ok] at h
  cases hf : Flag.ofLetter? c
  case' some f =>
    simp only [hf] at h
    obtain ⟨⟨on, sign⟩, u, hon, h⟩ := exists_of_bind_eq_ok h
    obtain ⟨rfl, more, r, hmore, rfl, rfl⟩ | ⟨hsign, hnone⟩ := of_flagsOn hon
    · cases h
      exact .inl ⟨f, more, r, rfl, hmore, rfl, rfl⟩
    refine .inr ⟨fun _ _ => hnone, ?_⟩
  case' none =>
    simp only [hf] at h
    obtain ⟨x, u, hpure, h⟩ := exists_of_bind_eq_ok h
    cases hpure
    have hsign : '-' ≠ ')' := by decide
    refine .inr ⟨by simp, ?_⟩
  all_goals
    rw [if_neg hsign] at h
    obtain ⟨-, h⟩ := of_check h
    split at h
    · cases h
      exact ⟨_, rfl⟩
    · obtain ⟨token, v, -, h⟩ := exists_of_bind_eq_ok h
      obtain ⟨flag, v, -, h⟩ := exists_of_bind_eq_ok h
      obtain ⟨off, v, -, h⟩ := exists_of_bind_eq_ok h
      obtain ⟨-, h⟩ := of_check h
      cases h
      exact ⟨_, rfl⟩

/-- A sign for flags is no other sign. -/
theorem ne_of_sign (h : (decide (c = '-') || (Flag.ofLetter? c).isSome) = true) :
    c ≠ 'P' ∧ c ≠ ':' ∧ c ≠ '#' ∧ c ≠ '=' ∧ c ≠ '!' ∧ c ≠ '<' ∧ c ≠ '(' ∧ c ≠ '>' := by
  refine ⟨?_, ?_, ?_, ?_, ?_, ?_, ?_, ?_⟩ <;> rintro rfl <;> exact absurd h (by decide)

/-- What an opening parenthesis brings is a part of the expression. -/
def Opened.IsPart : Opened → Prop
  | .part _ => True
  | _ => False

/-- The flags that it turns on for the whole expression. -/
def Opened.turnedOn : Opened → List Flag
  | .globalFlags on => on
  | _ => []

theorem Opened.IsPart.turnedOn {o : Opened} (h : o.IsPart) : o.turnedOn = [] := by
  cases o with
  | nothing => rfl
  | globalFlags on => exact h.elim
  | part p => rfl

/-- A body follows, or a part was read. -/
def Heading.IsPart : Heading → Prop
  | .body _ => True
  | .done o => o.IsPart

def Heading.turnedOn : Heading → List Flag
  | .body _ => []
  | .done o => o.turnedOn

theorem Heading.IsPart.turnedOn {hd : Heading} (h : hd.IsPart) : hd.turnedOn = [] := by
  cases hd with
  | body kind => rfl
  | done o => exact Opened.IsPart.turnedOn h

theorem Heading.body_isPart (kind : GroupKind) : (Heading.body kind).IsPart := trivial

theorem gives_namedHeading : Gives Heading.IsPart namedHeading := by
  refine .bind fun _ => .ite (.bind fun _ => .pure trivial) (.bind fun _ => .ite ?_ (.fail _))
  exact .bind fun _ => .bind fun _ => .bind fun _ => .pure trivial

theorem gives_lookHeading : Gives Heading.IsPart (lookHeading c) := by
  refine .ite (.pure trivial) (.ite (.pure trivial) (.bind fun token => ?_))
  split
  · exact .pure trivial
  · exact .pure trivial
  · exact .fail _

/-- At the start a remark is passed over; what is none means what it means elsewhere. -/
theorem of_heading {hd : Heading} (h : heading true (s.at cs) = .ok (hd, t)) :
    (∃ o r, remark? cs = some (o.turnedOn, r) ∧ hd = .done o ∧ ¬o.IsPart ∧
        t = (s.withFlags (s.flags.addAll o.turnedOn)).at r) ∨
      (remark? cs = none ∧ hd.IsPart ∧ heading false (s.at cs) = .ok (hd, t)) := by
  rw [heading] at h ⊢
  obtain ⟨b, u, hquestion, h⟩ := exists_of_bind_eq_ok h
  rw [bind_ok hquestion]
  obtain ⟨rfl, cs, rfl, rfl⟩ | ⟨rfl, hno, rfl⟩ := of_accept hquestion
  case' inr =>
    cases h
    refine .inr ⟨?_, trivial, rfl⟩
    unfold remark?
    split
    · exact absurd (tokenAt_cons (by decide)) hno
    · rfl
  simp only [Bool.not_true, Bool.false_eq_true, if_false] at h ⊢
  obtain ⟨token, u, htake, h⟩ := exists_of_bind_eq_ok h
  rw [bind_ok htake]
  obtain ⟨rfl, rfl⟩ := of_take htake
  match htoken : tokenAt cs with
  | none =>
    rw [htoken] at h
    cases h
  | some (.escaped c) =>
    rw [htoken] at h
    cases h
  | some (.char c) =>
    simp only [htoken] at h ⊢
    have hcs : remark? ('?' :: cs) = remark? ('?' :: c :: afterToken cs) :=
      congrArg (fun r => remark? ('?' :: r)) (cons_of_tokenAt htoken)
    rw [hcs, remark?]
    generalize afterToken cs = r at h ⊢
    by_cases hcomment : c = '#'
    · subst hcomment
      simp only [Char.reduceEq, if_false, if_true] at h
      rw [bind_ok get_ok] at h
      obtain ⟨⟨⟩, u, hskip, h⟩ := exists_of_bind_eq_ok h
      obtain ⟨r', hr', rfl⟩ := of_skipComment hskip
      cases h
      exact .inl ⟨.nothing, r', by rw [hr']; rfl, rfl, id, rfl⟩
    by_cases hsign : (decide (c = '-') || (Flag.ofLetter? c).isSome) = true
    · simp only [ne_of_sign hsign, hsign, decide_false, Bool.or_false, Bool.false_eq_true,
        if_false, if_true] at h ⊢
      obtain ⟨found, u, hflags, h⟩ := exists_of_bind_eq_ok h
      rw [bind_ok hflags]
      obtain ⟨f, more, r', hf, hmore, rfl, rfl⟩ | ⟨hnone, scope, rfl⟩ := of_flags hflags
      · cases h
        refine .inl ⟨.globalFlags (f :: more), r', ?_, rfl, id, rfl⟩
        simp only [hf, hmore, Option.map_some, Opened.turnedOn]
      · cases h
        refine .inr ⟨?_, trivial, rfl⟩
        cases hf : Flag.ofLetter? c with
        | none => rfl
        | some f => simp only [hnone f hf, Option.map_none]
    · have hf : Flag.ofLetter? c = none := by
        rw [Bool.or_eq_true, not_or, Option.not_isSome_iff_eq_none] at hsign
        exact hsign.2
      simp only [hcomment, hsign, Bool.false_eq_true, if_false] at h ⊢
      refine .inr ⟨by rw [hf], ?_, h⟩
      refine Gives.ite gives_namedHeading (.ite (.pure (Heading.body_isPart _)) (.ite
        gives_lookHeading (.ite ?_ (.ite (.pure (Heading.body_isPart _)) (.fail _))))) _ _ _ h
      exact .bind fun _ => .bind fun _ => .pure (Heading.body_isPart _)

/-- Under any other flags the reader does the same, and adds the flags that it turns on. -/
def Adds (m : Reading Heading) : Prop :=
  ∀ (s : ReadState) (w : Flags), m (s.withFlags w) =
    (m s).map fun x => (x.1, x.2.withFlags (w.addAll x.1.turnedOn))

namespace Adds

variable {α : Type} {m p q : Reading Heading}

theorem ok {hd : Heading} (hm : Adds m) (h : m s = .ok (hd, t)) (w : Flags) :
    m (s.withFlags w) = .ok (hd, t.withFlags (w.addAll hd.turnedOn)) := by
  rw [hm, h]
  rfl

theorem of_gives (hm : Indifferent (fun _ => true) m) (hpart : Gives (·.turnedOn = []) m) :
    Adds m := by
  intro s w
  rw [hm s w rfl]
  cases hs : m s with
  | error e => rfl
  | ok x =>
    have hnone : x.1.turnedOn = [] := hpart s x.1 x.2 hs
    show Except.ok (x.1, x.2.withFlags w) = .ok (x.1, x.2.withFlags (w.addAll x.1.turnedOn))
    rw [hnone]
    rfl

theorem bind {n : Reading α} {f : α → Reading Heading} (hn : Indifferent (fun _ => true) n)
    (hf : ∀ a, Adds (f a)) : Adds (n >>= f) := by
  intro s w
  show (n (s.withFlags w) >>= fun x => f x.1 x.2) = (n s >>= fun x => f x.1 x.2).map _
  rw [hn s w rfl]
  cases n s with
  | error e => rfl
  | ok x => exact hf x.1 x.2 w

theorem ite {c : Prop} [Decidable c] (hp : Adds p) (hq : Adds q) :
    Adds (if c then p else q) := by
  split
  · exact hp
  · exact hq

theorem fail (reason : Malformed) : Adds (fail reason) := fun _ _ => rfl

theorem body (kind : GroupKind) : Adds (pure (.body kind)) := fun _ _ => rfl

end Adds

theorem adds_heading : Adds (heading true) := by
  refine .bind (indifferent_accept '?') fun _ => .ite (.body _) ?_
  refine .bind indifferent_take fun token => ?_
  split
  · exact .fail _
  · exact .fail _
  · next c =>
    refine .ite ?_ (.ite (.body _) (.ite ?_ (.ite ?_ (.ite ?_ (.ite (.body _) (.ite ?_ ?_))))))
    · refine .of_gives indifferent_namedHeading (gives_namedHeading.mono ?_)
      exact fun _ => Heading.IsPart.turnedOn
    · refine .of_gives (.get_bind (fun s => ?_) fun _ _ _ => rfl) ?_
      · exact (indifferent_skipComment _).bind fun _ => .pure _
      · exact .bind fun _ => .bind fun _ => .pure rfl
    · refine .of_gives (indifferent_lookHeading c) (gives_lookHeading.mono ?_)
      exact fun _ => Heading.IsPart.turnedOn
    · refine .bind indifferent_conditionGroup fun group => ?_
      exact .bind (indifferent_checkLookbehind group) fun _ => .body _
    · refine .bind (indifferent_flags c) fun found => ?_
      cases found with
      | inl on => exact fun _ _ => rfl
      | inr scope => exact .body _
    · exact .fail _

variable [CharacterNames]

theorem opened_congr {depth : Nat} {verbose : Bool} (h : heading true s = heading false s) :
    opened depth verbose true fuel s = opened depth verbose false fuel s := by
  cases fuel with
  | zero => rfl
  | succ fuel =>
    rw [opened, opened]
    show (heading true s >>= _) = (heading false s >>= _)
    rw [h]

theorem isPart_of_opened {depth : Nat} {verbose isStart : Bool} {hd : Heading} {o : Opened}
    {u : ReadState} (h : opened depth verbose isStart (fuel + 1) s = .ok (o, t))
    (hheading : heading isStart s = .ok (hd, u)) (hpart : hd.IsPart) : o.IsPart := by
  rw [opened, bind_ok hheading] at h
  cases hd with
  | done o =>
    cases h
    exact hpart
  | body kind =>
    refine (?_ : Gives Opened.IsPart _) u o t h
    match kind with
    | .capturing name =>
      exact .bind fun _ => .bind fun _ => .bind fun _ => .bind fun _ => .pure trivial
    | .scoped scope => exact .bind fun _ => .bind fun _ => .ite (.pure trivial) (.pure trivial)
    | .atomic => exact .bind fun _ => .bind fun _ => .pure trivial
    | .look behind negated =>
      refine .bind fun _ => .check (.bind fun _ => .check (.bind fun _ => .bind fun _ => ?_))
      exact .pure trivial
    | .given group =>
      refine .bind fun _ => .bind fun _ => .ite (.bind fun _ => .bind fun _ => .check ?_) ?_
      · exact .bind fun _ => .pure trivial
      · exact .bind fun _ => .pure trivial

/-- Where flags may stand, a remark is passed over under any flags, and a part is read as it would
be elsewhere. -/
theorem of_opened {verbose : Bool} {o : Opened}
    (h : opened 0 verbose true fuel (s.at cs) = .ok (o, t)) :
    (¬o.IsPart ∧ ∃ r, remark? cs = some (o.turnedOn, r) ∧ ∀ verbose (w : Flags),
        opened 0 verbose true fuel ((s.withFlags w).at cs) =
          .ok (o, (s.withFlags (w.addAll o.turnedOn)).at r)) ∨
      (o.IsPart ∧ remark? cs = none ∧ ∀ verbose (w : Flags),
        opened 0 verbose true fuel ((s.withFlags w).at cs) =
          opened 0 verbose false fuel ((s.withFlags w).at cs)) := by
  cases fuel with
  | zero => cases h
  | succ fuel =>
    have hrun := h
    rw [opened] at hrun
    obtain ⟨hd, u, hheading, hrun⟩ := exists_of_bind_eq_ok hrun
    have hadds (w : Flags) : heading true ((s.withFlags w).at cs) =
        .ok (hd, u.withFlags (w.addAll hd.turnedOn)) := adds_heading.ok hheading w
    rcases of_heading hheading with ⟨o, r, hr, rfl, hno, rfl⟩ | ⟨hnone, hpart, hfalse⟩
    · cases hrun
      refine .inl ⟨hno, r, hr, fun verbose w => ?_⟩
      rw [opened, bind_ok (hadds w)]
      rfl
    · refine .inr ⟨isPart_of_opened h hheading hpart, hnone, fun verbose w => opened_congr ?_⟩
      have hsame : heading false ((s.withFlags w).at cs) = .ok (hd, u.withFlags w) :=
        indifferent_heading.ok_of_blind hfalse w
      rw [hadds, hsame, hpart.turnedOn]
      rfl

end Reading

end PathPolicy.Regex
