import PathPolicy.Proofs.Regex.Flags
import PathPolicy.Proofs.Regex.Remark
import PathPolicy.Regex.Program

/-! The flags of a program are those that were given and those that its text turns on for the
whole of itself, and an alphabet. Flags beside those are passed on as they are, since nothing that
is read depends on them. -/

namespace PathPolicy.Regex

/-- Spaces count under `w` if they count already, and else only if the text says so. -/
structure Suits (w : Flags) (verbose : Bool) (cs : List Char) : Prop where
  kept : verbose = true → w.has .verbose = true
  written : w.has .verbose = true → verbose = true ∨ .verbose ∈ globalFlags verbose cs

namespace Suits

variable {w : Flags} {verbose : Bool} {cs r : List Char} {on : List Flag}

theorem of_has (h : w.has .verbose = verbose) : Suits w verbose cs :=
  ⟨h.trans, fun hv => .inl (h.symm.trans hv)⟩

theorem rest (h : Suits w verbose cs) (haside : aside? verbose cs = some (on, r)) :
    Suits (w.addAll on) (verbose || on.contains .verbose) r where
  kept hv := by
    rw [Bool.or_eq_true, List.contains_iff_mem] at hv
    exact Flags.has_addAll.2 (hv.imp_left h.kept)
  written hv := by
    rw [Bool.or_eq_true, List.contains_iff_mem, or_assoc, ← List.mem_append,
      ← globalFlags_of_some haside]
    rcases Flags.has_addAll.1 hv with hv | hv
    · exact h.written hv
    · rw [globalFlags_of_some haside]
      exact .inr (List.mem_append_left _ hv)

theorem has_eq (h : Suits w verbose cs) (haside : aside? verbose cs = none) :
    w.has .verbose = verbose := by
  have hwritten := h.written
  rw [globalFlags_of_none haside] at hwritten
  rw [Bool.eq_iff_iff]
  exact ⟨fun hv => (hwritten hv).resolve_right (by simp), h.kept⟩

theorem has_addAll (h : Suits w verbose cs) :
    (w.addAll (globalFlags verbose cs)).has .verbose =
      (verbose || (globalFlags verbose cs).contains .verbose) := by
  rw [Bool.eq_iff_iff, Flags.has_addAll, Bool.or_eq_true, List.contains_iff_mem]
  exact ⟨fun hv => hv.elim h.written .inr, fun hv => hv.imp_left h.kept⟩

end Suits

namespace Reading

variable {s t : ReadState} {c : Char} {cs r : List Char} {fuel : Nat}

theorem advance_withFlags (h : advance (s.at cs) = .ok ((), s.at r)) (w : Flags) :
    advance ((s.withFlags w).at cs) = .ok ((), (s.withFlags w).at r) :=
  indifferent_advance.ok_of_blind h w

/-! One step of a branch at the start of the expression. -/

section

variable [CharacterNames] {verbose : Bool} {ns : List Node}

/-- A reader that gets past a character does so under any flags. -/
theorem sequence_char (h : sequence 0 verbose true [] (fuel + 1) (s.at (c :: r)) = .ok (ns, t))
    (htoken : tokenAt (c :: r) = some (.char c)) (hend : ¬(c = '|' ∨ c = ')')) (verbose : Bool)
    (w : Flags) : sequence 0 verbose true [] (fuel + 1) ((s.withFlags w).at (c :: r)) =
      (if verbose && isSpacing c then sequence 0 verbose true [] fuel
      else if verbose && c = '#' then do
        skipLine ((← get).rest.length + 2)
        sequence 0 verbose true [] fuel
      else if c = '(' then do
        match ← opened 0 verbose true fuel with
        | .nothing => sequence 0 verbose true [] fuel
        | .globalFlags _ => sequence 0 ((← get).flags.has .verbose) true [] fuel
        | .part p => sequence 0 verbose true [p] fuel
      else simplePiece (.char c) [] >>= fun next => sequence 0 verbose true next fuel)
        ((s.withFlags w).at r) := by
  rw [sequence, bind_ok peek_at] at h ⊢
  simp only [htoken, beq_iff_eq, Token.char.injEq, Bool.or_eq_true, hend, if_false] at h ⊢
  obtain ⟨⟨⟩, u, hadvance, -⟩ := exists_of_bind_eq_ok h
  have hr : (s.at (c :: r)).rest = r := (List.cons.inj (cons_of_tokenAt htoken)).2.symm
  rw [at_of_advance hadvance, hr] at hadvance
  rw [bind_ok (advance_withFlags hadvance w)]
  rfl

theorem of_sequence_nil (h : sequence 0 verbose true [] fuel (s.at []) = .ok (ns, t))
    (verbose : Bool) (w : Flags) :
    sequence 0 verbose true [] fuel ((s.withFlags w).at []) = .ok (ns, t.withFlags w) := by
  cases fuel with
  | zero => cases h
  | succ fuel =>
    rw [sequence, bind_ok peek_at] at h ⊢
    cases h
    rfl

theorem of_sequence_line
    (h : sequence 0 true true [] (fuel + 1) (s.at ('#' :: r)) = .ok (ns, t)) (w : Flags) :
    sequence 0 true true [] (fuel + 1) ((s.withFlags w).at ('#' :: r)) =
      sequence 0 true true [] fuel ((s.withFlags w).at ((past? '\n' r).getD [])) := by
  have hstep := sequence_char h (tokenAt_cons (by decide)) (by decide) true
  replace h := (hstep s.flags).symm.trans h
  rw [if_neg (by decide), if_pos (by decide), bind_ok get_ok] at h
  obtain ⟨⟨⟩, u, hskip, -⟩ := exists_of_bind_eq_ok h
  obtain rfl := of_skipLine (length_afterToken r) hskip
  have hskip' : skipLine (((s.withFlags w).at r).rest.length + 2) ((s.withFlags w).at r) =
      .ok ((), (s.withFlags w).at ((past? '\n' r).getD [])) :=
    (indifferent_skipLine _).ok_of_blind hskip w
  rw [hstep, if_neg (by decide), if_pos (by decide), bind_ok get_ok, bind_ok hskip']

theorem of_sequence_open
    (h : sequence 0 verbose true [] (fuel + 1) (s.at ('(' :: r)) = .ok (ns, t)) :
    (∃ on r', remark? r = some (on, r') ∧ ∀ w : Flags,
        sequence 0 (w.has .verbose) true [] (fuel + 1) ((s.withFlags w).at ('(' :: r)) =
          sequence 0 ((w.addAll on).has .verbose) true [] fuel
            ((s.withFlags (w.addAll on)).at r')) ∨
      (remark? r = none ∧ ∀ w : Flags, w.has .verbose = s.flags.has .verbose →
        sequence 0 verbose true [] (fuel + 1) ((s.withFlags w).at ('(' :: r)) =
          .ok (ns, t.withFlags w)) := by
  obtain ⟨-, hsequence, hopened⟩ := indifferent_reading fuel
  have hstep (v : Bool) (w : Flags) :
      sequence 0 v true [] (fuel + 1) ((s.withFlags w).at ('(' :: r)) = _ :=
    sequence_char h (tokenAt_cons (by decide)) (by decide) v w
  have hspace (v : Bool) : ¬(v && isSpacing '(') = true := by simp [isSpacing]
  have hline (v : Bool) : ¬(v && decide ('(' = '#')) = true := by simp
  replace h := (hstep verbose s.flags).symm.trans h
  rw [if_neg (hspace _), if_neg (hline _), if_pos rfl] at h
  obtain ⟨o, u, ho, h⟩ := exists_of_bind_eq_ok h
  replace ho : opened 0 verbose true fuel (s.at r) = .ok (o, u) := ho
  rcases of_opened ho with ⟨hno, r', hr', hpassed⟩ | ⟨hpart, hnone, hsame⟩
  · refine .inl ⟨o.turnedOn, r', hr', fun w => ?_⟩
    rw [hstep, if_neg (hspace _), if_neg (hline _), if_pos rfl, bind_ok (hpassed _ w)]
    cases o with
    | nothing => rfl
    | globalFlags on => rfl
    | part p => exact absurd trivial hno
  · refine .inr ⟨hnone, fun w hw => ?_⟩
    have hfalse : opened 0 verbose false fuel (s.at r) = .ok (o, u) :=
      (hsame verbose s.flags).symm.trans ho
    have hread : opened 0 verbose true fuel ((s.withFlags w).at r) = .ok (o, u.withFlags w) :=
      (hsame verbose w).trans ((hopened 0 verbose).ok_at hw hfalse)
    rw [hstep, if_neg (hspace _), if_neg (hline _), if_pos rfl, bind_ok hread]
    cases o with
    | nothing => exact hpart.elim
    | globalFlags on => exact hpart.elim
    | part p =>
      have hflags : u.flags = (s.at r).flags := (hopened 0 verbose).flags hfalse
      refine (hsequence 0 verbose true [p] (by simp)).ok ?_ h
      rw [hflags]
      exact hw

/-- Past the first part nothing is read of the flags but whether spaces count. -/
theorem indifferent_past (verbose : Bool) (fuel : Nat) (next : List Piece) (hnext : next ≠ []) :
    Indifferent (Flags.has · .verbose) (sequence 0 verbose true next fuel) :=
  (indifferent_reading fuel).2.1 0 verbose true next (by simp [hnext])

theorem of_sequence_escaped
    (h : sequence 0 verbose true [] (fuel + 1) (s.at cs) = .ok (ns, t))
    (htoken : tokenAt cs = some (.escaped c)) {w : Flags}
    (hw : w.has .verbose = s.flags.has .verbose) :
    sequence 0 verbose true [] (fuel + 1) ((s.withFlags w).at cs) = .ok (ns, t.withFlags w) := by
  rw [sequence, bind_ok peek_at] at h ⊢
  simp only [htoken] at h ⊢
  rw [if_neg (by simp)] at h ⊢
  obtain ⟨⟨⟩, u, hadvance, h⟩ := exists_of_bind_eq_ok h
  obtain rfl : u = s.at (afterToken cs) := at_of_advance hadvance
  rw [bind_ok (advance_withFlags hadvance w)]
  exact (indifferent_simple (.escaped c) [] (indifferent_past verbose fuel)).ok_at hw h

theorem of_sequence_ends
    (h : sequence 0 verbose true [] (fuel + 1) (s.at (c :: r)) = .ok (ns, t))
    (htoken : tokenAt (c :: r) = some (.char c)) (hend : c = '|' ∨ c = ')') (w : Flags) :
    sequence 0 verbose true [] (fuel + 1) ((s.withFlags w).at (c :: r)) =
      .ok (ns, t.withFlags w) := by
  rw [sequence, bind_ok peek_at] at h ⊢
  simp only [htoken] at h ⊢
  rw [if_pos (by simpa using hend)] at h ⊢
  cases h
  rfl

/-- A line that is passed over ends the text or goes on behind its end. -/
theorem of_sequence_hash
    (h : sequence 0 true true [] (fuel + 1) (s.at ('#' :: r)) = .ok (ns, t)) :
    (∃ r', past? '\n' r = some r' ∧ ∀ w : Flags,
        sequence 0 true true [] (fuel + 1) ((s.withFlags w).at ('#' :: r)) =
          sequence 0 true true [] fuel ((s.withFlags w).at r')) ∨
      (past? '\n' r = none ∧ ∀ w : Flags,
        sequence 0 true true [] (fuel + 1) ((s.withFlags w).at ('#' :: r)) =
          .ok (ns, t.withFlags w)) := by
  have hnext := of_sequence_line h
  cases hr : past? '\n' r with
  | some r' =>
    rw [hr] at hnext
    exact .inl ⟨r', rfl, hnext⟩
  | none =>
    rw [hr] at hnext
    refine .inr ⟨rfl, fun w => ?_⟩
    rw [hnext]
    exact of_sequence_nil ((hnext s.flags).symm.trans h) true w

/-- At the start an aside is passed over, under all flags under which it is one, and what is no
aside is read as it would be elsewhere. -/
theorem of_sequence (h : sequence 0 verbose true [] (fuel + 1) (s.at cs) = .ok (ns, t)) :
    (∃ on r, aside? verbose cs = some (on, r) ∧
        ∀ w : Flags, (verbose = true → w.has .verbose = true) →
          sequence 0 (w.has .verbose) true [] (fuel + 1) ((s.withFlags w).at cs) =
            sequence 0 ((w.addAll on).has .verbose) true [] fuel
              ((s.withFlags (w.addAll on)).at r)) ∨
      (aside? verbose cs = none ∧ ∀ w : Flags, w.has .verbose = s.flags.has .verbose →
        sequence 0 verbose true [] (fuel + 1) ((s.withFlags w).at cs) =
          .ok (ns, t.withFlags w)) := by
  match htoken : tokenAt cs with
  | none =>
    rw [nil_of_tokenAt htoken] at h ⊢
    exact .inr ⟨rfl, fun w _ => of_sequence_nil h verbose w⟩
  | some (.escaped c) =>
    refine .inr ⟨?_, fun w hw => of_sequence_escaped h htoken hw⟩
    obtain ⟨r, rfl⟩ := cons_of_tokenAt_escaped htoken
    simp [aside?, isSpacing]
  | some (.char c) =>
    obtain ⟨r, rfl⟩ : ∃ r, cs = c :: r := ⟨_, cons_of_tokenAt htoken⟩
    rw [aside?]
    by_cases hend : c = '|' ∨ c = ')'
    · refine .inr ⟨?_, fun w _ => of_sequence_ends h htoken hend w⟩
      rcases hend with rfl | rfl <;> simp [isSpacing]
    have hstep := sequence_char h htoken hend
    by_cases hspace : (verbose && isSpacing c) = true
    · obtain ⟨hverbose, hc⟩ := Bool.and_eq_true_iff.1 hspace
      rw [if_pos hspace]
      refine .inl ⟨[], r, rfl, fun w hw => ?_⟩
      rw [hstep, if_pos (by rw [hw hverbose, hc]; rfl)]
      rfl
    rw [if_neg hspace]
    by_cases hline : (verbose && decide (c = '#')) = true
    · obtain ⟨rfl, hc⟩ := Bool.and_eq_true_iff.1 hline
      obtain rfl := of_decide_eq_true hc
      rw [if_pos hline]
      rcases of_sequence_hash h with ⟨r', hr', hpassed⟩ | ⟨hnone, hsame⟩
      · rw [hr']
        refine .inl ⟨[], r', rfl, fun w hw => ?_⟩
        rw [hw rfl, hpassed]
        exact congrArg (sequence 0 · true [] fuel _) (hw rfl).symm
      · rw [hnone]
        exact .inr ⟨rfl, fun w _ => hsame w⟩
    rw [if_neg hline]
    by_cases hopen : c = '('
    · subst hopen
      rw [if_pos rfl]
      rcases of_sequence_open h with ⟨on, r', hr', hpassed⟩ | hnone
      · exact .inl ⟨on, r', hr', fun w _ => hpassed w⟩
      · exact .inr hnone
    · replace h := (hstep verbose s.flags).symm.trans h
      rw [if_neg hspace, if_neg hline, if_neg hopen] at h
      rw [if_neg hopen]
      refine .inr ⟨rfl, fun w hw => ?_⟩
      rw [hstep, if_neg hspace, if_neg hline, if_neg hopen]
      exact (indifferent_simple (.char c) [] (indifferent_past verbose fuel)).ok_at hw h

end

section

variable [CharacterNames] {verbose : Bool} {ns : List Node} {w : Flags}

/-- Aside by aside: other flags change nothing but the flags, to which those are added that the
text turns on. -/
theorem sequence_withFlags (h : sequence 0 verbose true [] fuel (s.at cs) = .ok (ns, t))
    (hverbose : s.flags.has .verbose = verbose) (hw : Suits w verbose cs) :
    sequence 0 (w.has .verbose) true [] fuel ((s.withFlags w).at cs) =
      .ok (ns, t.withFlags (w.addAll (globalFlags verbose cs))) := by
  -- both sets of flags grow by those of each aside, so the induction is over all flags
  induction fuel generalizing s cs verbose w with
  | zero => cases h
  | succ fuel ih =>
    rcases of_sequence h with ⟨on, r, haside, hnext⟩ | ⟨hnone, hsame⟩
    · have hafter : (s.flags.addAll on).has .verbose = (verbose || on.contains .verbose) := by
        rw [Flags.has_addAll_eq, hverbose]
      have hrest : sequence 0 (verbose || on.contains .verbose) true [] fuel
          ((s.withFlags (s.flags.addAll on)).at r) = .ok (ns, t) := by
        rw [← hafter, ← hnext s.flags hverbose.trans, hverbose]
        exact h
      have hrun := ih hrest hafter (hw.rest haside)
      rw [hnext w hw.kept, globalFlags_of_some haside, Flags.addAll_append]
      exact hrun
    · have hsees := hw.has_eq hnone
      rw [hsees, globalFlags_of_none hnone]
      exact hsame w (hsees.trans hverbose.symm)

theorem flags_of_sequence (h : sequence 0 verbose true [] fuel (s.at cs) = .ok (ns, t))
    (hverbose : s.flags.has .verbose = verbose) :
    t.flags = s.flags.addAll (globalFlags verbose cs) := by
  have hsame := sequence_withFlags h hverbose (Suits.of_has hverbose)
  rw [hverbose, show (s.withFlags s.flags).at cs = s.at cs from rfl, h] at hsame
  exact congrArg (fun x : List Node × ReadState => x.2.flags) (Except.ok.inj hsame)

theorem alternation_start : alternation 0 verbose [] (fuel + 1) = do
    let parts ← sequence 0 verbose true [] fuel
    if ← accept '|' then alternation 0 ((← get).flags.has .verbose) [parts] fuel
    else return branches [parts] := by
  rw [alternation]
  rfl

/-- Branch by branch: the later ones are past the start. -/
theorem alternation_withFlags (h : alternation 0 verbose [] fuel (s.at cs) = .ok (ns, t))
    (hverbose : s.flags.has .verbose = verbose) (hw : Suits w verbose cs) :
    alternation 0 (w.has .verbose) [] fuel ((s.withFlags w).at cs) =
      .ok (ns, t.withFlags (w.addAll (globalFlags verbose cs))) := by
  cases fuel with
  | zero => cases h
  | succ fuel =>
    rw [alternation_start] at h ⊢
    obtain ⟨parts, u, hsequence, h⟩ := exists_of_bind_eq_ok h
    obtain ⟨more, v, haccept, h⟩ := exists_of_bind_eq_ok h
    have hbar : Indifferent (fun _ => true) (accept '|') := indifferent_accept '|'
    rw [bind_ok (sequence_withFlags hsequence hverbose hw), bind_ok (hbar.ok_of_blind haccept _)]
    cases more with
    | false =>
      cases h
      rfl
    | true =>
      have hflags : v.flags = s.flags.addAll (globalFlags verbose cs) :=
        (hbar.flags haccept).trans (flags_of_sequence hsequence hverbose)
      have hsees : (w.addAll (globalFlags verbose cs)).has .verbose = v.flags.has .verbose := by
        rw [hw.has_addAll, hflags, Flags.has_addAll_eq, hverbose]
      have hbranch : Indifferent (Flags.has · .verbose)
          (alternation 0 (v.flags.has .verbose) [parts] fuel) :=
        (indifferent_reading fuel).1 0 _ [parts] (.inr (by simp))
      -- whether spaces count in the next branch is read off the flags so far
      show alternation 0 ((w.addAll (globalFlags verbose cs)).has .verbose) [parts] fuel _ = _
      rw [hsees]
      exact hbranch.ok hsees h

theorem flags_of_alternation (h : alternation 0 verbose [] fuel (s.at cs) = .ok (ns, t))
    (hverbose : s.flags.has .verbose = verbose) :
    t.flags = s.flags.addAll (globalFlags verbose cs) := by
  have hsame := alternation_withFlags h hverbose (Suits.of_has hverbose)
  rw [hverbose, show (s.withFlags s.flags).at cs = s.at cs from rfl, h] at hsame
  exact congrArg (fun x : List Node × ReadState => x.2.flags) (Except.ok.inj hsame)

end

end Reading

/-! The whole expression. -/

theorem Program.eq_of_check {p q : Program} (h : p.check = .ok q) : p = q := by
  unfold check at h
  split at h
  · cases h
  · split_ifs at h
    cases h
    rfl

section

variable [CharacterNames]

theorem readAll_eq_ok_iff {s t : ReadState} {p : Program} : readAll s = .ok (p, t) ↔
    Reading.advance s = .ok ((), s.at s.rest) ∧ ∃ parts,
      Reading.alternation 0 (s.flags.has .verbose) [] (3 * (s.at s.rest).rest.length + 8)
        (s.at s.rest) = .ok (parts, t) ∧
      t.flags.settle = .ok p.flags ∧ ¬t.next.isSome ∧
      ¬t.conditions.any (Reading.groupCount t ≤ ·) ∧
      p.groups = Reading.groupCount t - 1 ∧ p.node = Node.ofList parts := by
  rw [readAll]
  constructor
  · intro h
    obtain ⟨⟨⟩, u, hadvance, h⟩ := Reading.exists_of_bind_eq_ok h
    obtain rfl := Reading.at_of_advance hadvance
    rw [Reading.bind_ok Reading.get_ok] at h
    obtain ⟨parts, v, halternation, h⟩ := Reading.exists_of_bind_eq_ok h
    rw [Reading.bind_ok Reading.get_ok] at h
    obtain ⟨flags, x, hsettle, h⟩ := Reading.exists_of_bind_eq_ok h
    obtain ⟨hsettle, rfl⟩ := Reading.lift_eq_ok_iff.1 hsettle
    obtain ⟨hend, h⟩ := Reading.of_check h
    obtain ⟨hgroups, h⟩ := Reading.of_check h
    cases h
    exact ⟨hadvance, parts, halternation, hsettle, hend, hgroups, rfl, rfl⟩
  · rintro ⟨hadvance, parts, halternation, hsettle, hend, hgroups, hp, hnode⟩
    have hlift : (liftM t.flags.settle : Reading Flags) t = .ok (p.flags, t) :=
      Reading.lift_eq_ok_iff.2 ⟨hsettle, rfl⟩
    have hflags : (s.at s.rest).flags = s.flags := rfl
    rw [Reading.bind_ok hadvance, Reading.bind_ok Reading.get_ok]
    dsimp only
    rw [hflags, Reading.bind_ok halternation, Reading.bind_ok Reading.get_ok, Reading.bind_ok hlift,
      if_neg hend, if_neg hgroups, ← hp, ← hnode]
    rfl

theorem settle_of_readAll {s t : ReadState} {p : Program} (h : readAll s = .ok (p, t)) :
    (s.flags.addAll (globalFlags (s.flags.has .verbose) s.rest)).settle = .ok p.flags := by
  obtain ⟨-, parts, halternation, hsettle, -⟩ := readAll_eq_ok_iff.1 h
  have hflags : t.flags = s.flags.addAll (globalFlags (s.flags.has .verbose) s.rest) :=
    Reading.flags_of_alternation halternation rfl
  rw [← hflags, hsettle]

theorem compile_eq_ok_iff {source : String} {w : Flags} {p : Program} :
    compile source w = .ok p ↔ p.check = .ok p ∧
      ∃ t, readAll { next := none, rest := source.toList, flags := w } = .ok (p, t) := by
  unfold compile read
  constructor
  · intro h
    cases hread : readAll.run { next := none, rest := source.toList, flags := w } with
    | error e =>
      rw [hread] at h
      cases h
    | ok x =>
      rw [hread] at h
      obtain rfl := Program.eq_of_check h
      exact ⟨h, x.2, hread⟩
  · rintro ⟨hcheck, t, hread⟩
    show (Except.map _ (readAll _)).bind _ = _
    rw [hread]
    exact hcheck

/-- A program has the flags that were given and those that the expression turns on for the whole
of itself, and an alphabet. -/
theorem settle_of_compile {source : String} {w : Flags} {p : Program}
    (h : compile source w = .ok p) :
    (w.addAll (globalFlags (w.has .verbose) source.toList)).settle = .ok p.flags := by
  obtain ⟨-, t, hread⟩ := compile_eq_ok_iff.1 h
  exact settle_of_readAll hread

end

namespace Flags

variable {w w' : Flags} {f : Flag} {on : List Flag}

theorem has_of_settle (h : w.settle = .ok w') (hf : w.has f = true) : w'.has f = true := by
  unfold settle at h
  split_ifs at h <;> cases h
  · exact has_add.2 (.inl hf)
  · exact hf

theorem settle_addAll_unicode (h : ∀ f ∈ on, f = .unicode) :
    settle (addAll 0 on) = .ok Flag.unicode.value := by
  cases on with
  | nil => rfl
  | cons f on =>
    obtain ⟨rfl, hon⟩ := List.forall_mem_cons.1 h
    have hsame : addAll Flag.unicode.value on = Flag.unicode.value :=
      addAll_of_has fun f hf => by rw [hon f hf]; rfl
    rw [show addAll 0 (.unicode :: on) = addAll Flag.unicode.value on from rfl, hsame]
    rfl

end Flags

end PathPolicy.Regex
