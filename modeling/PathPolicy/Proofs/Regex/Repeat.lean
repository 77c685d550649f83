import PathPolicy.Proofs.Regex.Cursor
import PathPolicy.Proofs.Regex.Grammar

/-! Reading the signs for repeats: each quantifier gives its bounds, and a brace that begins
none is put back. -/

namespace PathPolicy.Regex

namespace Reading

variable {s : ReadState} {sign : Char} {cs r : List Char}

theorem count_ok {ds : List Char} (hlen : ds.length ≤ Number.longestInteger)
    (hvalue : digitsValue 10 ds < repeatLimit) : count ds s = .ok (digitsValue 10 ds, s) := by
  rw [count, if_neg (by omega)]
  show (if repeatLimit ≤ digitsValue 10 ds then _ else _ : Reading Nat) s = _
  rw [if_neg (by omega)]
  rfl

/-! Counts in braces. -/

/-- No digit comes next. -/
def PastDigits (r : List Char) : Prop := ∀ c ∈ r.head?, c.isDigit = false

theorem PastDigits.cons {c : Char} (h : c.isDigit = false) : PastDigits (c :: r) := by
  rintro _ ⟨⟩
  exact h

variable {ds lo hi : List Char}

/-- All digits that come next, if there is room for them. -/
theorem digits_at {n : Nat} (hds : ∀ d ∈ ds, d.isDigit = true) (hpast : PastDigits r)
    (hr : Whole r) (hn : ds.length ≤ n) :
    takeWhile Char.isDigit n (s.at (ds ++ r)) = .ok (ds, s.at r) :=
  takeWhile_at (by decide) hds hr (hn.eq_or_lt.imp_right fun hlt => ⟨hlt, hpast⟩)

/-- The text starts with as many digits as there are. -/
theorem exists_digits (h : Whole cs) : ∃ ds r, cs = ds ++ r ∧ (∀ d ∈ ds, d.isDigit = true) ∧
    PastDigits r ∧ Whole r := by
  have hsplit := List.takeWhile_append_dropWhile (p := Char.isDigit) (l := cs)
  have hdigits : ∀ d ∈ cs.takeWhile Char.isDigit, d.isDigit = true :=
    fun d hd => List.mem_takeWhile_imp hd
  refine ⟨_, _, hsplit.symm, hdigits, fun c hc => ?_, ?_⟩
  · have hstop := List.head?_dropWhile_not Char.isDigit cs
    rw [Option.mem_def.1 hc] at hstop
    simpa using hstop
  · rw [← hsplit, whole_append fun hslash => absurd (hdigits _ hslash) (by decide)] at h
    exact h

theorem length_digits_le (hds : ∀ d ∈ ds, d.isDigit = true) (r : List Char) :
    ds.length ≤ (afterToken (ds ++ r)).length + 1 := by
  cases ds with
  | nil => simp
  | cons d ds =>
    have hslash : d ≠ '\\' := by
      rintro rfl
      exact absurd (hds _ List.mem_cons_self) (by decide)
    rw [List.cons_append, afterToken_cons hslash]
    simp

/-- Behind a digit the braces are not closed at once. -/
theorem not_closed (hds : ∀ d ∈ ds, d.isDigit = true) (h : ds = [] → cs.head? ≠ some '\x7d') :
    tokenAt (ds ++ cs) ≠ some (.char '\x7d') := by
  intro hclosed
  have hhead := head?_of_tokenAt hclosed
  cases ds with
  | nil => exact h rfl hhead
  | cons d ds =>
    obtain rfl : d = '\x7d' := by simpa using hhead
    exact absurd (hds _ List.mem_cons_self) (by decide)

/-- The end of a repeat in braces, after its counts. -/
def closeBraces (start : ReadState) (lo hi : List Char) : Reading (Option (Nat × Option Nat)) := do
  if !(← accept '\x7d') then
    set start
    return none
  let least ← if lo.isEmpty then pure 0 else count lo
  if hi.isEmpty then return some (least, none)
  let most ← count hi
  if most < least then fail .repeatBoundsSwapped
  return some (least, some most)

theorem braces?_eq : braces? = (do
    let start ← get
    if (← peek) == some (.char '\x7d') then return none
    let room := start.rest.length + 1
    let lo ← takeWhile Char.isDigit room
    if ← accept ',' then
      let hi ← takeWhile Char.isDigit room
      closeBraces start lo hi
    else closeBraces start lo lo) := by
  simp only [braces?, closeBraces, pure_bind]

/-- One count, or none. -/
theorem braces?_alone (hlo : ∀ d ∈ lo, d.isDigit = true) (hpast : PastDigits r) (hr : Whole r)
    (hcomma : r.head? ≠ some ',') (hclosed : lo = [] → r.head? ≠ some '\x7d') :
    braces? (s.at (lo ++ r)) = closeBraces (s.at (lo ++ r)) lo lo (s.at r) := by
  rw [braces?_eq, bind_ok get_ok, bind_ok peek_at, if_neg (by simpa using not_closed hlo hclosed),
    ReadState.at_rest, bind_ok (digits_at hlo hpast hr (length_digits_le hlo r)),
    bind_ok (accept_no hcomma)]
  rfl

/-- A comma, and what stands on both sides of it. -/
theorem braces?_comma (hlo : ∀ d ∈ lo, d.isDigit = true) (hhi : ∀ d ∈ hi, d.isDigit = true)
    (hpast : PastDigits r) (hr : Whole r) :
    braces? (s.at (lo ++ ',' :: (hi ++ r))) =
      closeBraces (s.at (lo ++ ',' :: (hi ++ r))) lo hi (s.at r) := by
  have hwhole : Whole (hi ++ r) := whole_append_of_kind (by decide) hhi hr
  have hclosed : tokenAt (lo ++ ',' :: (hi ++ r)) ≠ some (.char '\x7d') :=
    not_closed hlo fun _ => by simp
  have hroom : hi.length ≤ (afterToken (lo ++ ',' :: (hi ++ r))).length + 1 := by
    have hafter := length_afterToken (lo ++ ',' :: (hi ++ r))
    simp only [List.length_append, List.length_cons] at hafter
    omega
  rw [braces?_eq, bind_ok get_ok, bind_ok peek_at, if_neg (by simpa using hclosed),
    ReadState.at_rest, bind_ok (digits_at hlo (.cons (by decide)) ((whole_cons (by decide)).2 hwhole)
      (length_digits_le hlo _)), bind_ok (accept_char (by decide) hwhole)]
  simp only [if_true]
  rw [bind_ok (digits_at hhi hpast hr hroom)]

theorem closeBraces_ok (start : ReadState) {lo : List Char} {hi : Option (List Char)}
    (hm : (Quantifier.counted lo hi).Modest)
    (hb : ∀ top ∈ (Quantifier.counted lo hi).most, (Quantifier.counted lo hi).least ≤ top)
    (hr : Whole r) :
    closeBraces start lo (hi.getD lo) (s.at ('\x7d' :: r)) =
      .ok (some ((Quantifier.counted lo hi).least, (Quantifier.counted lo hi).most), s.at r) := by
  have hcount : ∀ ds, ds = lo ∨ ds ∈ hi → count ds (s.at r) = .ok (digitsValue 10 ds, s.at r) := by
    intro ds hds
    obtain ⟨hlen, hvalue⟩ := hm ds (by simpa [Quantifier.counts] using hds)
    exact count_ok hlen hvalue
  have hleast : ∀ k : Nat → Reading (Option (Nat × Option Nat)),
      (if lo.isEmpty then pure 0 >>= k else count lo >>= k) (s.at r) =
        k (digitsValue 10 lo) (s.at r) := by
    intro k
    by_cases hlo : lo = []
    · subst hlo
      rfl
    · rw [if_neg (by simpa using hlo), bind_ok (hcount lo (.inl rfl))]
  rw [closeBraces, bind_ok (accept_char (by decide) hr)]
  simp only [Bool.not_true, Bool.false_eq_true, if_false]
  rw [hleast]
  simp only [Quantifier.most, Quantifier.least] at hb ⊢
  by_cases hhi : (hi.getD lo).isEmpty = true
  · simp only [hhi, if_true, pure_ok]
  · simp only [hhi, Bool.false_eq_true, if_false] at hb ⊢
    have hwritten : hi.getD lo = lo ∨ hi.getD lo ∈ hi := by cases hi <;> simp
    rw [bind_ok (hcount _ hwritten), if_neg (by have := hb _ rfl; omega), pure_ok]

theorem braces?_counted {hi : Option (List Char)}
    (hq : (Quantifier.counted lo hi).Written) (hm : (Quantifier.counted lo hi).Modest)
    (hb : ∀ top ∈ (Quantifier.counted lo hi).most, (Quantifier.counted lo hi).least ≤ top)
    (hr : Whole r) (hcs : (Quantifier.counted lo hi).text ++ r = '\x7b' :: cs) :
    braces? (s.at cs) =
      .ok (some ((Quantifier.counted lo hi).least, (Quantifier.counted lo hi).most), s.at r) := by
  have hlo : ∀ d ∈ lo, d.isDigit = true := hq.digits lo (by simp [Quantifier.counts])
  have hend := closeBraces_ok (s := s) (s.at cs) hm hb hr
  have hclose : Whole ('\x7d' :: r) := (whole_cons (by decide)).2 hr
  cases hi with
  | none =>
    obtain rfl : lo ++ '\x7d' :: r = cs := by simpa [Quantifier.text] using hcs
    have hne : lo ≠ [] := fun h => hq.notEmpty (by rw [h])
    rw [braces?_alone hlo (.cons (by decide)) hclose (by simp) fun h => absurd h hne]
    exact hend
  | some hi =>
    obtain rfl : lo ++ ',' :: (hi ++ '\x7d' :: r) = cs := by simpa [Quantifier.text] using hcs
    have hhi : ∀ d ∈ hi, d.isDigit = true := hq.digits hi (by simp [Quantifier.counts])
    rw [braces?_comma hlo hhi (.cons (by decide)) hclose]
    exact hend

theorem closeBraces_none {start : ReadState} (h : cs.head? ≠ some '\x7d') :
    closeBraces start lo hi (s.at cs) = .ok (none, start) := by
  rw [closeBraces, bind_ok (accept_no h)]
  rfl

theorem written_counted (top : Option (List Char)) (hlo : ∀ d ∈ lo, d.isDigit = true)
    (htop : ∀ ds ∈ top, ∀ d ∈ ds, d.isDigit = true) (hne : ¬(lo = [] ∧ top = none)) :
    (Quantifier.counted lo top).Written where
  digits ds hds := by
    rcases List.mem_cons.1 hds with rfl | hds
    · exact hlo
    · exact htop ds (Option.mem_toList.1 hds)
  notEmpty h := by
    injection h with h h'
    exact hne ⟨h, h'⟩

/-- A brace that begins no quantifier is left alone. -/
theorem braces?_none (h : Whole r)
    (hno : ∀ (q : Quantifier) (r' : List Char), q.Written → '\x7b' :: r ≠ q.text ++ r') :
    braces? (s.at r) = .ok (none, s.at r) := by
  by_cases hfirst : tokenAt r = some (.char '\x7d')
  · rw [braces?_eq, bind_ok get_ok, bind_ok peek_at, if_pos (by simp [hfirst]), pure_ok]
  obtain ⟨lo, x, rfl, hlo, hpast, hx⟩ := exists_digits h
  by_cases hcomma : x.head? = some ','
  · obtain ⟨y, rfl⟩ := List.head?_eq_some_iff.1 hcomma
    obtain ⟨hi, z, rfl, hhi, hpast', hz⟩ := exists_digits ((whole_cons (by decide)).1 hx)
    rw [braces?_comma hlo hhi hpast' hz]
    refine closeBraces_none fun hclose => ?_
    obtain ⟨r', rfl⟩ := List.head?_eq_some_iff.1 hclose
    exact hno _ r' (written_counted (some hi) hlo (by simpa using hhi) (by simp))
      (by simp [Quantifier.text])
  · have hopen : lo = [] → x.head? ≠ some '\x7d' := by
      rintro rfl hclose
      obtain ⟨r', rfl⟩ := List.head?_eq_some_iff.1 hclose
      exact hfirst rfl
    rw [braces?_alone hlo hpast hx hcomma hopen]
    refine closeBraces_none fun hclose => ?_
    obtain ⟨r', rfl⟩ := List.head?_eq_some_iff.1 hclose
    have hne : lo ≠ [] := fun e => hopen e rfl
    exact hno _ r' (written_counted none hlo (by simp) (by simp [hne]))
      (by simp [Quantifier.text])

theorem sign_of_text {q : Quantifier} (hcs : q.text ++ r = sign :: cs) :
    sign = '*' ∨ sign = '+' ∨ sign = '?' ∨ sign = '\x7b' := by
  cases q with
  | star => exact .inl (List.cons.inj hcs).1.symm
  | plus => exact .inr (.inl (List.cons.inj hcs).1.symm)
  | optional => exact .inr (.inr (.inl (List.cons.inj hcs).1.symm))
  | counted lo hi => cases hi <;> exact .inr (.inr (.inr (List.cons.inj hcs).1.symm))

/-- Every quantifier gives its bounds. -/
theorem bounds?_at {q : Quantifier} (hq : q.Written) (hm : q.Modest)
    (hb : ∀ top ∈ q.most, q.least ≤ top) (hr : Whole r) (hcs : q.text ++ r = sign :: cs) :
    bounds? sign (s.at cs) = .ok (some (q.least, q.most), s.at r) := by
  cases q with
  | star =>
    obtain ⟨rfl, rfl⟩ := List.cons.inj hcs
    rfl
  | plus =>
    obtain ⟨rfl, rfl⟩ := List.cons.inj hcs
    rfl
  | optional =>
    obtain ⟨rfl, rfl⟩ := List.cons.inj hcs
    rfl
  | counted lo hi =>
    obtain rfl : '\x7b' = sign := by
      cases hi <;> exact (List.cons.inj hcs).1
    exact braces?_counted hq hm hb hr hcs

theorem greed_lazy (hr : Whole r) : greed (s.at ('?' :: r)) = .ok (.lazy, s.at r) := by
  rw [greed, bind_ok (accept_char (by decide) hr)]
  rfl

theorem greed_greedy (hlazy : r.head? ≠ some '?') (hpossessive : r.head? ≠ some '+') :
    greed (s.at r) = .ok (.greedy, s.at r) := by
  rw [greed, bind_ok (accept_no hlazy)]
  show (accept '+' >>= _) (s.at r) = _
  rw [bind_ok (accept_no hpossessive)]
  rfl

end Reading

end PathPolicy.Regex
