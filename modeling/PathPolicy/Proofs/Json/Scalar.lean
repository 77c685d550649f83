import PathPolicy.Proofs.Json.Grammar

/-! Strings, numbers and words: what the acceptor takes off the front of a text is derived, and
a derived text is taken off whole when nothing that could belong to a number follows it. -/

namespace PathPolicy.Json

variable {b cs r v : List Char} {c : Char}

/-! Blanks. -/

theorem skipBlanks_append (hb : Blanks b) : skipBlanks (b ++ r) = skipBlanks r :=
  List.dropWhile_append_of_pos hb

theorem skipBlanks_of_blanks (hb : Blanks b) : skipBlanks b = [] := by
  simpa [skipBlanks] using skipBlanks_append (r := []) hb

theorem skipBlanks_cons (hc : isBlank c = false) : skipBlanks (c :: cs) = c :: cs := by
  simp [skipBlanks, hc]

theorem exists_blanks (cs : List Char) : ∃ b, Blanks b ∧ cs = b ++ skipBlanks cs :=
  ⟨cs.takeWhile isBlank, fun _ hc => List.mem_takeWhile_imp hc,
    (List.takeWhile_append_dropWhile).symm⟩

/-! Strings. -/

theorem body_of_string (h : string cs = .ok r) :
    ∃ body, cs = body ++ '"' :: r ∧ StringBody body := by
  fun_induction string cs with
  | case2 =>
    cases h
    exact ⟨[], rfl, .nil⟩
  | case4 a b d e t hhex _ _ ih =>
    obtain ⟨body, rfl, hbody⟩ := ih h
    simp only [Bool.and_eq_true] at hhex
    obtain ⟨⟨⟨ha, hb⟩, hd⟩, he⟩ := hhex
    exact ⟨_, rfl, .code ha hb hd he hbody⟩
  | case6 e t _ hescapable _ _ ih =>
    obtain ⟨body, rfl, hbody⟩ := ih h
    exact ⟨_, rfl, .escape hescapable hbody⟩
  | case9 c t hquote hlow hslash ih =>
    obtain ⟨body, rfl, hbody⟩ := ih h
    exact ⟨_, rfl, .plain hquote hslash (by omega) hbody⟩
  | _ => cases h

theorem string_ne_tooDeep (cs : List Char) : string cs ≠ .error .tooDeep := by
  fun_induction string cs <;> simp_all

theorem string_of_body (h : StringBody cs) (r : List Char) : string (cs ++ '"' :: r) = .ok r := by
  induction h with
  | nil =>
    rw [List.nil_append, string.eq_def]
    rfl
  | plain hquote hslash hlow _ ih =>
    rw [List.cons_append, string.eq_def]
    simp only [hquote, hslash, hlow.not_gt, if_false, ih]
  | escape hc _ ih =>
    simp only [isEscapable, List.contains_cons, List.contains_nil, Bool.or_false, Bool.or_eq_true,
      beq_iff_eq] at hc
    rw [List.cons_append, List.cons_append, string.eq_def]
    rcases hc with rfl | rfl | rfl | rfl | rfl | rfl | rfl | rfl <;> exact ih
  | code ha hb hc hd _ ih =>
    rw [string.eq_def]
    simp only [List.cons_append, ha, hb, hc, hd, Bool.and_self, if_true]
    exact ih

/-! Numbers. -/

/-- The text goes on with nothing that could belong to a number. -/
def NoNumber (r : List Char) : Prop :=
  ∀ c ∈ r.head?, c.isDigit = false ∧ c ≠ '.' ∧ c ≠ 'e' ∧ c ≠ 'E'

theorem digits_fst (cs : List Char) : ∀ c ∈ (digits cs).1, c.isDigit = true :=
  fun _ hc => List.mem_takeWhile_imp hc

theorem digits_append {ds : List Char} (hds : ∀ c ∈ ds, c.isDigit = true)
    (hr : ∀ c ∈ r.head?, c.isDigit = false) : digits (ds ++ r) = (ds, r) := by
  unfold digits
  rw [List.takeWhile_append_of_pos hds, List.dropWhile_append_of_pos hds]
  cases r with
  | nil => simp
  | cons c r => simp [hr c rfl]

theorem digits_split (cs : List Char) : (digits cs).1 ++ (digits cs).2 = cs :=
  List.takeWhile_append_dropWhile

theorem fraction_of_fraction? (h : fraction? cs = some r) :
    ∃ ds, cs = '.' :: (ds ++ r) ∧ Digits ds := by
  unfold fraction? at h
  split at h
  · next t =>
    split at h
    · cases h
    · next hne =>
      cases h
      exact ⟨(digits t).1, by rw [digits_split], by simpa using hne, digits_fst t⟩
  · cases h

theorem dropSign_split (cs : List Char) :
    ∃ sign ∈ [[], ['+'], ['-']], cs = sign ++ dropSign cs := by
  unfold dropSign
  split
  · exact ⟨['+'], by simp, rfl⟩
  · exact ⟨['-'], by simp, rfl⟩
  · exact ⟨[], by simp, rfl⟩

theorem exponent_of_exponent? (h : exponent? cs = some r) :
    ∃ e, cs = e ++ r ∧ e ≠ [] ∧ Exponent e := by
  unfold exponent? at h
  split at h
  · next mark t =>
    split at h
    · next hmark =>
      simp only at h
      split at h
      · cases h
      · next hne =>
        cases h
        obtain ⟨sign, hsign, ht⟩ := dropSign_split t
        refine ⟨mark :: (sign ++ (digits (dropSign t)).1), ?_, by simp,
          .digits (by simpa using hmark) hsign ⟨by simpa using hne, digits_fst _⟩⟩
        rw [List.cons_append, List.append_assoc, digits_split, ← ht]
    · cases h
  · cases h

theorem integer_of_whole? {ds : List Char} (h : whole? cs = some (ds, r)) :
    cs = ds ++ r ∧ Integer ds := by
  unfold whole? at h
  split at h
  · cases h
    exact ⟨rfl, .zero⟩
  · next c t hzero =>
    split at h
    · next hc =>
      have hne : c ≠ '0' := hzero
      have hsplit : digits (c :: t) = (c :: (digits t).1, (digits t).2) := by simp [digits, hc]
      rw [hsplit] at h
      cases h
      exact ⟨by rw [List.cons_append, digits_split], .digits hne hc (digits_fst t)⟩
    · cases h
  · cases h

/-- The text without the sign of a number. -/
def unsigned (cs : List Char) : List Char :=
  match cs with
  | '-' :: r => r
  | _ => cs

theorem unsigned_split (cs : List Char) : ∃ sign ∈ [[], ['-']], cs = sign ++ unsigned cs := by
  unfold unsigned
  split
  · exact ⟨['-'], by simp, rfl⟩
  · exact ⟨[], by simp, rfl⟩

/-- What follows the digits before the point. -/
def numberTail (ds r : List Char) : Rest :=
  match fraction? r with
  | some r => .ok ((exponent? r).getD r)
  | none =>
    match exponent? r with
    | some r => .ok r
    | none => if Number.longestInteger < ds.length then .error .malformed else .ok r

theorem number_eq (cs : List Char) : number cs =
    match whole? (unsigned cs) with
    | none => .error .malformed
    | some (ds, r) => numberTail ds r := rfl

theorem exponent_getD (cs : List Char) :
    ∃ e, cs = e ++ (exponent? cs).getD cs ∧ Exponent e := by
  cases h : exponent? cs with
  | none => exact ⟨[], rfl, .none⟩
  | some r =>
    obtain ⟨e, he, -, hexponent⟩ := exponent_of_exponent? h
    exact ⟨e, he, hexponent⟩

theorem text_of_numberTail {ds : List Char} (h : numberTail ds cs = .ok r) :
    ∃ fraction exponent, cs = fraction ++ (exponent ++ r) ∧ Fraction fraction ∧ Exponent exponent ∧
      (fraction = [] → exponent = [] → ds.length ≤ Number.longestInteger) := by
  unfold numberTail at h
  split at h
  · next t hfraction =>
    cases h
    obtain ⟨fs, hcs, hfs⟩ := fraction_of_fraction? hfraction
    obtain ⟨e, ht, he⟩ := exponent_getD t
    refine ⟨'.' :: fs, e, ?_, .digits hfs, he, by simp⟩
    rw [← ht, hcs, List.cons_append]
  · split at h
    · next t hexponent =>
      cases h
      obtain ⟨e, ht, hne, he⟩ := exponent_of_exponent? hexponent
      exact ⟨[], e, ht, .none, he, fun _ h => absurd h hne⟩
    · split at h
      · cases h
      · next hshort =>
        cases h
        exact ⟨[], [], rfl, .none, .none, fun _ _ => by omega⟩

theorem text_of_number (h : number cs = .ok r) : ∃ v, cs = v ++ r ∧ NumberText v := by
  rw [number_eq] at h
  split at h
  · cases h
  · next ds t hwhole =>
    obtain ⟨hds, hinteger⟩ := integer_of_whole? hwhole
    obtain ⟨sign, hsign, hcs⟩ := unsigned_split cs
    obtain ⟨fraction, exponent, ht, hfraction, hexponent, hshort⟩ := text_of_numberTail h
    refine ⟨_, ?_, .parts hsign hinteger hfraction hexponent hshort⟩
    rw [hcs, hds, ht]
    simp only [List.append_assoc]

theorem number_ne_tooDeep (cs : List Char) : number cs ≠ .error .tooDeep := by
  rw [number_eq]
  unfold numberTail
  repeat' split
  all_goals simp

theorem whole?_append {ds : List Char} (h : Integer ds) (hr : ∀ c ∈ r.head?, c.isDigit = false) :
    whole? (ds ++ r) = some (ds, r) := by
  cases h with
  | zero => rfl
  | @digits c cs hzero hc hcs =>
    have hall : ∀ d ∈ c :: cs, d.isDigit = true := List.forall_mem_cons.2 ⟨hc, hcs⟩
    have hdigits := digits_append hall hr
    unfold whole?
    split
    · next heq => exact absurd (List.cons.inj heq).1 hzero
    · next c' t _ heq =>
      obtain rfl := (List.cons.inj heq).1
      rw [if_pos hc, ← hdigits]
    · next heq => cases heq

theorem fraction?_append {ds : List Char} (h : Digits ds)
    (hr : ∀ c ∈ r.head?, c.isDigit = false) : fraction? ('.' :: (ds ++ r)) = some r := by
  simp [fraction?, digits_append h.digits hr, h.notEmpty]

theorem fraction?_none (h : ∀ c ∈ r.head?, c ≠ '.') : fraction? r = none := by
  unfold fraction?
  split
  · exact absurd rfl (h '.' rfl)
  · rfl

theorem dropSign_append {sign ds : List Char} (hs : sign ∈ [[], ['+'], ['-']]) (h : Digits ds) :
    dropSign (sign ++ (ds ++ r)) = ds ++ r := by
  obtain ⟨d, ds, rfl⟩ := List.exists_cons_of_ne_nil h.notEmpty
  have hd := h.digits d (by simp)
  simp only [List.mem_cons, List.not_mem_nil, or_false] at hs
  rcases hs with rfl | rfl | rfl
  · unfold dropSign
    split
    · next heq =>
      rw [(List.cons.inj heq).1] at hd
      contradiction
    · next heq =>
      rw [(List.cons.inj heq).1] at hd
      contradiction
    · rfl
  · rfl
  · rfl

theorem exponent?_append {e : List Char} (h : Exponent e) (hne : e ≠ []) (hr : NoNumber r) :
    exponent? (e ++ r) = some r := by
  cases h with
  | none => contradiction
  | digits hmark hsign hds =>
    have hdigits := digits_append hds.digits fun c hc => (hr c hc).1
    simp [exponent?, hmark, dropSign_append hsign hds, hdigits, hds.notEmpty]

theorem exponent?_none (h : ∀ c ∈ r.head?, c ≠ 'e' ∧ c ≠ 'E') : exponent? r = none := by
  unfold exponent?
  split
  · next c t =>
    obtain ⟨he, hE⟩ := h c rfl
    rw [if_neg (by simp [he, hE])]
  · rfl

theorem unsigned_append {sign whole : List Char} (hs : sign ∈ [[], ['-']]) (h : Integer whole) :
    unsigned (sign ++ (whole ++ r)) = whole ++ r := by
  simp only [List.mem_cons, List.not_mem_nil, or_false] at hs
  rcases hs with rfl | rfl
  · cases h with
    | zero => rfl
    | @digits c cs _ hc _ =>
      unfold unsigned
      split
      · next heq =>
        rw [(List.cons.inj heq).1] at hc
        contradiction
      · rfl
  · rfl

theorem exponent_head {e : List Char} (h : Exponent e) (hr : NoNumber r) :
    ∀ c ∈ (e ++ r).head?, c.isDigit = false ∧ c ≠ '.' := by
  cases h with
  | none => exact fun c hc => ⟨(hr c hc).1, (hr c hc).2.1⟩
  | digits hmark _ _ =>
    rintro c hc
    obtain rfl := Option.some.inj hc
    rcases hmark with rfl | rfl <;> decide

theorem numberTail_append {ds fraction e : List Char} (hf : Fraction fraction) (he : Exponent e)
    (hshort : fraction = [] → e = [] → ds.length ≤ Number.longestInteger) (hr : NoNumber r) :
    numberTail ds (fraction ++ (e ++ r)) = .ok r := by
  have hhead := exponent_head he hr
  have hnoExponent : exponent? r = none := exponent?_none fun c hc => (hr c hc).2.2
  cases hf with
  | none =>
    rw [List.nil_append, numberTail, fraction?_none fun c hc => (hhead c hc).2]
    by_cases hne : e = []
    · subst hne
      rw [List.nil_append, hnoExponent]
      exact if_neg (by have := hshort rfl rfl; omega)
    · rw [exponent?_append he hne hr]
  | digits hds =>
    rw [List.cons_append, numberTail, fraction?_append hds fun c hc => (hhead c hc).1]
    show (Except.ok ((exponent? (e ++ r)).getD (e ++ r)) : Rest) = .ok r
    by_cases hne : e = []
    · subst hne
      rw [List.nil_append, hnoExponent]
      rfl
    · rw [exponent?_append he hne hr]
      rfl

theorem number_of_text (h : NumberText v) (hr : NoNumber r) : number (v ++ r) = .ok r := by
  cases h with
  | @parts sign whole fraction exponent hsign hinteger hfraction hexponent hshort =>
    have hhead : ∀ c ∈ (fraction ++ (exponent ++ r)).head?, c.isDigit = false := by
      cases hfraction with
      | none => exact fun c hc => (exponent_head hexponent hr c hc).1
      | digits _ =>
        intro c hc
        obtain rfl := Option.some.inj hc
        rfl
    simp only [List.append_assoc]
    rw [number_eq, unsigned_append hsign hinteger, whole?_append hinteger hhead]
    exact numberTail_append hfraction hexponent hshort hr

/-! Values that hold no others. -/

theorem word_of_word? {w : String} (h : word? w cs = some r) : cs = w.toList ++ r := by
  unfold word? at h
  split at h
  · next hw =>
    obtain rfl := Option.some.inj h
    obtain ⟨t, rfl⟩ := List.isPrefixOf_iff_prefix.1 hw
    rw [← String.length_toList, List.drop_left]
  · cases h

theorem findSome?_word {w : String} (h : w ∈ words) (r : List Char) :
    words.findSome? (word? · (w.toList ++ r)) = some r := by
  simp only [words, List.mem_cons, List.not_mem_nil, or_false] at h
  rcases h with rfl | rfl | rfl | rfl | rfl | rfl <;> rfl

/-- No number and no word begins with one of these. -/
def reserved : List Char := [' ', '\t', '\n', '\r', '"', '[', ']', '\x7b', '\x7d']

theorem words_head : ∀ w ∈ words, ∃ c t, w.toList = c :: t ∧ c ∉ reserved := by
  simp only [words, List.forall_mem_cons]
  refine ⟨?_, ?_, ?_, ?_, ?_, ?_, by simp⟩ <;> exact ⟨_, _, rfl, by decide +kernel⟩

theorem number_head (h : NumberText v) : ∃ c t, v = c :: t ∧ c ∉ reserved := by
  have hdigit : ∀ c ∈ reserved, c.isDigit = false := by simp [reserved]
  cases h with
  | parts hsign hinteger =>
    simp only [List.mem_cons, List.not_mem_nil, or_false] at hsign
    rcases hsign with rfl | rfl
    · cases hinteger with
      | zero => exact ⟨'0', _, rfl, by simp [reserved]⟩
      | digits _ hc _ =>
        refine ⟨_, _, rfl, fun hmem => ?_⟩
        rw [hdigit _ hmem] at hc
        exact Bool.false_ne_true hc
    · exact ⟨'-', _, rfl, by simp [reserved]⟩

/-- No word goes on with a digit after a sign. -/
theorem words_unsigned : ∀ w ∈ words, ∃ c t, unsigned w.toList = c :: t ∧ c.isDigit = false := by
  simp only [words, List.forall_mem_cons]
  refine ⟨?_, ?_, ?_, ?_, ?_, ?_, by simp⟩ <;> exact ⟨_, _, rfl, by decide⟩

theorem unsigned_cons_append (c : Char) (cs r : List Char) :
    unsigned (c :: cs ++ r) = unsigned (c :: cs) ++ r := by
  unfold unsigned
  split <;> split <;> simp_all

theorem findSome?_number {d : Char} {t : List Char} (h : unsigned cs = d :: t)
    (hd : d.isDigit = true) : words.findSome? (word? · cs) = none := by
  rw [List.findSome?_eq_none_iff]
  intro w hw
  cases hword : word? w cs with
  | none => rfl
  | some r =>
    obtain ⟨c, u, hcu, -⟩ := words_head w hw
    obtain ⟨c', u', hunsigned, hc'⟩ := words_unsigned w hw
    rw [word_of_word? hword, hcu, unsigned_cons_append, ← hcu, hunsigned] at h
    rw [← (List.cons.inj h).1, hc'] at hd
    contradiction

theorem unsigned_number (h : NumberText v) (r : List Char) :
    ∃ d t, unsigned (v ++ r) = d :: t ∧ d.isDigit = true := by
  cases h with
  | parts hsign hinteger =>
    simp only [List.append_assoc]
    rw [unsigned_append hsign hinteger]
    cases hinteger with
    | zero => exact ⟨'0', _, rfl, rfl⟩
    | digits _ hc _ => exact ⟨_, _, rfl, hc⟩

theorem scalar_eq (h : cs.head? ≠ some '"') : scalar cs =
    match words.findSome? (word? · cs) with
    | some r => .ok r
    | none => number cs := by
  unfold scalar
  split
  · contradiction
  · rfl

theorem scalar_word {w : String} (h : w ∈ words) (r : List Char) :
    scalar (w.toList ++ r) = .ok r := by
  obtain ⟨c, t, hct, hc⟩ := words_head w h
  have hquote : (w.toList ++ r).head? ≠ some '"' := by
    rw [hct]
    rintro he
    obtain rfl := Option.some.inj he
    exact hc (by simp [reserved])
  rw [scalar_eq hquote, findSome?_word h]

theorem scalar_string (h : StringText v) (r : List Char) : scalar (v ++ r) = .ok r := by
  cases h with
  | @quoted body hbody =>
    rw [List.cons_append, List.append_assoc]
    exact string_of_body hbody r

theorem scalar_number (h : NumberText v) (hr : NoNumber r) : scalar (v ++ r) = .ok r := by
  obtain ⟨d, t, hunsigned, hd⟩ := unsigned_number h r
  obtain ⟨c, u, hcu, hc⟩ := number_head h
  have hquote : (v ++ r).head? ≠ some '"' := by
    rw [hcu]
    rintro he
    obtain rfl := Option.some.inj he
    exact hc (by simp [reserved])
  rw [scalar_eq hquote, findSome?_number hunsigned hd, number_of_text h hr]

theorem text_of_scalar (h : scalar cs = .ok r) : ∃ v, cs = v ++ r ∧ Derives .value v := by
  unfold scalar at h
  split at h
  · obtain ⟨body, rfl, hbody⟩ := body_of_string h
    exact ⟨'"' :: (body ++ ['"']), by simp, .string (.quoted hbody)⟩
  · split at h
    · next t ht =>
      cases h
      obtain ⟨w, hw, hword⟩ := List.exists_of_findSome?_eq_some ht
      exact ⟨_, word_of_word? hword, .word hw⟩
    · obtain ⟨v, hcs, hv⟩ := text_of_number h
      exact ⟨v, hcs, .number hv⟩

theorem scalar_ne_tooDeep (cs : List Char) : scalar cs ≠ .error .tooDeep := by
  unfold scalar
  split
  · exact string_ne_tooDeep _
  · split
    · exact fun h => by cases h
    · exact number_ne_tooDeep _

end PathPolicy.Json
