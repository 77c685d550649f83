import PathPolicy.Proofs.Regex.OtherFlags
import PathPolicy.Proofs.Regex.Onward

/-! What makes the compiling of a text a fault, instead of a program or a malformed text: the text
asks for too much, or the flags do not go together or with the text. -/

namespace PathPolicy.Regex

variable {text : List Char} {w : Flags}

namespace Reading

variable {α : Type}

/-! Where a reader ends. -/

variable {β : Type} {s t u : ReadState}

theorem within_refl (s : ReadState) : s.Within s.left s.flags := ⟨List.suffix_refl _, id⟩

theorem within_trans (ht : t.Within s.left s.flags) (hu : u.Within t.left t.flags) :
    u.Within s.left s.flags :=
  ⟨hu.suffix.trans ht.suffix, ht.locale ∘ hu.locale⟩

/-- From `s` on the reader gives a result and a place for which `Q` holds, or fails for the text. -/
def Leads (text : List Char) (m : Reading α) (s : ReadState) (Q : α → ReadState → Prop) : Prop :=
  match m s with
  | .ok (a, t) => Q a t
  | .error e => e.OfText text

/-- From `s` on the reader goes forward, or fails for the text. -/
abbrev Goes (text : List Char) (m : Reading α) (s : ReadState) : Prop :=
  Leads text m s fun _ t => t.Within s.left s.flags

section

variable {m : Reading α} {f : α → Reading β} {P : α → ReadState → Prop} {Q : β → ReadState → Prop}

theorem Leads.bind (h : Leads text m s P) (hf : ∀ a t, P a t → Leads text (f a) t Q) :
    Leads text (m >>= f) s Q := by
  unfold Leads at h ⊢
  change match (m s >>= fun x => f x.1 x.2) with | .ok (a, t) => Q a t | .error e => e.OfText text
  cases hm : m s with
  | error e =>
    rw [hm] at h
    exact h
  | ok x =>
    rw [hm] at h
    exact hf x.1 x.2 h

theorem Leads.mono {P' : α → ReadState → Prop} (h : Leads text m s P)
    (hP : ∀ a t, P a t → P' a t) : Leads text m s P' := by
  unfold Leads at h ⊢
  cases hm : m s with
  | error e =>
    rw [hm] at h
    exact h
  | ok x =>
    rw [hm] at h
    exact hP x.1 x.2 h

theorem Leads.ite {c : Prop} [Decidable c] {p q : Reading α} (hp : c → Leads text p s P)
    (hq : ¬c → Leads text q s P) : Leads text (if c then p else q) s P := by
  split
  · exact hp ‹_›
  · exact hq ‹_›

/-- A check that stops the reading or lets the rest of it go on. -/
theorem Leads.check {c : Prop} [Decidable c] {reason : Malformed} {k : PUnit → Reading α}
    (hk : ¬c → Leads text (k ⟨⟩) s P) : Leads text (if c then fail reason >>= k else k ⟨⟩) s P :=
  .ite (fun _ => .malformed reason) hk

theorem Leads.get_bind {f : ReadState → Reading β} (h : Leads text (f s) s Q) :
    Leads text (get >>= f) s Q := h

theorem Leads.peek_bind {f : Option Token → Reading β} (h : Leads text (f s.next) s Q) :
    Leads text (peek >>= f) s Q := h

theorem Goes.pure (a : α) : Goes text (pure a : Reading α) s := within_refl s

theorem Goes.bind (h : Goes text m s)
    (hf : ∀ a t, t.Within s.left s.flags → Goes text (f a) t) : Goes text (m >>= f) s :=
  Leads.bind h fun a t ht => (hf a t ht).mono fun _ _ hu => within_trans ht hu

/-- A step that is made or left out. -/
theorem Goes.when {c : Prop} [Decidable c] {m : Reading PUnit} {k : PUnit → Reading β}
    (hm : Goes text m s) (hk : ∀ t, t.Within s.left s.flags → Goes text (k ⟨⟩) t) :
    Goes text (if c then m >>= k else k ⟨⟩) s :=
  .ite (fun _ => hm.bind fun _ => hk) fun _ => hk s (within_refl s)

theorem Goes.modify {g : ReadState → ReadState} (h : (g s).Within s.left s.flags) :
    Goes text (modify g : Reading PUnit) s := h

theorem Goes.of_keeps (h : ∀ text w, Keeps text w m) (hs : s.left <:+ text) : Goes text m s := by
  obtain ⟨hok, herror⟩ := triple_iff.1 (h s.left s.flags) s (within_refl s)
  unfold Goes Leads
  cases hm : m s with
  | error e => exact (herror e hm).mono hs
  | ok x => exact hok x.1 x.2 hm

end

/-! Repeats. -/

variable {ds lo hi : List Char} {c sign : Char}

theorem leads_count (h : Counted text ds) : Leads text (count ds) s fun _ t => s = t := by
  unfold count
  refine .ite (fun hlong => .excess (.digits h hlong)) fun _ => ?_
  exact .ite (fun hlarge => .excess (.value h hlarge)) fun _ => rfl

theorem left_eq (h : s.next = some (.char c)) : s.left = c :: s.rest := by
  rw [ReadState.left, h]
  rfl

theorem leads_advance : Leads text advance s fun _ t => s.at s.rest = t := by
  unfold Leads
  rcases advance_cases s with h | h <;> rw [h]
  exact .malformed _

theorem leads_accept (c : Char) : Leads text (accept c) s fun yes t =>
    t.Within s.left s.flags ∧ if yes then s.left = c :: t.left else s.left = t.left := by
  unfold accept
  refine .peek_bind (.ite (fun hc => ?_) fun _ => ⟨within_refl s, rfl⟩)
  refine leads_advance.bind ?_
  rintro _ _ rfl
  refine ⟨within_at (within_refl s), ?_⟩
  rw [left_at]
  exact left_eq (beq_iff_eq.1 hc)

theorem leads_takeWhile (kind : Char → Bool) (n : Nat) : Leads text (takeWhile kind n) s
    fun ds t => t.Within s.left s.flags ∧ (∀ c ∈ ds, kind c = true) ∧ s.left = ds ++ t.left := by
  have hnone (s : ReadState) : Leads text (pure []) s fun ds t =>
      t.Within s.left s.flags ∧ (∀ c ∈ ds, kind c = true) ∧ s.left = ds ++ t.left :=
    ⟨within_refl s, by simp, rfl⟩
  induction n generalizing s with
  | zero => exact hnone s
  | succ n ih =>
    unfold takeWhile
    refine .peek_bind ?_
    split
    · next c hc =>
      refine .ite (fun hkind => ?_) fun _ => hnone s
      refine leads_advance.bind ?_
      rintro _ _ rfl
      refine ih.bind ?_
      rintro ds t ⟨ht, hds, hleft⟩
      refine ⟨within_trans (within_at (within_refl s)) ht, ?_, ?_⟩
      · exact List.forall_mem_cons.2 ⟨hkind, hds⟩
      · rw [left_at] at hleft
        rw [left_eq hc, hleft, List.cons_append]
    · exact hnone s

/-- The end of a repeat in braces: where the braces are not closed, nothing was taken. -/
theorem leads_closeBraces {start : ReadState} (hs : s.Within start.left start.flags)
    (h : ∀ r, s.left = '\x7d' :: r →
      (lo ≠ [] → Counted text lo) ∧ (hi ≠ [] → Counted text hi)) :
    Leads text (closeBraces start lo hi) s fun _ t => t.Within start.left start.flags := by
  unfold closeBraces
  refine (leads_accept _).bind ?_
  rintro closed t ⟨ht, hclosed⟩
  have hgo : t.Within start.left start.flags := within_trans hs ht
  cases closed with
  | false => exact within_refl start
  | true =>
    obtain ⟨hlo, hhi⟩ := h t.left hclosed
    have hrest (least : Nat) : Leads text (do
        if hi.isEmpty then return some (least, none)
        let most ← count hi
        if most < least then fail .repeatBoundsSwapped
        return some (least, some most)) t fun _ u => u.Within start.left start.flags := by
      refine .ite (fun _ => hgo) fun hne => ?_
      refine (leads_count (hhi (by simpa using hne))).bind ?_
      rintro most _ rfl
      exact .check fun _ => hgo
    show Leads text (if lo.isEmpty then _ else _) t _
    refine .ite (fun _ => hrest 0) fun hne => ?_
    refine (leads_count (hlo (by simpa using hne))).bind ?_
    rintro least _ rfl
    exact hrest least

theorem counted_of_text {q : Quantifier} {r : List Char} (hq : q.Written)
    (h : q.text ++ r <:+ text) (hds : ds ∈ q.counts) : Counted text ds :=
  ⟨q, hq, (List.infix_append' [] q.text r).trans h.isInfix, hds⟩

/-- What stands in the braces is a repeat, if they are closed behind the counts. -/
theorem goes_braces? (h : '\x7b' :: s.left <:+ text) : Goes text braces? s := by
  rw [braces?_eq]
  refine .get_bind (.peek_bind (.ite (fun _ => within_refl s) fun _ => ?_))
  refine (leads_takeWhile _ _).bind ?_
  rintro lo t ⟨ht, hlo, hleft⟩
  refine (leads_accept ',').bind ?_
  rintro comma u ⟨hu, hcomma⟩
  cases comma with
  | true =>
    refine (leads_takeWhile _ _).bind ?_
    rintro hi v ⟨hv, hhi, hleft'⟩
    refine leads_closeBraces (within_trans ht (within_trans hu hv)) fun r hr => ?_
    have hq : (Quantifier.counted lo (some hi)).Written :=
      written_counted (some hi) hlo (by simpa using hhi) (by simp)
    have htext : (Quantifier.counted lo (some hi)).text ++ r <:+ text := by
      rw [hleft, hcomma, hleft', hr] at h
      simpa [Quantifier.text] using h
    exact ⟨fun _ => counted_of_text hq htext (by simp [Quantifier.counts]),
      fun _ => counted_of_text hq htext (by simp [Quantifier.counts])⟩
  | false =>
    refine leads_closeBraces (within_trans ht hu) fun r hr => ?_
    have hcounted (hne : lo ≠ []) : Counted text lo := by
      have hq : (Quantifier.counted lo none).Written :=
        written_counted none hlo (by simp) (by simp [hne])
      have htext : (Quantifier.counted lo none).text ++ r <:+ text := by
        rw [hleft, hcomma, hr] at h
        simpa [Quantifier.text] using h
      exact counted_of_text hq htext (by simp [Quantifier.counts])
    exact ⟨hcounted, hcounted⟩

theorem goes_bounds? (h : sign :: s.left <:+ text)
    (hsign : sign = '*' ∨ sign = '+' ∨ sign = '?' ∨ sign = '\x7b') :
    Goes text (bounds? sign) s := by
  refine .ite (fun _ => within_refl s) fun hoptional => ?_
  refine .ite (fun _ => within_refl s) fun hstar => .ite (fun _ => within_refl s) fun hplus => ?_
  obtain rfl : sign = '\x7b' := by tauto
  exact goes_braces? h

theorem goes_repeatPiece (h : sign :: s.left <:+ text)
    (hsign : sign = '*' ∨ sign = '+' ∨ sign = '?' ∨ sign = '\x7b') (pieces : List Piece) :
    Goes text (repeatPiece sign pieces) s := by
  have hs : s.left <:+ text := (List.suffix_cons _ _).trans h
  unfold repeatPiece
  refine (goes_bounds? h hsign).bind fun bounds t ht => ?_
  cases bounds with
  | none => exact .pure _
  | some bounds =>
    cases pieces with
    | nil => exact .malformed _
    | cons last before =>
      refine Goes.bind (.of_keeps (fun _ _ => repeated_spec last) (ht.suffix.trans hs)) ?_
      intro body u hu
      have hleft : u.left <:+ text := hu.suffix.trans (ht.suffix.trans hs)
      exact Goes.bind (.of_keeps (fun _ _ => greed_spec) hleft) fun greed v _ => .pure _

/-! Groups inside groups. -/

/-- There is fuel for what is left, three steps for each character and `k` more. -/
structure Stands (text : List Char) (k fuel : Nat) (s : ReadState) : Prop where
  suffix : s.left <:+ text
  room : 3 * s.left.length + k ≤ fuel

variable {depth k fuel : Nat} {verbose first : Bool}

theorem Stands.of_within (h : Stands text k fuel s) (ht : t.Within s.left s.flags) :
    Stands text k fuel t where
  suffix := ht.suffix.trans h.suffix
  room := by
    have hlength := ht.suffix.length_le
    have hroom := h.room
    omega

theorem Stands.of_le {k' fuel' : Nat} (h : Stands text k fuel s)
    (hle : k' + fuel ≤ k + fuel') : Stands text k' fuel' s :=
  ⟨h.suffix, by have := h.room; omega⟩

theorem Stands.goes (h : Stands text k fuel s) {m : Reading α}
    (hm : ∀ text w, Keeps text w m) : Goes text m s := .of_keeps hm h.suffix

/-- A token is passed. -/
theorem Stands.next {token : Token} (h : Stands text (k + 1) (fuel + 1) s)
    (htoken : s.next = some token) : Stands text (k + 3) fuel (s.at s.rest) := by
  have hleft : s.left = token.chars ++ s.rest := by rw [ReadState.left, htoken]; rfl
  have hchars : 0 < token.chars.length := by cases token <;> simp [Token.chars]
  refine ⟨?_, ?_⟩ <;> rw [left_at]
  · exact (suffix_rest s).trans h.suffix
  · have hroom := h.room
    rw [hleft, List.length_append] at hroom
    omega

variable [CharacterNames]

theorem goes_simplePiece {token : Token} (h : token.chars ++ s.left <:+ text)
    (pieces : List Piece) : Goes text (simplePiece token pieces) s := by
  have hs : s.left <:+ text := (List.suffix_append _ _).trans h
  cases token with
  | escaped c =>
    exact Goes.bind (.of_keeps (fun _ _ => escape_spec c) hs) fun _ _ _ => .pure _
  | char c =>
    refine .ite (fun _ => ?_) fun _ => .ite (fun hsign => ?_) fun _ => ?_
    · exact Goes.bind (.of_keeps (fun _ _ => characterClass_spec) hs) fun _ _ _ => .pure _
    · exact goes_repeatPiece h (by simpa [or_assoc] using hsign) pieces
    · refine .ite (fun _ => within_refl s) fun _ => .ite (fun _ => within_refl s) fun _ => ?_
      exact .ite (fun _ => within_refl s) fun _ => within_refl s

/-- What `opened` reads. -/
theorem goes_opened {isStart : Bool}
    (halternation : ∀ depth verbose s, Stands text 2 fuel s →
      Goes text (alternation depth verbose [] fuel) s)
    (hsequence : ∀ depth verbose s, Stands text 1 fuel s →
      Goes text (sequence depth verbose false [] fuel) s)
    (hs : Stands text 3 (fuel + 1) s) :
    Goes text (Reading.opened depth verbose isStart (fuel + 1)) s := by
  unfold Reading.opened
  refine (hs.goes fun _ _ => heading_spec isStart).bind fun h t ht => ?_
  replace hs := hs.of_within ht
  cases h with
  | done o => exact .pure o
  | body kind =>
    have hbody (verbose : Bool) {s : ReadState} (h : Stands text 3 (fuel + 1) s) :
        Goes text (alternation (depth + 1) verbose [] fuel) s :=
      halternation (depth + 1) verbose s (h.of_le (by omega))
    have hbranch {s : ReadState} (h : Stands text 3 (fuel + 1) s) :
        Goes text (sequence (depth + 1) verbose false [] fuel) s :=
      hsequence (depth + 1) verbose s (h.of_le (by omega))
    have hclose {s : ReadState} (h : Stands text 3 (fuel + 1) s) :
        Goes text expectClose s := h.goes fun _ _ => expectClose_spec
    cases kind with
    | capturing name =>
      refine (hs.goes fun _ _ => openGroup_spec name).bind fun index t ht => ?_
      replace hs := hs.of_within ht
      refine (hbody verbose hs).bind fun parts t ht => ?_
      replace hs := hs.of_within ht
      refine (hclose hs).bind fun _ t ht => ?_
      replace hs := hs.of_within ht
      exact (hs.goes fun _ _ => closeGroup_spec _ _).bind fun _ _ _ => .pure _
    | «scoped» scope =>
      refine (hbody _ hs).bind fun parts t ht => ?_
      refine (hclose (hs.of_within ht)).bind fun _ t _ => ?_
      exact .ite (fun _ => within_refl t) fun _ => within_refl t
    | atomic =>
      refine (hbody verbose hs).bind fun parts t ht => ?_
      exact (hclose (hs.of_within ht)).bind fun _ _ _ => .pure _
    | look behind negated =>
      refine .get_bind (Goes.when (.modify ⟨List.suffix_refl _, id⟩) fun t ht => ?_)
      replace hs := hs.of_within ht
      refine (hbody verbose hs).bind fun parts t ht => ?_
      replace hs := hs.of_within ht
      refine Goes.when (.modify ⟨List.suffix_refl _, id⟩) fun t ht => ?_
      refine (hclose (hs.of_within ht)).bind fun _ t _ => .get_bind ?_
      exact within_refl t
    | given group =>
      refine (hbranch hs).bind fun yes t ht => ?_
      replace hs := hs.of_within ht
      refine (hs.goes fun _ _ => accept_spec '|').bind fun more t ht => ?_
      replace hs := hs.of_within ht
      refine .ite (fun _ => ?_) fun _ => (hclose hs).bind fun _ _ _ => .pure _
      refine (hbranch hs).bind fun no t ht => .peek_bind (.check fun _ => ?_)
      exact (hclose (hs.of_within ht)).bind fun _ _ _ => .pure _

/-- A branch, and those behind the next bar. -/
theorem goes_alternation {done : List (List Node)}
    (halternation : ∀ verbose done s, Stands text 2 fuel s →
      Goes text (alternation depth verbose done fuel) s)
    (hsequence : ∀ first s, Stands text 1 fuel s →
      Goes text (sequence depth verbose first [] fuel) s)
    (hs : Stands text 2 (fuel + 1) s) :
    Goes text (alternation depth verbose done (fuel + 1)) s := by
  unfold alternation
  refine (hsequence _ s (hs.of_le (by omega))).bind fun parts t ht => ?_
  replace hs := hs.of_within ht
  refine Leads.bind (leads_accept '|') ?_
  rintro more u ⟨hu, hmore⟩
  cases more with
  | false => exact hu
  | true =>
    have hroom := hs.room
    rw [if_pos rfl] at hmore
    rw [hmore, List.length_cons] at hroom
    have hafter : Stands text 2 fuel u :=
      ⟨(hs.of_within hu).suffix, by omega⟩
    exact .get_bind ((halternation _ _ u hafter).mono fun _ _ => within_trans hu)

/-- A part of a branch, and those behind it. -/
theorem goes_sequence {pieces : List Piece}
    (hsequence : ∀ verbose pieces s, Stands text 1 fuel s →
      Goes text (sequence depth verbose first pieces fuel) s)
    (hopened : ∀ isStart s, Stands text 3 fuel s →
      Goes text (Reading.opened depth verbose isStart fuel) s)
    (hs : Stands text 1 (fuel + 1) s) :
    Goes text (sequence depth verbose first pieces (fuel + 1)) s := by
  unfold sequence
  refine .peek_bind ?_
  cases htoken : s.next with
  | none => exact within_refl s
  | some token =>
    refine .ite (fun _ => within_refl s) fun _ => ?_
    have hnext := hs.next htoken
    have hleft : s.left = token.chars ++ s.rest := by rw [ReadState.left, htoken]; rfl
    refine Leads.bind (P := fun _ t => s.at s.rest = t) leads_advance ?_
    rintro _ _ rfl
    -- from here on the token is passed, and everything is read from behind it
    have hwithin : (s.at s.rest).Within s.left s.flags := within_at (within_refl s)
    refine Leads.mono (P := fun _ t => t.Within (s.at s.rest).left (s.at s.rest).flags) ?_
      fun _ _ hu => within_trans hwithin hu
    have hsame {pieces : List Piece} {verbose : Bool} {t : ReadState}
        (ht : t.Within (s.at s.rest).left (s.at s.rest).flags) :
        Goes text (sequence depth verbose first pieces fuel) t :=
      hsequence verbose pieces t ((hnext.of_within ht).of_le (by omega))
    have hsimple : Goes text (simplePiece token pieces >>= fun next =>
        sequence depth verbose first next fuel) (s.at s.rest) := by
      refine (goes_simplePiece ?_ pieces).bind fun next t ht => hsame ht
      rw [left_at, ← hleft]
      exact hs.suffix
    cases token with
    | escaped c => exact hsimple
    | char c =>
      refine .ite (fun _ => hsame (within_refl _)) fun _ => .ite (fun _ => ?_) fun _ => ?_
      · refine .get_bind ?_
        exact (hnext.goes fun _ _ => skipLine_spec _).bind fun _ t ht => hsame ht
      · refine .ite (fun hc => ?_) fun _ => hsimple
        subst hc
        refine (hopened _ _ hnext).bind fun o t ht => ?_
        cases o with
        | nothing => exact hsame ht
        | globalFlags on => exact .get_bind (hsame ht)
        | part p => exact hsame ht

/-- Branches, sequences and groups, at every depth. -/
theorem goes_reading (text : List Char) (fuel : Nat) :
    (∀ depth verbose done s, Stands text 2 fuel s →
      Goes text (alternation depth verbose done fuel) s) ∧
    (∀ depth verbose first pieces s, Stands text 1 fuel s →
      Goes text (sequence depth verbose first pieces fuel) s) ∧
    ∀ depth verbose isStart s, Stands text 3 fuel s →
      Goes text (Reading.opened depth verbose isStart fuel) s := by
  induction fuel with
  | zero =>
    refine ⟨fun _ _ _ _ h => ?_, fun _ _ _ _ _ h => ?_, fun _ _ _ _ h => ?_⟩ <;>
    · have hroom := h.room
      omega
  | succ fuel ih =>
    obtain ⟨halternation, hsequence, hopened⟩ := ih
    refine ⟨fun depth verbose done s hs => ?_, fun depth verbose first pieces s hs => ?_,
      fun depth verbose isStart s hs => ?_⟩
    · exact goes_alternation (halternation depth)
        (fun first => hsequence depth verbose first []) hs
    · exact goes_sequence (fun verbose => hsequence depth verbose first) (hopened depth verbose) hs
    · exact goes_opened (fun depth verbose => halternation depth verbose [])
        (fun depth verbose => hsequence depth verbose false []) hs

end Reading

theorem Reading.bind_error {α β : Type} {m : Reading α} {f : α → Reading β} {s : ReadState}
    {e : Fault} (h : m s = .error e) : (m >>= f) s = .error e := by
  show (m s >>= fun x => f x.1 x.2) = .error e
  rw [h]
  rfl

/-! The whole expression. -/

namespace Flags

variable {v : Flags} {f : Flag} {on : List Flag}

/-- No bit is carried over the ninth, and the range begins and ends with a change above it. -/
theorem fits_add : (w.add f).fits = w.fits := by
  have hstep (n : Int) (hbit : ¬n / 2 ^ f.bit % 2 = 1) :
      (n + 2 ^ f.bit) / 0x200 = n / 0x200 := by
    cases f <;> simp only [Flag.bit] at hbit ⊢ <;> omega
  have hfits (n : Int) : fits n = true ↔ -0x400000 ≤ n / 0x200 ∧ n / 0x200 < 0x400000 := by
    have hrange : fits n = true ↔ -0x80000000 ≤ n ∧ n < 0x80000000 := by
      simp [fits]
    rw [hrange]
    omega
  unfold add
  split
  · rfl
  · next hno =>
    rw [Bool.eq_iff_iff, hfits, hfits, value_eq, hstep w (mt has_iff.2 hno)]

theorem fits_addAll : (w.addAll on).fits = w.fits := by
  induction on generalizing w with
  | nil => rfl
  | cons f on ih => exact ih.trans fits_add

theorem fits_settle (h : w.settle = .ok v) : v.fits = w.fits := by
  unfold settle at h
  split_ifs at h <;> cases h
  · exact fits_add
  · rfl

theorem settle_eq_error {e : Fault} (h : w.settle = .error e) :
    e = .localeFlag ∧ w.has .locale = true ∨
      e = .asciiAndUnicode ∧ w.has .ascii = true ∧ w.has .unicode = true := by
  unfold settle at h
  split_ifs at h with hlocale hascii hunicode <;> cases h
  · exact .inl ⟨rfl, hlocale⟩
  · exact .inr ⟨rfl, by simpa using hascii, hunicode⟩

theorem exists_settle_iff : (∃ v, w.settle = .ok v) ↔
    w.has .locale = false ∧ ¬(w.has .ascii = true ∧ w.has .unicode = true) := by
  unfold settle
  split_ifs with hlocale hascii hunicode <;> simp_all

theorem not_has_locale_of_settle (h : w.settle = .ok v) : w.has .locale = false :=
  (exists_settle_iff.1 ⟨v, h⟩).1

end Flags

/-- After the first step there is fuel for all of the text. -/
theorem Reading.stands_start (s : ReadState) :
    Stands s.rest 2 (3 * (s.at s.rest).rest.length + 8) (s.at s.rest) := by
  have hlength := length_afterToken s.rest
  refine ⟨?_, ?_⟩ <;> rw [left_at]
  · rw [ReadState.at_rest]
    omega

variable [CharacterNames]

/-- Why a text under flags makes no program although it is not malformed. -/
inductive Cause (source : String) (w : Flags) : Fault → Prop
  | excess {f : Fault} : Excess source.toList f → Cause source w f
  | locale : w.has .locale = true → Cause source w .localeFlag
  | alphabets : (w.addAll (globalFlags (w.has .verbose) source.toList)).has .ascii = true →
    (w.addAll (globalFlags (w.has .verbose) source.toList)).has .unicode = true →
      Cause source w .asciiAndUnicode
  | range : w.fits = false → Cause source w .flagsOutOfRange
  | lookbehind {p : Program} : read source w = .ok p → p.node.hasWideLookbehind = true →
    Cause source w .lookbehindTooWide

variable {source : String} {p : Program} {e : Fault}

section

variable {s t : ReadState} {parts : List Node}

/-- Where the text is at fault, it is malformed or asks for too much; the flags are looked at after
that. -/
theorem readAll_error (h : readAll s = .error e) : e.OfText s.rest ∨
    (s.flags.addAll (globalFlags (s.flags.has .verbose) s.rest)).settle = .error e ∧
      ((s.flags.addAll (globalFlags (s.flags.has .verbose) s.rest)).has .locale = true →
        s.flags.has .locale = true) := by
  have hgoes := (Reading.goes_reading s.rest _).1 0 (s.flags.has .verbose) [] _
    (Reading.stands_start s)
  unfold Reading.Goes Reading.Leads at hgoes
  rcases Reading.advance_cases s with hadvance | hadvance
  · cases halternation : Reading.alternation 0 (s.flags.has .verbose) []
        (3 * (s.at s.rest).rest.length + 8) (s.at s.rest) with
    | error f =>
      rw [halternation] at hgoes
      rw [readAll, Reading.bind_ok hadvance, Reading.bind_ok Reading.get_ok] at h
      dsimp only at h
      rw [show (s.at s.rest).flags = s.flags from rfl, Reading.bind_error halternation] at h
      cases h
      exact .inl hgoes
    | ok x =>
      obtain ⟨parts, t⟩ := x
      rw [halternation] at hgoes
      have hread := readAll_of_alternation hadvance halternation
      have hflags : t.flags = s.flags.addAll (globalFlags (s.flags.has .verbose) s.rest) :=
        Reading.flags_of_alternation halternation rfl
      rw [h, hflags] at hread
      cases hsettle : (s.flags.addAll (globalFlags (s.flags.has .verbose) s.rest)).settle with
      | error f =>
        rw [hsettle] at hread
        cases hread
        refine .inr ⟨rfl, fun hlocale => hgoes.locale ?_⟩
        rwa [hflags]
      | ok flags =>
        rw [hsettle] at hread
        change Except.error e = conclude t parts flags at hread
        unfold conclude at hread
        split_ifs at hread <;> cases hread <;> exact .inl (.malformed _)
  · rw [readAll, Reading.bind_error hadvance] at h
    cases h
    exact .inl (.malformed _)

end

theorem cause_of_read (h : read source w = .error e) :
    (∃ reason, e = .malformed reason) ∨ Cause source w e := by
  have hread : readAll { next := none, rest := source.toList, flags := w } = .error e := by
    change Except.map _ (readAll _) = _ at h
    cases hall : readAll { next := none, rest := source.toList, flags := w } with
    | error f =>
      rw [hall] at h
      cases h
      rfl
    | ok x =>
      rw [hall] at h
      cases h
  rcases readAll_error hread with htext | ⟨hsettle, hlocale⟩
  · cases htext with
    | malformed reason => exact .inl ⟨reason, rfl⟩
    | excess hexcess => exact .inr (.excess hexcess)
  · rcases Flags.settle_eq_error hsettle with ⟨rfl, hhas⟩ | ⟨rfl, hascii, hunicode⟩
    · exact .inr (.locale (hlocale hhas))
    · exact .inr (.alphabets hascii hunicode)

theorem settle_of_read (h : read source w = .ok p) :
    (w.addAll (globalFlags (w.has .verbose) source.toList)).settle = .ok p.flags := by
  change Except.map _ (readAll _) = _ at h
  cases hall : readAll { next := none, rest := source.toList, flags := w } with
  | error f =>
    rw [hall] at h
    cases h
  | ok x =>
    rw [hall] at h
    cases h
    exact settle_of_readAll hall

/-- A text under flags makes a program, or is malformed, or there is a cause that it is neither. -/
theorem cause_of_compile (h : compile source w = .error e) :
    (∃ reason, e = .malformed reason) ∨ Cause source w e := by
  unfold compile at h
  cases hread : read source w with
  | error f =>
    rw [hread] at h
    cases h
    exact cause_of_read hread
  | ok p =>
    rw [hread] at h
    change p.check = .error e at h
    unfold Program.check at h
    split at h
    · cases h
      exact .inl ⟨_, rfl⟩
    · split_ifs at h with hfits hwide <;> cases h
      · refine .inr (.range ?_)
        rw [Bool.not_eq_true', Flags.fits_settle (settle_of_read hread), Flags.fits_addAll] at hfits
        exact hfits
      · exact .inr (.lookbehind hread hwide)

/-- The flags go together, with those that the text turns on too, and a machine word holds them. -/
structure Flags.InOrder (source : String) (w : Flags) : Prop where
  locale : w.has .locale = false
  alphabets : ¬((w.addAll (globalFlags (w.has .verbose) source.toList)).has .ascii = true ∧
    (w.addAll (globalFlags (w.has .verbose) source.toList)).has .unicode = true)
  range : w.fits = true

/-- Where the text is known to be right, the flags alone decide. -/
theorem exists_compile_iff {v : Flags} (h : compile source v = .ok p)
    (hv : v.has .verbose = w.has .verbose) (htemplate : v.has .template = w.has .template) :
    (∃ q, compile source w = .ok q) ↔ w.InOrder source := by
  have hown := settle_of_compile h
  have hunder := compile_under h (.of_has hv.symm)
    ((Flags.has_addAll_congr htemplate.symm).trans (Flags.has_settle hown (by decide)).symm)
  have hfree := Flags.not_has_locale_of_settle hown
  rw [hv] at hunder hfree
  generalize hon : globalFlags (w.has .verbose) source.toList = on at hunder hfree
  have hlocale : (w.addAll on).has .locale = w.has .locale := by
    rw [Flags.has_addAll_eq, Bool.or_eq_false_iff] at hfree
    rw [Flags.has_addAll_eq, hfree.2, Bool.or_false]
  have hsettle := Flags.exists_settle_iff (w := w.addAll on)
  rw [hlocale] at hsettle
  rw [hunder]
  cases hflags : (w.addAll on).settle with
  | error e =>
    rw [hflags] at hsettle
    refine iff_of_false (by rintro ⟨q, hq⟩; cases hq) fun hw => ?_
    obtain ⟨v, hv⟩ := hsettle.2 ⟨hw.locale, hon ▸ hw.alphabets⟩
    cases hv
  | ok flags =>
    have hfits : flags.fits = w.fits := (Flags.fits_settle hflags).trans Flags.fits_addAll
    obtain ⟨hno, halphabets⟩ := hsettle.1 ⟨flags, hflags⟩
    dsimp only [Except.bind]
    rw [hfits]
    cases hrange : w.fits with
    | true => exact iff_of_true ⟨_, rfl⟩ ⟨hno, hon ▸ halphabets, hrange⟩
    | false =>
      refine iff_of_false (by rintro ⟨q, hq⟩; cases hq) fun hw => ?_
      simp [hw.range] at hrange

theorem compile_ne_malformed {v : Flags} (h : compile source v = .ok p)
    (hv : v.has .verbose = w.has .verbose) (htemplate : v.has .template = w.has .template)
    (reason : Malformed) : compile source w ≠ .error (.malformed reason) := by
  rw [compile_under h (.of_has hv.symm) ((Flags.has_addAll_congr htemplate.symm).trans
    (Flags.has_settle (settle_of_compile h) (by decide)).symm)]
  cases hflags : (w.addAll (globalFlags (v.has .verbose) source.toList)).settle with
  | error e =>
    rintro ⟨⟩
    rcases Flags.settle_eq_error hflags with ⟨he, -⟩ | ⟨he, -⟩ <;> cases he
  | ok flags =>
    dsimp only [Except.bind]
    split_ifs <;> simp

end PathPolicy.Regex
