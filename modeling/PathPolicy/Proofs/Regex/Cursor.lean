import PathPolicy.Regex.Escape
import Mathlib

/-! Reading an expression step by step. The place of the reader is given by the text that is
left, from the next token on; each step is an equation at such a place. -/

namespace PathPolicy.Regex

/-- No backslash is left alone at the end. -/
def Whole : List Char → Prop
  | [] => True
  | ['\\'] => False
  | '\\' :: _ :: r => Whole r
  | _ :: r => Whole r

theorem whole_cons {c : Char} {r : List Char} (h : c ≠ '\\') : Whole (c :: r) ↔ Whole r := by
  rw [Whole]
  · rintro rfl
    contradiction
  · rintro _ _ rfl
    contradiction

theorem whole_append {ds r : List Char} (h : '\\' ∉ ds) : Whole (ds ++ r) ↔ Whole r := by
  induction ds with
  | nil => rfl
  | cons c ds ih =>
    obtain ⟨hc, hds⟩ := List.ne_and_not_mem_of_not_mem_cons h
    rw [List.cons_append, whole_cons hc.symm, ih hds]

theorem whole_append_of_kind {kind : Char → Bool} {ds r : List Char} (hslash : kind '\\' = false)
    (hds : ∀ c ∈ ds, kind c = true) (hr : Whole r) : Whole (ds ++ r) := by
  refine (whole_append fun hmem => ?_).2 hr
  exact absurd (hds _ hmem) (by simp [hslash])

namespace Reading

def tokenAt : List Char → Option Token
  | [] => none
  | '\\' :: c :: _ => some (.escaped c)
  | c :: _ => some (.char c)

/-- What is left after the next token. -/
def afterToken : List Char → List Char
  | [] => []
  | '\\' :: _ :: r => r
  | _ :: r => r

end Reading

/-- The reader before the text `cs`. -/
def ReadState.at (s : ReadState) (cs : List Char) : ReadState :=
  { s with next := Reading.tokenAt cs, rest := Reading.afterToken cs }

@[simp] theorem ReadState.at_rest (s : ReadState) (cs : List Char) :
    (s.at cs).rest = Reading.afterToken cs := rfl

namespace Reading

variable {α β : Type} {s s' : ReadState} {c : Char} {cs r : List Char}

theorem tokenAt_cons (h : c ≠ '\\') : tokenAt (c :: r) = some (.char c) := by
  rw [tokenAt]
  rintro d _ rfl
  contradiction

theorem afterToken_cons (h : c ≠ '\\') : afterToken (c :: r) = r := by
  rw [afterToken]
  rintro d _ rfl
  contradiction

theorem length_afterToken (cs : List Char) : cs.length ≤ (afterToken cs).length + 2 := by
  unfold afterToken
  split <;> simp

theorem bind_ok {p : Reading α} {f : α → Reading β} {a : α} (h : p s = .ok (a, s')) :
    (p >>= f) s = f a s' := by
  show (p s >>= fun x => f x.1 x.2) = f a s'
  rw [h]
  rfl

theorem exists_of_bind_eq_ok {p : Reading α} {f : α → Reading β} {x : β × ReadState}
    (h : (p >>= f) s = .ok x) : ∃ a t, p s = .ok (a, t) ∧ f a t = .ok x := by
  change (p s >>= fun y => f y.1 y.2) = .ok x at h
  cases hp : p s with
  | error e =>
    rw [hp] at h
    cases h
  | ok y =>
    rw [hp] at h
    exact ⟨y.1, y.2, rfl, h⟩

theorem pure_ok (a : α) : (pure a : Reading α) s = .ok (a, s) := rfl

theorem get_ok : (get : Reading ReadState) s = .ok (s, s) := rfl

theorem set_ok : (set s' : Reading PUnit) s = .ok ((), s') := rfl

theorem peek_at : peek (s.at cs) = .ok (tokenAt cs, s.at cs) := rfl

theorem advance_ok (h : Whole s.rest) : advance s = .ok ((), s.at s.rest) := by
  rw [advance, bind_ok get_ok]
  generalize hr : s.rest = r at h
  split
  · rw [set_ok]
    rfl
  · exact h.elim
  · rfl
  · next c rest hne hne' =>
    have hc : c ≠ '\\' := by
      rintro rfl
      cases rest with
      | nil => exact h
      | cons d rest => exact hne' d rest rfl rfl
    rw [set_ok, ReadState.at, tokenAt_cons hc, afterToken_cons hc]

theorem advance_at (h : Whole (afterToken cs)) :
    advance (s.at cs) = .ok ((), s.at (afterToken cs)) := advance_ok h

theorem advance_char (hc : c ≠ '\\') (h : Whole r) :
    advance (s.at (c :: r)) = .ok ((), s.at r) := by
  rw [advance_at (by rwa [afterToken_cons hc]), afterToken_cons hc]

theorem take_at (h : Whole (afterToken cs)) :
    take (s.at cs) = .ok (tokenAt cs, s.at (afterToken cs)) := by
  rw [take, bind_ok peek_at, bind_ok (advance_at h), pure_ok]

theorem take_char (hc : c ≠ '\\') (h : Whole r) :
    take (s.at (c :: r)) = .ok (some (.char c), s.at r) := by
  rw [take_at (by rwa [afterToken_cons hc]), tokenAt_cons hc, afterToken_cons hc]

theorem accept_char (hc : c ≠ '\\') (h : Whole r) :
    accept c (s.at (c :: r)) = .ok (true, s.at r) := by
  rw [accept, bind_ok peek_at, tokenAt_cons hc, if_pos (by simp), bind_ok (advance_char hc h),
    pure_ok]

theorem head?_of_tokenAt (h : tokenAt cs = some (.char c)) : cs.head? = some c := by
  unfold tokenAt at h
  split at h <;> simp_all

theorem accept_no (h : cs.head? ≠ some c) :
    accept c (s.at cs) = .ok (false, s.at cs) := by
  rw [accept, bind_ok peek_at, if_neg (by simpa using fun e => h (head?_of_tokenAt e)), pure_ok]

/-- Characters of a kind are taken as far as they go, or up to the number asked for. -/
theorem takeWhile_at {kind : Char → Bool} {ds : List Char} {n : Nat} (hslash : kind '\\' = false)
    (hds : ∀ c ∈ ds, kind c = true) (hr : Whole r)
    (hn : ds.length = n ∨ ds.length < n ∧ ∀ c ∈ r.head?, kind c = false) :
    takeWhile kind n (s.at (ds ++ r)) = .ok (ds, s.at r) := by
  induction n generalizing ds with
  | zero =>
    obtain rfl : ds = [] := List.length_eq_zero_iff.1 (by omega)
    rfl
  | succ n ih =>
    rw [takeWhile, bind_ok peek_at]
    cases ds with
    | nil =>
      have hstop : ∀ c ∈ r.head?, kind c = false := by
        rcases hn with hn | hn
        · simp at hn
        · exact hn.2
      rw [List.nil_append]
      rcases htoken : tokenAt r with _ | c | c
      · rfl
      · show (if kind c = true then _ else _ : Reading (List Char)) (s.at r) = _
        rw [if_neg (by simp [hstop c (head?_of_tokenAt htoken)]), pure_ok]
      · rfl
    | cons d ds =>
      obtain ⟨hd, hds⟩ := List.forall_mem_cons.1 hds
      have hne : d ≠ '\\' := by
        rintro rfl
        simp [hslash] at hd
      have hwhole : Whole (ds ++ r) := whole_append_of_kind hslash hds hr
      rw [List.cons_append, tokenAt_cons hne]
      simp only [hd, if_true]
      rw [bind_ok (advance_char hne hwhole), bind_ok (ih hds (by simpa using hn)), pure_ok]

theorem takeUntil_at {stop : Char} {reason : Malformed} {name : List Char} {fuel : Nat}
    (hstop : stop ≠ '\\') (hslash : '\\' ∉ name) (hname : stop ∉ name) (hr : Whole r)
    (hfuel : name.length < fuel) :
    takeUntil stop reason fuel (s.at (name ++ stop :: r)) = .ok (name, s.at r) := by
  induction fuel generalizing name with
  | zero => omega
  | succ fuel ih =>
    rw [takeUntil]
    cases name with
    | nil =>
      rw [List.nil_append, bind_ok (take_char hstop hr)]
      simp only [beq_self_eq_true, if_true, pure_ok]
    | cons c name =>
      obtain ⟨hc, hslash⟩ := List.ne_and_not_mem_of_not_mem_cons hslash
      obtain ⟨hcstop, hname⟩ := List.ne_and_not_mem_of_not_mem_cons hname
      have hwhole : Whole (name ++ stop :: r) := (whole_append hslash).2 ((whole_cons hstop).2 hr)
      rw [List.cons_append, bind_ok (take_char hc.symm hwhole)]
      simp only [beq_iff_eq, Token.char.injEq, hcstop.symm, if_false]
      rw [bind_ok (ih hslash hname (by simpa using hfuel)), pure_ok]
      rfl

theorem takeName_at {stop : Char} {reason : Malformed} {name : List Char}
    (hstop : stop ≠ '\\') (hslash : '\\' ∉ name) (hname : stop ∉ name) (hne : name ≠ [])
    (hr : Whole r) : takeName stop reason (s.at (name ++ stop :: r)) = .ok (name, s.at r) := by
  have hfuel : name.length < (s.at (name ++ stop :: r)).rest.length + 2 := by
    have := length_afterToken (name ++ stop :: r)
    simp only [ReadState.at_rest, List.length_append, List.length_cons] at this ⊢
    omega
  rw [takeName, bind_ok get_ok, bind_ok (takeUntil_at hstop hslash hname hr hfuel)]
  simp [hne, pure_ok]

/-! What a step was, read off its answer. -/

variable {t : ReadState}

theorem at_of_advance (h : advance s = .ok ((), t)) : t = s.at s.rest := by
  rw [advance, bind_ok get_ok] at h
  generalize hr : s.rest = r at h
  split at h
  · cases h
    simp only [ReadState.at, tokenAt, afterToken]
  · cases h
  · cases h
    rfl
  · next c rest hne hne' =>
    cases h
    have hc : c ≠ '\\' := by
      rintro rfl
      cases rest with
      | nil => exact hne rfl rfl
      | cons d rest => exact hne' d rest rfl rfl
    rw [ReadState.at, tokenAt_cons hc, afterToken_cons hc]

theorem of_take {token : Option Token} (h : take (s.at cs) = .ok (token, t)) :
    token = tokenAt cs ∧ t = s.at (afterToken cs) := by
  rw [take, bind_ok peek_at] at h
  obtain ⟨⟨⟩, u, hadvance, h⟩ := exists_of_bind_eq_ok h
  cases h
  exact ⟨rfl, at_of_advance hadvance⟩

theorem cons_of_tokenAt (h : tokenAt cs = some (.char c)) : cs = c :: afterToken cs := by
  unfold tokenAt at h
  split at h
  · cases h
  · cases h
  · next hne =>
    cases h
    rw [afterToken]
    exact hne

theorem nil_of_tokenAt (h : tokenAt cs = none) : cs = [] := by
  unfold tokenAt at h
  split at h
  · rfl
  · cases h
  · cases h

theorem cons_of_tokenAt_escaped (h : tokenAt cs = some (.escaped c)) :
    ∃ r, cs = '\\' :: c :: r := by
  unfold tokenAt at h
  split at h
  · cases h
  · cases h
    exact ⟨_, rfl⟩
  · cases h

theorem length_afterToken_lt {token : Token} (h : tokenAt cs = some token) :
    (afterToken cs).length < cs.length := by
  unfold afterToken
  split
  · cases h
  · simp only [List.length_cons]
    omega
  · simp

/-- A reader that went on passed its check. -/
theorem of_check {p : Prop} [Decidable p] {reason : Malformed} {k : PUnit → Reading α}
    {x : α × ReadState} (h : (if p then fail reason >>= k else k ⟨⟩) s = .ok x) :
    ¬p ∧ k ⟨⟩ s = .ok x := by
  split at h
  · cases h
  · next hp => exact ⟨hp, h⟩

theorem lift_eq_ok_iff {e : Except Fault α} {a : α} :
    (liftM e : Reading α) s = .ok (a, t) ↔ e = .ok a ∧ t = s := by
  constructor
  · intro h
    cases e with
    | error e => cases h
    | ok a =>
      cases h
      exact ⟨rfl, rfl⟩
  · rintro ⟨rfl, rfl⟩
    rfl

theorem of_accept {b : Bool} (h : accept c (s.at cs) = .ok (b, t)) :
    (b = true ∧ ∃ r, cs = c :: r ∧ t = s.at r) ∨
      (b = false ∧ tokenAt cs ≠ some (.char c) ∧ t = s.at cs) := by
  rw [accept, bind_ok peek_at] at h
  split at h
  · next hc =>
    obtain ⟨⟨⟩, u, hadvance, h⟩ := exists_of_bind_eq_ok h
    cases h
    exact .inl ⟨rfl, _, cons_of_tokenAt (beq_iff_eq.1 hc), at_of_advance hadvance⟩
  · next hc =>
    cases h
    exact .inr ⟨rfl, fun e => hc (beq_iff_eq.2 e), rfl⟩

/-- Whatever the reader answers, it is so. -/
def Gives (P : α → Prop) (m : Reading α) : Prop := ∀ s a t, m s = .ok (a, t) → P a

namespace Gives

variable {P : β → Prop} {m : Reading α} {f : α → Reading β} {p q : Reading β}

theorem pure {b : β} (h : P b) : Gives P (Pure.pure b : Reading β) := by
  rintro s a t ⟨⟩
  exact h

theorem throw (e : Fault) : Gives P (throw e : Reading β) := fun _ _ _ h => by cases h

theorem fail (reason : Malformed) : Gives P (fail reason : Reading β) := throw _

theorem bind (h : ∀ a, Gives P (f a)) : Gives P (m >>= f) := by
  intro s b t hb
  obtain ⟨a, u, -, hf⟩ := exists_of_bind_eq_ok hb
  exact h a u b t hf

theorem ite {c : Prop} [Decidable c] (hp : Gives P p) (hq : Gives P q) :
    Gives P (if c then p else q) := by
  split
  · exact hp
  · exact hq

theorem mono {P' : β → Prop} (h : Gives P p) (hP : ∀ b, P b → P' b) : Gives P' p :=
  fun s b t hb => hP b (h s b t hb)

theorem check {c : Prop} [Decidable c] {m : Reading PUnit} {k : PUnit → Reading β}
    (h : Gives P (k ⟨⟩)) : Gives P (if c then m >>= k else k ⟨⟩) :=
  .ite (.bind fun _ => h) h

end Gives

end Reading

end PathPolicy.Regex
