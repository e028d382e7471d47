import Mathlib.Data.List.Basic

/-! Computations that put something out, and what holds wherever they succeed. -/

namespace Gramado.Library.Log

abbrev Logged (ε ο σ : Type) := Except ε (List ο × σ)

variable {ε ο σ τ υ ι : Type}

def silent (s : σ) : Logged ε ο σ := .ok ([], s)

def Logged.andThen (p : Logged ε ο σ) (next : σ → Logged ε ο τ) : Logged ε ο τ :=
  match p with
  | .error e => .error e
  | .ok (log, s) =>
      match next s with
      | .error e => .error e
      | .ok (log', t) => .ok (log ++ log', t)

def each (visit : ι → σ → Logged ε ο σ) : List ι → σ → Logged ε ο σ
  | [], s => silent s
  | i :: rest, s => (visit i s).andThen (each visit rest)

@[simp] theorem silent_andThen (s : σ) (next : σ → Logged ε ο τ) :
    (silent s).andThen next = next s := by
  rw [silent, Logged.andThen]
  generalize next s = p
  cases p with
  | error e => rfl
  | ok p => rfl

@[simp] theorem andThen_silent (p : Logged ε ο σ) : p.andThen silent = p := by
  cases p with
  | error e => rfl
  | ok p =>
      change Except.ok (p.1 ++ [], p.2) = _
      rw [List.append_nil]

theorem andThen_assoc (p : Logged ε ο σ) (next : σ → Logged ε ο τ) (last : τ → Logged ε ο υ) :
    (p.andThen next).andThen last = p.andThen fun s => (next s).andThen last := by
  cases p with
  | error e => rfl
  | ok p =>
      obtain ⟨log, s⟩ := p
      simp only [Logged.andThen]
      generalize next s = q
      cases q with
      | error e => rfl
      | ok q =>
          obtain ⟨log', t⟩ := q
          dsimp only
          generalize last t = r
          cases r with
          | error e => rfl
          | ok r => simp only [List.append_assoc]

theorem ok_andThen (log : List ο) (s : σ) (next : σ → Logged ε ο τ) :
    Logged.andThen (.ok (log, s)) next = match next s with
      | .error e => .error e
      | .ok (log', t) => .ok (log ++ log', t) := rfl

theorem each_cons (visit : ι → σ → Logged ε ο σ) (i : ι) (rest : List ι) (s : σ) :
    each visit (i :: rest) s = (visit i s).andThen (each visit rest) := rfl

@[simp] theorem each_singleton (visit : ι → σ → Logged ε ο σ) (i : ι) (s : σ) :
    each visit [i] s = visit i s := andThen_silent _

theorem each_append (visit : ι → σ → Logged ε ο σ) (is js : List ι) (s : σ) :
    each visit (is ++ js) s = (each visit is s).andThen (each visit js) := by
  induction is generalizing s with
  | nil =>
      rw [List.nil_append, each, silent_andThen]
  | cons i is ih =>
      rw [List.cons_append, each_cons, each_cons, andThen_assoc]
      congr 1
      funext t
      exact ih t

variable {log : List ο} {s : σ} {p : Logged ε ο σ} {next : σ → Logged ε ο τ}

section Meets

variable {P Q : σ → Prop} {R : List ο → σ → Prop}

def Meets (p : Logged ε ο σ) (R : List ο → σ → Prop) : Prop :=
  ∀ log s, p = .ok (log, s) → R log s

theorem meets_ok (h : R log s) : Meets (.ok (log, s) : Logged ε ο σ) R := by
  intro log' s' heq
  cases heq
  exact h

theorem meets_ok_iff : Meets (.ok (log, s) : Logged ε ο σ) R ↔ R log s :=
  ⟨fun h => h log s rfl, meets_ok⟩

theorem meets_error (e : ε) : Meets (.error e : Logged ε ο σ) R := by
  intro log s heq
  cases heq

instance [∀ log s, Decidable (R log s)] : (p : Logged ε ο σ) → Decidable (Meets p R)
  | .error e => .isTrue (meets_error e)
  | .ok (log, s) => decidable_of_iff (R log s) meets_ok_iff.symm

theorem meets_silent (h : R [] s) : Meets (silent s : Logged ε ο σ) R := meets_ok h

theorem Meets.mono {R' : List ο → σ → Prop} (h : Meets p R) (hsub : ∀ log s, R log s → R' log s) :
    Meets p R' :=
  fun log s heq => hsub log s (h log s heq)

theorem Meets.andThen {R' : List ο → τ → Prop} (h : Meets p R)
    (hnext : ∀ log s, R log s → Meets (next s) fun log' t => R' (log ++ log') t) :
    Meets (p.andThen next) R' := by
  intro log'' u heq
  cases p with
  | error e => cases heq
  | ok p =>
      obtain ⟨log, s⟩ := p
      rw [ok_andThen] at heq
      have hs := hnext log s (h log s rfl)
      generalize next s = q at heq hs
      cases q with
      | error e => cases heq
      | ok q =>
          obtain ⟨log', t⟩ := q
          cases heq
          exact hs log' u rfl

theorem meets_andThen_iff {P : τ → Prop} : (Meets (p.andThen next) fun _ t => P t) ↔
      Meets p fun _ s => Meets (next s) fun _ t => P t := by
  constructor
  · intro h log s heq log' t hnext
    subst heq
    apply h (log ++ log') t
    rw [ok_andThen, hnext]
  · exact fun h => Meets.andThen h fun _ _ hs => hs

theorem andThen_congr {next' : σ → Logged ε ο τ} (h : Meets p fun _ s => next s = next' s) :
    p.andThen next = p.andThen next' := by
  cases p with
  | error e => rfl
  | ok p =>
      obtain ⟨log, s⟩ := p
      rw [ok_andThen, ok_andThen, h log s rfl]

theorem each_invariant {visit : ι → σ → Logged ε ο σ} (Inv : σ → Prop)
    (hvisit : ∀ i s, Inv s → Meets (visit i s) fun _ t => Inv t) (is : List ι) (hs : Inv s) :
    Meets (each visit is s) fun _ t => Inv t := by
  induction is generalizing s with
  | nil => exact meets_silent hs
  | cons i is ih => exact Meets.andThen (hvisit i s hs) fun _ t ht => ih ht

end Meets

section Along

variable {visit : ι → σ → Logged ε ο σ} {Q Q' : ι → List ι → σ → Prop}

/-- What holds wherever a loop arrives: of the input that is next, of the inputs behind it and
of the state. -/
def Along (visit : ι → σ → Logged ε ο σ) (Q : ι → List ι → σ → Prop) : List ι → σ → Prop
  | [], _ => True
  | i :: rest, s => Q i rest s ∧ Meets (visit i s) fun _ t => Along visit Q rest t

instance instDecidableAlong [∀ i rest s, Decidable (Q i rest s)] :
    (is : List ι) → (s : σ) → Decidable (Along visit Q is s)
  | [], _ => inferInstanceAs (Decidable True)
  | i :: rest, s =>
      have : ∀ t, Decidable (Along visit Q rest t) := instDecidableAlong rest
      inferInstanceAs (Decidable (Q i rest s ∧ Meets (visit i s) fun _ t => Along visit Q rest t))

theorem along_congr (Inv : σ → Prop) (hvisit : ∀ i s, Inv s → Meets (visit i s) fun _ t => Inv t)
    (hiff : ∀ i rest s, Inv s → (Q i rest s ↔ Q' i rest s)) (is : List ι) (hs : Inv s) :
    Along visit Q is s ↔ Along visit Q' is s := by
  induction is generalizing s with
  | nil => exact Iff.rfl
  | cons i rest ih =>
      rw [Along, Along]
      apply and_congr (hiff i rest s hs)
      constructor
      · exact fun h log t ht => (ih (hvisit i s hs log t ht)).mp (h log t ht)
      · exact fun h log t ht => (ih (hvisit i s hs log t ht)).mpr (h log t ht)

end Along

end Gramado.Library.Log
