import Gramado.Gramcnf.Printing

/-! Whether a call of the lexer comes to an end, and inside its buffer. -/

namespace Gramado.Gramcnf.Totality

open Rtl.Strings
open Rtl.Stream (EOF)
open Gramcnf.Lexer
open Gramcnf.Printing (characters)

/-- What `__skip_white_space` does with a character: it goes on, or it stops. -/
def skipStep (place : Place) (c : Int) (finput : List Int) : Place ⊕ Except Stop (Int × List Int) :=
  match place with
  | .code =>
      if blank c || c = 10 then .inl .code
      else if c = 47 then .inl .slash
      else .inr (.ok (c, finput))
  | .slash =>
      if c = 47 then .inl .line
      else if c = 42 then .inl (.comment false)
      else .inr (.ok (47, ungetc c finput))
  | .line => if c = 10 then .inl .code else .inl .line
  | .comment star =>
      if c = 42 then .inl (.comment true)
      else if star && c = 47 then .inl .code
      else if c = EOF || c = 0 then
        .inr (.error (.exit 1 "__skip_white_space: Unterminated comment in line %d\n"))
      else .inl (.comment false)

/-- `__skip_white_space` with so many calls of `getc`, which goes on delivering `EOF` at the end
of the file. -/
def skipWithin : Nat → Place → List Int → Option (Except Stop (Int × List Int))
  | 0, _, _ => none
  | reads + 1, place, finput =>
      match skipStep place (getc finput).1 (getc finput).2 with
      | .inl place => skipWithin reads place (getc finput).2
      | .inr r => some r

/-- The loops behind the white space stop by themselves when the buffer is full. -/
def yylexWithin (reads : Nat) (l : Scanner) : Option (Except Stop (Int × Scanner)) :=
  (skipWithin reads .code l.finput).map fun skipped =>
    skipped >>= fun r => scanToken r.1 { l with finput := r.2 }

/-- A call returns or exits after finitely many characters, and stores nothing outside. -/
def Total (l : Scanner) : Prop :=
  ∃ reads r, yylexWithin reads l = some r ∧ r ≠ .error .outside

inductive Reached (input : Text) : Scanner → Prop where
  | start : Reached input (lexerInitialize (characters input))
  | call {l l' : Scanner} {c : Int} : Reached input l → yylex l = .ok (c, l') → Reached input l'

def Closed (text : List Int) : Prop := 0 ∉ text ∧ EOF ∉ text ∧ ¬ [42, 47] <:+: text ++ [42]

inductive Spaces : List Int → Prop where
  | nil : Spaces []
  | blank {c : Int} {w : List Int} : (blank c || decide (c = 10)) = true → Spaces w → Spaces (c :: w)
  | line {text w : List Int} : 10 ∉ text → Spaces w → Spaces (47 :: 47 :: text ++ 10 :: w)
  | comment {text w : List Int} :
      Closed text → Spaces w → Spaces (47 :: 42 :: text ++ 42 :: 47 :: w)

def OpenLine (finput : List Int) : Prop :=
  ∃ w text, finput = w ++ 47 :: 47 :: text ∧ Spaces w ∧ 10 ∉ text

/-- At most so many accepted characters, and then another one or an end of the file that is not
accepted. -/
def Ends (accept : Int → Bool) (room : Nat) (finput : List Int) : Prop :=
  ∃ text rest, finput = text ++ rest ∧ (∀ c ∈ text, accept c = true) ∧
    accept (getc rest).1 = false ∧ text.length ≤ room

def TokenFits (c : Int) (rest : List Int) : Prop :=
  if starts c then Ends continues 254 rest
  else if isdigit c then
    if c = 48 then (getc rest).1 = 120 ∨ (getc rest).1 = 88 → Ends isxdigit 253 (getc rest).2
    else Ends isdigit 254 rest
  else if c = 34 then Ends (fun c => c ≠ 34) 255 rest
  else True

structure Scannable (finput : List Int) : Prop where
  line : ¬ OpenLine finput
  token : ∀ w c rest, finput = w ++ c :: rest → Spaces w → TokenFits c rest

variable {c : Int} {text : List Int}

section Spaces

variable {place : Place} {finput : List Int} {r : Except Stop (Int × List Int)}

theorem skip_step (c : Int) (finput : List Int) : skipWhiteSpace place (c :: finput) =
      match skipStep place c finput with
      | .inl place => skipWhiteSpace place finput
      | .inr r => r := by
  cases place with
  | code =>
      rw [skipWhiteSpace, skipStep]
      split_ifs
      · rfl
      · rfl
      · rfl
  | slash =>
      rw [skipWhiteSpace, skipStep]
      split_ifs
      · rfl
      · rfl
      · rfl
  | line =>
      rw [skipWhiteSpace, skipStep]
      split_ifs
      · rfl
      · rfl
  | comment star =>
      rw [skipWhiteSpace, skipStep]
      split_ifs
      · rfl
      · rfl
      · rfl
      · rfl

theorem skipStep_stop (h : skipStep place c finput = .inr r) : r ≠ .error .hang := by
  rintro rfl
  unfold skipStep at h
  split at h
  all_goals
    split_ifs at h
    all_goals simp at h

theorem skip_end (place : Place) : (place = .line ∧ skipStep place EOF [] = .inl .line ∧
        skipWhiteSpace place [] = .error .hang) ∨
      skipStep place EOF [] = .inr (skipWhiteSpace place []) := by
  cases place with
  | code => exact .inr rfl
  | slash => exact .inr rfl
  | line => exact .inl ⟨rfl, rfl, rfl⟩
  | comment star =>
      cases star with
      | true => exact .inr rfl
      | false => exact .inr rfl

theorem skipWithin_eq {reads : Nat} (h : skipWithin reads place finput = some r) :
    skipWhiteSpace place finput = r ∧ r ≠ .error .hang := by
  induction reads generalizing place finput with
  | zero => cases h
  | succ reads ih =>
      rw [skipWithin] at h
      cases finput with
      | nil =>
          rcases skip_end place with ⟨rfl, hstep, hloop⟩ | hstep
          · exact absurd hloop fun hloop => (ih h).2 ((ih h).1.symm.trans hloop)
          · rw [getc, hstep] at h
            rw [← Option.some.inj h]
            exact ⟨rfl, skipStep_stop hstep⟩
      | cons c finput =>
          rw [getc] at h
          rw [skip_step]
          cases hstep : skipStep place c finput with
          | inl next =>
              rw [hstep] at h
              exact ih h
          | inr r' =>
              rw [hstep] at h
              cases Option.some.inj h
              exact ⟨rfl, skipStep_stop hstep⟩

theorem skipWithin_length (h : skipWhiteSpace place finput ≠ .error .hang) :
    skipWithin (finput.length + 1) place finput = some (skipWhiteSpace place finput) := by
  induction finput generalizing place with
  | nil =>
      rcases skip_end place with ⟨-, -, hloop⟩ | hstep
      · exact absurd hloop h
      · rw [skipWithin, getc, hstep]
  | cons c finput ih =>
      rw [skip_step] at h
      rw [List.length_cons, skipWithin, getc, skip_step]
      cases hstep : skipStep place c finput with
      | inl next =>
          rw [hstep] at h
          exact ih h
      | inr r => rfl

theorem total_iff_yylex (l : Scanner) :
    Total l ↔ skipWhiteSpace .code l.finput ≠ .error .hang ∧ yylex l ≠ .error .outside := by
  constructor
  · rintro ⟨reads, r, hr, hne⟩
    rw [yylexWithin, Option.map_eq_some_iff] at hr
    obtain ⟨skipped, hskip, rfl⟩ := hr
    obtain ⟨heq, hloop⟩ := skipWithin_eq hskip
    rw [yylex, heq]
    exact ⟨hloop, hne⟩
  · rintro ⟨hloop, hne⟩
    refine ⟨l.finput.length + 1, yylex l, ?_, hne⟩
    rw [yylexWithin, skipWithin_length hloop]
    rfl

theorem closed_cons (hzero : c ≠ 0) (hend : c ≠ EOF)
    (hhead : c = 42 → (text ++ [42]).head? ≠ some 47) (h : Closed text) : Closed (c :: text) := by
  obtain ⟨hz, he, hinfix⟩ := h
  refine ⟨List.not_mem_cons_of_ne_of_not_mem hzero.symm hz,
    List.not_mem_cons_of_ne_of_not_mem hend.symm he, fun hin => ?_⟩
  rw [List.cons_append, List.infix_cons_iff] at hin
  rcases hin with hprefix | hin
  · rw [List.cons_prefix_cons] at hprefix
    obtain ⟨hc, rest, hrest⟩ := hprefix
    exact hhead hc.symm (by rw [← hrest]; rfl)
  · exact hinfix hin

theorem Closed.tail (h : Closed (c :: text)) : Closed text := by
  obtain ⟨hzero, hend, hinfix⟩ := h
  refine ⟨fun hin => hzero (List.mem_cons_of_mem c hin),
    fun hin => hend (List.mem_cons_of_mem c hin), fun hin => hinfix ?_⟩
  rw [List.cons_append]
  exact hin.trans (List.suffix_cons c _).isInfix

def since (star : Bool) (text : List Int) : List Int := if star then 42 :: text else text

theorem skip_closed {star : Bool} (h : Closed (since star text)) (rest : List Int) :
    skipWhiteSpace (.comment star) (text ++ 42 :: 47 :: rest) = skipWhiteSpace .code rest := by
  induction text generalizing star with
  | nil => rfl
  | cons c text ih =>
      rw [List.cons_append, skip_step, skipStep]
      have hslash : ¬ (star && decide (c = 47)) = true := by
        intro hin
        rw [Bool.and_eq_true, decide_eq_true_eq] at hin
        obtain ⟨rfl, rfl⟩ := hin
        exact h.2.2 ⟨[], text ++ [42], rfl⟩
      have hc : Closed (c :: text) := by
        cases star with
        | true => exact h.tail
        | false => exact h
      have hstop : ¬ (decide (c = EOF) || decide (c = 0)) = true := by
        rw [Bool.or_eq_true, decide_eq_true_eq, decide_eq_true_eq]
        rintro (rfl | rfl)
        · exact hc.2.1 List.mem_cons_self
        · exact hc.1 List.mem_cons_self
      by_cases hstar : c = 42
      · rw [if_pos hstar]
        apply ih
        rw [hstar] at hc
        exact hc
      · rw [if_neg hstar, if_neg hslash, if_neg hstop]
        exact ih hc.tail

theorem skip_line (h : 10 ∉ text) (rest : List Int) :
    skipWhiteSpace .line (text ++ 10 :: rest) = skipWhiteSpace .code rest := by
  induction text with
  | nil => rfl
  | cons c text ih =>
      obtain ⟨hc, htext⟩ := List.ne_and_not_mem_of_not_mem_cons h
      rw [List.cons_append, skip_step, skipStep, if_neg (Ne.symm hc)]
      exact ih htext

theorem skip_openLine (h : 10 ∉ text) : skipWhiteSpace .line text = .error .hang := by
  induction text with
  | nil => rfl
  | cons c text ih =>
      obtain ⟨hc, htext⟩ := List.ne_and_not_mem_of_not_mem_cons h
      rw [skip_step, skipStep, if_neg (Ne.symm hc)]
      exact ih htext

theorem skip_spaces {w : List Int} (h : Spaces w) (rest : List Int) :
    skipWhiteSpace .code (w ++ rest) = skipWhiteSpace .code rest := by
  induction h with
  | nil => rfl
  | blank hc _ ih =>
      rw [List.cons_append, skip_step, skipStep, if_pos hc]
      exact ih
  | @line text w htext _ ih =>
      rw [List.append_assoc]
      exact (skip_line htext (w ++ rest)).trans ih
  | @comment text w htext _ ih =>
      rw [List.append_assoc]
      exact (@skip_closed text false htext (w ++ rest)).trans ih

theorem comment_cases (star : Bool) (finput : List Int) :
    (∃ text rest, since star finput = text ++ 42 :: 47 :: rest ∧ Closed text ∧
        skipWhiteSpace (.comment star) finput = skipWhiteSpace .code rest) ∨
      ∃ status message, skipWhiteSpace (.comment star) finput = .error (.exit status message) := by
  induction finput generalizing star with
  | nil => exact .inr ⟨1, _, rfl⟩
  | cons c finput ih =>
      rw [skip_step, skipStep]
      split_ifs with hstar hslash hstop
      · refine (ih true).imp_left ?_
        rintro ⟨text, rest, hsplit, htext, hskip⟩
        cases star with
        | false => exact ⟨text, rest, by rw [← hsplit, hstar]; rfl, htext, hskip⟩
        | true =>
            refine ⟨42 :: text, rest, ?_, closed_cons (by decide) (by decide) ?_ htext, hskip⟩
            · rw [List.cons_append, ← hsplit, hstar]
              rfl
            · cases text with
              | nil => simp
              | cons d text =>
                  obtain ⟨rfl, -⟩ := List.cons.inj hsplit
                  simp
      · rw [Bool.and_eq_true, decide_eq_true_eq] at hslash
        obtain ⟨rfl, rfl⟩ := hslash
        refine .inl ⟨[], finput, rfl, ⟨by simp, by simp, ?_⟩, rfl⟩
        simp [List.infix_cons_iff]
      · exact .inr ⟨1, _, rfl⟩
      · rw [Bool.or_eq_true, decide_eq_true_eq, decide_eq_true_eq, not_or] at hstop
        refine (ih false).imp_left ?_
        rintro ⟨text, rest, hsplit, htext, hskip⟩
        have hc : Closed (c :: text) := closed_cons hstop.2 hstop.1 (fun h => absurd h hstar) htext
        have hcons : c :: finput = (c :: text) ++ 42 :: 47 :: rest := by
          rw [List.cons_append, ← hsplit]
          rfl
        cases star with
        | false => exact ⟨c :: text, rest, hcons, hc, hskip⟩
        | true =>
            refine ⟨42 :: c :: text, rest, ?_, closed_cons (by decide) (by decide) ?_ hc, hskip⟩
            · rw [List.cons_append, ← hcons]
              rfl
            · intro _ hhead
              obtain rfl : c = 47 := Option.some.inj hhead
              exact hslash rfl

/-- What the scan finds behind the spaces: the end of a file in a comment of one line, the end in
another comment, or a character. -/
def Found (finput : List Int) (r : Except Stop (Int × List Int)) : Prop :=
  (r = .error .hang ∧ OpenLine finput) ∨ (∃ status message, r = .error (.exit status message)) ∨
    ∃ c rest, r = .ok (c, rest) ∧
      (c = EOF ∨ c = 47 ∨ ∃ w, finput = w ++ c :: rest ∧ Spaces w)

theorem found_behind {u : List Int} (hu : ∀ w, Spaces w → Spaces (u ++ w)) (h : Found finput r) :
    Found (u ++ finput) r := by
  rcases h with ⟨hr, w, text, hsplit, hw, htext⟩ | hexit | ⟨c, rest, hr, hc⟩
  · refine .inl ⟨hr, u ++ w, text, ?_, hu w hw, htext⟩
    rw [hsplit, List.append_assoc]
  · exact .inr (.inl hexit)
  · refine .inr (.inr ⟨c, rest, hr, hc.imp_right (Or.imp_right ?_)⟩)
    rintro ⟨w, hsplit, hw⟩
    exact ⟨u ++ w, by rw [hsplit, List.append_assoc], hu w hw⟩

theorem skip_found (finput : List Int) : Found finput (skipWhiteSpace .code finput) := by
  induction hlength : finput.length using Nat.strong_induction_on generalizing finput with
  | _ n ih =>
      subst hlength
      have hrec (u rest : List Int) (hu : ∀ w, Spaces w → Spaces (u ++ w))
          (hpos : 0 < u.length) (hsplit : finput = u ++ rest) :
          Found finput (skipWhiteSpace .code rest) := by
        rw [hsplit]
        apply found_behind hu
        apply ih rest.length _ rest rfl
        rw [hsplit, List.length_append]
        omega
      cases finput with
      | nil => exact .inr (.inr ⟨EOF, [], rfl, .inl rfl⟩)
      | cons c finput =>
          rw [skip_step, skipStep]
          split_ifs with hblank hslash
          · exact hrec [c] finput (fun w hw => .blank hblank hw) Nat.one_pos rfl
          · subst hslash
            cases finput with
            | nil => exact .inr (.inr ⟨47, [], rfl, .inr (.inl rfl)⟩)
            | cons d finput =>
                dsimp only
                rw [skip_step, skipStep]
                split_ifs with hline hcomment
                · subst hline
                  by_cases hnewline : 10 ∈ finput
                  · obtain ⟨text, rest, rfl, htext⟩ := List.eq_append_cons_of_mem hnewline
                    dsimp only
                    rw [skip_line htext]
                    apply hrec (47 :: 47 :: text ++ [10]) rest
                    · intro w hw
                      rw [List.append_assoc]
                      exact .line htext hw
                    · simp
                    · simp
                  · exact .inl ⟨skip_openLine hnewline, [], finput, rfl, .nil, hnewline⟩
                · subst hcomment
                  rcases comment_cases false finput with
                    ⟨text, rest, hsplit, htext, hskip⟩ | hexit
                  · change finput = _ at hsplit
                    dsimp only
                    rw [hskip]
                    apply hrec (47 :: 42 :: text ++ [42, 47]) rest
                    · intro w hw
                      rw [List.append_assoc]
                      exact .comment htext hw
                    · simp
                    · simp [hsplit]
                  · exact .inr (.inl hexit)
                · exact .inr (.inr ⟨47, _, rfl, .inr (.inl rfl)⟩)
          · exact .inr (.inr ⟨c, finput, rfl, .inr (.inr ⟨[], rfl, .nil⟩)⟩)

end Spaces

section Tokens

variable {accept : Int → Bool} {room : Nat} {finput : List Int}

theorem collect_iff : collect accept room finput ≠ .error .outside ↔ Ends accept room finput := by
  induction room generalizing finput with
  | zero =>
      rw [collect]
      by_cases h : accept (getc finput).1 = true
      · rw [if_pos h]
        refine ⟨fun hne => absurd rfl hne, ?_⟩
        rintro ⟨text, rest, rfl, -, hend, hlength⟩
        obtain rfl := List.length_eq_zero_iff.mp (Nat.le_zero.mp hlength)
        exact absurd h (by rw [List.nil_append, hend]; decide)
      · rw [if_neg h]
        exact ⟨fun _ => ⟨[], finput, rfl, by simp, by simpa using h, Nat.le_refl 0⟩, fun _ => by simp⟩
  | succ room ih =>
      rw [collect]
      by_cases h : accept (getc finput).1 = true
      · rw [if_pos h]
        refine Iff.trans ?_ ((@ih (getc finput).2).trans ?_)
        · cases collect accept room (getc finput).2 with
          | error e => simp [bind, Except.bind]
          | ok r => simp [bind, Except.bind]
        constructor
        · rintro ⟨text, rest, hsplit, hall, hend, hlength⟩
          cases finput with
          | nil =>
              obtain ⟨-, rfl⟩ := List.append_eq_nil_iff.mp hsplit.symm
              exact absurd (hend.symm.trans h) Bool.false_ne_true
          | cons c finput =>
              change finput = _ at hsplit
              refine ⟨c :: text, rest, by rw [hsplit]; rfl, ?_, hend, Nat.succ_le_succ hlength⟩
              exact List.forall_mem_cons.mpr ⟨h, hall⟩
        · rintro ⟨text, rest, rfl, hall, hend, hlength⟩
          cases text with
          | nil => exact absurd h (by rw [List.nil_append, hend]; decide)
          | cons c text =>
              exact ⟨text, rest, rfl, (List.forall_mem_cons.mp hall).2, hend,
                Nat.le_of_succ_le_succ hlength⟩
      · rw [if_neg h]
        exact ⟨fun _ => ⟨[], finput, rfl, by simp, by simpa using h, Nat.zero_le _⟩, fun _ => by simp⟩

theorem bind_ok_outside {α β : Type} (x : Except Stop α) (f : α → β) :
    (x >>= fun a => .ok (f a)) ≠ .error .outside ↔ x ≠ .error .outside := by
  cases x with
  | error e => simp [bind, Except.bind]
  | ok a => simp [bind, Except.bind]

theorem scanToken_iff (c : Int) (l : Scanner) :
    scanToken c l ≠ .error .outside ↔ TokenFits c l.finput := by
  unfold scanToken TokenFits
  by_cases hend : c = EOF ∨ c = 0
  · rw [if_pos hend]
    rcases hend with rfl | rfl
    · exact ⟨fun _ => trivial, fun _ => by simp⟩
    · exact ⟨fun _ => trivial, fun _ => by simp⟩
  rw [if_neg hend]
  split_ifs with hstarts hdigit hzero hstring hseparator hoperator
  · exact (bind_ok_outside _ _).trans collect_iff
  · rw [scanConstant, if_pos hzero]
    dsimp only
    split_ifs with hx
    · exact (bind_ok_outside _ _).trans (collect_iff.trans ⟨fun h _ => h, fun h => h hx⟩)
    · exact ⟨fun _ h => absurd h hx, fun _ => by simp⟩
  · rw [scanConstant, if_neg hzero]
    exact (bind_ok_outside _ _).trans collect_iff
  · exact (bind_ok_outside _ _).trans collect_iff
  · exact ⟨fun _ => trivial, fun _ => by simp⟩
  · exact ⟨fun _ => trivial, fun _ => by simp⟩
  · exact ⟨fun _ => trivial, fun _ => by simp⟩

theorem total_iff (l : Scanner) : Total l ↔ Scannable l.finput := by
  rw [total_iff_yylex]
  constructor
  · rintro ⟨hloop, hinside⟩
    refine ⟨?_, ?_⟩
    · rintro ⟨w, text, hsplit, hw, htext⟩
      rw [hsplit, skip_spaces hw] at hloop
      exact hloop (skip_openLine htext)
    · intro w c rest hsplit hw
      by_cases hhead : blank c || c = 10 || c = 47
      · have hnone : ¬ starts c = true ∧ ¬ isdigit c = true ∧ c ≠ 34 := by
          simp only [blank, Bool.or_eq_true, decide_eq_true_eq] at hhead
          simp only [starts, isdigit, Bool.or_eq_true, Bool.and_eq_true, decide_eq_true_eq]
          omega
        obtain ⟨hstarts, hdigit, hstring⟩ := hnone
        rw [TokenFits, if_neg hstarts, if_neg hdigit, if_neg hstring]
        trivial
      · rw [Bool.or_eq_true, not_or] at hhead
        have hskip : skipWhiteSpace .code l.finput = .ok (c, rest) := by
          rw [hsplit, skip_spaces hw, skip_step, skipStep, if_neg hhead.1,
            if_neg (fun h => hhead.2 (decide_eq_true h))]
        rw [yylex, hskip] at hinside
        exact (scanToken_iff c { l with finput := rest }).mp hinside
  · rintro ⟨hline, htoken⟩
    rcases skip_found l.finput with ⟨-, hopen⟩ | ⟨status, message, hexit⟩ | ⟨c, rest, hr, hc⟩
    · exact absurd hopen hline
    · rw [yylex, hexit]
      exact ⟨by simp, by rintro ⟨⟩⟩
    · rw [yylex, hr]
      refine ⟨by simp, (scanToken_iff c { l with finput := rest }).mpr ?_⟩
      rcases hc with rfl | rfl | ⟨w, hsplit, hw⟩
      · trivial
      · trivial
      · exact htoken w c rest hsplit hw

/-- Every call for a file returns or exits, and stores inside the buffer, exactly when no call
finds a comment or a token that the file or the buffer is too short for. -/
theorem totality_iff (input : Text) :
    (∀ l, Reached input l → Total l) ↔ ∀ l, Reached input l → Scannable l.finput :=
  forall_congr' fun l => imp_congr_right fun _ => total_iff l

/-- A file that ends with a word. The end of the file is taken for a letter. -/
theorem word_at_end : ¬ ∀ input : Text, ∀ l, Reached input l → Total l := by
  intro h
  have htotal := h [98] _ .start
  rw [total_iff] at htotal
  have hends : Ends continues 254 [] := htotal.token [] 98 [] rfl .nil
  obtain ⟨text, rest, hsplit, -, hend, -⟩ := hends
  obtain ⟨-, rfl⟩ := List.append_eq_nil_iff.mp hsplit.symm
  exact absurd hend (by decide)

end Tokens

end Gramado.Gramcnf.Totality
