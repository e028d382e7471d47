import Gramado.Gramcnf.Entries

namespace Gramado.Gramcnf.Configuration

open Library.CheckedRead Rtl.Strings Gramcnf.Lexer Gramcnf.Parser Gramcnf.Printing Gramcnf.Scanning
open Gramcnf.Constants Gramcnf.Statements Gramcnf.Entries

structure Between (s : Interpreter) : Prop where
  running : s.running = true
  State : s.State = 1
  braces : s.braces_inside = 0
  parentheses : s.parentheses_inside = 0
  box : s.square_brackets_inside = 1
  stage : s.meta_stage = 0

def entryText (e : Entry) : Text := functionText e.tag.text

def entryOutput (e : Entry) : Text := stringText e.name.text ++ stringText e.content.text

/-- The entry is read to its end: there is room for what it adds, and its constant is no
failure. -/
def Kept (text output : Nat) (e : Entry) : Prop :=
  text + (entryText e).length < SECTION_SIZE ∧
    output + (entryOutput e).length < OUTFILE_MAX_SIZE ∧ Readable e.value

def entered (s : Interpreter) (l : Scanner) (e : Entry) : Interpreter :=
  { s with
    lexer := l
    save_symbol := e.tag.text
    waiting_identifier_after_type := false
    metadata := fun i =>
      if i = s.meta_index then e.record i (evaluated e.value) else s.metadata i
    meta_index := s.meta_index + 1
    meta_stage := 0
    TEXT := s.TEXT ++ entryText e
    outfile := s.outfile ++ entryOutput e
    State := 1 }

variable {A B : Prop} {t : Interpreter} {n : Nat} {box : Identifier} {text : Text}

section Steps

variable {s : Interpreter} {ts : List Lexeme} {P : Interpreter → Prop}

/-- Some turns of the loop go on in another state exactly when a condition holds, and end the
program otherwise. -/
def Turns (n : Nat) (s : Interpreter) (A : Prop) (t : Interpreter) : Prop :=
  ∀ fuel P, Returns (loop (fuel + n) s) P ↔ A ∧ Returns (loop fuel t) P

theorem turns_step (h : ∀ P, Returns (iteration s) P ↔ A ∧ P t) (hs : s.running = true) :
    Turns 1 s A t := by
  intro fuel P
  rw [loop, if_pos hs, returns_bind, h]

theorem turns_ok (h : iteration s = .ok t) (hs : s.running = true) : Turns 1 s True t := by
  intro fuel P
  rw [loop, if_pos hs, returns_bind, h, returns_ok, true_and]

theorem Turns.trans {m : Nat} {u : Interpreter} (h : Turns m s A t) (h' : A → Turns n t B u) :
    Turns (n + m) s (A ∧ B) u := by
  intro fuel P
  rw [← Nat.add_assoc, h, and_assoc]
  exact and_congr_right fun hA => h' hA fuel P

theorem Turns.imp (h : Turns n s A t) (hAB : A ↔ B) : Turns n s B t := by
  intro fuel P
  rw [h, hAB]

def opened (s : Interpreter) (l : Scanner) (tag : Text) : Interpreter :=
  { s with
    lexer := l
    save_symbol := tag
    waiting_identifier_after_type := false
    metadata := update s fun m => { m with meta_tag := tag, tag_size := tag.length }
    braces_inside := s.braces_inside + 1
    TEXT := s.TEXT ++ functionText tag
    State := 1 }

theorem returns_head (hs : Between s) (tag : Identifier)
    (h : Ahead s.lexer (.word (bytes "meta") :: .word tag.text :: OPEN :: CLOSE :: OPEN_BRACE :: ts)) :
    ∃ l, Ahead l ts ∧ Turns 4 s
      (s.TEXT.length + (functionText tag.text).length < SECTION_SIZE)
      (opened s l tag.text) := by
  have hmeta : reservedWord (bytes "meta") = some (.type .KWMETA .TMETA) := by
    decide
  have hchars := identifier_chars tag
  obtain ⟨l1, h1, htype, step1⟩ := iteration_type hs.State h meta_fits (identifier_fits tag)
    hmeta (.inr rfl)
  obtain ⟨l2, h2, step2⟩ := iteration_tag
    (s := { s with lexer := l1, waiting_identifier_after_type := true, State := 2 }) rfl rfl htype
    h1 (identifier_fits tag) (identifier_notReserved tag) (fun h0 => (hchars 0 h0).1 rfl)
    (fun h0 => (hchars 37 h0).2 rfl) (identifier_nonempty tag)
    (Nat.lt_succ_of_le tag.short)
  obtain ⟨l3, h3, step3⟩ := iteration_close
    (s := { s with
      lexer := l2, save_symbol := tag.text, waiting_identifier_after_type := false
      metadata := update s fun m => { m with meta_tag := tag.text, tag_size := tag.text.length }
      parentheses_inside := s.parentheses_inside + 1, TEXT := s.TEXT ++ functionText tag.text
      State := 1 }) rfl (Nat.succ_pos _) h2
  obtain ⟨l4, h4, step4⟩ := iteration_openBrace
    (s := { opened s l3 tag.text with braces_inside := s.braces_inside }) rfl h3
  refine ⟨l4, h4, ?_⟩
  have hturns := (turns_ok step1 hs.running).trans fun _ => (turns_step step2 hs.running).trans
    fun _ => (turns_ok step3 hs.running).trans fun _ => turns_ok step4 hs.running
  exact hturns.imp (by rw [true_and, true_and, and_true])

def finished (s : Interpreter) (l : Scanner) (e : Entry) : Interpreter :=
  let named := stringRead nameStatement s l e.name.text
  let filled := stringRead contentStatement named l e.content.text
  { entryFinished filled l (evaluated e.value) with
    braces_inside := s.braces_inside - 1, State := 1 }

theorem returns_body (hrunning : s.running = true) (hs : s.State = 1)
    (hbraces : s.braces_inside > 0) (hstage : s.meta_stage = 0)
    (hindex : s.meta_index + 1 < 32) (e : Entry)
    (h : Ahead s.lexer (.word (bytes "name") :: OPEN :: .string e.name.text :: CLOSE ::
      SEMICOLON :: .word (bytes "content") :: OPEN :: .string e.content.text :: CLOSE ::
      SEMICOLON :: .word (bytes "return") :: .constant e.value :: SEMICOLON :: CLOSE_BRACE :: ts)) :
    ∃ l, Ahead l ts ∧ Turns 4 s
      (s.outfile.length + (entryOutput e).length < OUTFILE_MAX_SIZE ∧ Readable e.value)
      (finished s l e) := by
  obtain ⟨l1, h1, step1⟩ := iteration_string hs hbraces h name_fits (by decide)
    (fun _ => keywordState_name) (quoted_fits e.name (by decide)) hstage e.name.plain.1
    e.name.nonempty (Nat.lt_succ_of_le e.name.short)
  obtain ⟨l2, h2, step2⟩ := iteration_string
    (s := { stringRead nameStatement s l1 e.name.text with State := 1 }) rfl hbraces h1
    content_fits (by decide) (fun _ => keywordState_content) (quoted_fits e.content (by decide))
    rfl e.content.plain.1 e.content.nonempty (Nat.lt_succ_of_le e.content.short)
  obtain ⟨l3, h3, step3⟩ := iteration_return
    (s := { stringRead contentStatement
      { stringRead nameStatement s l1 e.name.text with State := 1 } l2 e.content.text with
      State := 1 }) rfl hbraces h2 return_fits e.value_lt hindex
  obtain ⟨l4, h4, step4⟩ := iteration_closeBrace
    (s := { entryFinished (stringRead contentStatement
      (stringRead nameStatement s l1 e.name.text) l2 e.content.text) l3 (evaluated e.value) with
      State := 1 }) rfl hbraces h3
  refine ⟨l4, h4, ?_⟩
  have hturns := (turns_step step1 hrunning).trans fun _ => (turns_step step2 hrunning).trans
    fun _ => (turns_step step3 hrunning).trans fun _ => turns_ok step4 hrunning
  refine hturns.imp ?_
  rw [and_true, stringRead, List.length_append, entryOutput, List.length_append, ← Nat.add_assoc,
    ← and_assoc]
  exact and_congr_left fun _ => and_iff_right_of_imp fun h =>
    Nat.lt_of_le_of_lt (Nat.le_add_right _ _) h

theorem finished_opened (l l' : Scanner) (e : Entry) :
    finished (opened s l e.tag.text) l' e = entered s l' e := by
  have hmeta : (finished (opened s l e.tag.text) l' e).metadata = (entered s l' e).metadata := by
    funext i
    by_cases hi : i = s.meta_index
    · simp [finished, entryFinished, stringRead, opened, entered, update, nameStatement,
        contentStatement, Entry.record, hi]
    · simp [finished, entryFinished, stringRead, opened, entered, update, hi]
  have houtfile : (finished (opened s l e.tag.text) l' e).outfile = (entered s l' e).outfile :=
    List.append_assoc _ _ _
  have hrest : finished (opened s l e.tag.text) l' e = { entered s l' e with
        metadata := (finished (opened s l e.tag.text) l' e).metadata
        outfile := (finished (opened s l e.tag.text) l' e).outfile } := rfl
  rw [hrest, hmeta, houtfile]

theorem turns_entry (hs : Between s) {e : Entry} (h : Ahead s.lexer (e.lexemes ++ ts))
    (hindex : s.meta_index + 1 < 32) :
    ∃ l, Ahead l ts ∧ Turns 8 s (Kept s.TEXT.length s.outfile.length e) (entered s l e) := by
  obtain ⟨l, h1, hhead⟩ := returns_head hs e.tag h
  obtain ⟨l', h2, hbody⟩ := returns_body (s := opened s l e.tag.text) hs.running rfl
    (Nat.succ_pos _) hs.stage hindex e h1
  rw [finished_opened] at hbody
  exact ⟨l', h2, hhead.trans fun _ => hbody⟩

theorem between_entered (hs : Between s) (l : Scanner) (e : Entry) : Between (entered s l e) where
  running := hs.running
  State := rfl
  braces := hs.braces
  parentheses := hs.parentheses
  box := hs.box
  stage := rfl

def AllKept : Nat → Nat → List Entry → Prop
  | _, _, [] => True
  | text, output, e :: es => Kept text output e ∧
      AllKept (text + (entryText e).length) (output + (entryOutput e).length) es

def placed (metadata : Nat → Metadata) : Nat → List Entry → Nat → Metadata
  | _, [] => metadata
  | k, e :: es =>
      placed (fun i => if i = k then e.record i (evaluated e.value) else metadata i) (k + 1) es

theorem turns_entries (es : List Entry) : ∀ s, Between s →
    Ahead s.lexer (es.flatMap Entry.lexemes ++ [CLOSE_BOX]) → s.meta_index + es.length < 32 →
    ∃ t : Interpreter, t.running = false ∧ t.metadata = placed s.metadata s.meta_index es ∧
      t.TEXT = s.TEXT ++ es.flatMap entryText ∧ t.outfile = s.outfile ++ es.flatMap entryOutput ∧
      t.DATA = s.DATA ∧ t.BSS = s.BSS ∧
      Turns (8 * es.length + 1) s (AllKept s.TEXT.length s.outfile.length es) t := by
  induction es with
  | nil =>
      intro s hs h _
      obtain ⟨l, hstep⟩ := iteration_closeBox hs.State hs.box h
      refine ⟨{ s with lexer := l, square_brackets_inside := 0, State := 1, running := false },
        rfl, rfl, ?_, ?_, rfl, rfl, turns_ok hstep hs.running⟩
      · rw [List.flatMap_nil, List.append_nil]
      · rw [List.flatMap_nil, List.append_nil]
  | cons e es ih =>
      intro s hs h hindex
      rw [List.length_cons] at hindex
      rw [List.flatMap_cons, List.append_assoc] at h
      obtain ⟨l, h1, hturns⟩ := turns_entry hs h (by omega)
      obtain ⟨t, hrunning, hmeta, htext, hout, hdata, hbss, hrest⟩ :=
        ih (entered s l e) (between_entered hs l e) h1 (by
          change s.meta_index + 1 + es.length < 32
          omega)
      refine ⟨t, hrunning, hmeta, ?_, ?_, hdata, hbss, ?_⟩
      · rw [htext, List.flatMap_cons, ← List.append_assoc]
        rfl
      · rw [hout, List.flatMap_cons, ← List.append_assoc]
        rfl
      · have hlength : 8 * (e :: es).length + 1 = 8 * es.length + 1 + 8 := by
          rw [List.length_cons]
          omega
        rw [hlength]
        refine (hturns.trans fun _ => hrest).imp ?_
        rw [AllKept]
        change Kept _ _ e ∧ AllKept (s.TEXT ++ entryText e).length
          (s.outfile ++ entryOutput e).length es ↔ _
        rw [List.length_append, List.length_append]

end Steps

def table (es : List Entry) : Nat → Metadata := fun i =>
  (es[i]?).elim blankMetadata fun e => e.record i e.value

/-- `parse` ends without an error, and so without a byte outside a buffer, with exactly these
entries in the table. -/
def Parsed (dump_output : Bool) (text : Text) (es : List Entry) : Prop :=
  Returns (parse dump_output (gramcnfInitialize (characters text))) fun s => s.metadata = table es

/-- The constant is no zero, and its low byte is neither the code of an operator nor the one of
the root of the tree. -/
def Plain (n : Nat) : Prop := Readable n ∧ ¬ LikeOperator n

def textSize (es : List Entry) : Nat :=
  (gramcnfInitialize []).TEXT.length + (es.flatMap entryText).length

def outfileSize (dump_output : Bool) (es : List Entry) : Nat :=
  (gramcnfInitialize []).outfile.length + (es.flatMap entryOutput).length +
    if dump_output then
      textSize es + (gramcnfInitialize []).DATA.length + (gramcnfInitialize []).BSS.length
    else 0

section Run

variable {es : List Entry}

theorem allKept_iff : ∀ {text output : Nat}, text < SECTION_SIZE → output < OUTFILE_MAX_SIZE →
    (AllKept text output es ↔ text + (es.flatMap entryText).length < SECTION_SIZE ∧
      output + (es.flatMap entryOutput).length < OUTFILE_MAX_SIZE ∧
        ∀ e ∈ es, Readable e.value) := by
  induction es with
  | nil =>
      intro text output htext hout
      simp [AllKept, htext, hout]
  | cons e es ih =>
      intro text output _ _
      rw [AllKept, Kept, List.flatMap_cons, List.flatMap_cons, List.length_append,
        List.length_append, ← Nat.add_assoc, ← Nat.add_assoc, List.forall_mem_cons]
      constructor
      · rintro ⟨⟨htext, hout, hreadable⟩, hrest⟩
        obtain ⟨h1, h2, h3⟩ := (ih htext hout).mp hrest
        exact ⟨h1, h2, hreadable, h3⟩
      · rintro ⟨h1, h2, hreadable, h3⟩
        have htext : text + (entryText e).length < SECTION_SIZE :=
          Nat.lt_of_le_of_lt (Nat.le_add_right _ _) h1
        have hout : output + (entryOutput e).length < OUTFILE_MAX_SIZE :=
          Nat.lt_of_le_of_lt (Nat.le_add_right _ _) h2
        exact ⟨⟨htext, hout, hreadable⟩, (ih htext hout).mpr ⟨h1, h2, h3⟩⟩

theorem placed_apply : ∀ (metadata : Nat → Metadata) (k i : Nat), placed metadata k es i =
    if k ≤ i then (es[i - k]?).elim (metadata i) fun e => e.record i (evaluated e.value)
    else metadata i := by
  induction es with
  | nil =>
      intro metadata k i
      simp [placed]
  | cons e es ih =>
      intro metadata k i
      rw [placed, ih]
      rcases Nat.lt_trichotomy i k with h | rfl | h
      · rw [if_neg (by omega), if_neg (by omega), if_neg (by omega)]
      · rw [if_neg (by omega), if_pos rfl, if_pos (Nat.le_refl _), Nat.sub_self]
        rfl
      · have hindex : i - k = i - (k + 1) + 1 := by
          omega
        rw [if_pos (by omega), if_neg (by omega), if_pos (by omega), hindex,
          List.getElem?_cons_succ]

theorem evaluated_eq (hn : n < 2 ^ 31) (h : Readable n) :
    (evaluated n % 2 ^ 32).toNat = ((n : Int) % 2 ^ 32).toNat ↔ ¬ LikeOperator n := by
  have hpos : n ≠ 0 := h.1
  by_cases hop : LikeOperator n
  · rw [evaluated, if_pos hop]
    refine iff_of_false ?_ (not_not_intro hop)
    omega
  · rw [evaluated, if_neg hop]
    exact iff_of_true rfl hop

theorem placed_eq_table (h : ∀ e ∈ es, Readable e.value) :
    placed (fun _ => blankMetadata) 0 es = table es ↔ ∀ e ∈ es, ¬ LikeOperator e.value := by
  constructor
  · intro heq e he
    obtain ⟨i, hi⟩ := List.mem_iff_getElem?.mp he
    have hentry := congrFun heq i
    rw [placed_apply, if_pos (Nat.zero_le _), Nat.sub_zero, table, hi] at hentry
    exact (evaluated_eq e.value_lt (h e he)).mp (congrArg Metadata.return_value hentry)
  · intro hplain
    funext i
    rw [placed_apply, if_pos (Nat.zero_le _), Nat.sub_zero, table]
    cases hi : es[i]? with
    | none => rfl
    | some e =>
        have he : e ∈ es := List.mem_iff_getElem?.mpr ⟨i, hi⟩
        change e.record i (evaluated e.value) = e.record i e.value
        rw [Entry.record, Entry.record, (evaluated_eq e.value_lt (h e he)).mpr (hplain e he)]

theorem turns_box {ts : List Lexeme}
    (h : Printed (.word (bytes "box") :: .word box.text :: OPEN_BOX :: ts) text) :
    ∃ l, Ahead l ts ∧ Turns 2 (gramcnfInitialize (characters text)) True
      { gramcnfInitialize (characters text) with
        lexer := l, save_symbol := box.text, square_brackets_inside := 1 } := by
  have hbox : reservedWord (bytes "box") = some (.type .KWBOX .TBOX) := by
    decide
  have hchars := identifier_chars box
  obtain ⟨l1, h1, htype, step1⟩ := iteration_type
    (s := gramcnfInitialize (characters text)) rfl ⟨text, h, rfl⟩ box_fits (identifier_fits box)
    hbox (.inl rfl)
  obtain ⟨l2, h2, step2⟩ := iteration_box
    (s := { gramcnfInitialize (characters text) with
      lexer := l1, waiting_identifier_after_type := true, State := 2 }) rfl rfl htype h1
    (identifier_fits box) (identifier_notReserved box) (fun h0 => (hchars 0 h0).1 rfl)
    (fun h0 => (hchars 37 h0).2 rfl) (Nat.lt_succ_of_le box.short)
  refine ⟨l2, h2, ?_⟩
  have hturns := (turns_ok step1 rfl).trans fun _ =>
    turns_step (A := True) (fun P => (step2 P).trans (true_and _).symm.to_iff) rfl
  exact hturns.imp (by rw [true_and])

theorem configuration_length (box : Identifier) (es : List Entry) :
    (configuration box es).length = 4 + 19 * es.length := by
  have hlength : (es.flatMap Entry.lexemes).length = 19 * es.length := by
    induction es with
    | nil => rfl
    | cons e es ih =>
        rw [List.flatMap_cons, List.length_append, ih, List.length_cons]
        change 19 + _ = _
        omega
  rw [configuration, List.length_cons, List.length_cons, List.length_cons, List.length_append,
    hlength, List.length_singleton]
  omega

theorem returns_printed (hlength : es.length < 32) (h : Printed (configuration box es) text) :
    ∃ t : Interpreter, t.metadata = placed (fun _ => blankMetadata) 0 es ∧
      t.TEXT.length = textSize es ∧
      t.outfile.length = (gramcnfInitialize []).outfile.length + (es.flatMap entryOutput).length ∧
      t.DATA = (gramcnfInitialize []).DATA ∧ t.BSS = (gramcnfInitialize []).BSS ∧
      ∀ P, Returns (loop ((characters text).length + 2) (gramcnfInitialize (characters text))) P ↔
        AllKept (gramcnfInitialize []).TEXT.length (gramcnfInitialize []).outfile.length es ∧
          P t := by
  obtain ⟨l, hahead, hbox⟩ := turns_box h
  obtain ⟨t, hrunning, hmeta, htext, hout, hdata, hbss, hentries⟩ := turns_entries es
    { gramcnfInitialize (characters text) with
      lexer := l, save_symbol := box.text, square_brackets_inside := 1 }
    ⟨rfl, rfl, rfl, rfl, rfl, rfl⟩ hahead (by
      change 0 + es.length < 32
      omega)
  have hturns := hbox.trans fun _ => hentries
  refine ⟨t, hmeta, ?_, ?_, hdata, hbss, fun P => ?_⟩
  · rw [htext, List.length_append]
    rfl
  · rw [hout, List.length_append]
    rfl
  · have htokens := printed_length h (configuration_fits box es)
    rw [configuration_length] at htokens
    obtain ⟨k, hk⟩ : ∃ k, (characters text).length + 2 = k + 1 + (8 * es.length + 1 + 2) := by
      rw [characters, List.length_map]
      exact ⟨text.length + 2 - 1 - (8 * es.length + 1 + 2), by omega⟩
    rw [hk, hturns, true_and]
    refine and_congr_right fun _ => ?_
    rw [loop, if_neg (by rw [hrunning]; decide), returns_ok]

/-- `parse` recovers the entries of a printed configuration exactly when its constants are
plain and what they add fits into the fixed buffers. -/
theorem parse_printed_iff (dump_output : Bool) (box : Identifier) (es : List Entry)
    (hlength : 1 ≤ es.length ∧ es.length ≤ 31) {text : Text}
    (h : Printed (configuration box es) text) :
    Parsed dump_output text es ↔ (∀ e ∈ es, Plain e.value) ∧ textSize es < SECTION_SIZE ∧
      outfileSize dump_output es < OUTFILE_MAX_SIZE := by
  obtain ⟨t, hmeta, htext, hout, hdata, hbss, hloop⟩ :=
    returns_printed (Nat.lt_succ_of_le hlength.2) h
  have hstart : (gramcnfInitialize []).TEXT.length < SECTION_SIZE := by
    decide
  have hstartOut : (gramcnfInitialize []).outfile.length < OUTFILE_MAX_SIZE := by
    decide
  have hparsed : Parsed dump_output text es ↔
      AllKept (gramcnfInitialize []).TEXT.length (gramcnfInitialize []).outfile.length es ∧
        Returns (if dump_output then concatIntoOutfile t else .ok t)
          fun s => s.metadata = table es := by
    rw [Parsed, parse, returns_bind]
    exact hloop _
  rw [hparsed, allKept_iff hstart hstartOut]
  have hplain : (∀ e ∈ es, Readable e.value) ∧ placed (fun _ => blankMetadata) 0 es = table es ↔
      ∀ e ∈ es, Plain e.value := by
    constructor
    · rintro ⟨hreadable, htable⟩ e he
      exact ⟨hreadable e he, (placed_eq_table hreadable).mp htable e he⟩
    · intro hall
      have hreadable : ∀ e ∈ es, Readable e.value := fun e he => (hall e he).1
      exact ⟨hreadable, (placed_eq_table hreadable).mpr fun e he => (hall e he).2⟩
  cases dump_output with
  | false =>
      rw [if_neg (by decide), returns_ok, hmeta, ← hplain, textSize, outfileSize,
        if_neg (by decide), Nat.add_zero]
      constructor
      · rintro ⟨⟨hfits, hroom, hreadable⟩, htable⟩
        exact ⟨⟨hreadable, htable⟩, hfits, hroom⟩
      · rintro ⟨⟨hreadable, htable⟩, hfits, hroom⟩
        exact ⟨⟨hfits, hroom, hreadable⟩, htable⟩
  | true =>
      have hsize : t.outfile.length + [t.TEXT, t.DATA, t.BSS].flatten.length =
          outfileSize true es := by
        rw [outfileSize, if_pos rfl, hdata, hbss, hout, List.flatten_cons, List.flatten_cons,
          List.flatten_cons, List.flatten_nil, List.append_nil, List.length_append,
          List.length_append, htext]
        omega
      rw [if_pos rfl, concatIntoOutfile, returns_emitOutfile (List.cons_ne_nil _ _), hsize,
        ← hplain]
      change _ ∧ _ ∧ t.metadata = table es ↔ _
      rw [hmeta]
      constructor
      · rintro ⟨⟨hfits, -, hreadable⟩, hdump, htable⟩
        exact ⟨⟨hreadable, htable⟩, hfits, hdump⟩
      · rintro ⟨⟨hreadable, htable⟩, hfits, hdump⟩
        have hroom := Nat.lt_of_le_of_lt (Nat.le_add_right _ _) hdump
        exact ⟨⟨hfits, hroom, hreadable⟩, hdump, htable⟩

end Run

section Samples

def spaced (ts : List Lexeme) : Text := ts.flatMap fun t => 32 :: t.text

theorem printed_spaced (ts : List Lexeme) : Printed ts (spaced ts) := by
  induction ts with
  | nil => exact .done []
  | cons t ts ih =>
      have hblank : Layout [32] := .blank rfl .nil
      have htakes : t.takes 32 = false := by
        cases t with
        | word => rfl
        | constant => rfl
        | string => rfl
        | separator => rfl
      refine .token hblank ih fun c hc => ?_
      cases ts with
      | nil => cases hc
      | cons u ts =>
          cases Option.some.inj hc
          exact htakes

def sampleBox : Identifier where
  text := bytes "One"
  shape := word_shape (c := 79) (by decide) (by decide : (bytes "ne").all _ = true)
  short := by decide
  free := by decide

def sampleEntry (n : Nat) (h : n < 2 ^ 31) : Entry where
  tag := ⟨bytes "meta1",
    word_shape (c := 109) (by decide) (by decide : (bytes "eta1").all _ = true),
    by decide, by decide⟩
  name := ⟨bytes "window-color", by decide, by decide, by decide⟩
  content := ⟨bytes "white", by decide, by decide, by decide⟩
  value := n
  value_lt := h

theorem parse_printed_iff_sample :
    Parsed false (spaced (configuration sampleBox [sampleEntry 3 (by decide)]))
        [sampleEntry 3 (by decide)] ↔
      (∀ e ∈ [sampleEntry 3 (by decide)], Plain e.value) ∧
        textSize [sampleEntry 3 (by decide)] < SECTION_SIZE ∧
        outfileSize false [sampleEntry 3 (by decide)] < OUTFILE_MAX_SIZE :=
  parse_printed_iff false sampleBox [sampleEntry 3 (by decide)] (by decide) (printed_spaced _)

/-- The code of `+` as a constant is taken for an operator without numbers. -/
theorem operator_code_lost :
    Printed (configuration sampleBox [sampleEntry 43 (by decide)])
        (spaced (configuration sampleBox [sampleEntry 43 (by decide)])) ∧
      ¬ Parsed false (spaced (configuration sampleBox [sampleEntry 43 (by decide)]))
        [sampleEntry 43 (by decide)] := by
  have hrun : (parse false (gramcnfInitialize (characters
      (spaced (configuration sampleBox [sampleEntry 43 (by decide)]))))).map
        (fun s => (s.metadata 0).return_value) = .ok 0 := by
    decide +kernel
  refine ⟨printed_spaced _, ?_⟩
  rintro ⟨s, hs, htable⟩
  rw [hs] at hrun
  have hzero : (s.metadata 0).return_value = 0 := Except.ok.inj hrun
  rw [htable] at hzero
  exact absurd hzero (by decide)

end Samples

end Gramado.Gramcnf.Configuration
