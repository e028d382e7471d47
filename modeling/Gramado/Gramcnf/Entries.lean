import Gramado.Gramcnf.Statements

namespace Gramado.Gramcnf.Entries

open Library.CheckedRead Rtl.Strings Gramcnf.Lexer Gramcnf.Parser Gramcnf.Printing Gramcnf.Scanning
open Gramcnf.Statements

structure Identifier where
  text : Text
  shape : ∃ c rest, text = c :: rest ∧ starts c.toNat = true ∧
    ∀ d ∈ rest, continues d.toNat = true
  short : text.length ≤ 31
  free : text ∉ reservedWords.map (·.1)

structure Quoted (limit : Nat) where
  text : Text
  plain : 0 ∉ text ∧ 34 ∉ text
  nonempty : text ≠ []
  short : text.length ≤ limit

structure Entry where
  tag : Identifier
  name : Quoted 63
  content : Quoted 127
  value : Nat
  value_lt : value < 2 ^ 31

def Entry.lexemes (e : Entry) : List Lexeme :=
  [.word (bytes "meta"), .word e.tag.text, OPEN, CLOSE, OPEN_BRACE,
    .word (bytes "name"), OPEN, .string e.name.text, CLOSE, SEMICOLON,
    .word (bytes "content"), OPEN, .string e.content.text, CLOSE, SEMICOLON,
    .word (bytes "return"), .constant e.value, SEMICOLON, CLOSE_BRACE]

def configuration (box : Identifier) (entries : List Entry) : List Lexeme :=
  .word (bytes "box") :: .word box.text :: OPEN_BOX ::
    (entries.flatMap Entry.lexemes ++ [CLOSE_BOX])

/-- What the entry is in the table, with the value that its constant has there. -/
def Entry.record (e : Entry) (i : Nat) (value : Int) : Metadata where
  initialized := true
  id := i
  meta_tag := e.tag.text
  tag_size := e.tag.text.length
  name := e.name.text
  name_size := e.name.text.length
  content := e.content.text
  content_size := e.content.text.length
  return_value := (value % 2 ^ 32).toNat

variable {c : UInt8} {rest : Text}

theorem word_shape (hstarts : starts c.toNat = true)
    (hrest : rest.all (fun d => continues d.toNat) = true) :
    ∃ d tail, c :: rest = d :: tail ∧ starts d.toNat = true ∧
      ∀ e ∈ tail, continues e.toNat = true :=
  ⟨c, rest, rfl, hstarts, List.all_eq_true.mp hrest⟩

section Words

theorem word_free (hstarts : starts c.toNat = true) (hrest : ∀ d ∈ rest, continues d.toNat = true) :
    ∀ d ∈ c :: rest, d ≠ 0 ∧ d ≠ 37 := by
  intro d hd
  rcases List.mem_cons.mp hd with rfl | hd
  · constructor
    · rintro rfl
      exact absurd hstarts (by decide)
    · rintro rfl
      exact absurd hstarts (by decide)
  · have := hrest d hd
    constructor
    · rintro rfl
      exact absurd this (by decide)
    · rintro rfl
      exact absurd this (by decide)

variable (w : Identifier)

theorem identifier_chars : ∀ d ∈ w.text, d ≠ 0 ∧ d ≠ 37 := by
  obtain ⟨c, rest, htext, hstarts, hrest⟩ := w.shape
  rw [htext]
  exact word_free hstarts hrest

theorem identifier_fits : (Lexeme.word w.text).Fits := by
  have hshort := w.short
  obtain ⟨c, rest, htext, hstarts, hrest⟩ := w.shape
  refine ⟨⟨c, rest, htext, hstarts, hrest⟩, ?_⟩
  rw [MAXTOKEN]
  omega

theorem identifier_nonempty : w.text ≠ [] := by
  obtain ⟨c, rest, htext, -⟩ := w.shape
  rw [htext]
  exact List.cons_ne_nil c rest

theorem identifier_notReserved : reservedWord w.text = none := by
  rw [reservedWord, Option.map_eq_none_iff, List.find?_eq_none]
  intro entry hentry hzero
  have hall : reservedWords.all (fun entry => entry.1.all fun c => c != 0) = true := by
    decide
  have hwords : ∀ entry ∈ reservedWords, ∀ c ∈ entry.1, c ≠ 0 := fun entry hentry c hc =>
    bne_iff_ne.mp (List.all_eq_true.mp (List.all_eq_true.mp hall entry hentry) c hc)
  have heq := (strncmp_eq_zero_iff (fun c hc => (identifier_chars w c hc).1)
    (hwords entry hentry)).mp (of_decide_eq_true hzero)
  exact w.free (List.mem_map.mpr ⟨entry, hentry, heq.symm⟩)

end Words

theorem meta_fits : (Lexeme.word (bytes "meta")).Fits :=
  ⟨word_shape (c := 109) (by decide) (by decide : (bytes "eta").all _ = true), by decide⟩

theorem name_fits : (Lexeme.word (bytes "name")).Fits :=
  ⟨word_shape (c := 110) (by decide) (by decide : (bytes "ame").all _ = true), by decide⟩

theorem content_fits : (Lexeme.word (bytes "content")).Fits :=
  ⟨word_shape (c := 99) (by decide) (by decide : (bytes "ontent").all _ = true), by decide⟩

theorem return_fits : (Lexeme.word (bytes "return")).Fits :=
  ⟨word_shape (c := 114) (by decide) (by decide : (bytes "eturn").all _ = true), by decide⟩

theorem box_fits : (Lexeme.word (bytes "box")).Fits :=
  ⟨word_shape (c := 98) (by decide) (by decide : (bytes "ox").all _ = true), by decide⟩

theorem quoted_fits {limit : Nat} (q : Quoted limit) (h : limit < MAXTOKEN) :
    (Lexeme.string q.text).Fits :=
  ⟨q.plain.2, Nat.lt_of_le_of_lt q.short h⟩

theorem entry_fits (e : Entry) : ∀ t ∈ e.lexemes, t.Fits := by
  have hname := quoted_fits e.name (by decide)
  have hcontent := quoted_fits e.content (by decide)
  have hvalue : (Lexeme.constant e.value).Fits := e.value_lt
  rw [Entry.lexemes]
  simp only [List.forall_mem_cons, List.not_mem_nil, false_imp_iff, implies_true, and_true]
  exact ⟨meta_fits, identifier_fits e.tag, open_fits, close_fits, openBrace_fits, name_fits,
    open_fits, hname, close_fits, semicolon_fits, content_fits, open_fits, hcontent, close_fits,
    semicolon_fits, return_fits, hvalue, semicolon_fits, closeBrace_fits⟩

theorem configuration_fits (box : Identifier) (entries : List Entry) :
    ∀ t ∈ configuration box entries, t.Fits := by
  intro t ht
  simp only [configuration, List.mem_cons, List.mem_append, List.mem_flatMap,
    List.not_mem_nil, or_false] at ht
  rcases ht with rfl | rfl | rfl | ⟨e, -, ht⟩ | rfl
  · exact box_fits
  · exact identifier_fits box
  · exact openBox_fits
  · exact entry_fits e t ht
  · exact closeBox_fits

theorem printed_length {ts : List Lexeme} {text : Text} (h : Printed ts text) :
    (∀ t ∈ ts, t.Fits) → ts.length ≤ text.length := by
  induction h with
  | done text =>
      intro _
      exact Nat.zero_le _
  | @token t ts w text _ _ _ ih =>
      intro hfits
      obtain ⟨c, body, htext, -⟩ := token_head (hfits t List.mem_cons_self)
      have hrest := ih fun u hu => hfits u (List.mem_cons_of_mem _ hu)
      rw [List.length_append, List.length_append, htext, List.length_cons, List.length_cons]
      omega

end Gramado.Gramcnf.Entries
