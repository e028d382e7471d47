import Mathlib.Data.List.Infix

/-! Line editing: what a sequence of keys amounts to. -/

namespace Gramado.Library.LineEditor

variable {α : Type*}

/-- The lines that are done, as one text, and the line that is being edited. -/
structure Editor (α : Type*) where
  done : List α
  line : List α

def Editor.empty : Editor α := ⟨[], []⟩

section Keys

variable [DecidableEq α] (newline : α) (erases : α → Prop) [DecidablePred erases]

def Editor.key (e : Editor α) (c : α) : Editor α :=
  if c = newline then ⟨e.done ++ e.line ++ [c], []⟩
  else if erases c then ⟨e.done, e.line.dropLast⟩
  else ⟨e.done, e.line ++ [c]⟩

def Editor.type (e : Editor α) (text : List α) : Editor α :=
  text.foldl (Editor.key newline erases) e

theorem Editor.type_append (e : Editor α) (text text' : List α) :
    e.type newline erases (text ++ text') =
      (e.type newline erases text).type newline erases text' :=
  List.foldl_append

/-- What one queue for all lines holds after a key, if it erases its last element. -/
def keyed (pending : List α) (c : α) : List α :=
  if c = newline then pending ++ [c] else if erases c then pending.dropLast else pending ++ [c]

def AllKeys (P : List α → α → Prop) : List α → List α → Prop
  | _, [] => True
  | pending, c :: text => P pending c ∧ AllKeys P (keyed newline erases pending c) text

instance decidableAllKeys {P : List α → α → Prop} [∀ pending c, Decidable (P pending c)] :
    ∀ pending text, Decidable (AllKeys newline erases P pending text)
  | _, [] => inferInstanceAs (Decidable True)
  | pending, c :: text =>
      have : Decidable (AllKeys newline erases P (keyed newline erases pending c) text) :=
        decidableAllKeys (keyed newline erases pending c) text
      inferInstanceAs (Decidable (P pending c ∧ _))

def OwnLine (pending : List α) (c : α) : Prop :=
  c ≠ newline → erases c → pending.getLast? ≠ some newline

instance (pending : List α) (c : α) : Decidable (OwnLine newline erases pending c) :=
  inferInstanceAs (Decidable (_ → _ → _))

end Keys

/-- A queue that a reader empties from the front while the editor's keys change its end: `taken`
has been read, all of it from lines that are done, and the rest is pending. -/
structure Tracks (newline : α) (e : Editor α) (taken pending : List α) : Prop where
  line : newline ∉ e.line
  split : ∃ unread, e.done = taken ++ unread ∧ pending = unread ++ e.line ∧
    (unread = [] ∨ unread.getLast? = some newline)

theorem tracks_empty (newline : α) : Tracks newline Editor.empty [] [] :=
  ⟨List.not_mem_nil, [], rfl, rfl, .inl rfl⟩

variable {newline : α} {e : Editor α} {taken pending : List α} {erases : α → Prop}

theorem Tracks.taken_isInitial (h : Tracks newline e taken pending) : taken <+: e.done := by
  obtain ⟨unread, hdone, _, _⟩ := h.split
  exact ⟨unread, hdone.symm⟩

theorem Tracks.text (h : Tracks newline e taken pending) : taken ++ pending = e.done ++ e.line := by
  obtain ⟨unread, hdone, hpending, _⟩ := h.split
  rw [hdone, hpending, List.append_assoc]

theorem Tracks.key [DecidableEq α] [DecidablePred erases] (h : Tracks newline e taken pending)
    {c : α} (hown : OwnLine newline erases pending c) :
    Tracks newline (e.key newline erases c) taken (keyed newline erases pending c) := by
  obtain ⟨hline, unread, hdone, hpending, hend⟩ := h
  unfold Editor.key keyed
  by_cases hc : c = newline
  · rw [if_pos hc, if_pos hc]
    refine ⟨List.not_mem_nil, unread ++ e.line ++ [c], ?_, ?_, .inr ?_⟩
    · simp [hdone]
    · simp [hpending]
    · simp [hc]
  rw [if_neg hc, if_neg hc]
  by_cases herases : erases c
  · rw [if_pos herases, if_pos herases]
    refine ⟨fun hmem => hline (List.mem_of_mem_dropLast hmem), unread, hdone, ?_, hend⟩
    dsimp only
    rcases List.eq_nil_or_concat e.line with hempty | ⟨front, last, hlast⟩
    · -- With nothing on its own line the key may only meet an empty queue.
      rw [hempty, List.append_nil] at hpending
      rw [hempty, hpending]
      rcases hend with hnil | hnewline
      · rw [hnil]
        rfl
      · exact absurd (hpending ▸ hnewline) (hown hc herases)
    · rw [List.concat_eq_append] at hlast
      rw [hpending, hlast, ← List.append_assoc, List.dropLast_concat, List.dropLast_concat]
  · rw [if_neg herases, if_neg herases]
    refine ⟨?_, unread, hdone, ?_, hend⟩
    · simp only [List.mem_append, List.mem_singleton, not_or]
      exact ⟨hline, fun heq => hc heq.symm⟩
    · rw [hpending, List.append_assoc]

theorem Tracks.type [DecidableEq α] [DecidablePred erases] (h : Tracks newline e taken pending)
    {text : List α} (hown : AllKeys newline erases (OwnLine newline erases) pending text) :
    Tracks newline (e.type newline erases text) taken
      (text.foldl (keyed newline erases) pending) := by
  induction text generalizing e pending with
  | nil => exact h
  | cons c text ih => exact ih (h.key hown.1) hown.2

theorem Tracks.take {line rest : List α} (h : Tracks newline e taken pending)
    (hsplit : pending = line ++ rest) (hstops : newline ∉ line.dropLast)
    (hready : pending = [] ∨ newline ∈ pending) :
    Tracks newline e (taken ++ line) rest := by
  obtain ⟨hline, unread, hdone, hpending, hend⟩ := h
  have hlength : line.length ≤ unread.length := by
    rcases hready with hnil | hmem
    · rw [hnil] at hsplit
      rw [(List.append_eq_nil_iff.mp hsplit.symm).1]
      exact Nat.zero_le _
    · by_contra hlong
      have hunread : newline ∈ unread := by
        rw [hpending, List.mem_append] at hmem
        exact hmem.resolve_right hline
      have hfront : unread <+: pending := ⟨e.line, hpending.symm⟩
      have htaken : line.dropLast <+: pending :=
        List.IsPrefix.trans ( List.dropLast_prefix line) ⟨rest, hsplit.symm⟩
      have hinitial : unread <+: line.dropLast := by
        apply List.prefix_of_prefix_length_le hfront htaken
        rw [List.length_dropLast]
        omega
      exact hstops (hinitial.subset hunread)
  have hinitial : line <+: unread :=
    List.prefix_of_prefix_length_le ⟨rest, hsplit.symm⟩ ⟨e.line, hpending.symm⟩ hlength
  obtain ⟨left, rfl⟩ := hinitial
  refine ⟨hline, left, by rw [hdone, List.append_assoc], ?_, ?_⟩
  · rw [hsplit, List.append_assoc] at hpending
    exact List.append_cancel_left hpending
  · rcases List.eq_nil_or_concat left with hnil | ⟨front, last, rfl⟩
    · exact .inl hnil
    · rcases hend with hnil | hnewline
      · simp at hnil
      · right
        simpa [← List.append_assoc] using hnewline

end Gramado.Library.LineEditor
