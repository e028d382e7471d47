import Mathlib.Order.Defs.PartialOrder
import Mathlib.Data.List.Basic

/-! Rounds in which the members of a list are served one after the other, each round led by
the same one. The list of a round is what is left of it, headed by the one served last. -/

namespace Gramado.Library.Rounds

variable {α : Type*}

/-- A turn serves nobody, the next one of the round, or the leader of a new round. -/
inductive Turn (leader : α) : List α → Option α → List α → Prop where
  | rest (round : List α) : Turn leader round none round
  | next (a b : α) (round : List α) : Turn leader (a :: b :: round) (some b) (b :: round)
  | begin (a : α) (round : List α) : Turn leader [a] (some leader) (leader :: round)

/-- Turns, each with the one that it serves and the round that it leaves. -/
inductive Turns (leader : α) : List α → List (Option α × List α) → Prop where
  | nil (round : List α) : Turns leader round []
  | cons {round round' : List α} {served : Option α} {turns : List (Option α × List α)}
      (h : Turn leader round served round') (hrest : Turns leader round' turns) :
      Turns leader round ((served, round') :: turns)

variable {leader : α}

variable {last rest : List α} {i a k : α} {turns : List (Option α × List α)}

theorem Turns.ne_nil {round : List α} (h : Turns leader round (turns ++ [(some i, last)])) :
    ∃ a rest, round = a :: rest := by
  induction turns generalizing round with
  | nil =>
      cases h with
      | cons hturn _ =>
          cases hturn with
          | next a _ _ => exact ⟨a, _, rfl⟩
          | begin a _ => exact ⟨a, _, rfl⟩
  | cons turn turns ih =>
      cases h with
      | cons hturn hrest =>
          cases hturn with
          | rest round => exact ih hrest
          | next a _ _ => exact ⟨a, _, rfl⟩
          | begin a _ => exact ⟨a, _, rfl⟩

theorem Turns.served_or_waits (h : Turns leader (a :: rest) (turns ++ [(some i, last)]))
    (hk : k ∈ rest) (hne : k ≠ i) :
    some k ∈ turns.map Prod.fst ∨ [i, k].Sublist rest ∧ k ∈ last.tail := by
  induction turns generalizing a rest with
  | nil =>
      cases h with
      | cons hturn _ =>
          cases hturn with
          | next _ _ rest =>
              have hlater := List.mem_of_ne_of_mem hne hk
              exact .inr ⟨(List.singleton_sublist.mpr hlater).cons_cons i, hlater⟩
          | begin _ rest => cases hk
  | cons turn turns ih =>
      cases h with
      | cons hturn hrest =>
          cases hturn with
          | rest round => exact (ih hrest hk).imp_left (List.mem_cons_of_mem _)
          | next _ b rest =>
              rcases List.mem_cons.mp hk with rfl | hk
              · exact .inl List.mem_cons_self
              · exact (ih hrest hk).imp (List.mem_cons_of_mem _) fun hw => ⟨hw.1.cons b, hw.2⟩
          | begin _ rest => cases hk

theorem Turns.served_or_waits_next (h : Turns leader (a :: rest) (turns ++ [(some i, last)]))
    (hbegin : ∀ turn ∈ turns ++ [(some i, last)], turn.1 = some leader → k ∈ turn.2) (hi : i ∉ rest)
    (hne : k ≠ i) : some k ∈ turns.map Prod.fst ∨ k ∈ last.tail := by
  induction turns generalizing a rest with
  | nil =>
      cases h with
      | cons hturn _ =>
          cases hturn with
          | next _ _ rest => exact absurd List.mem_cons_self hi
          | begin _ rest =>
              exact .inr (List.mem_of_ne_of_mem hne (hbegin _ List.mem_cons_self rfl))
  | cons turn turns ih =>
      cases h with
      | cons hturn hrest =>
          have hlater := fun turn hmem => hbegin turn (List.mem_cons_of_mem _ hmem)
          cases hturn with
          | rest round => exact (ih hrest hlater hi).imp_left (List.mem_cons_of_mem _)
          | next _ b rest =>
              rw [List.mem_cons, not_or] at hi
              exact (ih hrest hlater hi.2).imp_left (List.mem_cons_of_mem _)
          | begin _ rest =>
              rcases List.mem_cons.mp (hbegin _ List.mem_cons_self rfl) with rfl | hk
              · exact .inl List.mem_cons_self
              · exact (hrest.served_or_waits hk hne).imp (List.mem_cons_of_mem _) And.right

variable [Preorder α]

theorem Turns.served_of_mem (h : Turns leader (a :: rest) (turns ++ [(some i, last)]))
    (hsorted : (a :: rest).Pairwise (· < ·)) (hk : k ∈ rest) (hne : k ≠ i)
    (horder : i ∈ rest → k < i) : some k ∈ turns.map Prod.fst := by
  rcases h.served_or_waits hk hne with hserved | ⟨hbefore, _⟩
  · exact hserved
  · have hik := List.pairwise_pair.mp ((List.pairwise_cons.mp hsorted).2.sublist hbefore)
    exact absurd (horder (hbefore.subset List.mem_cons_self)) (lt_asymm hik)

theorem Turns.served_between (h : Turns leader (a :: rest) (turns ++ [(some i, last)]))
    (hsorted : (a :: rest).Pairwise (· < ·)) (hturns : ∀ turn ∈ turns, turn.2.Pairwise (· < ·))
    (hbegin : ∀ turn ∈ turns, turn.1 = some leader → k ∈ turn.2) (hleader : ¬ k < leader)
    (hi : i ∉ rest) (hne : k ≠ i) (hk : k ∈ rest ∨ k < i) :
    some k ∈ turns.map Prod.fst := by
  rcases hk with hk | hki
  · exact h.served_of_mem hsorted hk hne fun hmem => absurd hmem hi
  induction turns generalizing a rest with
  | nil =>
      cases h with
      | cons hturn _ =>
          cases hturn with
          | next _ _ rest => exact absurd List.mem_cons_self hi
          | begin _ rest => exact absurd hki hleader
  | cons turn turns ih =>
      cases h with
      | cons hturn hrest =>
          have hturns' := fun turn hmem => hturns turn (List.mem_cons_of_mem _ hmem)
          have hbegin' := fun turn hmem => hbegin turn (List.mem_cons_of_mem _ hmem)
          cases hturn with
          | rest round =>
              exact List.mem_cons_of_mem _ (ih hrest hsorted hturns' hbegin' hi)
          | next _ b rest =>
              rw [List.mem_cons, not_or] at hi
              apply List.mem_cons_of_mem
              exact ih hrest (List.pairwise_cons.mp hsorted).2 hturns' hbegin' hi.2
          | begin _ rest =>
              rcases List.mem_cons.mp (hbegin _ List.mem_cons_self rfl) with rfl | hk
              · exact List.mem_cons_self
              · apply List.mem_cons_of_mem
                exact hrest.served_of_mem (hturns _ List.mem_cons_self) hk hne fun _ => hki

end Gramado.Library.Rounds
