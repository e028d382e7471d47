import Gramado.Library.CheckedRead
import Gramado.Library.EvenSteps
import Mathlib.Data.List.Chain
import Mathlib.Data.UInt
import Mathlib.Tactic.LinearCombination

/-! `plotLine3d`: the line goes from its first point to its last one and keeps near the segment. -/

namespace Gramado.Ds.Line3d

open Library.CheckedRead (Returns ok_bind)
open Library.EvenSteps

inductive Fault where
  | overflow
  deriving DecidableEq, Repr

def int (n : Int) : Except Fault Int :=
  if -2 ^ 31 ≤ n ∧ n < 2 ^ 31 then .ok n else .error .overflow

def abs (j : Int) : Except Fault Int :=
  if j < 0 then int (-j) else .ok j

def grMAX3 (x y z : Int) : Int :=
  if x > y then if x > z then x else z
  else if y > z then y else z

/-- The arguments of a call of `grPlot0`. -/
structure Plot where
  z : Int
  x : Int
  y : Int
  color : UInt32
  deriving DecidableEq, Repr

/-- The variables of a coordinate, as `x0`, `x1`, `dx` and `sx`. -/
structure Axis where
  position : Int
  error : Int
  distance : Int
  sign : Int

structure Cursor where
  x : Axis
  y : Axis
  z : Axis

def Cursor.plot (c : Cursor) (color : UInt32) : Plot :=
  ⟨c.z.position, c.x.position, c.y.position, color⟩

def Axis.turn (dm : Int) (a : Axis) : Except Fault Axis := do
  let error ← int (a.error - a.distance)
  if error < 0 then
    let error ← int (error + dm)
    let position ← int (a.position + a.sign)
    return ⟨position, error, a.distance, a.sign⟩
  else return ⟨a.position, error, a.distance, a.sign⟩

def Cursor.turn (dm : Int) (c : Cursor) : Except Fault Cursor := do
  let x ← c.x.turn dm
  let y ← c.y.turn dm
  let z ← c.z.turn dm
  return ⟨x, y, z⟩

def plotLoop (dm : Int) (color : UInt32) : Nat → Cursor → Except Fault (List Plot)
  | 0, c => .ok [c.plot color]
  | i + 1, c => do
      let next ← c.turn dm
      let plots ← plotLoop dm color i next
      return c.plot color :: plots

def direction (start goal : Int) : Int :=
  if start < goal then 1 else -1

def axis (error distance start goal : Int) : Axis :=
  ⟨start, error, distance, direction start goal⟩

def plotLine3d (x0 y0 z0 x1 y1 z1 : Int32) (color : UInt32) : Except Fault (List Plot) := do
  let dx ← int (x1.toInt - x0.toInt) >>= abs
  let dy ← int (y1.toInt - y0.toInt) >>= abs
  let dz ← int (z1.toInt - z0.toInt) >>= abs
  let dm := grMAX3 dx dy dz
  let error := dm >>> (1 : Nat)
  plotLoop dm color dm.toNat
    ⟨axis error dx x0.toInt x1.toInt, axis error dy y0.toInt y1.toInt,
      axis error dz z0.toInt z1.toInt⟩

/-- The nearest integer to the exact coordinate, and of two the one closer to the start. -/
def Nearest (start goal position : Int) (exact : ℚ) : Prop :=
  -(1 / 2) ≤ direction start goal * (position - exact) ∧
    direction start goal * (position - exact) < 1 / 2

section Axes

variable {dm start goal k : Int} {a : Axis}

theorem int_ok {n : Int} (hlow : -2 ^ 31 ≤ n) (hhigh : n < 2 ^ 31) : int n = .ok n :=
  if_pos ⟨hlow, hhigh⟩

/-- The two ends of a coordinate, with at most as many moves as there are steps. -/
structure Course (dm start goal : Int) : Prop where
  moves : |goal - start| ≤ dm
  small : dm < 2 ^ 30
  start_int : -2 ^ 31 ≤ start ∧ start < 2 ^ 31
  goal_int : -2 ^ 31 ≤ goal ∧ goal < 2 ^ 31

/-- A coordinate after `k` steps. -/
structure Axis.After (dm start goal k : Int) (a : Axis) : Prop where
  distance : a.distance = |goal - start|
  sign : a.sign = direction start goal
  moved : ∃ n, Spread dm a.distance k a.error n ∧ a.position = start + a.sign * n

theorem direction_mul_abs (start goal : Int) :
    direction start goal * |goal - start| = goal - start := by
  unfold direction
  split
  · rw [abs_of_pos (by omega), Int.one_mul]
  · rw [abs_of_nonpos (by omega)]
    omega

theorem direction_cases (start goal : Int) :
    direction start goal = 1 ∨ direction start goal = -1 := by
  unfold direction
  split <;> simp

theorem Course.position_int (h : Course dm start goal) {n : Int} (hn : 0 ≤ n ∧ n ≤ |goal - start|) :
    -2 ^ 31 ≤ start + direction start goal * n ∧ start + direction start goal * n < 2 ^ 31 := by
  obtain ⟨-, -, hstart, hgoal⟩ := h
  have hgap := direction_mul_abs start goal
  rcases direction_cases start goal with hsign | hsign
  · rw [hsign] at hgap ⊢
    omega
  · rw [hsign] at hgap ⊢
    omega

theorem Axis.After.turn (h : a.After dm start goal k) (hcourse : Course dm start goal)
    (hk : 0 ≤ k) (hkdm : k < dm) :
    ∃ b, a.turn dm = .ok b ∧ b.After dm start goal (k + 1) ∧ |b.position - a.position| ≤ 1 := by
  obtain ⟨hdistance, hsign, n, hspread, hposition⟩ := h
  have hnonneg : 0 ≤ a.distance := hdistance ▸ abs_nonneg _
  have hmoves : a.distance ≤ dm := hdistance ▸ hcourse.moves
  have hsmall := hcourse.small
  have herror := hspread.nonneg
  have hlt := hspread.lt
  rw [Axis.turn, int_ok (by omega) (by omega), ok_bind]
  rcases Int.lt_or_le (a.error - a.distance) 0 with hmove | hstay
  · have hnext := hspread.move hmoves hmove
    have hbetween := hnext.between hnonneg (by omega) (by omega)
    have hplace : a.position + a.sign = start + direction start goal * (n + 1) := by
      rw [hposition, hsign]
      ring
    have hint := hcourse.position_int (hdistance ▸ hbetween)
    rw [if_pos hmove, int_ok (by omega) (by omega), ok_bind, hplace, int_ok hint.1 hint.2, ok_bind]
    refine ⟨_, rfl, ⟨hdistance, hsign, n + 1, hnext, ?_⟩, ?_⟩
    · dsimp only
      rw [hsign]
    · dsimp only
      rw [← hplace, hsign, add_sub_cancel_left]
      rcases direction_cases start goal with hone | hone <;> simp [hone]
  · rw [if_neg (by omega)]
    exact ⟨_, rfl, ⟨hdistance, hsign, n, hspread.stay hnonneg hstay, hposition⟩, by simp⟩

theorem Axis.After.nearest (h : a.After dm start goal k) :
    Nearest start goal a.position (start + k * (goal - start) / dm) := by
  obtain ⟨hdistance, hsign, n, hspread, hposition⟩ := h
  have hnear := hspread.near
  have hgap : ((goal : ℚ) - start) = direction start goal * a.distance := by
    rw [hdistance]
    exact_mod_cast (direction_mul_abs start goal).symm
  have hsquare : (direction start goal : ℚ) * direction start goal = 1 := by
    rcases direction_cases start goal with hone | hone <;> simp [hone]
  have hcalc : (direction start goal : ℚ) * (a.position - (start + k * (goal - start) / dm)) =
      n - k * a.distance / dm := by
    rw [hposition, hsign, hgap]
    push_cast
    linear_combination (n - k * a.distance / dm : ℚ) * hsquare
  rw [Nearest, hcalc]
  exact hnear

theorem Axis.After.last (h : a.After dm start goal dm) : a.position = goal := by
  obtain ⟨hdistance, hsign, n, hspread, hposition⟩ := h
  have hall := hspread.last
  have hgap := direction_mul_abs start goal
  rw [hposition, hsign, hall, hdistance, hgap]
  omega

end Axes

def steps (p q : Plot) : Int :=
  max (max |q.x - p.x| |q.y - p.y|) |q.z - p.z|

def Adjacent (a b : Plot) : Prop :=
  |b.x - a.x| ≤ 1 ∧ |b.y - a.y| ≤ 1 ∧ |b.z - a.z| ≤ 1

/-- The point of the segment after `k` of the steps is near. -/
structure Near (p q : Plot) (k : Int) (a : Plot) : Prop where
  x : Nearest p.x q.x a.x (p.x + k * (q.x - p.x) / steps p q)
  y : Nearest p.y q.y a.y (p.y + k * (q.y - p.y) / steps p q)
  z : Nearest p.z q.z a.z (p.z + k * (q.z - p.z) / steps p q)

/-- What the calls of `grPlot0` draw a line with. -/
structure IsLine (p q : Plot) (plots : List Plot) : Prop where
  length : plots.length = (steps p q).toNat + 1
  first : plots.head? = some p
  last : plots.getLast? = some q
  adjacent : plots.IsChain Adjacent
  near : ∀ k (h : k < plots.length), Near p q k plots[k]

section Lines

variable {p q : Plot} {k : Int} {c : Cursor} {color : UInt32}

structure Courses (p q : Plot) : Prop where
  x : Course (steps p q) p.x q.x
  y : Course (steps p q) p.y q.y
  z : Course (steps p q) p.z q.z

structure Cursor.After (p q : Plot) (k : Int) (c : Cursor) : Prop where
  x : c.x.After (steps p q) p.x q.x k
  y : c.y.After (steps p q) p.y q.y k
  z : c.z.After (steps p q) p.z q.z k

theorem Cursor.After.turn (h : c.After p q k) (hcourses : Courses p q) (hk : 0 ≤ k)
    (hlt : k < steps p q) (color : UInt32) :
    ∃ d, c.turn (steps p q) = .ok d ∧ d.After p q (k + 1) ∧
      Adjacent (c.plot color) (d.plot color) := by
  obtain ⟨x, hx, hxnext, hxmove⟩ := h.x.turn hcourses.x hk hlt
  obtain ⟨y, hy, hynext, hymove⟩ := h.y.turn hcourses.y hk hlt
  obtain ⟨z, hz, hznext, hzmove⟩ := h.z.turn hcourses.z hk hlt
  refine ⟨⟨x, y, z⟩, ?_, ⟨hxnext, hynext, hznext⟩, hxmove, hymove, hzmove⟩
  rw [Cursor.turn, hx, ok_bind, hy, ok_bind, hz, ok_bind]
  rfl

theorem Cursor.After.near (h : c.After p q k) : Near p q k (c.plot color) :=
  ⟨h.x.nearest, h.y.nearest, h.z.nearest⟩

theorem Cursor.After.last (h : c.After p q (steps p q)) (hcolor : q.color = color) :
    c.plot color = q := by
  rw [Cursor.plot, h.x.last, h.y.last, h.z.last, ← hcolor]

theorem plotLoop_line (h : c.After p q k) (hcourses : Courses p q) (hk : 0 ≤ k) {i : Nat}
    (hi : k + i = steps p q) (hcolor : q.color = color) :
    ∃ plots, plotLoop (steps p q) color i c = .ok plots ∧ plots.length = i + 1 ∧
      plots.head? = some (c.plot color) ∧ plots.getLast? = some q ∧ plots.IsChain Adjacent ∧
        ∀ j (hj : j < plots.length), Near p q (k + j) plots[j] := by
  induction i generalizing k c with
  | zero =>
      obtain rfl : k = steps p q := by simpa using hi
      refine ⟨[c.plot color], rfl, rfl, rfl, ?_, by simp, ?_⟩
      · rw [h.last hcolor]
        rfl
      · intro j hj
        obtain rfl : j = 0 := by simpa using hj
        simpa using h.near
  | succ i ih =>
      obtain ⟨d, hturn, hnext, hadjacent⟩ := h.turn hcourses hk (by omega) color
      obtain ⟨plots, hloop, hlength, hhead, hlast, hchain, hnear⟩ := ih hnext (by omega) (by omega)
      refine ⟨c.plot color :: plots, ?_, by simp [hlength], rfl, ?_, ?_, ?_⟩
      · rw [plotLoop, hturn, ok_bind, hloop, ok_bind]
        rfl
      · rw [List.getLast?_cons, hlast]
        rfl
      · rw [List.isChain_cons]
        refine ⟨fun a ha => ?_, hchain⟩
        obtain rfl : d.plot color = a := by simpa [hhead] using ha
        exact hadjacent
      · intro j hj
        cases j with
        | zero => simpa using h.near
        | succ j =>
            have hshift : k + ((j + 1 : Nat) : Int) = k + 1 + (j : Int) := by omega
            rw [List.getElem_cons_succ, hshift]
            exact hnear j (by simpa using hj)

theorem grMAX3_eq (x y z : Int) : grMAX3 x y z = max (max x y) z := by
  unfold grMAX3
  split <;> split <;> omega

theorem distance_eq {start goal : Int} (h : |goal - start| < 2 ^ 30) :
    (int (goal - start) >>= abs) = .ok |goal - start| := by
  obtain ⟨hlow, hhigh⟩ := abs_lt.mp h
  rw [int_ok (by omega) (by omega), ok_bind, abs]
  split
  · rename_i hneg
    rw [int_ok (by omega) (by omega), abs_of_neg hneg]
  · rw [abs_of_nonneg (by omega)]

end Lines

section Ends

def point (x y z : Int32) (color : UInt32) : Plot :=
  ⟨z.toInt, x.toInt, y.toInt, color⟩

theorem course {dm : Int} {start goal : Int32} (hmoves : |goal.toInt - start.toInt| ≤ dm)
    (hsmall : dm < 2 ^ 30) : Course dm start.toInt goal.toInt :=
  ⟨hmoves, hsmall, ⟨start.le_toInt, start.toInt_lt⟩, goal.le_toInt, goal.toInt_lt⟩

theorem isLine_point (p : Plot) : IsLine p p [p] := by
  have hsteps : steps p p = 0 := by simp [steps]
  refine ⟨by simp [hsteps], rfl, rfl, by simp, fun k hk => ?_⟩
  obtain rfl : k = 0 := by simpa using hk
  constructor <;> simp [Nearest]

end Ends

/-- The line has a point for each step and one more, goes from its first end to its last one by
moves of at most one, and each point is the nearest one to the segment. -/
theorem line_exact (x0 y0 z0 x1 y1 z1 : Int32) (color : UInt32)
    (hx : |x1.toInt - x0.toInt| < 2 ^ 30) (hy : |y1.toInt - y0.toInt| < 2 ^ 30)
    (hz : |z1.toInt - z0.toInt| < 2 ^ 30) :
    Returns (plotLine3d x0 y0 z0 x1 y1 z1 color)
      (IsLine (point x0 y0 z0 color) (point x1 y1 z1 color)) := by
  let p := point x0 y0 z0 color
  let q := point x1 y1 z1 color
  have hsteps : grMAX3 |x1.toInt - x0.toInt| |y1.toInt - y0.toInt| |z1.toInt - z0.toInt| =
      steps p q := grMAX3_eq _ _ _
  have hmax : |x1.toInt - x0.toInt| ≤ steps p q ∧ |y1.toInt - y0.toInt| ≤ steps p q ∧
      |z1.toInt - z0.toInt| ≤ steps p q := by
    rw [← hsteps, grMAX3_eq]
    omega
  have hsmall : steps p q < 2 ^ 30 := by
    rw [← hsteps, grMAX3_eq]
    omega
  have hnonneg : 0 ≤ steps p q := le_trans (abs_nonneg _) hmax.1
  rw [plotLine3d, distance_eq hx, ok_bind, distance_eq hy, ok_bind, distance_eq hz, ok_bind]
  dsimp only
  rw [hsteps]
  rcases hnonneg.lt_or_eq with hpos | hzero
  · have hcourses : Courses p q :=
      ⟨course hmax.1 hsmall, course hmax.2.1 hsmall, course hmax.2.2 hsmall⟩
    have hstart : ∀ distance start goal : Int, distance = |goal - start| →
        (axis (steps p q >>> (1 : Nat)) distance start goal).After (steps p q) start goal 0 := by
      intro distance start goal hdistance
      have hhalf : steps p q >>> (1 : Nat) = steps p q / 2 := Int.shiftRight_eq_div_pow _ 1
      refine ⟨hdistance, rfl, 0, ?_, by simp [axis]⟩
      rw [axis, hhalf]
      exact spread_start hpos
    have hafter : Cursor.After p q 0 ⟨axis (steps p q >>> (1 : Nat)) _ p.x q.x,
        axis (steps p q >>> (1 : Nat)) _ p.y q.y, axis (steps p q >>> (1 : Nat)) _ p.z q.z⟩ :=
      ⟨hstart _ _ _ rfl, hstart _ _ _ rfl, hstart _ _ _ rfl⟩
    have hturns : 0 + ((steps p q).toNat : Int) = steps p q := by omega
    obtain ⟨plots, hloop, hlength, hfirst, hlast, hchain, hnear⟩ :=
      plotLoop_line hafter hcourses (Int.le_refl 0) hturns (rfl : q.color = color)
    refine ⟨plots, hloop, hlength, hfirst, hlast, hchain, fun k hk => ?_⟩
    simpa using hnear k hk
  · have hpoint : q = p := by
      have hsame : ∀ n : Int, |n| ≤ steps p q → n = 0 := fun n hn =>
        abs_eq_zero.mp (le_antisymm (hzero ▸ hn) (abs_nonneg n))
      have hsamex := hsame _ hmax.1
      have hsamey := hsame _ hmax.2.1
      have hsamez := hsame _ hmax.2.2
      simp only [p, q, point, Plot.mk.injEq, and_true]
      omega
    rw [← hzero]
    refine ⟨[p], rfl, ?_⟩
    change IsLine p q [p]
    rw [hpoint]
    exact isLine_point p

theorem line_example :
    Returns (plotLine3d 1 1 0 5 (-2) 2 255) (IsLine (point 1 1 0 255) (point 5 (-2) 2 255)) :=
  line_exact 1 1 0 5 (-2) 2 255 (by decide) (by decide) (by decide)

/-- Ties go to the start, as in the second step for `y` and in the steps beside it for `z`. -/
example :
    (plotLine3d 1 1 0 5 (-2) 2 255).toOption.map (List.map fun p => (p.x, p.y, p.z)) =
      some [(1, 1, 0), (2, 0, 0), (3, 0, 1), (4, -1, 1), (5, -2, 2)] := by
  decide

end Gramado.Ds.Line3d
