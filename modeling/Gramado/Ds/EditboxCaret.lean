import Gramado.Ds.CreateWindow

/-! The input pointer of an editbox, and the glyphs that are painted at it. -/

namespace Gramado.Ds.EditboxCaret

open Library.Run Library.CheckedArithmetic.Tracked Ds.CreateWindow

def VK_TAB : Int := 0xC0
def VK_BACKSPACE : Int := 0xD0
def VK_RETURN : Int := 0xD1

structure Editbox where
  window : Window
  widthInChars : UInt64
  heightInChars : UInt64
  deriving DecidableEq

def createEditbox (s : Server) (parent : Window) (type : WindowType) (style : UInt64)
    (state : UInt32) (title : List UInt8) (x y width height : UInt64) (room : Nat) :
    Option Editbox :=
  match type with
  | .WT_EDITBOX_SINGLE_LINE | .WT_EDITBOX_MULTIPLE_LINES =>
      (createWindow s (some parent) type style state title x y width height room).map fun t =>
        { window := t.value.1.window
          widthInChars := mask16 (raise width EDITBOX_MIN_WIDTH) / 8
          heightInChars := mask16 (raise height EDITBOX_MIN_HEIGHT) / 8 }
  | _ => none

/-- The input pointer in characters, and what `on_mouse_released` remembers between its calls. -/
structure Pointer where
  ipX : UInt64
  ipY : UInt64
  isInsideMouseHover : Bool
  deriving DecidableEq

abbrev Font := UInt8 → Nat → UInt8

def glyph (font : Font) (ch : UInt8) : List (Nat × Nat) :=
  (List.range FONT_HEIGHT.toNat).flatMap fun y2 =>
    ((List.range FONT_WIDTH.toNat).filter fun x2 => (font ch y2).toNat.testBit (7 - x2)).map
      fun x2 => (x2, y2)

def toInt (x : UInt64) : Int := Int.bmod x.toNat (2 ^ 32)

def putpixel (s : Server) (x y : UInt64) : Option (Nat × Nat) :=
  if toInt x < 0 ∨ toInt y < 0 then none
  else if (mask16 s.deviceWidth).toNat ≤ toInt x ∨ (mask16 s.deviceHeight).toNat ≤ toInt y then none
  else some ((toInt x).toNat, (toInt y).toNat)

def grBackbufferDrawCharTransparent2 (s : Server) (font : Font) (x y : UInt64) (ch : UInt8) :
    List (Nat × Nat) :=
  (glyph font ch).filterMap fun bit => putpixel s (x + .ofNat bit.1) (y + .ofNat bit.2)

section Editing

variable (s : Server) (font : Font) (e : Editbox)

def back (ip : UInt64) : UInt64 := if 0 < ip then ip - 1 else ip

def backspace (p : Pointer) : Pointer :=
  let ipX := back p.ipX
  if ipX = 0 then
    if e.window.type = .WT_EDITBOX_SINGLE_LINE then { p with ipX := 0 }
    else
      let ipY := back p.ipY
      { p with ipX := if 0 < ipY then e.widthInChars - 1 else ipX, ipY := ipY }
  else { p with ipX := ipX }

def tab (p : Pointer) : Pointer :=
  let ipX := p.ipX + 8
  if e.widthInChars ≤ ipX then
    if e.window.type = .WT_EDITBOX_SINGLE_LINE then { p with ipX := e.widthInChars - 1 }
    else
      let ipY := p.ipY + 1
      { p with ipX := 0, ipY := if e.heightInChars ≤ ipY then e.heightInChars - 1 else ipY }
  else { p with ipX := ipX }

/-- Where the pointer is after a character. Nothing is tested for the last line. -/
def advance (p : Pointer) : Pointer :=
  let ipX := p.ipX + 1
  if e.widthInChars ≤ ipX then
    { p with
      ipX := 0
      ipY := if e.window.type = .WT_EDITBOX_MULTIPLE_LINES then p.ipY + 1 else p.ipY }
  else { p with ipX := ipX }

def isControl (ascii : UInt8) : Prop := ascii < 0x20 ∨ ascii = 0x7F

instance (ascii : UInt8) : Decidable (isControl ascii) :=
  inferInstanceAs (Decidable (_ ∨ _))

def wm_draw_char_into_the_window (ch : Int) (p : Pointer) : List (Nat × Nat) × Pointer :=
  if ch < 0 then ([], p)
  else if ch = VK_RETURN then ([], p)
  else if ch = VK_BACKSPACE then ([], backspace e p)
  else if ch = VK_TAB then ([], tab e p)
  else
    let ascii := UInt8.ofNat ch.toNat
    if isControl ascii then ([], p)
    else
      (grBackbufferDrawCharTransparent2 s font (e.window.absoluteX + p.ipX * 8)
        (e.window.absoluteY + p.ipY * 8) ascii, advance e p)

def on_enter (p : Pointer) : Pointer :=
  if e.window.type = .WT_EDITBOX_SINGLE_LINE then p
  else if e.heightInChars ≤ p.ipY then p
  else { p with ipX := 0, ipY := p.ipY + 1 }

def insideMouseHover (saved_x saved_y : UInt64) : Prop :=
  e.window.absoluteX ≤ saved_x ∧ saved_x ≤ e.window.absoluteRight ∧
    e.window.absoluteY ≤ saved_y ∧ saved_y ≤ e.window.absoluteBottom

instance (saved_x saved_y : UInt64) : Decidable (insideMouseHover e saved_x saved_y) :=
  inferInstanceAs (Decidable (_ ∧ _ ∧ _ ∧ _))

def on_mouse_released (saved_x saved_y : UInt64) (p : Pointer) : Pointer :=
  let inside := insideMouseHover e saved_x saved_y
  let in_x := if inside then saved_x - e.window.absoluteX else 0
  let in_y := if inside then saved_y - e.window.absoluteY else 0
  let isInsideMouseHover := p.isInsideMouseHover || decide inside
  if isInsideMouseHover = false then p
  else
    { ipX := if 0 < in_x then in_x / 8 else p.ipX
      ipY := if 0 < in_y then in_y / 8 else p.ipY
      isInsideMouseHover := isInsideMouseHover }

inductive Event where
  | key (ch : Int)
  | enter
  | mouseReleased (saved_x saved_y : UInt64)

def perform (p : Pointer) : Event → List (Nat × Nat) × Pointer
  | .key ch => wm_draw_char_into_the_window s font e ch p
  | .enter => ([], on_enter e p)
  | .mouseReleased saved_x saved_y => ([], on_mouse_released e saved_x saved_y p)

def step (p : Pointer) (event : Event) : Except Empty (List (Nat × Nat) × Pointer) :=
  .ok (perform s font e p event)

def Valid (p : Pointer) : Prop :=
  p.ipX.toNat < max 1 e.widthInChars.toNat ∧ p.ipY.toNat < max 1 e.heightInChars.toNat

def InRectangle (pixel : Nat × Nat) : Prop :=
  (e.window.absoluteX.toNat ≤ pixel.1 ∧
      pixel.1 < e.window.absoluteX.toNat + e.window.width.toNat) ∧
    e.window.absoluteY.toNat ≤ pixel.2 ∧
      pixel.2 < e.window.absoluteY.toNat + e.window.height.toNat

def Keeps (p : Pointer) (event : Event) : Prop :=
  Valid e (perform s font e p event).2 ∧
    ∀ pixel ∈ (perform s font e p event).1, InRectangle e pixel

/-- The glyphs are higher than the lines. What the screen shows of a glyph ends in the editbox. -/
def GlyphFits (p : Pointer) (ch : UInt8) : Prop :=
  ∀ bit ∈ glyph font ch,
    e.window.absoluteX.toNat + 8 * p.ipX.toNat + bit.1 < s.deviceWidth.toNat % 65536 →
    e.window.absoluteY.toNat + 8 * p.ipY.toNat + bit.2 < s.deviceHeight.toNat % 65536 →
      8 * p.ipX.toNat + bit.1 < e.window.width.toNat ∧
        8 * p.ipY.toNat + bit.2 < e.window.height.toNat

def BackspaceStays (p : Pointer) : Prop :=
  e.window.type = .WT_EDITBOX_MULTIPLE_LINES → p.ipX.toNat ≤ 1 → 2 ≤ p.ipY.toNat →
    0 < e.widthInChars.toNat

def TabStays (p : Pointer) : Prop :=
  e.widthInChars.toNat ≤ p.ipX.toNat + 8 →
    if e.window.type = .WT_EDITBOX_SINGLE_LINE then 0 < e.widthInChars.toNat
    else 0 < e.heightInChars.toNat

def AdvanceStays (p : Pointer) : Prop :=
  e.window.type = .WT_EDITBOX_MULTIPLE_LINES → e.widthInChars.toNat ≤ p.ipX.toNat + 1 →
    p.ipY.toNat + 1 < e.heightInChars.toNat

def KeyStays (ch : Int) (p : Pointer) : Prop :=
  if ch < 0 then True
  else if ch = VK_RETURN then True
  else if ch = VK_BACKSPACE then BackspaceStays e p
  else if ch = VK_TAB then TabStays e p
  else if isControl (.ofNat ch.toNat) then True
  else AdvanceStays e p ∧ GlyphFits s font e p (.ofNat ch.toNat)

def EnterStays (p : Pointer) : Prop :=
  e.window.type = .WT_EDITBOX_MULTIPLE_LINES → p.ipY.toNat < e.heightInChars.toNat →
    p.ipY.toNat + 1 < e.heightInChars.toNat

/-- A click is not to the right of the last whole column or below the last whole line. -/
def ClickStays (saved_x saved_y : UInt64) : Prop :=
  insideMouseHover e saved_x saved_y →
    saved_x.toNat < e.window.absoluteX.toNat + 8 * max 1 e.widthInChars.toNat ∧
      saved_y.toNat < e.window.absoluteY.toNat + 8 * max 1 e.heightInChars.toNat

def Stays (p : Pointer) : Event → Prop
  | .key ch => KeyStays s font e ch p
  | .enter => EnterStays e p
  | .mouseReleased saved_x saved_y => ClickStays e saved_x saved_y

end Editing

/-- An editbox of one or of several lines whose measures are words of 16 bits. -/
structure Made (e : Editbox) : Prop where
  type : e.window.type = .WT_EDITBOX_SINGLE_LINE ∨ e.window.type = .WT_EDITBOX_MULTIPLE_LINES
  columns : e.widthInChars.toNat < 8192
  lines : e.heightInChars.toNat < 8192
  left : e.window.absoluteX.toNat < 65536
  top : e.window.absoluteY.toNat < 65536

theorem masked_inChars (x : UInt64) : (mask16 x / 8).toNat < 8192 := by
  have hlt := mask16_lt x
  have height : (8 : UInt64).toNat = 8 := rfl
  rw [UInt64.toNat_div, height]
  omega

theorem made_masked (w : Window) (client : GwsRect) (border wide high : UInt64)
    (htype : w.type = .WT_EDITBOX_SINGLE_LINE ∨ w.type = .WT_EDITBOX_MULTIPLE_LINES) :
    Made
      { window := { w.masked with rcClient := client, borderSize := border }
        widthInChars := mask16 wide / 8, heightInChars := mask16 high / 8 } := by
  refine ⟨htype, masked_inChars wide, masked_inChars high, ?_, ?_⟩
  · exact mask16_lt w.absoluteX
  · exact mask16_lt w.absoluteY

variable {s : Server} {parent : Window} {type : WindowType} {x y corner ip : UInt64}

theorem made_framed (hlive : parent.valid = true)
    (htype : type = .WT_EDITBOX_SINGLE_LINE ∨ type = .WT_EDITBOX_MULTIPLE_LINES) (style : UInt64)
    (state : UInt32) (title : List UInt8) (x y width height wide high : UInt64) (room : Nat) :
    Made
      { window := (createFramed s (some parent) type style state title x y width height
          room).value.1.window
        widthInChars := mask16 wide / 8, heightInChars := mask16 high / 8 } := by
  have hframe (s' : Server) (w : Window) (h : w.type = type) :
      ∃ client border, (doCreateWindowFrame s' (some parent) w METRICS_BORDER_SIZE
        room).value.window = { w.masked with rcClient := client, borderSize := border } := by
    have hmasked : w.masked.type = type := h
    rcases htype with rfl | rfl
    all_goals
      simp [doCreateWindowFrame, hlive, hmasked, borderClient]
  obtain ⟨client, border, hw⟩ := hframe
    (updateWorkingArea s (doCreateWindow s (some parent) .WT_SIMPLE style state title x y width
      height).value .WT_SIMPLE)
    { (doCreateWindow s (some parent) .WT_SIMPLE style state title x y width height).value with
      type := type } rfl
  simp only [createFramed, value_bind, value_pure, hw]
  apply made_masked
  exact htype

theorem createEditbox_made {style : UInt64} {state : UInt32} {title : List UInt8}
    {width height : UInt64} {room : Nat} {e : Editbox} (hlive : parent.valid = true)
    (hmade : createEditbox s parent type style state title x y width height room = some e) :
    Made e := by
  unfold createEditbox createWindow at hmade
  cases type with
  | WT_EDITBOX_SINGLE_LINE =>
      simp only [Option.map_some, Option.some.injEq] at hmade
      rw [← hmade]
      exact made_framed hlive (.inl rfl) ..
  | WT_EDITBOX_MULTIPLE_LINES =>
      simp only [Option.map_some, Option.some.injEq] at hmade
      rw [← hmade]
      exact made_framed hlive (.inr rfl) ..
  | _ => simp at hmade

theorem toInt_of_lt (h : x.toNat < 2 ^ 31) : toInt x = x.toNat := by
  unfold toInt
  apply Int.bmod_eq_of_le_mul_two
  · omega
  · omega

theorem putpixel_eq_some (hx : x.toNat < 2 ^ 31) (hy : y.toNat < 2 ^ 31) (pixel : Nat × Nat) :
    putpixel s x y = some pixel ↔ pixel = (x.toNat, y.toNat) ∧
      x.toNat < s.deviceWidth.toNat % 65536 ∧ y.toNat < s.deviceHeight.toNat % 65536 := by
  rw [putpixel, toInt_of_lt hx, toInt_of_lt hy, toNat_mask16, toNat_mask16]
  split_ifs with hneg hout
  · omega
  · simp only [false_iff]
    omega
  · simp only [Option.some.injEq, Int.toNat_natCast]
    constructor
    · rintro rfl
      exact ⟨rfl, by omega, by omega⟩
    · exact fun h => h.1.symm

section Steps

variable {s : Server} {font : Font} {e : Editbox} {p : Pointer}

theorem toNat_place (hcorner : corner.toNat < 65536) (hip : ip.toNat < 8192) {k : Nat}
    (hk : k < 16) :
    (corner + ip * 8 + .ofNat k).toNat = corner.toNat + 8 * ip.toNat + k := by
  have height : (8 : UInt64).toNat = 8 := rfl
  simp only [UInt64.toNat_add, UInt64.toNat_mul, height, UInt64.toNat_ofNat']
  omega

theorem toNat_succ (hip : ip.toNat < 8192) : (ip + 1).toNat = ip.toNat + 1 := by
  have hone : (1 : UInt64).toNat = 1 := rfl
  rw [UInt64.toNat_add, hone]
  omega

theorem toNat_pred (hip : 0 < ip.toNat) : (ip - 1).toNat = ip.toNat - 1 := by
  have hone : (1 : UInt64).toNat = 1 := rfl
  apply UInt64.toNat_sub_of_le
  rw [UInt64.le_iff_toNat_le, hone]
  exact hip

theorem pos_iff (x : UInt64) : 0 < x ↔ 0 < x.toNat := by
  rw [UInt64.lt_iff_toNat_lt]
  rfl

theorem eq_zero_iff (x : UInt64) : x = 0 ↔ x.toNat = 0 := by
  rw [← UInt64.toNat_inj]
  rfl

theorem first_place (limit : UInt64) : (0 : UInt64).toNat < max 1 limit.toNat := by
  have hzero : (0 : UInt64).toNat = 0 := rfl
  omega

theorem pred_lt_iff (limit : UInt64) : (limit - 1).toNat < max 1 limit.toNat ↔ 0 < limit.toNat := by
  rcases Nat.eq_zero_or_pos limit.toNat with hzero | hpos
  · rw [(eq_zero_iff limit).mpr hzero]
    decide
  · rw [toNat_pred hpos]
    omega

theorem mem_glyph {ch : UInt8} {bit : Nat × Nat} (h : bit ∈ glyph font ch) :
    bit.1 < 8 ∧ bit.2 < 16 := by
  simp only [glyph, List.mem_flatMap, List.mem_map, List.mem_filter, List.mem_range] at h
  obtain ⟨y2, hy, x2, ⟨hx, -⟩, rfl⟩ := h
  exact ⟨hx, hy⟩

theorem glyphFits_iff (he : Made e) (hp : Valid e p) (ch : UInt8) :
    (∀ pixel ∈ grBackbufferDrawCharTransparent2 s font (e.window.absoluteX + p.ipX * 8)
      (e.window.absoluteY + p.ipY * 8) ch, InRectangle e pixel) ↔ GlyphFits s font e p ch := by
  obtain ⟨-, hcolumns, hlines, hleft, htop⟩ := he
  obtain ⟨hx, hy⟩ := hp
  simp only [grBackbufferDrawCharTransparent2, List.mem_filterMap, forall_exists_index, and_imp]
  have hpixel (bit : Nat × Nat) (hbit : bit ∈ glyph font ch) (pixel : Nat × Nat) :
      putpixel s (e.window.absoluteX + p.ipX * 8 + .ofNat bit.1)
          (e.window.absoluteY + p.ipY * 8 + .ofNat bit.2) = some pixel ↔
        pixel = (e.window.absoluteX.toNat + 8 * p.ipX.toNat + bit.1,
            e.window.absoluteY.toNat + 8 * p.ipY.toNat + bit.2) ∧
          e.window.absoluteX.toNat + 8 * p.ipX.toNat + bit.1 < s.deviceWidth.toNat % 65536 ∧
          e.window.absoluteY.toNat + 8 * p.ipY.toNat + bit.2 < s.deviceHeight.toNat % 65536 := by
    obtain ⟨hcolumn, hrow⟩ := mem_glyph hbit
    have hplaceX := toNat_place hleft (by omega : p.ipX.toNat < 8192) (by omega : bit.1 < 16)
    have hplaceY := toNat_place htop (by omega : p.ipY.toNat < 8192) hrow
    rw [putpixel_eq_some (by omega) (by omega), hplaceX, hplaceY]
  constructor
  · intro h bit hbit hwide hhigh
    have hin := h _ bit hbit ((hpixel bit hbit _).mpr ⟨rfl, hwide, hhigh⟩)
    obtain ⟨⟨-, hright⟩, -, hbottom⟩ := hin
    dsimp only at hright hbottom
    omega
  · intro h pixel bit hbit hput
    obtain ⟨rfl, hwide, hhigh⟩ := (hpixel bit hbit pixel).mp hput
    obtain ⟨hright, hbottom⟩ := h bit hbit hwide hhigh
    refine ⟨⟨?_, ?_⟩, ?_, ?_⟩
    · dsimp only; omega
    · dsimp only; omega
    · dsimp only; omega
    · dsimp only; omega

theorem toNat_back (ip : UInt64) : (back ip).toNat = ip.toNat - 1 := by
  rw [back]
  split_ifs with h
  · exact toNat_pred ((pos_iff ip).mp h)
  · rw [pos_iff] at h
    omega

theorem backspace_iff (he : Made e) (hp : Valid e p) :
    Valid e (backspace e p) ↔ BackspaceStays e p := by
  obtain ⟨hx, hy⟩ := hp
  simp only [backspace, eq_zero_iff, pos_iff, toNat_back]
  simp only [Valid, BackspaceStays]
  split_ifs with hstart hsingle hline
  · refine ⟨fun _ h => ?_, fun _ => ⟨first_place _, hy⟩⟩
    rw [hsingle] at h
    cases h
  · have hmulti := he.type.resolve_left hsingle
    rw [pred_lt_iff, toNat_back]
    refine ⟨fun h _ _ _ => h.1, fun h => ⟨h hmulti ?_ ?_, ?_⟩⟩
    · omega
    · omega
    · omega
  · rw [toNat_back, toNat_back]
    refine ⟨fun _ _ _ h => ?_, fun _ => ⟨?_, ?_⟩⟩
    · omega
    · omega
    · omega
  · rw [toNat_back]
    refine ⟨fun _ _ h => ?_, fun _ => ⟨?_, hy⟩⟩
    · omega
    · omega

theorem tab_iff (he : Made e) (hp : Valid e p) : Valid e (tab e p) ↔ TabStays e p := by
  obtain ⟨htype, hcolumns, hlines, -, -⟩ := he
  obtain ⟨hx, hy⟩ := hp
  have hright : (p.ipX + 8).toNat = p.ipX.toNat + 8 := by
    have height : (8 : UInt64).toNat = 8 := rfl
    rw [UInt64.toNat_add, height]
    omega
  have hdown : (p.ipY + 1).toNat = p.ipY.toNat + 1 := toNat_succ (by omega)
  simp only [tab, UInt64.le_iff_toNat_le, hright, hdown]
  simp only [Valid, TabStays]
  split_ifs with hwrap hsingle hlast hsingle
  · rw [pred_lt_iff]
    exact ⟨fun h _ => h.1, fun h => ⟨h hwrap, hy⟩⟩
  · rw [pred_lt_iff]
    exact ⟨fun h _ => h.2, fun h => ⟨first_place _, h hwrap⟩⟩
  · rw [hdown]
    refine ⟨fun _ _ => by omega, fun _ => ⟨first_place _, by omega⟩⟩
  · rw [hright]
    exact ⟨fun _ h => absurd h hwrap, fun _ => ⟨by omega, hy⟩⟩
  · rw [hright]
    exact ⟨fun _ h => absurd h hwrap, fun _ => ⟨by omega, hy⟩⟩

theorem advance_iff (he : Made e) (hp : Valid e p) : Valid e (advance e p) ↔ AdvanceStays e p := by
  obtain ⟨htype, hcolumns, hlines, -, -⟩ := he
  obtain ⟨hx, hy⟩ := hp
  have hright : (p.ipX + 1).toNat = p.ipX.toNat + 1 := toNat_succ (by omega)
  have hdown : (p.ipY + 1).toNat = p.ipY.toNat + 1 := toNat_succ (by omega)
  simp only [advance, UInt64.le_iff_toNat_le, hright]
  simp only [Valid, AdvanceStays]
  split_ifs with hwrap hmulti
  · rw [hdown]
    exact ⟨fun h _ _ => by omega, fun h => ⟨first_place _, Nat.lt_of_lt_of_le (h hmulti hwrap) (Nat.le_max_right ..)⟩⟩
  · exact ⟨fun _ h => absurd h hmulti, fun _ => ⟨first_place _, hy⟩⟩
  · rw [hright]
    exact ⟨fun _ _ h => absurd h hwrap, fun _ => ⟨by omega, hy⟩⟩

theorem on_enter_iff (he : Made e) (hp : Valid e p) : Valid e (on_enter e p) ↔ EnterStays e p := by
  obtain ⟨hx, hy⟩ := hp
  have hlines := he.lines
  have hdown : (p.ipY + 1).toNat = p.ipY.toNat + 1 := toNat_succ (by omega)
  simp only [on_enter, UInt64.le_iff_toNat_le]
  simp only [Valid, EnterStays]
  split_ifs with hsingle hbottom
  · exact ⟨fun _ h => by simp [hsingle] at h, fun _ => ⟨hx, hy⟩⟩
  · exact ⟨fun _ _ h => by omega, fun _ => ⟨hx, hy⟩⟩
  · have hmulti := he.type.resolve_left hsingle
    rw [hdown]
    refine ⟨fun h _ _ => by omega, fun h => ⟨first_place _, ?_⟩⟩
    have hline := h hmulti (by omega)
    omega

theorem click_iff {saved limit : UInt64} (hle : corner ≤ saved)
    (hip : ip.toNat < max 1 limit.toNat) :
    (if 0 < saved - corner then (saved - corner) / 8 else ip).toNat < max 1 limit.toNat ↔
      saved.toNat < corner.toNat + 8 * max 1 limit.toNat := by
  have hsub := UInt64.toNat_sub_of_le saved corner hle
  rw [UInt64.le_iff_toNat_le] at hle
  have height : (8 : UInt64).toNat = 8 := rfl
  simp only [pos_iff, hsub]
  split_ifs with hpos
  · rw [UInt64.toNat_div, hsub, height]
    omega
  · omega

theorem on_mouse_released_iff (hp : Valid e p) (saved_x saved_y : UInt64) :
    Valid e (on_mouse_released e saved_x saved_y p) ↔ ClickStays e saved_x saved_y := by
  simp only [on_mouse_released, ClickStays]
  by_cases hinside : insideMouseHover e saved_x saved_y
  · simp only [hinside, decide_true, Bool.or_true, reduceCtorEq, if_false, if_true, forall_const]
    obtain ⟨hleft, -, htop, -⟩ := hinside
    exact and_congr (click_iff hleft hp.1) (click_iff htop hp.2)
  · simp only [hinside, if_false, false_implies, iff_true]
    have hnone : ¬ (0 : UInt64) < 0 := by decide
    simp only [hnone, if_false]
    split_ifs
    · exact hp
    · exact hp

theorem keeps_iff (he : Made e) (hp : Valid e p) (event : Event) :
    Keeps s font e p event ↔ Stays s font e p event := by
  cases event with
  | key ch =>
      simp only [Keeps, perform, wm_draw_char_into_the_window, Stays, KeyStays]
      split_ifs
      · simpa using hp
      · simpa using hp
      · simpa using backspace_iff he hp
      · simpa using tab_iff he hp
      · simpa using hp
      · exact and_congr (advance_iff he hp) (glyphFits_iff he hp _)
  | enter => simpa [Keeps, perform, Stays] using on_enter_iff he hp
  | mouseReleased saved_x saved_y =>
      simpa [Keeps, perform, Stays] using on_mouse_released_iff hp saved_x saved_y

end Steps

def newPointer (isInsideMouseHover : Bool) : Pointer := ⟨0, 0, isInsideMouseHover⟩

theorem valid_new (e : Editbox) (isInsideMouseHover : Bool) :
    Valid e (newPointer isInsideMouseHover) :=
  ⟨first_place e.widthInChars, first_place e.heightInChars⟩

/-- In a run of events, every event leaves the pointer in the editbox and paints nothing outside,
exactly when every event of the run finds a pointer that it does not take out of the editbox and a
glyph that fits. -/
theorem caret_iff (s : Server) (parent : Window) (type : WindowType) (style : UInt64)
    (state : UInt32) (title : List UInt8) (x y width height : UInt64) (room : Nat) (e : Editbox)
    (font : Font) (isInsideMouseHover : Bool) (events : List Event) (hlive : parent.valid = true)
    (hmade : createEditbox s parent type style state title x y width height room = some e) :
    Guarded (step s font e) (Keeps s font e) (newPointer isInsideMouseHover) events ↔
      Guarded (step s font e) (Stays s font e) (newPointer isInsideMouseHover) events := by
  have he := createEditbox_made hlive hmade
  apply guarded_iff (Valid e)
  · exact fun p event hp => keeps_iff he hp event
  · intro p event out q _ hkeeps hstep
    obtain ⟨rfl, rfl⟩ := Prod.mk.inj (Except.ok.inj hstep)
    exact hkeeps.1
  · exact valid_new e isInsideMouseHover

def screen : Server where
  deviceWidth := 800
  deviceHeight := 600
  initialized := true
  wa := { left := 0, top := 0, width := 800, height := 572 }
  wa_left := by decide
  wa_top := by decide
  wa_width := by decide
  wa_height := by decide

def desk : Window where
  valid := true
  type := .WT_SIMPLE
  style := 0
  state := 1
  name := []
  borderSize := 2
  left := 0
  top := 0
  width := 800
  height := 600
  absoluteX := 0
  absoluteY := 0
  absoluteRight := 800
  absoluteBottom := 600
  leftOffset := 0
  rcClient := { left := 6, top := 6, width := 788, height := 588 }

def notes (width height : UInt64) : Option Editbox :=
  createEditbox screen desk .WT_EDITBOX_MULTIPLE_LINES 0 1 [] 40 60 width height 6

theorem caret_iff_notes : ∃ e, notes 200 40 = some e ∧
    (Guarded (step screen (fun _ _ => 0) e) (Keeps screen (fun _ _ => 0) e) (newPointer false)
        [.key 0x61, .enter] ↔
      Guarded (step screen (fun _ _ => 0) e) (Stays screen (fun _ _ => 0) e) (newPointer false)
        [.key 0x61, .enter]) :=
  ⟨_, rfl, caret_iff screen desk .WT_EDITBOX_MULTIPLE_LINES 0 1 [] 40 60 200 40 6 _ _ false _ rfl
    rfl⟩

/-- One letter in an editbox of one letter. -/
theorem caret_leaves : ¬ ∀ (s : Server) (parent : Window) (type : WindowType) (style : UInt64)
    (state : UInt32) (title : List UInt8) (x y width height : UInt64) (room : Nat) (e : Editbox)
    (font : Font) (isInsideMouseHover : Bool) (events : List Event), parent.valid = true →
    createEditbox s parent type style state title x y width height room = some e →
    Guarded (step s font e) (Keeps s font e) (newPointer isInsideMouseHover) events := by
  intro h
  obtain ⟨e, he, htype, hcolumns, hlines⟩ : ∃ e, notes 8 8 = some e ∧
      e.window.type = .WT_EDITBOX_MULTIPLE_LINES ∧ e.widthInChars.toNat = 1 ∧
        e.heightInChars.toNat = 1 := ⟨_, rfl, rfl, rfl, rfl⟩
  have hkeeps := (h screen desk .WT_EDITBOX_MULTIPLE_LINES 0 1 [] 40 60 8 8 6 e (fun _ _ => 0)
    false [.key 0x61] rfl he).1
  rw [keeps_iff (createEditbox_made rfl he) (valid_new e false)] at hkeeps
  have hline := hkeeps.1 htype (by omega)
  rw [hlines] at hline
  exact absurd hline (by decide)

end Gramado.Ds.EditboxCaret
