import Gramado.Io.Stdio

/-! `sys_lseek`, and the read that follows it. -/

namespace Gramado.Io.Seek

open Io.FileObject Io.FileBuffer Io.Stdio

/-- What the call reads of `struct te_d`. -/
structure Process where
  magic : Int
  objects : Nat → Option File

def Process.setObject (p : Process) (fd : Nat) (f : File) : Process :=
  { p with objects := Function.update p.objects fd (some f) }

/-- `p` is the current process, `none` if there is none. The result of `k_fseek` is not looked
at. -/
def sysLseek (p : Option Process) (fd offset whence : Int) :
    Except String (Int × Option Process) :=
  if fd < 0 ∨ OPEN_MAX ≤ fd then .ok (-EBADF, p)
  else if whence < 0 then .ok (-EINVAL, p)
  else
    match p with
    | none => .ok (-1, p)
    | some proc =>
        if proc.magic ≠ 1234 then .ok (-1, p)
        else
          match proc.objects fd.toNat with
          | none => .ok (-1, p)
          | some f =>
              if f.magic ≠ 1234 then .ok (-1, p)
              else
                match kFseek f offset whence with
                | .error e => .error e
                | .ok (_, f) =>
                    if f.p < f.base then .error "sys_lseek: #fixme f->_p < f->_base\n"
                    else .ok (f.p - f.base, some (proc.setObject fd.toNat f))

def lseekFile (p : Option Process) (fd : Int) : Option File :=
  if fd < 0 ∨ OPEN_MAX ≤ fd then none
  else
    match p with
    | none => none
    | some proc =>
        if proc.magic ≠ 1234 then none
        else
          match proc.objects fd.toNat with
          | none => none
          | some f => if f.magic ≠ 1234 then none else some f

def origin (f : File) (whence : Int) : Option Int :=
  if whence = SEEK_SET then some 0
  else if whence = SEEK_CUR then some (f.p - f.base)
  else if whence = SEEK_END then some f.fsize
  else none

def Positional (f : File) : Prop :=
  f.object = .file ∨ f.object = .tty ∨ f.object = .ioBuffer

/-- The file is at the place that the offset says, and a read takes its bytes from there. -/
structure Positioned (f g : File) (offset whence result : Int) : Prop where
  target : (origin f whence).map (· + offset) = some result
  nonneg : 0 ≤ result
  le_fsize : result ≤ f.fsize
  p_eq : g.p = f.base + result
  r_eq : g.r = result
  reads : Positional f → ∀ len, 0 < len → len < 0x10000 → len ≤ f.lbfsize →
    (fileReadBuffer g true len).1.bytes =
      readBytes f.buf result (min len (f.fsize - result)).toNat

def LseekMeets (p : Option Process) (fd offset whence : Int) : Prop :=
  match sysLseek p fd offset whence with
  | .error _ => False
  | .ok (result, q) =>
      (result < 0 ∧ q = p) ∨
        ∃ f g, lseekFile p fd = some f ∧ lseekFile q fd = some g ∧
          Positioned f g offset whence result

/-- The offset is not cut, the place is inside the file, and it is the end of a file that is
read at its read offset. -/
def SeekFits (f : File) (offset whence : Int) : Prop :=
  (whence = SEEK_END ∨ offset ≤ f.cnt) ∧
    ∃ o, origin f whence = some o ∧ 0 ≤ o + offset ∧ o + offset ≤ f.fsize ∧
      (Positional f → o + offset = f.fsize)

def cut (f : File) (offset whence : Int) : Int :=
  if whence = SEEK_SET then
    let offset := if offset < 0 then 0 else offset
    if f.cnt < offset then f.cnt else offset
  else if whence = SEEK_CUR then if f.cnt < offset then f.cnt else offset
  else if 0 < offset then 0 else offset

def moveTo (f : File) (x : Int) : File :=
  { f with r := toInt32 x, w := toInt32 x, p := f.base + x }

theorem cut_end (f : File) (offset : Int) :
    cut f offset SEEK_END = if 0 < offset then 0 else offset := by
  rw [cut, if_neg (by decide), if_neg (by decide)]

theorem cut_cur (f : File) (offset : Int) :
    cut f offset SEEK_CUR = if f.cnt < offset then f.cnt else offset := by
  rw [cut, if_neg (by decide), if_pos rfl]

variable {f : File} {whence o offset fd : Int} {p : Option Process}

theorem kFseek_origin (hsize : f.fsize ≤ f.lbfsize) (ho : origin f whence = some o) (offset : Int) :
    kFseek f offset whence = .ok (⟨0, []⟩, moveTo f (o + cut f offset whence)) := by
  unfold origin at ho
  split at ho
  · rename_i hset
    cases ho
    subst hset
    simp [kFseek, cut, moveTo, SEEK_SET]
  split at ho
  · rename_i hcur
    cases ho
    subst hcur
    rw [kFseek, if_neg (by decide), if_neg (by decide), if_pos rfl, cut_cur]
    have hx : f.p - f.base + (if f.cnt < offset then f.cnt else offset) =
        f.p + (if f.cnt < offset then f.cnt else offset) - f.base := by omega
    have hp : f.base + (f.p + (if f.cnt < offset then f.cnt else offset) - f.base) =
        f.p + (if f.cnt < offset then f.cnt else offset) := by omega
    rw [moveTo, hx, hp]
  split at ho
  · rename_i hend
    cases ho
    subst hend
    have hle : (if 0 < offset then 0 else offset) ≤ 0 := by
      split <;> omega
    rw [kFseek, if_neg (by decide), if_neg (by decide), if_neg (by decide), if_pos rfl, cut_end]
    dsimp only
    rw [if_neg (by omega), if_neg (by omega)]
    rfl
  · cases ho

theorem cut_eq_iff (ho : origin f whence = some o) (hnonneg : 0 ≤ o + offset)
    (hle : o + offset ≤ f.fsize) :
    cut f offset whence = offset ↔ whence = SEEK_END ∨ offset ≤ f.cnt := by
  unfold origin at ho
  split at ho
  · rename_i hset
    cases ho
    subst hset
    rw [cut, if_pos rfl]
    have hne : SEEK_SET ≠ SEEK_END := by decide
    dsimp only
    simp only [hne, false_or]
    split <;> split <;> omega
  split at ho
  · rename_i hcur
    cases ho
    subst hcur
    have hne : SEEK_CUR ≠ SEEK_END := by decide
    rw [cut_cur]
    simp only [hne, false_or]
    split <;> omega
  split at ho
  · rename_i hend
    cases ho
    subst hend
    rw [cut_end]
    simp only [true_or, iff_true]
    split <;> omega
  · cases ho

theorem readStream_nothing (h : f.r = f.w) (count : Int) : (readStream f count).1.bytes = [] := by
  have hdelta : f.w - f.r = 0 := by omega
  unfold readStream
  simp only [hdelta, if_true]
  split
  · rfl
  split
  · rfl
  split
  · rfl
  split
  · rfl
  split <;> rfl

theorem fileReadBuffer_nothing (h : f.r = f.w) (hpositional : Positional f) (buffer : Bool)
    (len : Int) : (fileReadBuffer f buffer len).1.bytes = [] := by
  unfold fileReadBuffer
  dsimp only
  split
  · rfl
  split
  · rfl
  split
  · rfl
  split
  · rfl
  rcases hpositional with hobject | hobject | hobject
  all_goals
    rw [hobject]
    exact readStream_nothing h _

theorem positioned_moveTo_iff (hfsize : f.fsize ≤ f.lbfsize) (hlbfsize : f.lbfsize < 2 ^ 31)
    {x : Int} (htarget : (origin f whence).map (· + offset) = some x) (hx : 0 ≤ x)
    (hle : x ≤ f.fsize) :
    Positioned f (moveTo f x) offset whence x ↔ (Positional f → x = f.fsize) := by
  have hint : toInt32 x = x := toInt32_eq_self (by omega) (by omega)
  have hnothing : Positional f → ∀ len,
      (fileReadBuffer (moveTo f x) true len).1.bytes = [] := fun hpositional len =>
    fileReadBuffer_nothing (f := moveTo f x) rfl hpositional true len
  constructor
  · intro h hpositional
    by_contra hne
    have hread := h.reads hpositional 1 (by decide) (by decide) (by omega)
    have hlength := congrArg List.length hread
    rw [hnothing hpositional, readBytes_length, List.length_nil] at hlength
    omega
  · intro hend
    refine ⟨htarget, hx, hle, rfl, hint, ?_⟩
    intro hpositional len _ _ _
    have hzero : (min len (f.fsize - x)).toNat = 0 := by
      have := hend hpositional
      omega
    rw [hnothing hpositional, hzero]
    rfl

theorem sysLseek_refused (h : lseekFile p fd = none ∨ whence < 0) (offset : Int) :
    ∃ result, result < 0 ∧ sysLseek p fd offset whence = .ok (result, p) := by
  unfold sysLseek
  split
  · exact ⟨-EBADF, by decide, rfl⟩
  rename_i hfd
  split
  · exact ⟨-EINVAL, by decide, rfl⟩
  rename_i hwhence
  have hnone := h.resolve_right hwhence
  rw [lseekFile.eq_def, if_neg hfd] at hnone
  split
  · exact ⟨-1, by decide, rfl⟩
  split
  · exact ⟨-1, by decide, rfl⟩
  rename_i hmagic
  simp only [if_neg hmagic] at hnone
  split
  · exact ⟨-1, by decide, rfl⟩
  rename_i f hf
  split
  · exact ⟨-1, by decide, rfl⟩
  rename_i hfmagic
  simp [hf, hfmagic] at hnone

theorem lseekFile_some (h : lseekFile p fd = some f) :
    ∃ proc, p = some proc ∧ ¬ (fd < 0 ∨ OPEN_MAX ≤ fd) ∧ proc.magic = 1234 ∧
      proc.objects fd.toNat = some f ∧ f.magic = 1234 := by
  unfold lseekFile at h
  split at h
  · cases h
  rename_i hfd
  split at h
  · cases h
  rename_i proc
  split at h
  · cases h
  rename_i hmagic
  split at h
  · cases h
  rename_i f' hf
  split at h
  · cases h
  rename_i hfmagic
  cases h
  exact ⟨proc, rfl, hfd, not_not.mp hmagic, hf, not_not.mp hfmagic⟩

theorem lseekFile_setObject {proc : Process} (hfd : ¬ (fd < 0 ∨ OPEN_MAX ≤ fd))
    (hmagic : proc.magic = 1234) (hf : f.magic = 1234) :
    lseekFile (some (proc.setObject fd.toNat f)) fd = some f := by
  simp [lseekFile, hfd, Process.setObject, hmagic, hf]

theorem sysLseek_file (h : lseekFile p fd = some f) (hwhence : 0 ≤ whence) {out : Outcome}
    {g : File} (hseek : kFseek f offset whence = .ok (out, g)) (hg : g.magic = 1234) :
    (g.p < g.base → sysLseek p fd offset whence = .error "sys_lseek: #fixme f->_p < f->_base\n") ∧
      (g.base ≤ g.p → ∃ q, sysLseek p fd offset whence = .ok (g.p - g.base, q) ∧
        lseekFile q fd = some g) := by
  obtain ⟨proc, rfl, hfd, hmagic, hf, hfmagic⟩ := lseekFile_some h
  have hnot : ¬ whence < 0 := by omega
  have hcall : sysLseek (some proc) fd offset whence =
      if g.p < g.base then .error "sys_lseek: #fixme f->_p < f->_base\n"
      else .ok (g.p - g.base, some (proc.setObject fd.toNat g)) := by
    simp [sysLseek, hfd, hnot, hmagic, hf, hfmagic, hseek]
  rw [hcall]
  constructor
  · exact fun hlt => if_pos hlt
  · intro hle
    exact ⟨_, if_neg (not_lt.mpr hle), lseekFile_setObject hfd hmagic hg⟩

theorem not_lseekMeets_of_origin (h : lseekFile p fd = some f) (hwhence : 0 ≤ whence)
    (ho : origin f whence = none) (offset : Int) : ¬ LseekMeets p fd offset whence := by
  obtain ⟨proc, rfl, hfd, hmagic, hf, hfmagic⟩ := lseekFile_some h
  have hseek : ∃ out g, kFseek f offset whence = .ok (out, g) ∧ g.magic = 1234 := by
    unfold origin at ho
    split at ho
    · cases ho
    rename_i hset
    split at ho
    · cases ho
    rename_i hcur
    split at ho
    · cases ho
    rename_i hend
    rw [kFseek, if_neg (by omega), if_neg hset, if_neg hcur, if_neg hend]
    split
    · exact ⟨_, _, rfl, hfmagic⟩
    · exact ⟨_, _, rfl, hfmagic⟩
  obtain ⟨out, g, hseek, hg⟩ := hseek
  have hcall := sysLseek_file h hwhence hseek hg
  intro hmeets
  unfold LseekMeets at hmeets
  rcases lt_or_ge g.p g.base with hlt | hge
  · rw [hcall.1 hlt] at hmeets
    exact hmeets
  · obtain ⟨q, heq, hq⟩ := hcall.2 hge
    rw [heq] at hmeets
    rcases hmeets with ⟨hneg, _⟩ | ⟨f', g', hf', _, hpositioned⟩
    · omega
    · rw [h] at hf'
      cases hf'
      have htarget := hpositioned.target
      rw [ho] at htarget
      cases htarget

theorem lseekMeets_origin_iff (h : lseekFile p fd = some f) (hfsize : f.fsize ≤ f.lbfsize)
    (hlbfsize : f.lbfsize < 2 ^ 31) (hwhence : 0 ≤ whence) (ho : origin f whence = some o)
    (offset : Int) :
    LseekMeets p fd offset whence ↔ SeekFits f offset whence := by
  obtain ⟨_, _, _, _, _, hfmagic⟩ := lseekFile_some h
  have hseek := kFseek_origin hfsize ho offset
  generalize hx : o + cut f offset whence = x at hseek
  have hcall := sysLseek_file h hwhence hseek hfmagic
  have htarget : ∀ y, (origin f whence).map (· + offset) = some y ↔ o + offset = y := by
    intro y
    simp [ho]
  have hfits : SeekFits f offset whence ↔ (whence = SEEK_END ∨ offset ≤ f.cnt) ∧
      0 ≤ o + offset ∧ o + offset ≤ f.fsize ∧ (Positional f → o + offset = f.fsize) := by
    simp [SeekFits, ho]
  rw [hfits]
  unfold LseekMeets
  constructor
  · intro hmeets
    rcases lt_or_ge x 0 with hneg | hnonneg
    · rw [hcall.1 (by simp only [moveTo]; omega)] at hmeets
      exact hmeets.elim
    obtain ⟨q, heq, hq⟩ := hcall.2 (by simp only [moveTo]; omega)
    have hresult : (moveTo f x).p - (moveTo f x).base = x := by
      simp only [moveTo]
      omega
    rw [heq, hresult] at hmeets
    rcases hmeets with ⟨hlt, _⟩ | ⟨f', g, hf', hg, hpositioned⟩
    · omega
    rw [h] at hf'
    rw [hq] at hg
    cases hf'
    cases hg
    have hsame := (htarget x).mp hpositioned.target
    have hle := hpositioned.le_fsize
    rw [← cut_eq_iff ho (by omega) (by omega)]
    refine ⟨by omega, by omega, by omega, ?_⟩
    rw [hsame]
    exact (positioned_moveTo_iff hfsize hlbfsize hpositioned.target hnonneg hle).mp hpositioned
  · rintro ⟨hlimit, hnonneg, hle, hend⟩
    have hcut := (cut_eq_iff ho hnonneg hle).mpr hlimit
    rw [hcut] at hx
    subst hx
    obtain ⟨q, heq, hq⟩ := hcall.2 (by simp only [moveTo]; omega)
    have hresult : (moveTo f (o + offset)).p - (moveTo f (o + offset)).base = o + offset := by
      simp only [moveTo]
      omega
    rw [heq, hresult]
    exact .inr ⟨f, _, h, hq, (positioned_moveTo_iff hfsize hlbfsize ((htarget _).mpr rfl)
      hnonneg hle).mpr hend⟩

/-- The call does what is asked of it if there is no file to work on or `whence` is negative,
and else if the offset leads, without being cut, to a place inside the file, which is the end
of a file that is read at its read offset. -/
theorem lseek_iff (p : Option Process) (fd offset whence : Int)
    (h : ∀ f, lseekFile p fd = some f →
      0 ≤ f.fsize ∧ f.fsize ≤ f.lbfsize ∧ f.lbfsize < 2 ^ 31) :
    LseekMeets p fd offset whence ↔
      whence < 0 ∨ ∀ f, lseekFile p fd = some f → SeekFits f offset whence := by
  have hrefused : lseekFile p fd = none ∨ whence < 0 →
      ∃ result, result < 0 ∧ sysLseek p fd offset whence = .ok (result, p) :=
    fun hbad => sysLseek_refused hbad offset
  rcases Option.eq_none_or_eq_some (lseekFile p fd) with hnone | ⟨f, hf⟩
  · obtain ⟨result, hneg, hcall⟩ := hrefused (.inl hnone)
    simp [LseekMeets, hcall, hneg, hnone]
  rcases lt_or_ge whence 0 with hlt | hge
  · obtain ⟨result, hneg, hcall⟩ := hrefused (.inr hlt)
    simp [LseekMeets, hcall, hneg, hlt]
  have hnot : ¬ whence < 0 := by omega
  obtain ⟨_, hfsize, hlbfsize⟩ := h f hf
  simp only [hf, Option.some.injEq, forall_eq', hnot, false_or]
  rcases Option.eq_none_or_eq_some (origin f whence) with ho | ⟨o, ho⟩
  · constructor
    · exact fun hmeets => absurd hmeets (not_lseekMeets_of_origin hf hge ho offset)
    · rintro ⟨_, o, hsome, _⟩
      rw [ho] at hsome
      cases hsome
  · exact lseekMeets_origin_iff hf hfsize hlbfsize hge ho offset

def oneFile : Process where
  magic := 1234
  objects fd := if fd = 3 then some (regularFile 3 0x1000 5 fun _ => 65) else none

/-- The end of the file is reached. -/
theorem lseek_iff_end : LseekMeets (some oneFile) 3 5 SEEK_SET := by
  refine (lseek_iff (some oneFile) 3 5 SEEK_SET ?_).mpr (.inr ?_)
  · rintro f hf
    cases hf
    decide
  · rintro f hf
    cases hf
    exact ⟨.inr (by decide), 0, rfl, by decide, by decide, fun _ => rfl⟩

/-- Behind a seek to the beginning of the file nothing is read. -/
theorem seek_start_reads_nothing : ¬ LseekMeets (some oneFile) 3 0 SEEK_SET := by
  have hfile : lseekFile (some oneFile) 3 = some (regularFile 3 0x1000 5 fun _ => 65) := rfl
  rw [lseekMeets_origin_iff hfile (by decide) (by decide) (by decide) rfl]
  rintro ⟨_, o, ho, _, _, hend⟩
  cases ho
  exact absurd (hend (.inl rfl)) (by decide)

end Gramado.Io.Seek
