import Vidix.Dhahelper.DeviceFile
import Vidix.Util.FlatFile
import Vidix.Util.Simulation

/-!
# The device file is a flat file

The calls for `/dev/dhahelper` answer as a file of a fixed length does whose contents are the mapped
memory (`flatStep`), and none of them touches the memory behind it (`deviceFile_refines`).  The laws
of flat files hold for it, then: whatever is written in pieces is read back, in other pieces
(`deviceFile_roundTrip`).
-/

namespace Vidix.Dhahelper

open Util

variable {endMem p count : UInt64} {f : DeviceFile} {t : FlatFile UInt8} {m₀ : ℕ → UInt8}

/-! ### The flat file -/

/-- What a call does to a flat file. -/
def flatStep (t : FlatFile UInt8) : FileRequest → FileAnswer × FlatFile UInt8
  | .lseek offset orig =>
    let pos := UInt64.ofNat t.pos + offset.toUInt64
    if orig = 0 then (.moved offset, t.seek offset.toUInt64.toNat)
    else if orig = 1 then (.moved pos.toInt64, t.seek pos.toNat)
    else (.error (-einval), t)
  | .read count copied =>
    if t.room = 0 then (.data [], t)
    else if copied then (.data (t.read count.toNat).1, (t.read count.toNat).2)
    else (.error (-efault), t)
  | .write buf fault =>
    if t.room = 0 then (.written 0, t)
    else
      match fault with
      | none => (.written (t.write buf.bytes).1, (t.write buf.bytes).2)
      -- the position stays, but not what is there
      | some n =>
        (.error (-efault),
          (t.write (copyFromUser (buf.bytes.take t.room) (some n))).2.seek t.pos)

/-- The flat file of a memory. -/
def flatFile (endMem : UInt64) (f : DeviceFile) : FlatFile UInt8 :=
  ⟨(List.range endMem.toNat).map f.memory, f.fPos.toUInt64.toNat⟩

/-- `t` is the mapped memory, and the rest of the memory is as it was. -/
structure Backs (m₀ : ℕ → UInt8) (endMem : UInt64) (f : DeviceFile) (t : FlatFile UInt8) :
    Prop where
  flat : t = flatFile endMem f
  above : ∀ a, endMem.toNat ≤ a → f.memory a = m₀ a

/-! ### Transfers -/

theorem toNat_clipCount (count : UInt64) (h : p < endMem) :
    (clipCount endMem p count).toNat = min count.toNat (endMem.toNat - p.toNat) := by
  have hsub : (endMem - p).toNat = endMem.toNat - p.toNat := by
    apply UInt64.toNat_sub_of_le
    exact UInt64.le_of_lt h
  unfold clipCount
  split
  next hgt =>
    rw [gt_iff_lt, UInt64.lt_iff_toNat_lt, hsub] at hgt
    rw [hsub, Nat.min_eq_right hgt.le]
  next hle =>
    rw [gt_iff_lt, UInt64.not_lt, UInt64.le_iff_toNat_le, hsub] at hle
    rw [Nat.min_eq_left hle]

/-- A piece of the memory, as a piece of the flat file. -/
theorem take_drop_map_range (g : ℕ → UInt8) {n p c : ℕ} (h : p + c ≤ n) :
    (((List.range n).map g).drop p).take c = (List.range c).map fun i => g (p + i) := by
  apply List.ext_getElem
  · simp
    omega
  · intro i h₁ h₂
    simp

theorem map_storeBytes (g : ℕ → UInt8) {n p : ℕ} {bytes : List UInt8} (h : p + bytes.length ≤ n) :
    (List.range n).map (storeBytes g p bytes) =
      FlatFile.overlay ((List.range n).map g) p bytes := by
  apply List.ext_getElem?
  intro i
  rw [FlatFile.getElem?_overlay (by simpa using h), List.getElem?_map, List.getElem?_map]
  by_cases hi : i < n
  · rw [List.getElem?_range hi, Option.map_some, Option.map_some, storeBytes]
    split
    · cases bytes[i - p]? <;> rfl
    · rfl
  · rw [List.getElem?_eq_none (by simpa using hi), Option.map_none, Option.map_none,
      List.getElem?_eq_none (by omega), Option.none_or, ite_self]

theorem storeBytes_of_le (g : ℕ → UInt8) {n p a : ℕ} {bytes : List UInt8}
    (h : p + bytes.length ≤ n) (ha : n ≤ a) : storeBytes g p bytes a = g a := by
  unfold storeBytes
  rw [if_pos (by omega), List.getElem?_eq_none (by omega), Option.getD_none]

theorem length_copyFromUser (bytes : List UInt8) (fault : Option ℕ) :
    (copyFromUser bytes fault).length = bytes.length := by
  cases fault with
  | none => rfl
  | some n =>
    simp only [copyFromUser, List.length_append, List.length_take, List.length_replicate]
    omega

/-- The position after a transfer does not wrap. -/
theorem toNat_fPos_add {c : UInt64} (h : f.fPos.toUInt64.toNat + c.toNat ≤ endMem.toNat) :
    (f.fPos + c.toInt64).toUInt64.toNat = f.fPos.toUInt64.toNat + c.toNat := by
  have hlt := endMem.toNat_lt
  rw [Int64.toUInt64_add, UInt64.toNat_add, UInt64.toUInt64_toInt64]
  exact Nat.mod_eq_of_lt (by omega)

/-! ### The flat file of a memory -/

@[simp] theorem flatFile_length : (flatFile endMem f).data.length = endMem.toNat := by
  simp [flatFile]

@[simp] theorem flatFile_pos : (flatFile endMem f).pos = f.fPos.toUInt64.toNat := rfl

theorem flatFile_room : (flatFile endMem f).room = endMem.toNat - f.fPos.toUInt64.toNat := by
  rw [FlatFile.room, flatFile_length, flatFile_pos]

theorem flatFile_room_eq_zero_iff :
    (flatFile endMem f).room = 0 ↔ f.fPos.toUInt64 ≥ endMem := by
  rw [flatFile_room, ge_iff_le, UInt64.le_iff_toNat_le]
  omega

theorem read_flatFile (h : f.fPos.toUInt64 < endMem) (count : UInt64) :
    (flatFile endMem f).read count.toNat =
      (copyToUser f.memory f.fPos.toUInt64 (clipCount endMem f.fPos.toUInt64 count),
        flatFile endMem { f with
          fPos := f.fPos + (clipCount endMem f.fPos.toUInt64 count).toInt64 }) := by
  have hclip := toNat_clipCount count h
  have hlt : f.fPos.toUInt64.toNat < endMem.toNat := UInt64.lt_iff_toNat_lt.mp h
  have hfits : f.fPos.toUInt64.toNat + (clipCount endMem f.fPos.toUInt64 count).toNat ≤
      endMem.toNat := by omega
  have hbytes : ((flatFile endMem f).data.drop f.fPos.toUInt64.toNat).take count.toNat =
      copyToUser f.memory f.fPos.toUInt64 (clipCount endMem f.fPos.toUInt64 count) := by
    have hlen : ((flatFile endMem f).data.drop f.fPos.toUInt64.toNat).length =
        endMem.toNat - f.fPos.toUInt64.toNat := by
      rw [List.length_drop, flatFile_length]
    rw [copyToUser, ← take_drop_map_range f.memory hfits, hclip, ← hlen,
      ← List.take_take]
    exact congrArg (List.take _) List.take_length.symm
  have hlen : (copyToUser f.memory f.fPos.toUInt64
      (clipCount endMem f.fPos.toUInt64 count)).length =
      (clipCount endMem f.fPos.toUInt64 count).toNat := by
    simp [copyToUser]
  unfold FlatFile.read
  rw [flatFile_pos, hbytes]
  dsimp only
  rw [hlen, ← toNat_fPos_add hfits]
  rfl

/-- A write of what there is room for. -/
theorem write_flatFile {bytes : List UInt8}
    (h : f.fPos.toUInt64.toNat + bytes.length ≤ endMem.toNat) :
    (flatFile endMem f).write bytes =
      (bytes.length,
        ⟨(List.range endMem.toNat).map (storeBytes f.memory f.fPos.toUInt64.toNat bytes),
          f.fPos.toUInt64.toNat + bytes.length⟩) := by
  have htake : bytes.take (flatFile endMem f).room = bytes := by
    rw [flatFile_room]
    exact List.take_of_length_le (by omega)
  unfold FlatFile.write
  rw [htake, map_storeBytes f.memory h]
  rfl

/-! ### The calls -/

theorem backs_lseek (h : Backs m₀ endMem f t) (offset : Int64) (orig : Int32) :
    (dhahelperLseek offset orig f).1 = (flatStep t (.lseek offset orig)).1 ∧
      Backs m₀ endMem (dhahelperLseek offset orig f).2 (flatStep t (.lseek offset orig)).2 := by
  obtain ⟨rfl, habove⟩ := h
  have hpos : UInt64.ofNat (flatFile endMem f).pos + offset.toUInt64 =
      (f.fPos + offset).toUInt64 := by
    rw [flatFile_pos, UInt64.ofNat_toNat, Int64.toUInt64_add]
  unfold dhahelperLseek flatStep
  dsimp only
  rw [hpos, Int64.toInt64_toUInt64]
  split_ifs
  · exact ⟨rfl, rfl, habove⟩
  · exact ⟨rfl, rfl, habove⟩
  · exact ⟨rfl, rfl, habove⟩

theorem backs_read (h : Backs m₀ endMem f t) (count : UInt64) (copied : Bool) :
    (dhahelperRead endMem count copied f).1 = (flatStep t (.read count copied)).1 ∧
      Backs m₀ endMem (dhahelperRead endMem count copied f).2
        (flatStep t (.read count copied)).2 := by
  obtain ⟨rfl, habove⟩ := h
  unfold dhahelperRead flatStep
  dsimp only
  by_cases hend : f.fPos.toUInt64 ≥ endMem
  · rw [if_pos hend, if_pos (flatFile_room_eq_zero_iff.mpr hend)]
    exact ⟨rfl, rfl, habove⟩
  · rw [if_neg hend, if_neg (mt flatFile_room_eq_zero_iff.mp hend),
      read_flatFile (UInt64.not_le.mp hend)]
    cases copied with
    | true => exact ⟨rfl, rfl, habove⟩
    | false => exact ⟨rfl, rfl, habove⟩

theorem backs_write (h : Backs m₀ endMem f t) (buf : UserBuffer) (fault : Option ℕ) :
    (dhahelperWrite endMem buf fault f).1 = (flatStep t (.write buf fault)).1 ∧
      Backs m₀ endMem (dhahelperWrite endMem buf fault f).2
        (flatStep t (.write buf fault)).2 := by
  obtain ⟨rfl, habove⟩ := h
  unfold dhahelperWrite flatStep
  dsimp only
  by_cases hend : f.fPos.toUInt64 ≥ endMem
  · rw [if_pos hend, if_pos (flatFile_room_eq_zero_iff.mpr hend)]
    exact ⟨rfl, rfl, habove⟩
  · rw [if_neg hend, if_neg (mt flatFile_room_eq_zero_iff.mp hend)]
    have hcount : buf.count.toNat = buf.bytes.length := UInt64.toNat_ofNat_of_lt buf.length_lt
    have hlt : f.fPos.toUInt64.toNat < endMem.toNat :=
      UInt64.lt_iff_toNat_lt.mp (UInt64.not_le.mp hend)
    have hbytes : buf.bytes.take (clipCount endMem f.fPos.toUInt64 buf.count).toNat =
        buf.bytes.take (flatFile endMem f).room := by
      rw [toNat_clipCount buf.count (UInt64.not_le.mp hend), hcount, flatFile_room,
        ← List.take_take, List.take_of_length_le (List.length_take_le' _ _)]
    have hfits : f.fPos.toUInt64.toNat + (buf.bytes.take (flatFile endMem f).room).length ≤
        endMem.toNat := by
      rw [List.length_take, flatFile_room]
      omega
    rw [hbytes]
    unfold doWriteMem
    cases fault with
    | none =>
      dsimp only
      rw [← FlatFile.write_take]
      generalize buf.bytes.take (flatFile endMem f).room = ws at hfits ⊢
      have hsize : (UInt64.ofNat ws.length).toNat = ws.length := by
        have hsmall := endMem.toNat_lt
        exact UInt64.toNat_ofNat_of_lt (by rw [UInt64.size]; omega)
      have hfits' : f.fPos.toUInt64.toNat + (UInt64.ofNat ws.length).toNat ≤ endMem.toNat := by
        rwa [hsize]
      have hpos := toNat_fPos_add hfits'
      rw [hsize] at hpos
      rw [write_flatFile hfits]
      exact ⟨rfl, congrArg (FlatFile.mk _) hpos.symm,
        fun a ha => (storeBytes_of_le _ hfits ha).trans (habove a ha)⟩
    | some n =>
      have hfits' : f.fPos.toUInt64.toNat +
          (copyFromUser (buf.bytes.take (flatFile endMem f).room) (some n)).length ≤
            endMem.toNat := by
        rwa [length_copyFromUser]
      dsimp only
      rw [write_flatFile hfits']
      exact ⟨rfl, rfl, fun a ha => (storeBytes_of_le _ hfits' ha).trans (habove a ha)⟩

theorem deviceStep_simulates (m₀ : ℕ → UInt8) (endMem : UInt64) :
    Simulates (Backs m₀ endMem) (deviceStep endMem) flatStep := by
  intro f t req h
  cases req with
  | lseek offset orig => exact backs_lseek h offset orig
  | read count copied => exact backs_read h count copied
  | write buf fault => exact backs_write h buf fault

/-- **The calls answer as a file of a fixed length does,** whose contents are the memory below
`endMem`; the memory from there on is never touched. -/
theorem deviceFile_refines (endMem : UInt64) (f : DeviceFile) (reqs : List FileRequest) :
    (answers (deviceStep endMem) f reqs).1 = (answers flatStep (flatFile endMem f) reqs).1 ∧
      flatFile endMem (answers (deviceStep endMem) f reqs).2 =
        (answers flatStep (flatFile endMem f) reqs).2 ∧
      ∀ a, endMem.toNat ≤ a → (answers (deviceStep endMem) f reqs).2.memory a = f.memory a := by
  have hbacks : Backs f.memory endMem f (flatFile endMem f) := ⟨rfl, fun _ _ => rfl⟩
  obtain ⟨hanswers, hstate⟩ := answers_eq (deviceStep_simulates f.memory endMem) hbacks reqs
  exact ⟨hanswers, hstate.flat.symm, hstate.above⟩

/-! ### Transfers in pieces -/

/-- The bytes that a call gives to its caller. -/
def FileAnswer.bytes : FileAnswer → List UInt8
  | .data bytes => bytes
  | _ => []

theorem answers_reads (t : FlatFile UInt8) (counts : List UInt64) :
    (answers flatStep t (counts.map (.read · true))).1.flatMap FileAnswer.bytes =
      (t.readPieces (counts.map UInt64.toNat)).1 := by
  induction counts generalizing t with
  | nil => rfl
  | cons count counts ih =>
    have hread : flatStep t (.read count true) =
        (.data (t.read count.toNat).1, (t.read count.toNat).2) := by
      unfold flatStep
      dsimp only
      by_cases hroom : t.room = 0
      · rw [if_pos hroom, FlatFile.read_of_room_eq_zero hroom]
      · rw [if_neg hroom, if_pos rfl]
    rw [List.map_cons, answers_cons, hread, List.flatMap_cons, ih]
    rfl

theorem answers_writes (t : FlatFile UInt8) (bufs : List UserBuffer) :
    (answers flatStep t (bufs.map (.write · none))).1.flatMap FileAnswer.bytes = [] ∧
      (answers flatStep t (bufs.map (.write · none))).2 =
        (t.writePieces (bufs.map UserBuffer.bytes)).2 := by
  induction bufs generalizing t with
  | nil => exact ⟨rfl, rfl⟩
  | cons buf bufs ih =>
    have hwrite : flatStep t (.write buf none) =
        (.written (t.write buf.bytes).1, (t.write buf.bytes).2) := by
      unfold flatStep
      dsimp only
      by_cases hroom : t.room = 0
      · rw [if_pos hroom, FlatFile.write_of_room_eq_zero hroom]
      · rw [if_neg hroom]
    obtain ⟨hbytes, hstate⟩ := ih (t.write buf.bytes).2
    rw [List.map_cons, answers_cons, hwrite, List.flatMap_cons, hbytes, hstate]
    exact ⟨rfl, rfl⟩

/-- Writes from a position on, and then reads from there. -/
def roundTrip (pos : Int64) (bufs : List UserBuffer) (counts : List UInt64) : List FileRequest :=
  .lseek pos 0 :: bufs.map (.write · none) ++ .lseek pos 0 :: counts.map (.read · true)

/-- **What was written in pieces is read back in pieces,** however the two are cut, as far as there
is memory. -/
theorem deviceFile_roundTrip (f : DeviceFile) (pos : Int64) (bufs : List UserBuffer)
    (counts : List UInt64)
    (hfits : pos.toUInt64.toNat + (counts.map UInt64.toNat).sum ≤ endMem.toNat)
    (hlen : (counts.map UInt64.toNat).sum ≤ (bufs.map UserBuffer.bytes).flatten.length) :
    (answers (deviceStep endMem) f (roundTrip pos bufs counts)).1.flatMap FileAnswer.bytes =
      (bufs.map UserBuffer.bytes).flatten.take (counts.map UInt64.toNat).sum := by
  have hseek : ∀ t : FlatFile UInt8, flatStep t (.lseek pos 0) =
      (.moved pos, t.seek pos.toUInt64.toNat) := fun _ => rfl
  have hroom : (counts.map UInt64.toNat).sum ≤
      ((flatFile endMem f).seek pos.toUInt64.toNat).room := by
    change _ ≤ (flatFile endMem f).data.length - pos.toUInt64.toNat
    rw [flatFile_length]
    omega
  obtain ⟨hanswers, -⟩ :=
    answers_eq (deviceStep_simulates f.memory endMem) ⟨rfl, fun _ _ => rfl⟩
      (roundTrip pos bufs counts)
  obtain ⟨hwritten, hafter⟩ :=
    answers_writes ((flatFile endMem f).seek pos.toUInt64.toNat) bufs
  calc (answers (deviceStep endMem) f (roundTrip pos bufs counts)).1.flatMap FileAnswer.bytes
      = (answers flatStep (flatFile endMem f) (roundTrip pos bufs counts)).1.flatMap
          FileAnswer.bytes := by rw [hanswers]
    _ = (((((flatFile endMem f).seek pos.toUInt64.toNat).write
          (bufs.map UserBuffer.bytes).flatten).2.seek pos.toUInt64.toNat).read
            (counts.map UInt64.toNat).sum).1 := by
        rw [roundTrip, List.cons_append, answers_cons, hseek, answers_append, answers_cons, hseek,
          hafter, FlatFile.writePieces_eq]
        simp only [List.flatMap_cons, List.flatMap_append, hwritten]
        rw [answers_reads, FlatFile.readPieces_eq]
        rfl
    _ = (bufs.map UserBuffer.bytes).flatten.take (counts.map UInt64.toNat).sum :=
        FlatFile.read_write _ _ hroom hlen

/-- Five bytes at the end of a small memory, the last of which does not fit. -/
theorem deviceFile_roundTrip_end :
    (answers (deviceStep 16) ⟨0, fun _ => 0⟩
      (roundTrip 12 [⟨[1, 2], by simp⟩, ⟨[3, 4, 5], by simp⟩] [1, 3])).1.flatMap
        FileAnswer.bytes = [1, 2, 3, 4] :=
  deviceFile_roundTrip _ _ _ _ (by decide) (by decide)

end Vidix.Dhahelper
