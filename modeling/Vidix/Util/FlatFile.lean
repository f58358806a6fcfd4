import Mathlib.Algebra.BigOperators.Group.List.Basic
import Mathlib.Algebra.GroupWithZero.Nat

/-!
# A file of a fixed length

An array with a position.  Reading and writing start at the position, move it by what was
transferred and stop at the end of the array, which never grows.  A transfer may be made in pieces
(`read_read`, `write_write`), and what was written is read back from where it was written
(`read_write`).
-/

namespace Vidix.Util

/-- The array, and the position in it or behind it. -/
structure FlatFile (β : Type*) where
  data : List β
  pos : ℕ

namespace FlatFile

variable {β : Type*}

/-- How much there is from the position on. -/
def room (f : FlatFile β) : ℕ := f.data.length - f.pos

/-- The array with `ws` at `pos`. -/
def overlay (data : List β) (pos : ℕ) (ws : List β) : List β :=
  data.take pos ++ ws ++ data.drop (pos + ws.length)

def seek (f : FlatFile β) (pos : ℕ) : FlatFile β := { f with pos }

/-- Up to `n` elements from the position on. -/
def read (f : FlatFile β) (n : ℕ) : List β × FlatFile β :=
  let ws := (f.data.drop f.pos).take n
  (ws, { f with pos := f.pos + ws.length })

/-- As many elements of `ws` as there is room for; the result is how many. -/
def write (f : FlatFile β) (ws : List β) : ℕ × FlatFile β :=
  let vs := ws.take f.room
  (vs.length, { data := overlay f.data f.pos vs, pos := f.pos + vs.length })

/-! ### At the end -/

theorem read_of_room_eq_zero {f : FlatFile β} (h : f.room = 0) (n : ℕ) : f.read n = ([], f) := by
  have hdrop : f.data.drop f.pos = [] := List.drop_eq_nil_of_le (Nat.sub_eq_zero_iff_le.mp h)
  simp [read, hdrop]

/-! ### Overlays -/

theorem length_overlay {data : List β} {pos : ℕ} {ws : List β} (h : pos + ws.length ≤ data.length) :
    (overlay data pos ws).length = data.length := by
  simp only [overlay, List.length_append, List.length_take, List.length_drop]
  omega

theorem overlay_nil {data : List β} {pos : ℕ} : overlay data pos [] = data := by
  simp [overlay]

/-- Each element is that of the piece where there is one, and that of the array elsewhere. -/
theorem getElem?_overlay {data : List β} {pos : ℕ} {ws : List β}
    (h : pos + ws.length ≤ data.length) (i : ℕ) :
    (overlay data pos ws)[i]? = if pos ≤ i then (ws[i - pos]?).or data[i]? else data[i]? := by
  have hlen : (data.take pos).length = pos := List.length_take_of_le (by omega)
  rw [overlay, List.append_assoc]
  by_cases hlow : pos ≤ i
  · rw [if_pos hlow, List.getElem?_append_right (by omega), hlen]
    by_cases hin : i - pos < ws.length
    · rw [List.getElem?_append_left hin, List.getElem?_eq_getElem hin, Option.some_or]
    · rw [List.getElem?_append_right (by omega), List.getElem?_drop,
        List.getElem?_eq_none (by omega : ws.length ≤ i - pos), Option.none_or]
      congr 1
      omega
  · rw [if_neg hlow, List.getElem?_append_left (by omega), List.getElem?_take_of_lt (by omega)]

/-- Two pieces one behind the other are one piece. -/
theorem overlay_overlay {data : List β} {pos : ℕ} {vs ws : List β} (h : pos ≤ data.length) :
    overlay (overlay data pos vs) (pos + vs.length) ws = overlay data pos (vs ++ ws) := by
  have hlen : (data.take pos ++ vs).length = pos + vs.length := by
    rw [List.length_append, List.length_take_of_le h]
  have htake : (overlay data pos vs).take (pos + vs.length) = data.take pos ++ vs := by
    rw [overlay, ← hlen, List.take_left]
  have hdrop : (overlay data pos vs).drop (pos + vs.length + ws.length) =
      data.drop (pos + (vs ++ ws).length) := by
    rw [overlay, ← List.drop_drop, ← hlen, List.drop_left, hlen, List.drop_drop,
      List.length_append, Nat.add_assoc]
  rw [overlay, htake, hdrop, overlay, List.append_assoc (data.take pos)]

/-- What was laid over is there. -/
theorem take_drop_overlay {data : List β} {pos : ℕ} {ws : List β} (h : pos ≤ data.length) (n : ℕ)
    (hn : n ≤ ws.length) : ((overlay data pos ws).drop pos).take n = ws.take n := by
  have hlen : (data.take pos).length = pos := List.length_take_of_le h
  have hdrop : (overlay data pos ws).drop pos = ws ++ data.drop (pos + ws.length) := by
    rw [overlay, List.append_assoc, List.drop_left' hlen]
  rw [hdrop, List.take_append_of_le_length hn]

theorem write_of_room_eq_zero {f : FlatFile β} (h : f.room = 0) (ws : List β) :
    f.write ws = (0, f) := by
  simp [write, h, overlay_nil]

/-! ### Pieces -/

variable {f : FlatFile β}

/-- Dropping what was taken, where there may be less of it than was asked for. -/
theorem drop_length_take (l : List β) (n : ℕ) : l.drop (l.take n).length = l.drop n := by
  rw [List.length_take]
  rcases Nat.le_total n l.length with h | h
  · rw [Nat.min_eq_left h]
  · rw [Nat.min_eq_right h, List.drop_length, List.drop_eq_nil_of_le h]

/-- **A read in two pieces is one read.** -/
theorem read_read (f : FlatFile β) (m n : ℕ) :
    ((f.read m).1 ++ ((f.read m).2.read n).1, ((f.read m).2.read n).2) = f.read (m + n) := by
  have hdrop : f.data.drop (f.pos + ((f.data.drop f.pos).take m).length) =
      (f.data.drop f.pos).drop m := by
    rw [← List.drop_drop, drop_length_take]
  simp only [read, hdrop, List.take_add, List.length_append, Nat.add_assoc]

/-- Reads one after the other: all that they give, and the file after them. -/
def readPieces (f : FlatFile β) : List ℕ → List β × FlatFile β
  | [] => ([], f)
  | n :: ns =>
    let r := readPieces (f.read n).2 ns
    ((f.read n).1 ++ r.1, r.2)

theorem readPieces_eq (f : FlatFile β) (ns : List ℕ) : f.readPieces ns = f.read ns.sum := by
  induction ns generalizing f with
  | nil => simp [readPieces, read]
  | cons n ns ih =>
    rw [readPieces, ih, List.sum_cons, ← read_read]

@[simp] theorem write_length (f : FlatFile β) (ws : List β) :
    (f.write ws).2.data.length = f.data.length := by
  dsimp only [write]
  rcases Nat.le_total f.pos f.data.length with h | h
  · apply length_overlay
    rw [List.length_take, room]
    omega
  · have hroom : f.room = 0 := Nat.sub_eq_zero_of_le h
    rw [hroom, List.take_zero, overlay_nil]

theorem room_write (f : FlatFile β) (ws : List β) :
    (f.write ws).2.room = f.room - ws.length := by
  rw [room, write_length]
  dsimp only [write, room]
  rw [List.length_take]
  omega

/-- **A write in two pieces is one write.** -/
theorem write_write (f : FlatFile β) (vs ws : List β) :
    ((f.write vs).1 + ((f.write vs).2.write ws).1, ((f.write vs).2.write ws).2) =
      f.write (vs ++ ws) := by
  have hroom := room_write f vs
  have htake : (vs ++ ws).take f.room = vs.take f.room ++ ws.take (f.room - vs.length) :=
    List.take_append
  rcases Nat.le_total f.pos f.data.length with h | h
  · have hdata : overlay (f.write vs).2.data (f.write vs).2.pos (ws.take (f.room - vs.length)) =
        overlay f.data f.pos ((vs ++ ws).take f.room) := by
      rw [htake]
      exact overlay_overlay h
    have hsecond : (f.write vs).2.write ws =
        ((ws.take (f.room - vs.length)).length,
          ⟨overlay (f.write vs).2.data (f.write vs).2.pos (ws.take (f.room - vs.length)),
            (f.write vs).2.pos + (ws.take (f.room - vs.length)).length⟩) := by
      rw [← hroom]
      rfl
    rw [hsecond, hdata]
    simp [write, htake, Nat.add_assoc]
  · have hzero : f.room = 0 := Nat.sub_eq_zero_of_le h
    simp [write, hzero, overlay_nil]

/-- What there is no room for makes no difference. -/
theorem write_take (f : FlatFile β) (ws : List β) : f.write (ws.take f.room) = f.write ws := by
  simp only [write, List.take_take, Nat.min_self]

/-- Writes one after the other: how much they write, and the file after them. -/
def writePieces (f : FlatFile β) : List (List β) → ℕ × FlatFile β
  | [] => (0, f)
  | ws :: wss =>
    let r := writePieces (f.write ws).2 wss
    ((f.write ws).1 + r.1, r.2)

theorem writePieces_eq (f : FlatFile β) (wss : List (List β)) :
    f.writePieces wss = f.write wss.flatten := by
  induction wss generalizing f with
  | nil => simp [writePieces, write, overlay_nil]
  | cons ws wss ih => rw [writePieces, ih, List.flatten_cons, ← write_write]

/-- **What was written is read back** from where it was written. -/
theorem read_write (f : FlatFile β) (ws : List β) {n : ℕ} (hn : n ≤ f.room)
    (hlen : n ≤ ws.length) : (((f.write ws).2.seek f.pos).read n).1 = ws.take n := by
  dsimp only [write, seek, read]
  rcases Nat.le_total f.pos f.data.length with h | h
  · rw [take_drop_overlay h n (by rw [List.length_take]; omega), List.take_take,
      Nat.min_eq_left hn]
  · have hzero : f.room = 0 := Nat.sub_eq_zero_of_le h
    obtain rfl : n = 0 := by omega
    rw [List.take_zero, List.take_zero]

end FlatFile

end Vidix.Util
