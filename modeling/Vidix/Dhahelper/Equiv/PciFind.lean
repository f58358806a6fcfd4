import Vidix.Dhahelper.PciFind
import Vidix.Util.SharedCursor

/-!
# Two clients of `DHAHELPER_PCI_FIND`

The handler with its static `pdev` is the server of `Util.SharedCursor`, and the loop of `pci_scan`
is a reader (`Simulates.step`), up to the two fields that carry left-over memory.  So two clients
that both ran to the end have every device exactly once iff neither asked while the other was
between its first request and its end: `findRun_eachOnce_iff`.
-/

namespace Vidix.Dhahelper

open Libdha Util

/-- An entry is about a device. -/
def Describes (d : PciDev) (e : Pciinfo) : Prop :=
  ∃ command stack, e = listEntry command (deviceReply stack d)

/-- A table holds every device exactly once. -/
def HoldsEachOnce (devs : List PciDev) (pciList : List Pciinfo) : Prop :=
  ∃ ds, ds.Perm devs ∧ List.Forall₂ Describes ds pciList

/-- Client `c` may ask: its loop has ended, or the other's has ended or not begun. -/
def Alone (s : FindState) (c : Bool) : Prop :=
  (s.clients c).done = true ∨ (s.clients !c).done = true ∨ (s.clients !c).pciList = []

/-- No request of a schedule comes while the other client is inside its loop. -/
def NoOverlap (devs : List PciDev) : FindState → List (Bool × Leftover) → Prop
  | _, [] => True
  | s, r :: rs => Alone s r.1 ∧ NoOverlap devs (findStep devs s r) rs

/-! ### Simulation -/

/-- A client is a reader: its table describes the devices it was handed. -/
structure Matches (c : Client) (r : Reader PciDev) : Prop where
  done : c.done = r.done
  seen : List.Forall₂ Describes r.seen c.pciList

/-- The helper's state is that of a server with two readers. -/
structure Simulates (s : FindState) (t : Shared PciDev) : Prop where
  cursor : t.cursor = match s.pdev with
    | none => 0
    | some i => i + 1
  clients : ∀ c, Matches (s.clients c) (t.readers c)

theorem simulates_start : Simulates findStart Shared.start where
  cursor := rfl
  clients _ := ⟨rfl, .nil⟩

theorem Simulates.find {s : FindState} {t : Shared PciDev} (h : Simulates s t)
    (devs : List PciDev) :
    pciFindDevice devs s.pdev = devs[t.cursor]?.map fun d => (t.cursor, d) := by
  unfold pciFindDevice
  exact congrArg (fun i => devs[i]?.map fun d => (i, d)) h.cursor.symm

/-- An answer to client `c` leaves the other client as it was. -/
theorem Simulates.answer {s : FindState} {t : Shared PciDev} (h : Simulates s t) {k : ℕ} {c : Bool}
    {client : Client} {r : Reader PciDev} (hc : Matches client r) (b : Bool) :
    Matches (Function.update s.clients c client b) ((t.answer k c r).readers b) := by
  by_cases hb : b = c
  · rw [hb, Function.update_self, Shared.answer_self]
    exact hc
  · rw [Function.update_of_ne hb, Shared.answer_of_ne _ _ _ hb]
    exact h.clients b

theorem Simulates.step {s : FindState} {t : Shared PciDev} (h : Simulates s t)
    (devs : List PciDev) (r : Bool × Leftover) :
    Simulates (findStep devs s r) (t.request devs r.1) := by
  obtain ⟨c, left⟩ := r
  by_cases hdone : (s.clients c).done = true
  · have hs : findStep devs s (c, left) = s := if_pos hdone
    rw [hs, Shared.request_of_done ((h.clients c).done.symm.trans hdone)]
    exact h
  · have ht : (t.readers c).done = false := by
      rw [← (h.clients c).done]
      exact Bool.eq_false_iff.mpr hdone
    unfold findStep dhahelperPciFind
    dsimp only
    rw [if_neg hdone, h.find devs]
    cases hd : devs[t.cursor]? with
    | some d =>
      rw [Shared.request_of_item ht hd]
      refine ⟨rfl, h.answer ⟨?_, ?_⟩⟩
      · exact Bool.eq_false_iff.mpr hdone
      · exact List.rel_append (h.clients c).seen (.cons ⟨_, _, rfl⟩ .nil)
    | none =>
      rw [Shared.request_of_end ht hd]
      exact ⟨rfl, h.answer ⟨rfl, (h.clients c).seen⟩⟩

/-- The readers after the requests of a schedule. -/
theorem Simulates.run {s : FindState} {t : Shared PciDev} (h : Simulates s t)
    (devs : List PciDev) (rs : List (Bool × Leftover)) :
    Simulates (rs.foldl (findStep devs) s) ((rs.map Prod.fst).foldl (Shared.request devs) t) := by
  induction rs generalizing s t with
  | nil => exact h
  | cons r rs ih => exact ih (h.step devs r)

theorem Simulates.alone_iff {s : FindState} {t : Shared PciDev} (h : Simulates s t) (c : Bool) :
    Alone s c ↔ t.Free c := by
  have hnil : (s.clients !c).pciList = [] ↔ (t.readers !c).seen = [] := by
    rw [← List.length_eq_zero_iff, ← List.length_eq_zero_iff, (h.clients !c).seen.length_eq]
  rw [Alone, Shared.Free, (h.clients c).done, (h.clients !c).done, hnil]

theorem Simulates.noOverlap_iff {s : FindState} {t : Shared PciDev} (h : Simulates s t)
    (devs : List PciDev) (rs : List (Bool × Leftover)) :
    NoOverlap devs s rs ↔ Shared.Exclusive devs t (rs.map Prod.fst) := by
  induction rs generalizing s t with
  | nil => exact Iff.rfl
  | cons r rs ih => exact and_congr (h.alone_iff r.1) (ih (h.step devs r))

/-- **Both clients have every device exactly once iff they did not overlap**, for every device list
and every schedule in which both loops end. -/
theorem findRun_eachOnce_iff (devs : List PciDev) (rs : List (Bool × Leftover))
    (hdone : ∀ c, ((findRun devs rs).clients c).done = true) :
    (∀ c, HoldsEachOnce devs ((findRun devs rs).clients c).pciList) ↔
      NoOverlap devs findStart rs := by
  have hsim := simulates_start.run devs rs
  have hdone' : ∀ c, (((rs.map Prod.fst).foldl (Shared.request devs) Shared.start).readers
      c).done = true := fun c => (hsim.clients c).done.symm.trans (hdone c)
  rw [simulates_start.noOverlap_iff devs rs]
  constructor
  · intro h
    refine Shared.exclusive_of_length _ hdone' fun c => ?_
    obtain ⟨ds, hperm, hdesc⟩ := h c
    rw [(hsim.clients c).seen.length_eq, ← hperm.length_eq]
    exact hdesc.length_eq.symm
  · intro h c
    exact ⟨_, (Shared.eachOnce_iff_exclusive _ hdone').mpr h c, (hsim.clients c).seen⟩

/-- A kernel list with one graphics card. -/
def sampleDevs : List PciDev :=
  [{ busNumber := 1, devfn := 0, vendor := 0x1002, device := 0x5159,
     resourceStart := fun i => if i.val = 0 then 0xd0000000 else 0, romBase := 0,
     interruptLine := 11, interruptPin := 1, minGnt := 8, maxLat := 0 }]

/-- The requests of a schedule, with nothing left over in memory. -/
def cleanRequests (cs : List Bool) : List (Bool × Leftover) := cs.map fun c => (c, ⟨0, 0⟩)

/-- One client after the other: each has the card. -/
theorem findRun_inTurn :
    HoldsEachOnce sampleDevs
        ((findRun sampleDevs (cleanRequests [true, true, false, false])).clients true).pciList ∧
      HoldsEachOnce sampleDevs
        ((findRun sampleDevs (cleanRequests [true, true, false, false])).clients
          false).pciList := by
  have h := (findRun_eachOnce_iff sampleDevs (cleanRequests [true, true, false, false])
    (by decide)).mpr
    ⟨.inr (.inr rfl), .inr (.inr rfl), .inr (.inl rfl), .inr (.inl rfl), trivial⟩
  exact ⟨h true, h false⟩

/-- **A client that asks in between** is told the end at once, and the other has the card twice. -/
theorem findRun_overlap :
    (∀ c, ((findRun sampleDevs (cleanRequests [true, false, true, true])).clients c).done = true) ∧
      ¬ ∀ c, HoldsEachOnce sampleDevs
        ((findRun sampleDevs (cleanRequests [true, false, true, true])).clients c).pciList := by
  refine ⟨by decide, fun h => ?_⟩
  obtain ⟨ds, hperm, hdesc⟩ := h false
  have hlen := hdesc.length_eq
  rw [hperm.length_eq] at hlen
  exact absurd hlen (by decide)

end Vidix.Dhahelper
