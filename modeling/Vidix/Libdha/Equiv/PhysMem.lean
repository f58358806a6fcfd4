import Vidix.Libdha.PhysMem
import Vidix.Util.GuardedRun
import Mathlib.Data.List.Basic

/-!
# The mappings of physical memory and their count

`map_phys_mem` counts a mapping before it knows whether there is one.  A mapping that fails is not
made and so never unmapped, and from then on the counter is ahead of the mappings for good.  The
counter is right throughout a run iff no mapping of the run fails: `mappings_accounted_iff`.
-/

namespace Vidix.Libdha

open Util

/-- The state of libdha, and the addresses of the mappings that have been made and not undone. -/
structure Mappings extends Devmem where
  live : List ℕ
  deriving DecidableEq, Repr

inductive PhysCall
  | map (helper devmem mmap : Option ℕ)
  | unmap (ptr : ℕ) (munmap : Bool)
  deriving DecidableEq, Repr

/-- A call; after `exit` nothing changes any more. -/
def physStep (s : Mappings) : PhysCall → Mappings
  | .map helper devmem mmap =>
    match mapPhysMem helper devmem mmap s.toDevmem with
    | none => s
    | some (none, st) => { s with toDevmem := st }
    | some (some ptr, st) => ⟨st, ptr :: s.live⟩
  | .unmap ptr munmap =>
    match unmapPhysMem munmap s.toDevmem with
    | none => s
    | some st => ⟨st, s.live.erase ptr⟩

/-- The memory device can be opened when it has to be, and what is unmapped is a live mapping. -/
def Sensible (s : Mappings) : PhysCall → Prop
  | .map helper devmem _ => s.devmemFd = -1 → (helper.or devmem).isSome
  | .unmap ptr munmap => ptr ∈ s.live ∧ munmap = true

/-- `devmem_fd` is a descriptor that is open. -/
def Devmem.IsOpen (st : Devmem) : Prop := ∃ fd ∈ st.openFds, st.devmemFd = fd

/-- The counter and the descriptor are what the live mappings ask for. -/
structure Accounted (s : Mappings) : Prop where
  locks : s.devmemLocks.toNat = s.live.length
  open_iff : s.IsOpen ↔ 0 < s.devmemLocks.toNat

/-- `mmap` succeeds, and there are not yet as many mappings as the counter can count. -/
def MapMade (s : Mappings) : PhysCall → Prop
  | .map _ _ mmap => mmap.isSome ∧ s.live.length + 1 < 2 ^ 32
  | .unmap _ _ => True

/-- What holds between the calls as long as every mapping is made. -/
structure Settled (s : Mappings) : Prop where
  locks : s.devmemLocks.toNat = s.live.length
  idle : s.live = [] → s.devmemFd = -1 ∧ s.openFds = []
  busy : s.live ≠ [] → ∃ fd : ℕ, s.devmemFd = fd ∧ s.openFds = [fd]

theorem Settled.accounted {s : Mappings} (h : Settled s) : Accounted s := by
  refine ⟨h.locks, ?_⟩
  rw [h.locks]
  unfold Devmem.IsOpen
  by_cases hlive : s.live = []
  · obtain ⟨-, hopen⟩ := h.idle hlive
    rw [hopen, hlive]
    simp
  · obtain ⟨fd, hfd, hopen⟩ := h.busy hlive
    rw [hopen, hfd]
    simp [List.length_pos_iff.mpr hlive]

/-- What a `map_phys_mem` leaves when the device can be opened. -/
theorem mapPhysMem_of_isSome {s : Mappings} {helper devmem : Option ℕ} (mmap : Option ℕ)
    (h : Settled s) (hopen : s.devmemFd = -1 → (helper.or devmem).isSome) :
    ∃ fd : ℕ, mapPhysMem helper devmem mmap s.toDevmem =
      some (mmap, ⟨fd, s.devmemLocks + 1, [fd]⟩) := by
  unfold mapPhysMem openDevmem
  by_cases hlive : s.live = []
  · obtain ⟨hfd, hfds⟩ := h.idle hlive
    obtain ⟨fd, hsome⟩ := Option.isSome_iff_exists.mp (hopen hfd)
    refine ⟨fd, ?_⟩
    rw [if_pos hfd, hsome, hfds]
    rfl
  · obtain ⟨fd, hfd, hfds⟩ := h.busy hlive
    refine ⟨fd, ?_⟩
    rw [if_neg (by rw [hfd]; omega), ← hfd, ← hfds]
    rfl

theorem Settled.map {s : Mappings} {helper devmem : Option ℕ} (ptr : ℕ) (h : Settled s)
    (hopen : s.devmemFd = -1 → (helper.or devmem).isSome) (hcount : s.live.length + 1 < 2 ^ 32) :
    Settled (physStep s (.map helper devmem (some ptr))) := by
  obtain ⟨fd, hmap⟩ := mapPhysMem_of_isSome (some ptr) h hopen
  have hlocks := h.locks
  rw [physStep, hmap]
  refine ⟨?_, fun hnil => ?_, fun _ => ⟨fd, rfl, rfl⟩⟩
  · show (s.devmemLocks + 1).toNat = s.live.length + 1
    rw [UInt32.toNat_add, hlocks, show (1 : UInt32).toNat = 1 from rfl]
    omega
  · cases hnil

theorem Settled.unmap {s : Mappings} {ptr : ℕ} (h : Settled s) (hptr : ptr ∈ s.live) :
    Settled (physStep s (.unmap ptr true)) := by
  have hlocks := h.locks
  have hpos : 0 < s.live.length := List.length_pos_of_mem hptr
  have hlen : (s.live.erase ptr).length = s.live.length - 1 := List.length_erase_of_mem hptr
  have hone : (1 : UInt32).toNat = 1 := rfl
  have hsub : (s.devmemLocks - 1).toNat = s.live.length - 1 := by
    rw [UInt32.toNat_sub, hlocks, hone]
    have := s.devmemLocks.toNat_lt
    omega
  obtain ⟨fd, hfd, hfds⟩ := h.busy (List.length_pos_iff.mp hpos)
  unfold physStep unmapPhysMem
  dsimp only
  rw [Bool.not_true, if_neg (by decide)]
  by_cases hzero : s.devmemLocks - 1 = 0
  · have hnil : s.live.erase ptr = [] := by
      rw [← List.length_eq_zero_iff, hlen, ← hsub, hzero]
      rfl
    rw [if_pos hzero]
    refine ⟨hsub.trans hlen.symm, fun _ => ⟨rfl, ?_⟩, fun hne => absurd hnil hne⟩
    show s.openFds.filter _ = []
    rw [hfds, hfd]
    simp
  · rw [if_neg hzero]
    refine ⟨hsub.trans hlen.symm, fun hnil => ?_, fun _ => ⟨fd, hfd, hfds⟩⟩
    -- the last mapping would have taken the counter to zero
    have hnil' : s.live.erase ptr = [] := hnil
    rw [hnil', List.length_nil] at hlen
    have hzero' : (s.devmemLocks - 1).toNat = (0 : UInt32).toNat := hsub.trans hlen.symm
    exact absurd (UInt32.toNat_inj.mp hzero') hzero

theorem Settled.step {s : Mappings} {call : PhysCall} (h : Settled s) (hsens : Sensible s call)
    (hmade : MapMade s call) : Settled (physStep s call) := by
  cases call with
  | map helper devmem mmap =>
    obtain ⟨hsome, hcount⟩ := hmade
    obtain ⟨ptr, rfl⟩ := Option.isSome_iff_exists.mp hsome
    exact h.map ptr hsens hcount
  | unmap ptr munmap =>
    obtain ⟨hptr, rfl⟩ := hsens
    exact h.unmap hptr

/-- A mapping that is not made, or not counted any more, leaves the counter wrong. -/
theorem Settled.mapMade {s : Mappings} {call : PhysCall} (h : Settled s) (hsens : Sensible s call)
    (hacc : Accounted (physStep s call)) : MapMade s call := by
  cases call with
  | unmap ptr munmap => trivial
  | map helper devmem mmap =>
    obtain ⟨fd, hmap⟩ := mapPhysMem_of_isSome mmap h hsens
    have hlocks := hacc.locks
    have hlt := s.devmemLocks.toNat_lt
    have hadd : (s.devmemLocks + 1).toNat = (s.live.length + 1) % 2 ^ 32 := by
      rw [UInt32.toNat_add, h.locks, show (1 : UInt32).toNat = 1 from rfl]
    rw [h.locks] at hlt
    rw [physStep, hmap] at hlocks
    cases mmap with
    | none =>
      have hlocks' : (s.devmemLocks + 1).toNat = s.live.length := hlocks
      omega
    | some ptr =>
      have hlocks' : (s.devmemLocks + 1).toNat = s.live.length + 1 := hlocks
      exact ⟨rfl, by omega⟩

/-- Before the first call. -/
def Mappings.start : Mappings := ⟨.start, []⟩

theorem settled_start : Settled .start :=
  ⟨rfl, fun _ => ⟨rfl, rfl⟩, fun h => absurd rfl h⟩

/-- **The count is right throughout a run iff every mapping of the run is made.** -/
theorem mappings_accounted_iff (calls : List PhysCall)
    (hsens : Guarded physStep Sensible .start calls) :
    (∀ pre, pre <+: calls → Accounted (pre.foldl physStep .start)) ↔
      Guarded physStep MapMade .start calls :=
  forall_prefix_iff_guarded_of_wf Settled Accounted (fun _ h => h.accounted)
    (fun _ _ h hsens hmade => h.step hsens hmade) (fun _ _ h hsens hacc => h.mapMade hsens hacc)
    settled_start hsens

/-- Two mappings, undone in the order in which they were made. -/
def twoMappings : List PhysCall :=
  [.map (some 3) none (some 0x1000), .map none none (some 0x2000), .unmap 0x1000 true,
    .unmap 0x2000 true]

/-- Both mappings are made, so that the count is right all the time. -/
theorem mappings_accounted_sample :
    Guarded physStep MapMade .start twoMappings ∧
      ∀ pre, pre <+: twoMappings → Accounted (pre.foldl physStep .start) := by
  have hsens : Guarded physStep Sensible .start twoMappings := by
    refine ⟨fun _ => rfl, fun hfd => absurd hfd ?_, ⟨?_, rfl⟩, ⟨?_, rfl⟩, trivial⟩
    · decide
    · decide
    · decide
  have hmade : Guarded physStep MapMade .start twoMappings := by
    refine ⟨⟨rfl, ?_⟩, ⟨rfl, ?_⟩, trivial, trivial, trivial⟩
    · decide
    · decide
  exact ⟨hmade, (mappings_accounted_iff twoMappings hsens).mpr hmade⟩

/-- **After a mapping that failed the descriptor stays open** although there is no mapping. -/
theorem mappings_failed_open :
    Guarded physStep Sensible .start [.map (some 3) none none] ∧
      (physStep .start (.map (some 3) none none)).live = [] ∧
      (physStep .start (.map (some 3) none none)).openFds = [3] ∧
      ¬ ∀ pre, pre <+: [PhysCall.map (some 3) none none] →
        Accounted (pre.foldl physStep .start) := by
  refine ⟨⟨fun _ => rfl, trivial⟩, rfl, rfl, fun h => ?_⟩
  have hlocks := (h _ (List.prefix_refl _)).locks
  revert hlocks
  decide

end Vidix.Libdha
