import Vidix.Mach64.Transfer
import Vidix.Mach64.Equiv.DmaCache
import Vidix.Util.Engine
import Vidix.Util.Simulation
import Vidix.Util.Flags

/-!
# Frames that are copied while the card reads

The driver and the card share the descriptor tables, and each frame copy writes one of them anew.
Since it resets the engine before it does, the card never reads a table that is being written: what
it does is what an engine does that gets whole jobs (`transfers_drive`).  The reset has its price:

* Everything that was started is carried out, and in order, iff no call resets the engine while it
  is reading: `transfers_lossless_iff`.
* `vixQueryDMAStatus` says busy while the card reads, and then only, iff each call that stops the
  card in the middle of a table starts it on another: `queryDmaStatus_right_iff`.
* A synchronous copy gets out of its loop iff the status is free or the card reads:
  `sync_served_iff`.  After a call that has stopped the card and then failed, it stays there.
-/

namespace Vidix.Mach64

open Util Libdha

variable {place : ℕ → UInt32} {o : Outside} {a : CardAnswers} {d : Driver} {bm : Bm}
  {dmai : VidixDma} {c : Card} {s : Transfers} {tables : ℕ → List BmListDescriptor}

/-! ### The registers -/

/-- The end of a table has been reached. -/
def Card.eol (c : Card) : Bool := c.crtcIntCntl &&& crtcBusmasterEolInt != 0

theorem Card.eol_congr {c' : Card}
    (h : c'.crtcIntCntl &&& crtcBusmasterEolInt = c.crtcIntCntl &&& crtcBusmasterEolInt) :
    c'.eol = c.eol := by
  unfold eol
  rw [h]

theorem Card.writeIntCntl_and (c : Card) (v : UInt32) :
    (c.writeIntCntl v).crtcIntCntl &&& crtcBusmasterEolInt =
      c.crtcIntCntl &&& (~~~v &&& crtcBusmasterEolInt) := by
  have hnot : ~~~crtcIntAcks &&& crtcBusmasterEolInt = 0 := by decide
  have hin : crtcIntAcks &&& crtcBusmasterEolInt = crtcBusmasterEolInt := by decide
  unfold Card.writeIntCntl
  dsimp only
  rw [or_and_distrib, UInt32.and_assoc, hnot, UInt32.and_zero, UInt32.zero_or, UInt32.and_assoc,
    UInt32.and_assoc, ← UInt32.and_assoc crtcIntAcks, UInt32.and_comm crtcIntAcks,
    UInt32.and_assoc, hin]

/-- Writing the bit as 0 leaves it. -/
theorem Card.writeIntCntl_eol_of_zero {v : UInt32} (h : v &&& crtcBusmasterEolInt = 0) :
    (c.writeIntCntl v).eol = c.eol := by
  refine Card.eol_congr ?_
  rw [writeIntCntl_and, not_and_of_and_eq_zero h]

/-- Writing it as 1 clears it. -/
theorem Card.writeIntCntl_eol_of_one {v : UInt32}
    (h : v &&& crtcBusmasterEolInt = crtcBusmasterEolInt) : (c.writeIntCntl v).eol = false := by
  unfold eol
  rw [writeIntCntl_and, not_and_eq_zero h, UInt32.and_zero]
  rfl

@[simp] theorem engineReset_eol (c : Card) : (mach64EngineReset c).eol = c.eol := by
  have hzero : c.crtcIntCntl &&& ~~~(crtcBusmasterEolInt ||| crtcBusmasterEolIntEn) &&&
      crtcBusmasterEolInt = 0 := and_not_and_eq_zero (by decide)
  exact Card.writeIntCntl_eol_of_zero (c := { c with busCntl := c.busCntl ||| busMasterDis }) hzero

@[simp] theorem engineReset_moved (c : Card) : (mach64EngineReset c).moved = c.moved := rfl

@[simp] theorem engineReset_reading (c : Card) : (mach64EngineReset c).reading = none := rfl

@[simp] theorem waitForIdle_eol (hung : Bool) (c : Card) :
    (mach64WaitForIdle hung c).eol = c.eol := by
  unfold mach64WaitForIdle
  split_ifs
  · exact engineReset_eol c
  · rfl

@[simp] theorem waitForIdle_moved (hung : Bool) (c : Card) :
    (mach64WaitForIdle hung c).moved = c.moved := by
  unfold mach64WaitForIdle
  split_ifs <;> rfl

/-- A transfer that is started. -/
structure Started (c c' : Card) (addr : UInt32) : Prop where
  eol : c'.eol = false
  moved : c'.moved = c.moved
  reading : c'.reading = some (addr, 0)
  busCntl : c'.busCntl &&& busMasterDis = 0

theorem transferFrame_started (hung : Bool) (addr : UInt32) (syncMode canUseIrq : Bool) (c : Card) :
    Started c (mach64TransferFrame hung addr syncMode canUseIrq c) addr := by
  have hdis : ∀ x : UInt32, x &&& ~~~busMasterDis &&& busMasterDis = 0 :=
    fun x => and_not_and_eq_zero (by decide)
  unfold mach64TransferFrame
  dsimp only
  split_ifs
  · refine ⟨Card.writeIntCntl_eol_of_one ?_, waitForIdle_moved hung c, rfl, hdis _⟩
    rw [or_and_of_disjoint (by decide), or_and_self]
  · exact ⟨Card.writeIntCntl_eol_of_one (or_and_self _ _), waitForIdle_moved hung c, rfl, hdis _⟩

theorem queryDmaStatus_eq_one_iff (c : Card) :
    (vixQueryDmaStatus false c).1 = 1 ↔ c.eol = false := by
  unfold vixQueryDmaStatus mach64WaitForIdle Card.eol
  dsimp only
  rw [if_neg Bool.false_ne_true, bne_eq_false_iff_eq]
  split_ifs with h
  · exact iff_of_false (by decide) h
  · exact iff_of_true rfl (not_not.mp h)

theorem queryDmaStatus_ne_zero_iff (hung : Bool) (c : Card) :
    (vixQueryDmaStatus hung c).1 ≠ 0 ↔ c.eol = false := by
  rw [← waitForIdle_eol hung c]
  unfold vixQueryDmaStatus Card.eol
  dsimp only
  rw [bne_eq_false_iff_eq]
  split_ifs with h
  · exact iff_of_false (fun hne => hne rfl) h
  · exact iff_of_true (by decide) (not_not.mp h)

/-! ### The tables -/

/-- No two tables are at one place. -/
def Apart (place : ℕ → UInt32) : Prop := Set.InjOn place {i | i < descTables}

theorem tableAt_place (h : Apart place) {i : ℕ} (hi : i < descTables) :
    tableAt place (place i) = some i := by
  unfold tableAt
  rw [List.find?_range_eq_some]
  refine ⟨beq_self_eq_true _, List.mem_range.mpr hi, fun j hj => ?_⟩
  rw [Bool.not_eq_true', beq_eq_false_iff_ne]
  exact fun heq => absurd (h (hj.trans hi) hi heq) hj.ne

/-- The list that the card has before it, up to the end mark. -/
def Card.job (place : ℕ → UInt32) (tables : ℕ → List BmListDescriptor) (c : Card) :
    List BmListDescriptor :=
  upTo BmListDescriptor.last (c.rest place tables)

/-- A table with an end mark. -/
def Ended (table : List BmListDescriptor) : Prop := ∃ d ∈ table, d.last = true

theorem Ended.ne_nil {table : List BmListDescriptor} (h : Ended table) : table ≠ [] := by
  obtain ⟨d, hmem, -⟩ := h
  exact List.ne_nil_of_mem hmem

theorem rest_of_idle (h : c.reading = none) : c.rest place tables = [] := by
  unfold Card.rest
  rw [h]

theorem rest_of_reading {addr : UInt32} {n i : ℕ} (h : c.reading = some (addr, n))
    (ht : tableAt place addr = some i) : c.rest place tables = (tables i).drop n := by
  unfold Card.rest
  rw [h]
  dsimp only
  rw [ht]

/-- The card reads a table with an end mark, and nothing keeps it from going on. -/
structure Reads (place : ℕ → UInt32) (tables : ℕ → List BmListDescriptor) (c : Card) : Prop where
  busCntl : c.busCntl &&& busMasterDis = 0
  ended : Ended (c.rest place tables)

theorem job_eq_nil_iff (h : c.reading ≠ none → Reads place tables c) :
    c.job place tables = [] ↔ c.reading = none := by
  constructor
  · intro hjob
    by_contra hreading
    exact upTo_ne_nil (h hreading).ended.ne_nil hjob
  · intro hreading
    unfold Card.job
    rw [rest_of_idle hreading]
    rfl

/-! ### The card as an engine -/

/-- The card, for what the driver can know of it. -/
def Card.engine (place : ℕ → UInt32) (tables : ℕ → List BmListDescriptor) (c : Card) :
    Engine BmListDescriptor :=
  ⟨c.job place tables, c.eol, c.moved⟩

theorem tick_of_idle (h : c.reading = none) : c.tick place tables = c := by
  unfold Card.tick
  rw [rest_of_idle h]
  split_ifs <;> rfl

/-- The table that is read is the one at its place, and its next descriptor is the next. -/
theorem rest_of_rest_cons {d : BmListDescriptor} {ds : List BmListDescriptor}
    (h : c.rest place tables = d :: ds) :
    { c with reading := c.reading.map fun (addr, n) => (addr, n + 1) }.rest place tables = ds := by
  unfold Card.rest at h ⊢
  cases hreading : c.reading with
  | none =>
    rw [hreading] at h
    exact absurd h (List.cons_ne_nil _ _).symm
  | some r =>
    obtain ⟨addr, n⟩ := r
    rw [hreading] at h
    dsimp only [Option.map_some] at h ⊢
    cases ht : tableAt place addr with
    | none =>
      rw [ht] at h
      exact absurd h (List.cons_ne_nil _ _).symm
    | some i =>
      rw [ht] at h
      dsimp only at h ⊢
      rw [← List.tail_drop, h, List.tail_cons]

/-- What a tick does to the card. -/
theorem tick_of_reads (h : Reads place tables c) {d : BmListDescriptor}
    {ds : List BmListDescriptor} (hrest : c.rest place tables = d :: ds) :
    c.tick place tables =
      if d.last = true then
        { c with
          moved := c.moved ++ [d]
          reading := none
          crtcIntCntl := c.crtcIntCntl ||| crtcBusmasterEolInt }
      else
        { c with
          moved := c.moved ++ [d]
          reading := c.reading.map fun (addr, n) => (addr, n + 1) } := by
  unfold Card.tick BmListDescriptor.last
  rw [if_neg (not_not.mpr h.busCntl), hrest]
  simp only [bne_iff_ne]

/-- **The card does what the engine does.** -/
theorem tick_engine (h : c.reading ≠ none → Reads place tables c) :
    (c.tick place tables).engine place tables = (c.engine place tables).step .tick ∧
      ((c.tick place tables).reading ≠ none → Reads place tables (c.tick place tables)) := by
  by_cases hidle : c.reading = none
  · rw [tick_of_idle hidle]
    have hleft : (c.engine place tables).left = [] := (job_eq_nil_iff h).mpr hidle
    exact ⟨(Engine.step_tick_of_nil hleft).symm, h⟩
  · have hreads := h hidle
    obtain ⟨d, ds, hrest⟩ := List.exists_cons_of_ne_nil hreads.ended.ne_nil
    rw [tick_of_reads hreads hrest]
    cases hlast : d.last with
    | true =>
      rw [if_pos rfl]
      have hleft : (c.engine place tables).left = [d] := by
        show upTo _ _ = _
        rw [hrest, upTo_cons_of_last hlast]
      rw [Engine.step_tick_of_cons hleft]
      refine ⟨?_, fun hno => absurd rfl hno⟩
      have heol : (crtcBusmasterEolInt != 0) = true := by decide
      unfold Card.engine Card.job Card.eol
      dsimp only
      rw [rest_of_idle rfl, or_and_self, heol, List.isEmpty_nil, Bool.or_true]
      rfl
    | false =>
      rw [if_neg Bool.false_ne_true]
      -- the mark is further on
      have hended : Ended ds := by
        obtain ⟨d', hmem, hlast'⟩ := hreads.ended
        rw [hrest] at hmem
        refine ⟨d', (List.mem_cons.mp hmem).resolve_left fun heq => ?_, hlast'⟩
        rw [heq, hlast] at hlast'
        exact Bool.false_ne_true hlast'
      have hleft : (c.engine place tables).left = d :: upTo BmListDescriptor.last ds := by
        show upTo _ _ = _
        rw [hrest, upTo_cons_of_not_last hlast]
      have hnext : ∀ moved, { c with
            moved := moved
            reading := c.reading.map fun (addr, n) => (addr, n + 1) }.rest place tables = ds :=
        fun _ => rest_of_rest_cons hrest
      rw [Engine.step_tick_of_cons hleft]
      constructor
      · have hempty : (upTo BmListDescriptor.last ds).isEmpty = false := by
          rw [List.isEmpty_eq_false_iff]
          exact upTo_ne_nil hended.ne_nil
        unfold Card.engine Card.job
        rw [hnext, hempty, Bool.or_false]
        rfl
      · intro _
        refine ⟨hreads.busCntl, ?_⟩
        rw [hnext]
        exact hended

/-! ### The driver -/

/-- Whatever the card reads has an end, and so has each table that `internal[]` takes as filled. -/
structure Sound (place : ℕ → UInt32) (s : Transfers) : Prop where
  reads : s.card.reading ≠ none → Reads place s.bm.tables s.card
  ended : ∀ i < descTables, s.internal i ≠ 0 → Ended (s.bm.tables i)

def Transfers.engine (place : ℕ → UInt32) (s : Transfers) : Engine BmListDescriptor :=
  s.card.engine place s.bm.tables

/-- The list that the card is given when the request is carried out. -/
def Transfers.listed (o : Outside) (dmai : VidixDma) (s : Transfers) : List BmListDescriptor :=
  upTo BmListDescriptor.last
    ((vixPlaybackCopyFrame o s.driver s.bm (s.request dmai)).bm.tables (tableIdx (s.request dmai)))

/-- What a frame copy comes to once it is out of its loop. -/
def Transfers.transferOps (o : Outside) (dmai : VidixDma) (s : Transfers) :
    List (EngineOp BmListDescriptor) :=
  if Proceeds o s.driver (s.request dmai) then [.start (s.listed o dmai)] else [.stop]

/-- What an event comes to. -/
def Transfers.ops (s : Transfers) : TransferEvent → List (EngineOp BmListDescriptor)
  | .config _ | .raise _ => []
  | .copy o a dmai =>
    if (lockSource o (s.request dmai)).1 ≠ 0 then []
    else if VidixDma.syncMode dmai then
      (if a.hung then [.stop] else []) ++ if s.card.eol then s.transferOps o dmai else []
    else s.transferOps o dmai
  | .query hung => if hung then [.stop] else []
  | .tick => [.tick]

theorem ops_copy (o : Outside) (a : CardAnswers) (dmai : VidixDma) (s : Transfers) :
    s.ops (.copy o a dmai) =
      if (lockSource o (s.request dmai)).1 ≠ 0 then []
      else if VidixDma.syncMode dmai then
        (if a.hung then [.stop] else []) ++ if s.card.eol then s.transferOps o dmai else []
      else s.transferOps o dmai :=
  rfl

/-- There is something to copy and a table for it, and the kernel knows where that table is.  The
other interrupts are other bits. -/
def Placed (place : ℕ → UInt32) (s : Transfers) : TransferEvent → Prop
  | .copy o _ dmai =>
    let request := s.request dmai
    1 ≤ dmai.size.toNat ∧ tableIdx request < descTables ∧
      (busAddrAfter (lockSource o request).2 s.bm (tableIdx request)).toUInt32 =
        place (tableIdx request)
  | .raise bits => bits &&& crtcBusmasterEolInt = 0
  | .config _ | .query _ | .tick => True

theorem filling_marked {h : Helper} {off : Int32} (hsize : 1 ≤ dmai.size.toNat) :
    Marked BmListDescriptor.last (filling h off dmai).list :=
  marked_descriptors hsize

/-- A table that has been filled has an end, whatever was in it before. -/
theorem ended_storeFront {h : Helper} {off : Int32} (hsize : 1 ≤ dmai.size.toNat)
    (old : List BmListDescriptor) : Ended (storeFront (filling h off dmai).list old) := by
  have hmarked : Marked BmListDescriptor.last (filling h off dmai).list := filling_marked hsize
  obtain ⟨d, hmem, hlast⟩ := hmarked.exists_last
  exact ⟨d, List.mem_append_left _ hmem, hlast⟩

/-- What the driver has after a request that gets to the card. -/
structure Handed (place : ℕ → UInt32) (s s' : Transfers) (o : Outside) (a : CardAnswers)
    (dmai : VidixDma) : Prop where
  ended : ∀ i < descTables, s'.internal i ≠ 0 → Ended (s'.bm.tables i)
  listed : upTo BmListDescriptor.last (s'.bm.tables (tableIdx (s.request dmai))) = s.listed o dmai
  table : Ended (s'.bm.tables (tableIdx (s.request dmai)))
  card : s'.card = mach64TransferFrame a.hungAgain (place (tableIdx (s.request dmai)))
    (VidixDma.syncMode dmai) s.canUseIrq (mach64EngineReset s.card)

theorem transfer_of_proceeds (h : Sound place s) (hwf : Placed place s (.copy o a dmai))
    (hp : Proceeds o s.driver (s.request dmai)) :
    Handed place s (s.transfer o a dmai) o a dmai := by
  obtain ⟨hsize, hidx, hplace⟩ := hwf
  by_cases hreuse : reusesTable (clampIdx (s.request dmai)) = true
  · obtain ⟨bm', dmai', hrun, hsame, hinternal⟩ :=
      copyFrame_of_reuse o s.driver s.bm (s.request dmai) hp hreuse
    have hended : Ended (s.bm.tables (tableIdx (s.request dmai))) := by
      refine h.ended _ hidx ?_
      unfold reusesTable at hreuse
      rw [Bool.and_eq_true, bne_iff_ne, clampIdx_internal] at hreuse
      exact hreuse.1
    unfold Transfers.transfer
    dsimp only
    refine ⟨?_, rfl, ?_, ?_⟩ <;> rw [hrun] <;> dsimp only
    · rw [hinternal, hsame.tables]
      exact h.ended
    · rw [hsame.tables]
      exact hended
    · rw [hplace]
  · obtain ⟨bm', dmai', hrun, -, htables, hinternal⟩ :=
      copyFrame_of_fill o s.driver s.bm (s.request dmai) hp hreuse
    have hended : Ended (bm'.tables (tableIdx (s.request dmai))) := by
      rw [htables, Function.update_self]
      exact ended_storeFront hsize _
    unfold Transfers.transfer
    dsimp only
    refine ⟨?_, rfl, ?_, ?_⟩ <;> rw [hrun] <;> dsimp only
    · intro i hi hne
      by_cases heq : i = tableIdx (s.request dmai)
      · rw [heq]
        exact hended
      · rw [hinternal, Function.update_of_ne heq] at hne
        rw [htables, Function.update_of_ne heq]
        exact h.ended i hi hne
    · exact hended
    · rw [hplace]

theorem transfer_of_not_proceeds (hp : ¬ Proceeds o s.driver (s.request dmai)) :
    (s.transfer o a dmai).bm.tables = s.bm.tables ∧
      (s.transfer o a dmai).internal = s.internal ∧
      (s.transfer o a dmai).card = mach64EngineReset s.card := by
  obtain ⟨ret, bm', dmai', hrun, -, hsame, hinternal⟩ :=
    copyFrame_of_not_proceeds o s.driver s.bm (s.request dmai) hp
  unfold Transfers.transfer
  dsimp only
  rw [hrun]
  exact ⟨hsame.tables, hinternal, rfl⟩

theorem engineReset_engine (c : Card) (tables tables' : ℕ → List BmListDescriptor) :
    (mach64EngineReset c).engine place tables' = (c.engine place tables).step .stop := by
  unfold Card.engine Card.job
  rw [rest_of_idle (engineReset_reading c), engineReset_eol, engineReset_moved]
  rfl

/-- A request that is out of its loop does to the card what it comes to. -/
theorem transfer_drives (hplace : Apart place) (h : Sound place s)
    (hwf : Placed place s (.copy o a dmai)) :
    Sound place (s.transfer o a dmai) ∧ (s.transfer o a dmai).engine place =
      (s.transferOps o dmai).foldl Engine.step (s.engine place) := by
  unfold Transfers.transferOps
  by_cases hp : Proceeds o s.driver (s.request dmai)
  · obtain ⟨hended, hlisted, htable, hcard⟩ := transfer_of_proceeds h hwf hp
    have hstarted := transferFrame_started a.hungAgain (place (tableIdx (s.request dmai)))
      (VidixDma.syncMode dmai) s.canUseIrq (mach64EngineReset s.card)
    rw [← hcard] at hstarted
    have hrest : (s.transfer o a dmai).card.rest place (s.transfer o a dmai).bm.tables =
        (s.transfer o a dmai).bm.tables (tableIdx (s.request dmai)) :=
      rest_of_reading hstarted.reading (tableAt_place hplace hwf.2.1)
    rw [if_pos hp]
    refine ⟨⟨fun _ => ⟨hstarted.busCntl, hrest ▸ htable⟩, hended⟩, ?_⟩
    unfold Transfers.engine Card.engine Card.job
    rw [hrest, hlisted, hstarted.eol, hstarted.moved]
    rfl
  · obtain ⟨htables, hinternal, hcard⟩ := transfer_of_not_proceeds (a := a) hp
    rw [if_neg hp]
    refine ⟨⟨?_, ?_⟩, ?_⟩
    · rw [hcard]
      exact fun hno => absurd rfl hno
    · rw [htables, hinternal]
      exact h.ended
    · unfold Transfers.engine
      rw [hcard, htables]
      exact engineReset_engine _ _ _

/-! ### Every event -/

/-- The driver after a round of the loop of a synchronous copy. -/
def Transfers.queried (a : CardAnswers) (s : Transfers) : Transfers :=
  { s.initIrq a.irq with card := mach64WaitForIdle a.hung s.card }

theorem initIrq_same (answer : ℤ) (s : Transfers) :
    (s.initIrq answer).driver = s.driver ∧ (s.initIrq answer).bm = s.bm ∧
      (s.initIrq answer).internal = s.internal ∧ (s.initIrq answer).card = s.card := by
  unfold Transfers.initIrq
  split_ifs <;> exact ⟨rfl, rfl, rfl, rfl⟩

@[simp] theorem queried_driver : (s.queried a).driver = s.driver := (initIrq_same a.irq s).1

@[simp] theorem queried_bm : (s.queried a).bm = s.bm := (initIrq_same a.irq s).2.1

@[simp] theorem queried_internal : (s.queried a).internal = s.internal :=
  (initIrq_same a.irq s).2.2.1

@[simp] theorem queried_request (dmai : VidixDma) :
    (s.queried a).request dmai = s.request dmai := by
  unfold Transfers.request
  rw [queried_internal]

theorem queried_transferOps : (s.queried a).transferOps o dmai = s.transferOps o dmai := by
  unfold Transfers.transferOps Transfers.listed
  rw [queried_request, queried_driver, queried_bm]

theorem queried_placed (h : Placed place s (.copy o a dmai)) :
    Placed place (s.queried a) (.copy o a dmai) := by
  unfold Placed at h ⊢
  dsimp only at h ⊢
  rw [queried_request, queried_bm]
  exact h

theorem transfers_copy_eq (o : Outside) (a : CardAnswers) (dmai : VidixDma) (s : Transfers) :
    s.copy o a dmai =
      if (lockSource o (s.request dmai)).1 ≠ 0 then s
      else if VidixDma.syncMode dmai then
        if s.card.eol then (s.queried a).transfer o a dmai else s.queried a
      else s.transfer o a dmai := by
  have hcard := (initIrq_same a.irq s).2.2.2
  unfold Transfers.copy
  dsimp only
  rw [hcard]
  split_ifs with hlock hsync hbusy heol heol
  · rfl
  · rw [queryDmaStatus_ne_zero_iff, heol] at hbusy
    exact absurd hbusy Bool.false_ne_true.symm
  · rfl
  · rfl
  · rw [queryDmaStatus_ne_zero_iff, Bool.not_eq_false] at hbusy
    exact absurd hbusy heol
  · rfl

/-- The card stays sound when it is reset, or when other bits of its registers change. -/
theorem Sound.withCard (h : Sound place s) {s' : Transfers} (hbm : s'.bm = s.bm)
    (hinternal : s'.internal = s.internal)
    (hreads : s'.card.reading ≠ none → Reads place s.bm.tables s'.card) : Sound place s' :=
  ⟨hbm ▸ hreads, by rw [hbm, hinternal]; exact h.ended⟩

/-- What waiting for the engine comes to. -/
theorem wait_drives (h : Sound place s) (hung : Bool) {s' : Transfers} (hbm : s'.bm = s.bm)
    (hinternal : s'.internal = s.internal) (hcard : s'.card = mach64WaitForIdle hung s.card) :
    Sound place s' ∧ s'.engine place =
      (if hung then [.stop] else [] : List (EngineOp BmListDescriptor)).foldl Engine.step
        (s.engine place) := by
  unfold mach64WaitForIdle at hcard
  unfold Transfers.engine
  cases hung with
  | true =>
    rw [if_pos rfl] at hcard ⊢
    refine ⟨h.withCard hbm hinternal ?_, ?_⟩ <;> rw [hcard]
    · exact fun hno => absurd rfl hno
    · exact engineReset_engine _ _ _
  | false =>
    rw [if_neg Bool.false_ne_true] at hcard ⊢
    refine ⟨h.withCard hbm hinternal ?_, ?_⟩ <;> rw [hcard]
    · exact h.reads
    · rw [hbm]
      rfl

theorem copy_drives (hplace : Apart place) (h : Sound place s)
    (hwf : Placed place s (.copy o a dmai)) :
    Sound place (s.copy o a dmai) ∧ (s.copy o a dmai).engine place =
      (s.ops (.copy o a dmai)).foldl Engine.step (s.engine place) := by
  obtain ⟨hqueried, hengine⟩ :=
    wait_drives h a.hung (queried_bm (a := a)) queried_internal rfl
  rw [transfers_copy_eq, ops_copy]
  by_cases hlock : (lockSource o (s.request dmai)).1 ≠ 0
  · rw [if_pos hlock, if_pos hlock]
    exact ⟨h, rfl⟩
  rw [if_neg hlock, if_neg hlock]
  by_cases hsync : VidixDma.syncMode dmai = true
  · rw [if_pos hsync, if_pos hsync, List.foldl_append, ← hengine]
    by_cases heol : s.card.eol = true
    · rw [if_pos heol, if_pos heol, ← queried_transferOps (a := a)]
      exact transfer_drives hplace hqueried (queried_placed hwf)
    · rw [if_neg heol, if_neg heol]
      exact ⟨hqueried, rfl⟩
  · rw [if_neg hsync, if_neg hsync]
    exact transfer_drives hplace h hwf

/-- **The driver and the card do together what an engine does that is given whole jobs.** -/
theorem transfers_drive (hplace : Apart place) :
    Drives (Transfers.step place) (Placed place) Transfers.ops Engine.step
      fun s e => Sound place s ∧ s.engine place = e := by
  rintro s _ ev ⟨h, rfl⟩ hwf
  cases ev with
  | config info =>
    unfold Transfers.step
    dsimp only
    split
    · exact ⟨h.withCard rfl rfl h.reads, rfl⟩
    · exact ⟨h, rfl⟩
  | copy o a dmai => exact copy_drives hplace h hwf
  | query hung => exact wait_drives h hung rfl rfl rfl
  | tick =>
    obtain ⟨hengine, hreads⟩ := tick_engine h.reads
    exact ⟨h.withCard rfl rfl hreads, hengine⟩
  | raise bits =>
    refine ⟨h.withCard rfl rfl fun hreading => ⟨(h.reads hreading).busCntl, ?_⟩, ?_⟩
    · exact (h.reads hreading).ended
    · have heol : (s.step place (.raise bits)).card.eol = s.card.eol :=
        Card.eol_congr (or_and_of_disjoint hwf)
      unfold Transfers.engine Card.engine
      rw [heol]
      rfl

/-- Nothing has been copied yet. -/
theorem start_sound (d : Driver) (bm : Bm) (hidle : c.reading = none) :
    Sound place (.start d bm c) :=
  ⟨fun hno => absurd hidle hno, fun _ _ hno => absurd rfl hno⟩

/-! ### What is lost -/

/-- The call resets the engine. -/
def Resets (s : Transfers) : TransferEvent → Prop
  | .copy o a dmai =>
    (lockSource o (s.request dmai)).1 = 0 ∧
      (VidixDma.syncMode dmai = true → a.hung = true ∨ s.card.eol = true)
  | .query hung => hung = true
  | .config _ | .tick | .raise _ => False

/-- A frame copy that starts the card on a table. -/
def CopyStarts (s : Transfers) (o : Outside) (dmai : VidixDma) : Prop :=
  Proceeds o s.driver (s.request dmai) ∧ (VidixDma.syncMode dmai = true → s.card.eol = true)

instance : Decidable (CopyStarts s o dmai) := inferInstanceAs (Decidable (_ ∧ (_ → _)))

def Starts (s : Transfers) : TransferEvent → Prop
  | .copy o _ dmai => CopyStarts s o dmai
  | .config _ | .query _ | .tick | .raise _ => False

/-- The descriptors that the card is given by an event. -/
def Transfers.given (s : Transfers) : TransferEvent → List BmListDescriptor
  | .copy o _ dmai => if CopyStarts s o dmai then s.listed o dmai else []
  | .config _ | .query _ | .tick | .raise _ => []

theorem allJobs_transferOps :
    allJobs (s.transferOps o dmai) =
      if Proceeds o s.driver (s.request dmai) then s.listed o dmai else [] := by
  unfold Transfers.transferOps allJobs
  split_ifs
  · exact List.flatMap_singleton _ _
  · rfl

theorem allJobs_append {β : Type*} (ops ops' : List (EngineOp β)) :
    allJobs (ops ++ ops') = allJobs ops ++ allJobs ops' :=
  List.flatMap_append

theorem allJobs_ops (s : Transfers) (ev : TransferEvent) : allJobs (s.ops ev) = s.given ev := by
  cases ev with
  | config info => rfl
  | tick => rfl
  | raise bits => rfl
  | query hung =>
    cases hung <;> rfl
  | copy o a dmai =>
    have hwait : allJobs (if a.hung = true then [.stop] else [] :
        List (EngineOp BmListDescriptor)) = [] := by
      split_ifs <;> rfl
    show allJobs (s.ops (.copy o a dmai)) = if CopyStarts s o dmai then s.listed o dmai else []
    rw [ops_copy]
    by_cases hlock : (lockSource o (s.request dmai)).1 ≠ 0
    · rw [if_pos hlock, if_neg fun hstarts : CopyStarts s o dmai => hlock hstarts.1.locked]
      rfl
    rw [if_neg hlock]
    by_cases hsync : VidixDma.syncMode dmai = true
    · rw [if_pos hsync, allJobs_append, hwait, List.nil_append]
      by_cases heol : s.card.eol = true
      · rw [if_pos heol, allJobs_transferOps]
        exact if_congr (and_iff_left fun _ => heol).symm rfl rfl
      · rw [if_neg heol, if_neg fun hstarts : CopyStarts s o dmai => heol (hstarts.2 hsync)]
        rfl
    · rw [if_neg hsync, allJobs_transferOps]
      exact if_congr (and_iff_left fun hsync' => absurd hsync' hsync).symm rfl rfl

theorem guarded_transferOps (e : Engine BmListDescriptor) :
    Guarded Engine.step Undisturbed e (s.transferOps o dmai) ↔ e.left = [] := by
  unfold Transfers.transferOps
  split_ifs <;> exact and_iff_left trivial

/-- An event disturbs the engine iff it resets it while it reads. -/
theorem guarded_ops_undisturbed (h : Sound place s) (ev : TransferEvent) :
    Guarded Engine.step Undisturbed (s.engine place) (s.ops ev) ↔
      (Resets s ev → s.card.reading = none) := by
  have hleft : (s.engine place).left = [] ↔ s.card.reading = none := job_eq_nil_iff h.reads
  cases ev with
  | config info => exact iff_of_true trivial fun hno => hno.elim
  | raise bits => exact iff_of_true trivial fun hno => hno.elim
  | tick => exact iff_of_true ⟨trivial, trivial⟩ fun hno => hno.elim
  | query hung =>
    cases hung with
    | true =>
      have hresets : Resets s (.query true) := rfl
      exact (and_iff_left trivial).trans (hleft.trans (imp_iff_right hresets).symm)
    | false => exact iff_of_true trivial fun hno => absurd hno Bool.false_ne_true
  | copy o a dmai =>
    rw [ops_copy]
    unfold Resets
    dsimp only
    by_cases hlock : (lockSource o (s.request dmai)).1 ≠ 0
    · rw [if_pos hlock]
      exact iff_of_true trivial fun hresets => absurd hresets.1 hlock
    rw [if_neg hlock, and_iff_right (not_not.mp hlock)]
    by_cases hsync : VidixDma.syncMode dmai = true
    · rw [if_pos hsync, guarded_append, forall_prop_of_true hsync]
      cases hhung : a.hung with
      | true =>
        rw [if_pos rfl, forall_prop_of_true (Or.inl rfl)]
        constructor
        · exact fun hall => hleft.mp hall.1.1
        · intro hidle
          refine ⟨⟨hleft.mpr hidle, trivial⟩, ?_⟩
          split_ifs
          · exact (guarded_transferOps _).mpr rfl
          · trivial
      | false =>
        rw [if_neg Bool.false_ne_true]
        by_cases heol : s.card.eol = true
        · rw [if_pos heol, forall_prop_of_true (Or.inr heol)]
          exact (and_iff_right trivial).trans ((guarded_transferOps _).trans hleft)
        · rw [if_neg heol]
          exact iff_of_true ⟨trivial, trivial⟩ fun hor => absurd (hor.resolve_left (by simp)) heol
    · rw [if_neg hsync, guarded_transferOps, hleft]
      exact (imp_iff_right fun hsync' => absurd hsync' hsync).symm

/-- **All that the card was given is carried out, one table after the other, iff no call resets the
engine while it reads.** -/
theorem transfers_lossless_iff (hplace : Apart place) (d : Driver) (bm : Bm)
    (hidle : c.reading = none) (evs : List TransferEvent)
    (hwf : Guarded (Transfers.step place) (Placed place) (.start d bm c) evs) :
    let s := evs.foldl (Transfers.step place) (.start d bm c)
    s.card.moved ++ s.card.job place s.bm.tables =
        c.moved ++ trace (Transfers.step place) Transfers.given (.start d bm c) evs ↔
      Guarded (Transfers.step place) (fun s ev => Resets s ev → s.card.reading = none)
        (.start d bm c) evs := by
  have hsound : Sound place (.start d bm c) := start_sound d bm hidle
  have htotal : ((Transfers.start d bm c).engine place).total = c.moved := by
    have hjob : c.job place bm.tables = [] := (job_eq_nil_iff fun hno => absurd hidle hno).mpr hidle
    show c.moved ++ c.job place bm.tables = c.moved
    rw [hjob, List.append_nil]
  have hdrives := transfers_drive hplace
  obtain ⟨-, hengine⟩ := hdrives.trace ⟨hsound, rfl⟩ hwf
  have hguard : Guarded Engine.step Undisturbed ((Transfers.start d bm c).engine place)
        (trace (Transfers.step place) Transfers.ops (.start d bm c) evs) ↔
      Guarded (Transfers.step place) (fun s ev => Resets s ev → s.card.reading = none)
        (.start d bm c) evs := by
    refine hdrives.guarded_trace_iff ?_ ⟨hsound, rfl⟩ hwf
    rintro s _ ev ⟨h, rfl⟩ -
    exact guarded_ops_undisturbed h ev
  have hall : allJobs (trace (Transfers.step place) Transfers.ops (.start d bm c) evs) =
      trace (Transfers.step place) Transfers.given (.start d bm c) evs := by
    unfold allJobs
    rw [flatMap_trace]
    exact congrArg (trace _ · _ _) (funext₂ allJobs_ops)
  rw [← hguard, ← moved_append_left_iff, ← hengine, htotal, hall]
  rfl

/-- The tables are page by page from 16 MB on. -/
def tablePlace (i : ℕ) : UInt32 := UInt32.ofNat (0x1000000 + i * 4096)

theorem tablePlace_apart : Apart tablePlace := by
  intro i hi j hj heq
  have hi' : i < 64 := hi
  have hj' : j < 64 := hj
  have hnat := congrArg UInt32.toNat heq
  unfold tablePlace at hnat
  rw [toNat_ofNat_of_lt (by omega), toNat_ofNat_of_lt (by omega)] at hnat
  omega

/-- A card that says that it is free. -/
def freeCard : Card := ⟨busMasterDis, crtcBusmasterEolInt, none, []⟩

def sampleTransfers : Transfers :=
  .start { sampleDriver with overlayOffset := 0x800000 } sampleBm freeCard

def sampleCopy (dest size flags idx : UInt32) : TransferEvent :=
  .copy sampleOutside ⟨false, false, 0⟩ (sampleDma dest size flags idx)

/-- Two synchronous copies; the second is asked for twice before the card is ready for it. -/
def syncCopies : List TransferEvent :=
  [sampleCopy 0 8192 bmDmaSync 0, .tick, sampleCopy 8192 4096 bmDmaSync 1, .tick,
    sampleCopy 8192 4096 bmDmaSync 1, .tick]

theorem transfers_lossless_sample :
    let s := syncCopies.foldl (Transfers.step tablePlace) sampleTransfers
    s.card.moved ++ s.card.job tablePlace s.bm.tables =
      [] ++ trace (Transfers.step tablePlace) Transfers.given sampleTransfers syncCopies := by
  have hwf : Guarded (Transfers.step tablePlace) (Placed tablePlace) sampleTransfers
      syncCopies :=
    ⟨⟨by decide, by decide, by decide⟩, trivial, ⟨by decide, by decide, by decide⟩, trivial,
      ⟨by decide, by decide, by decide⟩, trivial, trivial⟩
  refine (transfers_lossless_iff tablePlace_apart _ _ rfl _ hwf).mpr ?_
  refine ⟨fun _ => rfl, fun hno => hno.elim, fun hresets => ?_, fun hno => hno.elim,
    fun _ => by decide, fun hno => hno.elim, trivial⟩
  exact absurd (hresets.2 rfl) (by decide)

/-! ### What the status tells -/

/-- `vixQueryDMAStatus` says busy iff the card reads. -/
def StatusRight (s : Transfers) : Prop :=
  (vixQueryDmaStatus false s.card).1 = 1 ↔ s.card.reading ≠ none

theorem statusRight_iff (h : Sound place s) : StatusRight s ↔ (s.engine place).Right := by
  have hleft : (s.engine place).left = [] ↔ s.card.reading = none := job_eq_nil_iff h.reads
  unfold StatusRight Engine.Right
  rw [queryDmaStatus_eq_one_iff, hleft, ← Bool.not_eq_true]
  exact not_iff_not

/-- A call that stops the card in the middle of a table starts it on another. -/
def LeavesRight (s : Transfers) (ev : TransferEvent) : Prop :=
  Resets s ev → s.card.reading = none ∨ Starts s ev

theorem right_transferOps_iff {e : Engine BmListDescriptor} (h : e.Right)
    (hlisted : Proceeds o s.driver (s.request dmai) → s.listed o dmai ≠ []) :
    ((s.transferOps o dmai).foldl Engine.step e).Right ↔
      e.left = [] ∨ Proceeds o s.driver (s.request dmai) := by
  unfold Transfers.transferOps
  split_ifs with hp
  · exact iff_of_true ((h.step_iff (.start _)).mpr (hlisted hp)) (.inr hp)
  · exact (h.step_iff .stop).trans (or_iff_left hp).symm

theorem listed_ne_nil (h : Sound place s) (hwf : Placed place s (.copy o a dmai))
    (hp : Proceeds o s.driver (s.request dmai)) : s.listed o dmai ≠ [] := by
  obtain ⟨-, hlisted, htable, -⟩ := transfer_of_proceeds h hwf hp
  rw [← hlisted]
  exact upTo_ne_nil htable.ne_nil

theorem right_ops_iff (h : Sound place s) (hright : (s.engine place).Right) {ev : TransferEvent}
    (hwf : Placed place s ev) :
    ((s.ops ev).foldl Engine.step (s.engine place)).Right ↔ LeavesRight s ev := by
  have hleft : (s.engine place).left = [] ↔ s.card.reading = none := job_eq_nil_iff h.reads
  cases ev with
  | config info => exact iff_of_true hright fun hno => hno.elim
  | raise bits => exact iff_of_true hright fun hno => hno.elim
  | tick => exact iff_of_true ((hright.step_iff .tick).mpr trivial) fun hno => hno.elim
  | query hung =>
    cases hung with
    | true =>
      have hresets : Resets s (.query true) := rfl
      refine (hright.step_iff .stop).trans (hleft.trans ?_)
      exact ((imp_iff_right hresets).trans (or_iff_left id)).symm
    | false => exact iff_of_true hright fun hno => absurd hno Bool.false_ne_true
  | copy o a dmai =>
    have hlisted := listed_ne_nil h hwf
    rw [ops_copy]
    unfold LeavesRight Resets Starts CopyStarts
    dsimp only
    by_cases hlock : (lockSource o (s.request dmai)).1 ≠ 0
    · rw [if_pos hlock]
      exact iff_of_true hright fun hresets => absurd hresets.1 hlock
    rw [if_neg hlock, and_iff_right (not_not.mp hlock)]
    by_cases hsync : VidixDma.syncMode dmai = true
    · rw [if_pos hsync, forall_prop_of_true hsync, forall_prop_of_true hsync, List.foldl_append]
      by_cases heol : s.card.eol = true
      · -- the status is free, and so the card is idle
        have hidle : (s.engine place).left = [] := hright.mp heol
        refine iff_of_true ?_ fun _ => .inl (hleft.mp hidle)
        rw [if_pos heol]
        cases hhung : a.hung with
        | true =>
          have hstopped : ((s.engine place).step .stop).Right := (hright.step_iff .stop).mpr hidle
          exact (right_transferOps_iff hstopped hlisted).mpr (.inl rfl)
        | false => exact (right_transferOps_iff hright hlisted).mpr (.inl hidle)
      · rw [if_neg heol, or_iff_left heol, or_iff_left fun hstarts => heol hstarts.2]
        cases hhung : a.hung with
        | true => exact (hright.step_iff .stop).trans (hleft.trans (imp_iff_right rfl).symm)
        | false => exact iff_of_true hright fun hno => absurd hno Bool.false_ne_true
    · rw [if_neg hsync, right_transferOps_iff hright hlisted, hleft,
        imp_iff_right fun hsync' => absurd hsync' hsync,
        and_iff_left fun hsync' => absurd hsync' hsync]

/-- **`vixQueryDMAStatus` tells throughout a run whether the card reads, iff each call that stops
the card in the middle of a table starts it on another.** -/
theorem queryDmaStatus_right_iff (hplace : Apart place) (d : Driver) (bm : Bm)
    (hidle : c.reading = none) (hfree : (vixQueryDmaStatus false c).1 = 0)
    (evs : List TransferEvent)
    (hwf : Guarded (Transfers.step place) (Placed place) (.start d bm c) evs) :
    (∀ pre, pre <+: evs → StatusRight (pre.foldl (Transfers.step place) (.start d bm c))) ↔
      Guarded (Transfers.step place) LeavesRight (.start d bm c) evs := by
  have hsound : Sound place (.start d bm c) := start_sound d bm hidle
  have hstart : StatusRight (.start d bm c) := by
    refine iff_of_false (fun hbusy => ?_) fun hno => hno hidle
    rw [show (Transfers.start d bm c).card = c from rfl, hfree] at hbusy
    exact absurd hbusy (by decide)
  have hnext : ∀ s ev, Sound place s ∧ StatusRight s → Placed place s ev →
      Sound place (s.step place ev) ∧ (StatusRight (s.step place ev) ↔ LeavesRight s ev) := by
    rintro s ev ⟨h, hright⟩ hok
    obtain ⟨hsound', hengine⟩ := transfers_drive hplace s _ ev ⟨h, rfl⟩ hok
    refine ⟨hsound', ?_⟩
    rw [statusRight_iff hsound', hengine]
    exact right_ops_iff h ((statusRight_iff h).mp hright) hok
  refine forall_prefix_iff_guarded_of_wf (fun s => Sound place s ∧ StatusRight s) StatusRight
    (fun _ h => h.2) (fun s ev h hok hleaves => ?_) (fun s ev h hok hright => ?_)
    ⟨hsound, hstart⟩ hwf
  · exact ⟨(hnext s ev h hok).1, (hnext s ev h hok).2.mpr hleaves⟩
  · exact (hnext s ev h hok).2.mp hright

/-- A copy that is too large for the memory is asked for while the card reads. -/
def refusedCopies : List TransferEvent :=
  [sampleCopy 0 8192 0 0, .tick, sampleCopy 0x800000 4096 0 1]

theorem refusedCopies_placed :
    Guarded (Transfers.step tablePlace) (Placed tablePlace) sampleTransfers refusedCopies :=
  ⟨⟨by decide, by decide, by decide⟩, trivial, ⟨by decide, by decide, by decide⟩, trivial⟩

theorem queryDmaStatus_wrong_sample :
    ¬ ∀ pre, pre <+: refusedCopies →
      StatusRight (pre.foldl (Transfers.step tablePlace) sampleTransfers) := by
  intro hall
  have hguard := (queryDmaStatus_right_iff tablePlace_apart _ _ rfl rfl _
    refusedCopies_placed).mp hall
  rcases hguard.2.2.1 ⟨by decide, fun hsync => absurd hsync (by decide)⟩ with hidle | hstarts
  · exact absurd hidle (by decide)
  · exact absurd hstarts.1 (by decide)

/-! ### Waiting for the card -/

theorem ticks_engine (h : Sound place s) (hplace : Apart place) (n : ℕ) :
    Sound place ((Transfers.step place · .tick)^[n] s) ∧
      ((Transfers.step place · .tick)^[n] s).engine place =
        (Engine.step · .tick)^[n] (s.engine place) := by
  induction n generalizing s with
  | zero => exact ⟨h, rfl⟩
  | succ n ih =>
    obtain ⟨hnext, hengine⟩ := transfers_drive hplace s _ .tick ⟨h, rfl⟩ trivial
    obtain ⟨hlast, hticks⟩ := ih hnext
    refine ⟨hlast, ?_⟩
    rw [Function.iterate_succ_apply, Function.iterate_succ_apply, hticks, hengine]
    rfl

/-- **A synchronous copy gets out of its loop iff the status is free or the card reads,** whatever
calls have been made before. -/
theorem sync_served_iff (hplace : Apart place) (d : Driver) (bm : Bm) (hidle : c.reading = none)
    (evs : List TransferEvent)
    (hwf : Guarded (Transfers.step place) (Placed place) (.start d bm c) evs) :
    let s := evs.foldl (Transfers.step place) (.start d bm c)
    (∃ n, (vixQueryDmaStatus false ((Transfers.step place · .tick)^[n] s).card).1 = 0) ↔
      (vixQueryDmaStatus false s.card).1 = 0 ∨ s.card.reading ≠ none := by
  have hfree : ∀ c : Card, (vixQueryDmaStatus false c).1 = 0 ↔ c.eol = true := by
    intro c
    rw [← Bool.not_eq_false, ← queryDmaStatus_ne_zero_iff false, not_not]
  obtain ⟨hsound, -⟩ := (transfers_drive hplace).trace ⟨start_sound d bm hidle, rfl⟩ hwf
  have hleft := job_eq_nil_iff hsound.reads
  intro s
  have hticks : ∀ n, ((Transfers.step place · .tick)^[n] s).card.eol =
      ((Engine.step · .tick)^[n] (s.engine place)).done := fun n =>
    congrArg Engine.done (ticks_engine hsound hplace n).2
  simp only [hfree, hticks]
  rw [Engine.exists_ticks_iff]
  exact or_congr Iff.rfl (not_iff_not.mpr hleft)

/-- After the copy that was too large the card is idle, and says that it is busy, for ever. -/
theorem sync_served_never_sample :
    ¬ ∃ n, (vixQueryDmaStatus false ((Transfers.step tablePlace · .tick)^[n]
      (refusedCopies.foldl (Transfers.step tablePlace) sampleTransfers)).card).1 = 0 := by
  intro hserved
  have hcase := (sync_served_iff tablePlace_apart _ _ rfl _ refusedCopies_placed).mp hserved
  exact absurd hcase (by decide)

end Vidix.Mach64
