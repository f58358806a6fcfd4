import Vidix.BusMaster.Equiv.SetupFrame
import Vidix.Util.GuardedRun

/-!
# The descriptor tables of the Mach64 driver over time

`mach64_setup_frame` reuses the table of a fixed buffer that has been filled once, whatever has
changed since.  A session records what each table was last filled for (`Filling`).  Since a list
tells what it was filled for, a reused table describes its request iff the two agree, and so every
request that returns 0 is described iff each of them either fills its table or agrees with the last
one that did: `copyFrame_coherent_iff`.
-/

namespace Vidix.Mach64

open Util Libdha Dhahelper

variable {o : Outside} {d : Driver} {bm : Bm} {dmai : VidixDma}

/-! ### Fillings -/

/-- What the list at the front of a table was filled for: the place of the first byte in video
memory, the size, and the bus addresses of the pages. -/
structure Filling where
  start : UInt32
  size : UInt32
  pages : List UInt32
  deriving DecidableEq, Repr

/-- What a request wants its table to be filled for. -/
def filling (h : Helper) (overlayOffset : Int32) (dmai : VidixDma) : Filling where
  start := startWord overlayOffset dmai
  size := dmai.size
  pages := (List.range (items 4096 dmai.size.toNat)).map fun i => (busPage h dmai.src i).toUInt32

/-- The list that is filled in for it. -/
def Filling.list (f : Filling) : List BmListDescriptor :=
  descriptors f.start f.size fun i => f.pages.getD i 0

theorem filling_list (h : Helper) (overlayOffset : Int32) (dmai : VidixDma) :
    (filling h overlayOffset dmai).list =
      descriptors (overlayOffset.toUInt32 + dmai.destOffset) dmai.size
        fun i => (busPage h dmai.src i).toUInt32 := by
  refine List.map_congr_left fun i hi => ?_
  have hi' : i < items 4096 dmai.size.toNat := List.mem_range.mp hi
  unfold descriptor filling
  dsimp only
  rw [getD_map_range _ _ hi', startWord]

/-- A filling with a page address for each page, and something to copy. -/
structure Filling.Wf (f : Filling) : Prop where
  size_pos : 1 ≤ f.size.toNat
  length_pages : f.pages.length = items 4096 f.size.toNat

theorem filling_wf {h : Helper} {overlayOffset : Int32} (hsize : 1 ≤ dmai.size.toNat) :
    (filling h overlayOffset dmai).Wf := by
  refine ⟨hsize, ?_⟩
  unfold filling
  rw [List.length_map, List.length_range]

/-- **A table has been filled for one thing only.** -/
theorem Filling.eq_of_prefix {f f' : Filling} {table : List BmListDescriptor} (hf : f.Wf)
    (hf' : f'.Wf) (hp : f.list <+: table) (hp' : f'.list <+: table) : f = f' := by
  obtain ⟨hstart, hsize, hpages⟩ := descriptors_inj hf.size_pos hf'.size_pos hp hp'
  have hlen : f.pages.length = f'.pages.length := by
    rw [hf.length_pages, hf'.length_pages, hsize]
  have hlist : f.pages = f'.pages := by
    refine List.ext_getElem hlen fun i hi hi' => ?_
    have hpage := hpages i (hf.length_pages ▸ hi)
    rwa [List.getD_eq_getElem _ _ hi, List.getD_eq_getElem _ _ hi'] at hpage
  obtain ⟨start, size, pages⟩ := f
  obtain ⟨start', size', pages'⟩ := f'
  rw [Filling.mk.injEq]
  exact ⟨hstart, hsize, hlist⟩

/-! ### What a request comes to -/

/-- The request gets to the card. -/
structure Proceeds (o : Outside) (d : Driver) (dmai : VidixDma) : Prop where
  locked : (lockSource o dmai).1 = 0
  within : WithinBound d dmai
  table : reusesTable (clampIdx dmai) = true ∨
    (bmVirtToBus (lockSource o dmai).2 o.writable dmai.src dmai.size.toUInt64).1 = 0

/-- `bus_addr_dma_desc` as a request leaves it when its table is table `i`. -/
def busAddrAfter (h : Helper) (bm : Bm) (i : ℕ) : UInt64 :=
  (bmVirtToBus h (fun _ => true) (bm.dmaDescBase i) 1).2.headD bm.busAddrDmaDesc

/-- What all requests leave alone. -/
structure SameTables (bm bm' : Bm) : Prop where
  dmaDescBase : bm'.dmaDescBase = bm.dmaDescBase
  tables : bm'.tables = bm.tables

@[simp] theorem clampIdx_internal (dmai : VidixDma) : (clampIdx dmai).internal = dmai.internal := by
  unfold clampIdx
  split_ifs <;> rfl

/-- A request that does not get to the card leaves the tables alone.  It returns an error, or after
a lock that failed whatever is in `errno`. -/
theorem copyFrame_of_not_proceeds (o : Outside) (d : Driver) (bm : Bm) (dmai : VidixDma)
    (hp : ¬ Proceeds o d dmai) :
    ∃ ret bm' dmai', vixPlaybackCopyFrame o d bm dmai = ⟨ret, bm', dmai', none⟩ ∧
      (ret = 0 ↔ (lockSource o dmai).1 ≠ 0 ∧ o.errno = 0) ∧ SameTables bm bm' ∧
      dmai'.internal = dmai.internal := by
  unfold vixPlaybackCopyFrame
  dsimp only
  by_cases hl : (lockSource o dmai).1 = 0
  · have hsetup : ∃ ret physAddrs dmai',
        mach64SetupFrame (lockSource o dmai).2 o.writable d bm dmai =
          (ret, { bm with dmaPhysAddrs := physAddrs }, dmai') ∧ ret ≠ 0 ∧
        dmai'.internal = dmai.internal := by
      by_cases hb : WithinBound d dmai
      · have htable : ¬ (reusesTable (clampIdx dmai) = true ∨
            (bmVirtToBus (lockSource o dmai).2 o.writable dmai.src dmai.size.toUInt64).1 = 0) :=
          fun h => hp ⟨hl, hb, h⟩
        obtain ⟨hreuse, hret⟩ := not_or.mp htable
        obtain ⟨physAddrs, heq⟩ := mach64SetupFrame_of_failed bm hb hreuse hret
        exact ⟨_, physAddrs, _, heq, hret, clampIdx_internal dmai⟩
      · exact ⟨e2big, bm.dmaPhysAddrs, dmai, mach64SetupFrame_of_not_within bm hb, by decide, rfl⟩
    obtain ⟨ret, physAddrs, dmai', heq, hret, hinternal⟩ := hsetup
    rw [if_neg (not_not.mpr hl), heq]
    dsimp only
    rw [if_neg hret]
    exact ⟨_, _, _, rfl, iff_of_false hret fun hall => hall.1 hl, ⟨rfl, rfl⟩, hinternal⟩
  · rw [if_pos hl]
    exact ⟨_, _, _, rfl, (and_iff_right hl).symm, ⟨rfl, rfl⟩, rfl⟩

/-- A request that reuses its table. -/
theorem copyFrame_of_reuse (o : Outside) (d : Driver) (bm : Bm) (dmai : VidixDma)
    (hp : Proceeds o d dmai) (hreuse : reusesTable (clampIdx dmai) = true) :
    ∃ bm' dmai', vixPlaybackCopyFrame o d bm dmai =
        ⟨0, bm', dmai', some (busAddrAfter (lockSource o dmai).2 bm (tableIdx dmai)).toUInt32⟩ ∧
      SameTables bm bm' ∧ dmai'.internal = dmai.internal := by
  unfold vixPlaybackCopyFrame
  dsimp only
  rw [if_neg (not_not.mpr hp.locked), mach64SetupFrame_of_reuse bm hp.within hreuse]
  dsimp only
  rw [if_pos rfl]
  exact ⟨_, _, rfl, ⟨rfl, rfl⟩, clampIdx_internal dmai⟩

/-- A request that fills its table. -/
theorem copyFrame_of_fill (o : Outside) (d : Driver) (bm : Bm) (dmai : VidixDma)
    (hp : Proceeds o d dmai) (hreuse : ¬ reusesTable (clampIdx dmai) = true) :
    ∃ bm' dmai', vixPlaybackCopyFrame o d bm dmai =
        ⟨0, bm', dmai', some (busAddrAfter (lockSource o dmai).2 bm (tableIdx dmai)).toUInt32⟩ ∧
      bm'.dmaDescBase = bm.dmaDescBase ∧
      bm'.tables = Function.update bm.tables (tableIdx dmai)
        (storeFront (filling (lockSource o dmai).2 d.overlayOffset dmai).list
          (bm.tables (tableIdx dmai))) ∧
      dmai'.internal =
        Function.update dmai.internal (tableIdx dmai) (bm.dmaDescBase (tableIdx dmai)) := by
  obtain ⟨physAddrs, heq⟩ :=
    mach64SetupFrame_of_translated bm hp.within hreuse (hp.table.resolve_left hreuse)
  unfold vixPlaybackCopyFrame
  dsimp only
  rw [if_neg (not_not.mpr hp.locked), heq]
  dsimp only
  rw [if_pos rfl, filling_list]
  exact ⟨_, _, rfl, rfl, rfl, by rw [clampIdx_internal]⟩

/-! ### What a request is owed -/

/-- The bus address of table `i`. -/
def tableAddr (h : Helper) (bm : Bm) (i : ℕ) : UInt64 := busPage h (bm.dmaDescBase i) 0

/-- A table can describe the request at all: there is something to copy, the table has room for its
pages, and these are below 4 GB on the bus. -/
structure Describable (h : Helper) (d : Driver) (dmai : VidixDma) : Prop where
  size_pos : 1 ≤ dmai.size.toNat
  fits : items 4096 dmai.size.toNat ≤ descEntries d
  below : ∀ i < items 4096 dmai.size.toNat, (busPage h dmai.src i).toNat < 2 ^ 32

/-- The table describes the source, the size and the place of the request under the overlay offset
of the driver. -/
structure Describes (h : Helper) (d : Driver) (dmai : VidixDma) (table : List BmListDescriptor) :
    Prop where
  describable : Describable h d dmai
  list : (filling h d.overlayOffset dmai).list <+: table

/-- The driver knows, or happens to know, where table `i` is, and it is below 4 GB. -/
structure TableKnown (h : Helper) (bm : Bm) (i : ℕ) : Prop where
  below : (tableAddr h bm i).toNat < 2 ^ 32
  known : (bmVirtToBus h (fun _ => true) (bm.dmaDescBase i) 1).1 = 0 ∨
    bm.busAddrDmaDesc.toUInt32 = (tableAddr h bm i).toUInt32

theorem busAddrAfter_eq (h : Helper) (bm : Bm) (i : ℕ) :
    busAddrAfter h bm i =
      if (bmVirtToBus h (fun _ => true) (bm.dmaDescBase i) 1).1 = 0 then tableAddr h bm i
      else bm.busAddrDmaDesc := by
  unfold busAddrAfter
  split_ifs with hret
  · rw [bmVirtToBus_eq hret]
    rfl
  · rw [bmVirtToBus_of_failed hret]
    rfl

theorem toNat_busAddrAfter_iff (h : Helper) (bm : Bm) (i : ℕ) :
    (busAddrAfter h bm i).toUInt32.toNat = (tableAddr h bm i).toNat ↔ TableKnown h bm i := by
  have hcut := UInt64.toNat_toUInt32 (tableAddr h bm i)
  have hlt : (busAddrAfter h bm i).toUInt32.toNat < 2 ^ 32 := UInt32.toNat_lt _
  rw [busAddrAfter_eq] at hlt ⊢
  constructor
  · intro heq
    have hbelow : (tableAddr h bm i).toNat < 2 ^ 32 := heq ▸ hlt
    refine ⟨hbelow, ?_⟩
    split_ifs at heq with hret
    · exact Or.inl hret
    · right
      apply UInt32.toNat_inj.mp
      rw [heq, hcut, Nat.mod_eq_of_lt hbelow]
  · rintro ⟨hbelow, hknown⟩
    rw [Nat.mod_eq_of_lt hbelow] at hcut
    split_ifs with hret
    · exact hcut
    · rw [hknown.resolve_left hret, hcut]

/-! ### Sessions -/

/-- A call of the application. -/
inductive Call
  | config (info : VidixPlayback)
  | copy (o : Outside) (dmai : VidixDma)

/-- What a frame copy came to; `helper` is the kernel as it was for the request. -/
structure Served where
  ret : ℤ
  handed : Option UInt32
  dmai : VidixDma
  helper : Helper

/-- The driver and the `internal[]` of one `vidix_dma_t`, with what each table was last filled for
and what the last call came to, if it was a frame copy. -/
structure Session where
  driver : Driver
  bm : Bm
  internal : ℕ → UInt64
  filled : ℕ → Option Filling
  last : Option Served

instance (d : Driver) (dmai : VidixDma) : Decidable (WithinBound d dmai) :=
  inferInstanceAs (Decidable (_ ≤ _))

instance (o : Outside) (d : Driver) (dmai : VidixDma) : Decidable (Proceeds o d dmai) :=
  decidable_of_iff (_ ∧ _ ∧ _) ⟨fun h => ⟨h.1, h.2.1, h.2.2⟩, fun h => ⟨h.1, h.2, h.3⟩⟩

/-- The request that the driver gets: what the application has set, and `internal[]`. -/
def Session.dma (s : Session) (dmai : VidixDma) : VidixDma := { dmai with internal := s.internal }

def Session.copy (s : Session) (o : Outside) (dmai : VidixDma) : Session :=
  let dmai := s.dma dmai
  let h := (lockSource o dmai).2
  let r := vixPlaybackCopyFrame o s.driver s.bm dmai
  { driver := s.driver
    bm := r.bm
    internal := r.dmai.internal
    filled :=
      if Proceeds o s.driver dmai ∧ ¬ reusesTable (clampIdx dmai) = true then
        Function.update s.filled (tableIdx dmai) (some (filling h s.driver.overlayOffset dmai))
      else s.filled
    last := some ⟨r.ret, r.handed, dmai, h⟩ }

def Session.step (s : Session) : Call → Session
  | .config info =>
    match vixConfigPlayback s.driver info with
    | some (_, d, _) => { s with driver := d, last := none }
    -- the program has ended
    | none => { s with last := none }
  | .copy o dmai => s.copy o dmai

/-- If the last call was a frame copy that returned 0, the card was given the table of its index,
and that table describes the request. -/
def Coherent (s : Session) : Prop :=
  ∀ r, s.last = some r → r.ret = 0 →
    r.handed.map UInt32.toNat = some (tableAddr r.helper s.bm (tableIdx r.dmai)).toNat ∧
      Describes r.helper s.driver r.dmai (s.bm.tables (tableIdx r.dmai))

/-- The indices that the driver has tables for. -/
def IndexBelow : Session → Call → Prop
  | _, .config _ => True
  | _, .copy _ dmai => dmai.idx.toNat < descTables

/-- A request that its table will describe if it gets to the card. -/
structure Current (s : Session) (o : Outside) (dmai : VidixDma) : Prop where
  describable : Describable (lockSource o dmai).2 s.driver dmai
  known : TableKnown (lockSource o dmai).2 s.bm (tableIdx dmai)
  /-- A table that is reused was last filled for the same. -/
  same : reusesTable (clampIdx dmai) = true →
    s.filled (tableIdx dmai) = some (filling (lockSource o dmai).2 s.driver.overlayOffset dmai)

/-- A call that keeps the session coherent: it configures, or if it copies a frame, a lock that
fails leaves an error in `errno`, and if the request gets to the card it is current. -/
def KeepsCoherent (s : Session) : Call → Prop
  | .config _ => True
  | .copy o dmai =>
    ((lockSource o (s.dma dmai)).1 ≠ 0 → o.errno ≠ 0) ∧
      (Proceeds o s.driver (s.dma dmai) → Current s o (s.dma dmai))

/-! ### Every call -/

/-- The tables that `internal[]` takes as filled have their fillings, and the last copy was
described. -/
structure Settled (s : Session) : Prop where
  filled : ∀ i < descTables, s.internal i ≠ 0 →
    ∃ f, s.filled i = some f ∧ f.Wf ∧ f.list <+: s.bm.tables i
  coherent : Coherent s

variable {s : Session}

theorem tableIdx_of_lt (hidx : dmai.idx.toNat < descTables) : tableIdx dmai < descTables := by
  unfold descTables at hidx ⊢
  rw [tableIdx_eq, if_neg (by omega)]
  exact hidx

theorem internal_of_reuse (hreuse : reusesTable (clampIdx (s.dma dmai)) = true) :
    s.internal (tableIdx (s.dma dmai)) ≠ 0 := by
  unfold reusesTable at hreuse
  rw [Bool.and_eq_true, bne_iff_ne, clampIdx_internal] at hreuse
  exact hreuse.1

/-- A session after a frame copy. -/
theorem copy_eq {ret : ℤ} {bm' : Bm} {dmai' : VidixDma} {handed : Option UInt32}
    (hrun : vixPlaybackCopyFrame o s.driver s.bm (s.dma dmai) = ⟨ret, bm', dmai', handed⟩) :
    s.copy o dmai =
      { driver := s.driver
        bm := bm'
        internal := dmai'.internal
        filled :=
          if Proceeds o s.driver (s.dma dmai) ∧ ¬ reusesTable (clampIdx (s.dma dmai)) = true then
            Function.update s.filled (tableIdx (s.dma dmai))
              (some (filling (lockSource o (s.dma dmai)).2 s.driver.overlayOffset (s.dma dmai)))
          else s.filled
        last := some ⟨ret, handed, s.dma dmai, (lockSource o (s.dma dmai)).2⟩ } := by
  unfold Session.copy
  dsimp only
  rw [hrun]

theorem coherent_of_last {r : Served} (hlast : s.last = some r) :
    Coherent s ↔ (r.ret = 0 →
      r.handed.map UInt32.toNat = some (tableAddr r.helper s.bm (tableIdx r.dmai)).toNat ∧
        Describes r.helper s.driver r.dmai (s.bm.tables (tableIdx r.dmai))) := by
  unfold Coherent
  rw [hlast]
  constructor
  · exact fun h => h r rfl
  · intro h r' hr
    obtain rfl := Option.some.inj hr
    exact h

/-- A copy that the card was given a table for is coherent iff that was its table, and described
it. -/
theorem coherent_copy_iff_of_handed {bm' : Bm} {dmai' : VidixDma}
    (hrun : vixPlaybackCopyFrame o s.driver s.bm (s.dma dmai) = ⟨0, bm', dmai',
      some (busAddrAfter (lockSource o (s.dma dmai)).2 s.bm (tableIdx (s.dma dmai))).toUInt32⟩)
    (hbase : bm'.dmaDescBase = s.bm.dmaDescBase) :
    Coherent (s.copy o dmai) ↔
      TableKnown (lockSource o (s.dma dmai)).2 s.bm (tableIdx (s.dma dmai)) ∧
        Describes (lockSource o (s.dma dmai)).2 s.driver (s.dma dmai)
          (bm'.tables (tableIdx (s.dma dmai))) := by
  rw [copy_eq hrun, coherent_of_last rfl, forall_prop_of_true rfl, ← toNat_busAddrAfter_iff]
  dsimp only
  rw [Option.map_some, Option.some.injEq, tableAddr, hbase]
  rfl

/-- **A copy is coherent iff it keeps to the condition,** after a session that was. -/
theorem coherent_copy_iff (h : Settled s) (hidx : dmai.idx.toNat < descTables) :
    Coherent (s.copy o dmai) ↔ KeepsCoherent s (.copy o dmai) := by
  have hlt : tableIdx (s.dma dmai) < descTables := tableIdx_of_lt hidx
  show _ ↔ ((lockSource o (s.dma dmai)).1 ≠ 0 → o.errno ≠ 0) ∧
    (Proceeds o s.driver (s.dma dmai) → Current s o (s.dma dmai))
  by_cases hp : Proceeds o s.driver (s.dma dmai)
  · rw [forall_prop_of_true hp, and_iff_right fun hl => absurd hp.locked hl]
    by_cases hreuse : reusesTable (clampIdx (s.dma dmai)) = true
    · obtain ⟨bm', dmai', hrun, hsame, -⟩ := copyFrame_of_reuse o s.driver s.bm _ hp hreuse
      rw [coherent_copy_iff_of_handed hrun hsame.dmaDescBase, hsame.tables]
      obtain ⟨f, hf, hwf, hlist⟩ := h.filled _ hlt (internal_of_reuse hreuse)
      constructor
      · rintro ⟨hknown, hdesc, hlist'⟩
        refine ⟨hdesc, hknown, fun _ => ?_⟩
        rw [hf, Filling.eq_of_prefix hwf (filling_wf hdesc.size_pos) hlist hlist']
      · rintro ⟨hdesc, hknown, hsame'⟩
        refine ⟨hknown, hdesc, ?_⟩
        have hfilling := hsame' hreuse
        rw [hf, Option.some.injEq] at hfilling
        rw [← hfilling]
        exact hlist
    · obtain ⟨bm', dmai', hrun, hbase, htables, -⟩ :=
        copyFrame_of_fill o s.driver s.bm _ hp hreuse
      rw [coherent_copy_iff_of_handed hrun hbase, htables, Function.update_self]
      constructor
      · rintro ⟨hknown, hdesc, -⟩
        exact ⟨hdesc, hknown, fun h => absurd h hreuse⟩
      · rintro ⟨hdesc, hknown, -⟩
        exact ⟨hknown, hdesc, List.prefix_append _ _⟩
  · obtain ⟨ret, bm', dmai', hrun, hret, -, -⟩ :=
      copyFrame_of_not_proceeds o s.driver s.bm _ hp
    rw [copy_eq hrun, coherent_of_last rfl, and_iff_left fun h => absurd h hp]
    dsimp only
    constructor
    · intro hnone hl herrno
      exact absurd (hnone (hret.mpr ⟨hl, herrno⟩)).1 (by simp)
    · intro herrno hzero
      obtain ⟨hl, hzero'⟩ := hret.mp hzero
      exact absurd hzero' (herrno hl)

/-- A copy that is coherent leaves the tables that are taken as filled with their fillings. -/
theorem filled_copy (h : Settled s) (hok : KeepsCoherent s (.copy o dmai)) :
    ∀ i < descTables, (s.copy o dmai).internal i ≠ 0 →
      ∃ f, (s.copy o dmai).filled i = some f ∧ f.Wf ∧ f.list <+: (s.copy o dmai).bm.tables i := by
  by_cases hp : Proceeds o s.driver (s.dma dmai)
  · by_cases hreuse : reusesTable (clampIdx (s.dma dmai)) = true
    · obtain ⟨bm', dmai', hrun, hsame, hinternal⟩ := copyFrame_of_reuse o s.driver s.bm _ hp hreuse
      rw [copy_eq hrun, if_neg fun hfill => hfill.2 hreuse]
      dsimp only
      rw [hinternal, hsame.tables]
      exact h.filled
    · obtain ⟨bm', dmai', hrun, -, htables, hinternal⟩ :=
        copyFrame_of_fill o s.driver s.bm _ hp hreuse
      rw [copy_eq hrun, if_pos ⟨hp, hreuse⟩]
      dsimp only
      rw [hinternal, htables]
      intro i hi hne
      by_cases hidx' : i = tableIdx (s.dma dmai)
      · subst hidx'
        rw [Function.update_self, Function.update_self]
        exact ⟨_, rfl, filling_wf (hok.2 hp).describable.size_pos, List.prefix_append _ _⟩
      · rw [Function.update_of_ne hidx'] at hne
        rw [Function.update_of_ne hidx', Function.update_of_ne hidx']
        exact h.filled i hi hne
  · obtain ⟨ret, bm', dmai', hrun, -, hsame, hinternal⟩ :=
      copyFrame_of_not_proceeds o s.driver s.bm _ hp
    rw [copy_eq hrun, if_neg fun hfill => hp hfill.1]
    dsimp only
    rw [hinternal, hsame.tables]
    exact h.filled

/-! ### Whole sessions -/

theorem step_config (s : Session) (info : VidixPlayback) :
    (s.step (.config info)).bm = s.bm ∧ (s.step (.config info)).internal = s.internal ∧
      (s.step (.config info)).filled = s.filled ∧ (s.step (.config info)).last = none := by
  unfold Session.step
  dsimp only
  split
  · exact ⟨rfl, rfl, rfl, rfl⟩
  · exact ⟨rfl, rfl, rfl, rfl⟩

theorem Settled.step (h : Settled s) {call : Call} (hidx : IndexBelow s call)
    (hok : KeepsCoherent s call) : Settled (s.step call) := by
  cases call with
  | config info =>
    obtain ⟨hbm, hinternal, hfilled, hlast⟩ := step_config s info
    constructor
    · rw [hbm, hinternal, hfilled]
      exact h.filled
    · intro r hr
      rw [hlast] at hr
      cases hr
  | copy o dmai => exact ⟨filled_copy h hok, (coherent_copy_iff h hidx).mpr hok⟩

theorem Settled.keepsCoherent (h : Settled s) {call : Call} (hidx : IndexBelow s call)
    (hcoherent : Coherent (s.step call)) : KeepsCoherent s call := by
  cases call with
  | config info => trivial
  | copy o dmai => exact (coherent_copy_iff h hidx).mp hcoherent

/-- Before the first call: `vdlAllocDmaS` clears the `vidix_dma_t`, and the tables hold anything. -/
def Session.start (d : Driver) (bm : Bm) : Session where
  driver := d
  bm := bm
  internal _ := 0
  filled _ := none
  last := none

theorem settled_start (d : Driver) (bm : Bm) : Settled (.start d bm) :=
  ⟨fun _ _ hne => absurd rfl hne, fun _ hr => absurd hr (by simp [Session.start])⟩

/-- **Every frame copy that returns 0 is described by the table that the card gets iff every call
keeps to the condition.** -/
theorem copyFrame_coherent_iff (d : Driver) (bm : Bm) (calls : List Call)
    (hidx : Guarded Session.step IndexBelow (.start d bm) calls) :
    (∀ pre, pre <+: calls → Coherent (pre.foldl Session.step (.start d bm))) ↔
      Guarded Session.step KeepsCoherent (.start d bm) calls :=
  forall_prefix_iff_guarded_of_wf Settled Coherent (fun _ h => h.coherent)
    (fun _ _ h hidx hok => h.step hidx hok) (fun _ _ h hidx hcoh => h.keepsCoherent hidx hcoh)
    (settled_start d bm) hidx

/-- The kernel answers every request. -/
def sampleOutside : Outside where
  helper := sampleHelper
  writable _ := true
  mlock := 0
  errno := 0

/-- A card with 16 MB, configured for frames from 8 MB on, and a fixed buffer to be copied to
`dest` and then to `dest'`. -/
def sampleStart : Session := .start { sampleDriver with overlayOffset := 0x800000 } sampleBm

def sampleCopies (dest dest' : UInt32) : List Call :=
  [.copy sampleOutside (sampleDma dest 4096 bmDmaFixedBuffs 0),
    .copy sampleOutside (sampleDma dest' 4096 bmDmaFixedBuffs 0)]

/-- A fixed buffer that is copied to the same place twice. -/
theorem copyFrame_coherent_twice :
    Guarded Session.step KeepsCoherent sampleStart (sampleCopies 0 0) ∧
      ∀ pre, pre <+: sampleCopies 0 0 → Coherent (pre.foldl Session.step sampleStart) := by
  have hidx : Guarded Session.step IndexBelow sampleStart (sampleCopies 0 0) := by
    refine ⟨?_, ?_, trivial⟩
    · show _ < _
      decide
    · show _ < _
      decide
  have hkeeps : Guarded Session.step KeepsCoherent sampleStart (sampleCopies 0 0) := by
    refine ⟨⟨fun hl => absurd rfl hl, fun _ => ?_⟩, ⟨fun hl => absurd rfl hl, fun _ => ?_⟩,
      trivial⟩
    · refine ⟨⟨by decide, by decide, by decide⟩, ⟨by decide, Or.inl (by decide)⟩, ?_⟩
      exact fun hreuse => absurd hreuse (by decide)
    · exact ⟨⟨by decide, by decide, by decide⟩, ⟨by decide, Or.inl (by decide)⟩,
        fun _ => by decide⟩
  exact ⟨hkeeps, (copyFrame_coherent_iff { sampleDriver with overlayOffset := 0x800000 } sampleBm
    (sampleCopies 0 0) hidx).mpr hkeeps⟩

/-- **A fixed buffer that is copied to two places goes to the first one twice.** -/
theorem copyFrame_stale_table :
    Guarded Session.step IndexBelow sampleStart (sampleCopies 0 4096) ∧
      ¬ ∀ pre, pre <+: sampleCopies 0 4096 → Coherent (pre.foldl Session.step sampleStart) := by
  refine ⟨⟨?_, ?_, trivial⟩, fun h => ?_⟩
  · show _ < _
    decide
  · show _ < _
    decide
  · have hlist := (h _ (List.prefix_refl _) _ rfl (by decide)).2.list
    revert hlist
    decide

end Vidix.Mach64
