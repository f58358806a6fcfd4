import Vidix.S3.Equiv.Config
import Vidix.Util.Ledger

/-!
# The mappings of the savage and s3 drivers

Each configuration that finds room maps the memory of the card, and forgets what the one before it
has mapped; `vixDestroy` unmaps what the last of them has been answered, a mapping or not.  So
everything that a session maps is unmapped, and nothing else, iff one configuration was given a
mapping and none after it has asked for another: `mappings_balanced_iff`.
-/

namespace Vidix.Savage

open Util

/-! ### Sessions in general -/

/-- A mapping is known by its address and length; one that has failed is none. -/
def entry : PhysOp → Option (Entry (UInt64 × UInt64))
  | .map _ size ptr => if ptr = mapFailed then none else some (.opened (ptr, size))
  | .unmap ptr size => some (.closed (ptr, size))

/-- Every mapping has been undone exactly once, with its address and length, and nothing else. -/
def Balanced (ops : List PhysOp) : Prop := Open entry ops []

/-- The last answer is a mapping, and no other is. -/
def LastOnly (answers : List UInt64) : Prop :=
  ∃ pre last, answers = pre ++ [last] ∧ last ≠ mapFailed ∧ ∀ ptr ∈ pre, ptr = mapFailed

/-- What a session does to the mappings: the control registers, which have the length `size`, at
`control`; the memory of the card, which has the length `fbsize`, as often as there are answers; and
then what `vixDestroy` does. -/
def sessionOps (controlBase videoBase size fbsize control : UInt64) (answers : List UInt64) :
    List PhysOp :=
  [.map controlBase size control] ++ answers.map (.map videoBase fbsize) ++
    [.unmap (answers.getLastD 0) fbsize, .unmap control size]

variable {controlBase videoBase size fbsize control : UInt64} {answers : List UInt64}

theorem entry_failed (videoBase fbsize : UInt64) :
    entry (.map videoBase fbsize mapFailed) = none := by
  unfold entry
  exact if_pos rfl

theorem entry_mapped (videoBase fbsize : UInt64) {ptr : UInt64} (h : ptr ≠ mapFailed) :
    entry (.map videoBase fbsize ptr) = some (.opened (ptr, fbsize)) := by
  unfold entry
  exact if_neg h

theorem entry_unmap (ptr : UInt64) : entry (.unmap ptr fbsize) = some (.closed (ptr, fbsize)) := rfl

theorem openedKeys_map (answers : List UInt64) :
    openedKeys entry (answers.map (.map videoBase fbsize)) =
      (answers.filter (· ≠ mapFailed)).map fun ptr => (ptr, fbsize) := by
  induction answers with
  | nil => rfl
  | cons ptr answers ih =>
    rw [List.map_cons, openedKeys_cons, ih, List.filter_cons]
    by_cases h : ptr = mapFailed
    · simp [h, entry_failed]
    · simp [h, entry_mapped _ _ h]

theorem closedKeys_map (answers : List UInt64) :
    closedKeys entry (answers.map (.map videoBase fbsize)) = [] := by
  induction answers with
  | nil => rfl
  | cons ptr answers ih =>
    rw [List.map_cons, closedKeys_cons, ih]
    by_cases h : ptr = mapFailed
    · simp [h, entry_failed]
    · simp [entry_mapped _ _ h]

/-- The failed attempts leave nothing. -/
theorem open_failed (videoBase fbsize : UInt64) {ops : List PhysOp}
    {ks : List (UInt64 × UInt64)} (h : Open entry ops ks)
    (hfailed : ∀ ptr ∈ answers, ptr = mapFailed) :
    Open entry (ops ++ answers.map (.map videoBase fbsize)) ks := by
  induction answers generalizing ops with
  | nil => simpa using h
  | cons ptr answers ih =>
    obtain rfl := hfailed ptr List.mem_cons_self
    have hone := h.concat_other (entry_failed videoBase fbsize)
    simpa using ih hone fun ptr' h' => hfailed ptr' (List.mem_cons_of_mem _ h')

/-- When all that has been answered but failures is the last answer, it is the only mapping. -/
theorem lastOnly_of_filter
    (h : answers.filter (· ≠ mapFailed) = [answers.getLastD 0]) : LastOnly answers := by
  rcases List.eq_nil_or_concat answers with rfl | ⟨pre, last, rfl⟩
  · cases h
  · rw [List.concat_eq_append] at h ⊢
    have hgetLast : (pre ++ [last]).getLastD 0 = last := by simp
    rw [hgetLast, List.filter_append] at h
    have hmem : last ∈ (pre ++ [last]).filter (· ≠ mapFailed) := by
      rw [List.filter_append, h]
      exact List.mem_cons_self
    have hlast : last ≠ mapFailed := by simpa using (List.mem_filter.mp hmem).2
    refine ⟨pre, last, rfl, hlast, fun ptr hptr => ?_⟩
    have hsingle : [last].filter (· ≠ mapFailed) = [last] := by simp [hlast]
    rw [hsingle, List.append_left_eq_self] at h
    by_contra hne
    have hin : ptr ∈ pre.filter (· ≠ mapFailed) := List.mem_filter.mpr ⟨hptr, by simpa using hne⟩
    rw [h] at hin
    cases hin

/-- **Sessions in general.** -/
theorem balanced_iff (controlBase videoBase size fbsize : UInt64) {answers : List UInt64}
    (hcontrol : control ≠ mapFailed) :
    Balanced (sessionOps controlBase videoBase size fbsize control answers) ↔ LastOnly answers := by
  constructor
  · intro h
    have hperm := h.perm
    unfold sessionOps at hperm
    simp only [openedKeys_append, closedKeys_append, openedKeys_map, closedKeys_map,
      openedKeys_cons, closedKeys_cons, openedKeys_nil, closedKeys_nil, entry_mapped _ _ hcontrol,
      entry_unmap, List.append_nil, List.nil_append, List.singleton_append] at hperm
    -- the control registers cancel
    have hvideo := (hperm.trans (List.Perm.swap _ _ _)).cons_inv
    rw [List.perm_singleton] at hvideo
    refine lastOnly_of_filter (List.map_injective_iff.mpr ?_ hvideo)
    exact fun _ _ heq => (Prod.mk.inj heq).1
  · rintro ⟨pre, last, rfl, hlast, hpre⟩
    have hstart := open_nil.concat_opened (entry_mapped controlBase size hcontrol)
    have htried := open_failed videoBase fbsize hstart hpre
    have hmapped := htried.concat_opened (entry_mapped videoBase fbsize hlast)
    have hvideo := hmapped.concat_closed (entry_unmap last)
    have hall := hvideo.concat_closed (entry_unmap control)
    simpa [sessionOps, Balanced] using hall

/-! ### Configurations -/

/-- The answers to the configurations that ask for a mapping. -/
def asked (asks : VidixPlayback → Bool) (requests : List (VidixPlayback × Answer)) : List UInt64 :=
  (requests.filter fun request => asks request.1).map fun request => request.2.ptr

theorem asked_cons (asks : VidixPlayback → Bool) (request : VidixPlayback × Answer)
    (requests : List (VidixPlayback × Answer)) :
    asked asks (request :: requests) =
      if asks request.1 then request.2.ptr :: asked asks requests else asked asks requests := by
  unfold asked
  rw [List.filter_cons]
  split_ifs <;> rfl

variable {Arch : Type} {info info₀ : ChipInfo Arch} {asks : VidixPlayback → Bool}

/-- A configuration on the card of `info₀` asks for a mapping when `asks` says so, and keeps what it
is answered. -/
structure AsksFor (asks : VidixPlayback → Bool) (info₀ : ChipInfo Arch) (base : UInt64)
    (config : ChipInfo Arch → VidixPlayback → Answer → Option (Outcome Arch)) : Prop where
  same : ∀ info vinfo answer o, config info vinfo answer = some o → SameCard info o.info
  ops : ∀ info vinfo answer o, SameCard info₀ info → config info vinfo answer = some o →
    o.ops = if asks vinfo then [.map base info₀.fbsize answer.ptr] else []
  videoBase : ∀ info vinfo answer o, SameCard info₀ info → config info vinfo answer = some o →
    o.info.videoBase = if asks vinfo then answer.ptr else info.videoBase

theorem configs_ops {base : UInt64}
    {config : ChipInfo Arch → VidixPlayback → Answer → Option (Outcome Arch)}
    (hconfig : AsksFor asks info₀ base config) (hcard : SameCard info₀ info)
    {requests : List (VidixPlayback × Answer)} {info' : ChipInfo Arch} {ops : List PhysOp}
    (h : configs config info requests = some (info', ops)) :
    ops = (asked asks requests).map (.map base info₀.fbsize) ∧
      info'.videoBase = (asked asks requests).getLastD info.videoBase := by
  induction requests generalizing info ops with
  | nil =>
    obtain ⟨rfl, rfl⟩ := Prod.mk.inj (Option.some.inj h)
    exact ⟨rfl, rfl⟩
  | cons request requests ih =>
    obtain ⟨o, ho, hrest⟩ := Option.bind_eq_some_iff.mp h
    obtain ⟨⟨info'', ops''⟩, hrun, heq⟩ := Option.bind_eq_some_iff.mp hrest
    obtain ⟨rfl, rfl⟩ := Prod.mk.inj (Option.some.inj heq)
    obtain ⟨hops, hbase⟩ := ih (hcard.trans (hconfig.same _ _ _ _ ho)) hrun
    have hops' := hconfig.ops _ _ _ _ hcard ho
    have hbase' := hconfig.videoBase _ _ _ _ hcard ho
    rw [hops, hops', hbase, hbase', asked_cons]
    split_ifs
    · exact ⟨rfl, List.getLastD_cons.symm⟩
    · exact ⟨rfl, rfl⟩

theorem configFrames_ops {vinfo : VidixPlayback} {base : UInt64} {answer : Answer}
    {o : Outcome Arch} (h : configFrames info vinfo base answer = some o) :
    o.ops = (if !noMemory info vinfo then [.map base info.fbsize answer.ptr] else []) ∧
      o.info.videoBase = if !noMemory info vinfo then answer.ptr else info.videoBase := by
  unfold configFrames at h
  dsimp only at h
  cases hmemory : noMemory info vinfo with
  | true =>
    rw [hmemory, if_pos rfl] at h
    obtain rfl := Option.some.inj h
    exact ⟨rfl, rfl⟩
  | false =>
    rw [hmemory, if_neg Bool.false_ne_true, if_neg answer.ne_null] at h
    by_cases hsize : frameSizeOf vinfo = 0
    · rw [if_pos hsize] at h
      cases h
    · rw [if_neg hsize] at h
      obtain rfl := Option.some.inj h
      exact ⟨rfl, rfl⟩

theorem SameCard.noMemory (h : SameCard info₀ info) (vinfo : VidixPlayback) :
    noMemory info vinfo = Savage.noMemory info₀ vinfo := by
  unfold Savage.noMemory
  rw [h.pictureOffsetOf, h.fbsize]

/-- A configuration that is not turned down asks for a mapping when it finds room. -/
theorem configSupported_asks (supported : Arch → UInt32 → Bool) (base : Arch → UInt64)
    (info₀ : ChipInfo Arch) :
    AsksFor (fun vinfo => supported info₀.arch vinfo.fourcc && !noMemory info₀ vinfo) info₀
      (base info₀.arch) (configSupported supported base) := by
  have hboth : ∀ info vinfo answer o, SameCard info₀ info →
      configSupported supported base info vinfo answer = some o →
      o.ops = (if supported info₀.arch vinfo.fourcc && !noMemory info₀ vinfo then
        [.map (base info₀.arch) info₀.fbsize answer.ptr] else []) ∧
      o.info.videoBase = if supported info₀.arch vinfo.fourcc && !noMemory info₀ vinfo then
        answer.ptr else info.videoBase := by
    intro info vinfo answer o hcard h
    rw [← hcard.arch]
    cases hfourcc : supported info.arch vinfo.fourcc with
    | true =>
      rw [configSupported_of_supported supported base hfourcc] at h
      have hops := configFrames_ops h
      rwa [hcard.noMemory, hcard.fbsize] at hops
    | false =>
      rw [configSupported_of_unsupported supported base hfourcc] at h
      obtain rfl := Option.some.inj h
      exact ⟨rfl, rfl⟩
  exact ⟨fun _ _ _ _ => configSupported_sameCard supported base,
    fun info vinfo answer o hcard h => (hboth info vinfo answer o hcard h).1,
    fun info vinfo answer o hcard h => (hboth info vinfo answer o hcard h).2⟩

/-! ### The savage driver -/

/-- A configuration that finds room. -/
def asksMapping (info : ChipInfo SavageArch) (vinfo : VidixPlayback) : Bool :=
  isSupportedFourcc vinfo.fourcc && !noMemory info vinfo

theorem vixConfigPlayback_asks (pci : PciInfo) (info₀ : ChipInfo SavageArch) :
    AsksFor (asksMapping info₀) info₀ (videoAt info₀.arch pci) (vixConfigPlayback pci) :=
  configSupported_asks (fun _ => isSupportedFourcc) (videoAt · pci) info₀

/-- **The savage driver.** -/
theorem session_balanced_iff {arch : SavageArch} {corrected : Bool} {cr : UInt8 → UInt8}
    {pci : PciInfo} {control : Answer} {requests : List (VidixPlayback × Answer)}
    {init : InitOutcome SavageArch} {ops : List PhysOp}
    (hinit : vixInit arch corrected cr pci control = some init)
    (h : session arch corrected cr pci control requests = some ops) :
    Balanced ops ↔ LastOnly (asked (asksMapping init.info) requests) := by
  obtain ⟨init', hinit', hrest⟩ := Option.bind_eq_some_iff.mp h
  obtain rfl := Option.some.inj (hinit.symm.trans hinit')
  obtain ⟨⟨info, mid⟩, hrun, heq⟩ := Option.bind_eq_some_iff.mp hrest
  obtain rfl := Option.some.inj heq
  obtain ⟨hmid, hbase⟩ := configs_ops (vixConfigPlayback_asks pci init.info)
    (SameCard.refl init.info) hrun
  have hcard := configs_sameCard (fun _ _ _ _ => vixConfigPlayback_sameCard) hrun
  have hcontrol : control.ptr ≠ mapFailed ∧ init.info.controlBase = control.ptr ∧
      init.info.videoBase = 0 ∧
      init.ops = [.map (controlAt arch pci) savageNewmmioRegsize control.ptr] := by
    unfold vixInit at hinit
    split_ifs at hinit with hfailed
    obtain rfl := Option.some.inj hinit
    exact ⟨hfailed, rfl, rfl, rfl⟩
  obtain ⟨hne, hptr, hzero, hops⟩ := hcontrol
  rw [← balanced_iff (controlAt arch pci) (videoAt init.info.arch pci) savageNewmmioRegsize
    init.info.fbsize hne]
  unfold sessionOps vixDestroy
  rw [hops, hmid, hbase, hcard.fbsize, hcard.controlBase, hptr, hzero]

end Vidix.Savage

namespace Vidix.S3

open Util Savage

variable {arch : S3Arch} {corrected : Bool} {cr : UInt8 → UInt8} {pci : PciInfo}
  {control : Answer} {requests : List (VidixPlayback × Answer)} {init : InitOutcome S3Arch}
  {ops : List PhysOp}

/-! ### The s3 driver -/

/-- A configuration that finds room. -/
def asksMapping (info : ChipInfo S3Arch) (vinfo : VidixPlayback) : Bool :=
  isSupportedFourcc info.arch vinfo.fourcc && !noMemory info vinfo

theorem vixConfigPlayback_asks (pci : PciInfo) (info₀ : ChipInfo S3Arch) :
    AsksFor (asksMapping info₀) info₀ (videoAt info₀.arch pci) (vixConfigPlayback pci) :=
  configSupported_asks isSupportedFourcc (videoAt · pci) info₀

/-- What `vixInit` does to the mappings, when it knows how much memory there is and when not. -/
theorem vixInit_ops (hinit : vixInit arch corrected cr pci control = some init) :
    control.ptr ≠ mapFailed ∧ init.info.controlBase = control.ptr ∧ init.info.videoBase = 0 ∧
      init.info.arch = arch ∧
      if videoRam arch corrected cr = 0 then
        init.ret = -1 ∧ init.ops = sessionOps (controlAt arch pci) 0 (s3NewmmioRegsize arch) 0
          control.ptr []
      else
        init.ret = 0 ∧
          init.ops = [.map (controlAt arch pci) (s3NewmmioRegsize arch) control.ptr] := by
  unfold vixInit at hinit
  dsimp only at hinit
  split_ifs at hinit with hfailed hram
  all_goals obtain rfl := Option.some.inj hinit
  · exact ⟨hfailed, rfl, rfl, rfl, by rw [if_pos hram]; exact ⟨rfl, rfl⟩⟩
  · exact ⟨hfailed, rfl, rfl, rfl, by rw [if_neg hram]; exact ⟨rfl, rfl⟩⟩

/-- **The s3 driver.** -/
theorem session_balanced_iff (hinit : vixInit arch corrected cr pci control = some init)
    (h : session arch corrected cr pci control requests = some ops) :
    Balanced ops ↔
      videoRam arch corrected cr ≠ 0 ∧ LastOnly (asked (asksMapping init.info) requests) := by
  obtain ⟨init', hinit', hrest⟩ := Option.bind_eq_some_iff.mp h
  obtain rfl := Option.some.inj (hinit.symm.trans hinit')
  obtain ⟨hne, hptr, hzero, harch, hops⟩ := vixInit_ops hinit
  by_cases hram : videoRam arch corrected cr = 0
  · rw [if_pos hram] at hops
    rw [hops.1, if_pos (by decide)] at hrest
    obtain rfl := Option.some.inj hrest
    rw [hops.2, balanced_iff _ _ _ _ hne]
    refine iff_of_false ?_ fun h => h.1 hram
    rintro ⟨pre, last, heq, -⟩
    exact absurd heq.symm (List.append_ne_nil_of_right_ne_nil _ (List.cons_ne_nil _ _))
  · rw [if_neg hram] at hops
    rw [hops.1, if_neg (fun h => h rfl)] at hrest
    obtain ⟨⟨info, mid⟩, hrun, heq⟩ := Option.bind_eq_some_iff.mp hrest
    obtain rfl := Option.some.inj heq
    obtain ⟨hmid, hbase⟩ := configs_ops (vixConfigPlayback_asks pci init.info)
      (SameCard.refl init.info) hrun
    have hcard := configs_sameCard (fun _ _ _ _ => vixConfigPlayback_sameCard) hrun
    rw [and_iff_right hram, ← balanced_iff (controlAt arch pci) (videoAt init.info.arch pci)
      (s3NewmmioRegsize arch) init.info.fbsize hne]
    unfold sessionOps vixDestroy
    rw [hops.2, hmid, hbase, hcard.fbsize, hcard.controlBase, hcard.arch, hptr, hzero, harch]

/-- **Each of the two drivers gives back what a session has mapped, and nothing else, iff the last
of the configurations that ask for a mapping is given one and no other is** (and, for the s3 driver,
`vixInit` knows how much memory there is). -/
theorem mappings_balanced_iff (corrected : Bool) (cr : UInt8 → UInt8) (pci : PciInfo)
    (control : Answer) (requests : List (VidixPlayback × Answer)) (ops : List PhysOp) :
    (∀ arch init, Savage.vixInit arch corrected cr pci control = some init →
        Savage.session arch corrected cr pci control requests = some ops →
        (Balanced ops ↔ LastOnly (asked (Savage.asksMapping init.info) requests))) ∧
      ∀ arch init, vixInit arch corrected cr pci control = some init →
        session arch corrected cr pci control requests = some ops →
        (Balanced ops ↔ videoRam arch corrected cr ≠ 0 ∧
          LastOnly (asked (asksMapping init.info) requests)) :=
  ⟨fun _ _ => Savage.session_balanced_iff, fun _ _ => session_balanced_iff⟩

/-- A mapping fails, and the next configuration gets one. -/
def retriedRequests : List (VidixPlayback × Answer) :=
  [(samplePlayback 640 480, ⟨mapFailed, by decide⟩), (samplePlayback 320 240, ⟨0x2000, by decide⟩)]

theorem mappings_balanced_sample :
    (∃ ops, Savage.session .savage3d false sampleCr samplePci ⟨0x1000, by decide⟩
        retriedRequests = some ops ∧ Balanced ops) ∧
      ∃ ops, session .savage3d false sampleCr samplePci ⟨0x1000, by decide⟩
        retriedRequests = some ops ∧ Balanced ops := by
  have hboth := mappings_balanced_iff false sampleCr samplePci ⟨0x1000, by decide⟩
    retriedRequests
  have hlast : LastOnly [mapFailed, 0x2000] := by
    refine ⟨[mapFailed], 0x2000, rfl, by decide, fun ptr hptr => ?_⟩
    exact List.mem_singleton.mp hptr
  exact ⟨⟨_, rfl, ((hboth _).1 .savage3d _ rfl rfl).mpr hlast⟩,
    ⟨_, rfl, ((hboth _).2 .savage3d _ rfl rfl).mpr ⟨by decide, hlast⟩⟩⟩

/-- Two configurations that are both given a mapping. -/
def repeatedRequests : List (VidixPlayback × Answer) :=
  [(samplePlayback 320 240, ⟨0x2000, by decide⟩), (samplePlayback 320 240, ⟨0x3000, by decide⟩)]

/-- **Two configurations that succeed leave a mapping behind; without a configuration, what is
unmapped has never been mapped.** -/
theorem mappings_unbalanced :
    (∃ ops, Savage.session .savage3d false sampleCr samplePci ⟨0x1000, by decide⟩
        repeatedRequests = some ops ∧ ¬ Balanced ops) ∧
      ∃ ops, session .savage3d false sampleCr samplePci ⟨0x1000, by decide⟩ [] = some ops ∧
        ¬ Balanced ops := by
  constructor
  · obtain ⟨ops, hops⟩ : ∃ ops, Savage.session .savage3d false sampleCr samplePci
        ⟨0x1000, by decide⟩ repeatedRequests = some ops := ⟨_, rfl⟩
    refine ⟨ops, hops, fun h => ?_⟩
    have hlast := (Savage.session_balanced_iff rfl hops).mp h
    obtain ⟨pre, last, heq, -, hpre⟩ := hlast
    have heq' : [0x2000, 0x3000] = pre ++ [last] := heq
    have hinit : pre = [0x2000] := by simpa using (congrArg List.dropLast heq').symm
    have hfailed := hpre 0x2000 (by rw [hinit]; exact List.mem_cons_self)
    revert hfailed
    decide
  · obtain ⟨ops, hops⟩ : ∃ ops, session .savage3d false sampleCr samplePci
        ⟨0x1000, by decide⟩ [] = some ops := ⟨_, rfl⟩
    refine ⟨ops, hops, fun h => ?_⟩
    obtain ⟨-, pre, last, heq, -⟩ := (session_balanced_iff rfl hops).mp h
    exact absurd heq.symm (List.append_ne_nil_of_right_ne_nil _ (List.cons_ne_nil _ _))

end Vidix.S3
