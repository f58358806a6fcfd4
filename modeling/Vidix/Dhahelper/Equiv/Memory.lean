import Vidix.Dhahelper.Memory
import Vidix.Util.Overwrite
import Vidix.Util.PageSpan

/-!
# What the memory requests leave behind

A page can be locked when it is present or an access makes it so (`resolve`), and locking pages does
not change which pages can be locked, so that the outcome of a request is known from the state
before it: the loop sets the flags of the frames of its pages, up to the first page that cannot be
locked (`lockPages_ok`, `lockPages_fail`).

* The roll-back clears the flags of all frames before the failing page, whoever had set them:
  `lockMem_atomic_iff`.
* The number of pages is the length rounded up, whatever the offset of the address in its page:
  `lockMem_covers_iff`.
-/

namespace Vidix.Dhahelper

open Util

variable {m : Machine} {st st' st₀ : MemState} {addr length : UInt64}

/-! ### Single pages -/

theorem or_ne_zero {a : UInt64} (b : UInt64) (h : a ≠ 0) : a ||| b ≠ 0 := by
  have hle : a.toNat ≤ (a ||| b).toNat := by
    rw [UInt64.toNat_or]
    exact Nat.left_le_or
  intro h0
  rw [h0] at hle
  exact h (UInt64.toNat_inj.mp (Nat.le_zero.mp hle))

/-- The frame of a page once it has been accessed, if it can be. -/
def resolve (m : Machine) (st : MemState) (p : ℕ) : Option ℕ :=
  match st.frame p with
  | some f => some f
  | none =>
    match m.touch p with
    | .mapped f => some f
    | _ => none

@[simp] theorem setFlags_frame (st : MemState) (f : ℕ) (flags : PageFlags) :
    (st.setFlags f flags).frame = st.frame :=
  rfl

@[simp] theorem mapPage_frame_self (st : MemState) (p f : ℕ) :
    (st.mapPage p f).frame p = some f :=
  Function.update_self _ _ _

theorem mapPage_frame_of_ne (st : MemState) {p p' : ℕ} (f : ℕ) (h : p' ≠ p) :
    (st.mapPage p f).frame p' = st.frame p' :=
  Function.update_of_ne h _ _

/-- Locking a page maps it and sets the flags of its frame. -/
theorem pagLock_of_some {f : ℕ} (h : resolve m st (pageOf addr) = some f) :
    pagLock m st addr = (0, (st.mapPage (pageOf addr) f).setFlags f .set) := by
  unfold resolve at h
  unfold pagLock
  cases hframe : st.frame (pageOf addr) with
  | some g =>
    rw [hframe] at h
    obtain rfl := Option.some.inj h
    -- a page that is present is mapped to where it is
    have hmap : st.mapPage (pageOf addr) g = st := by
      unfold MemState.mapPage
      rw [← hframe, Function.update_eq_self]
    rw [hmap]
  | none =>
    rw [hframe] at h
    cases htouch : m.touch (pageOf addr) with
    | mapped g =>
      rw [htouch] at h
      obtain rfl := Option.some.inj h
      rfl
    | fault =>
      rw [htouch] at h
      cases h
    | absent =>
      rw [htouch] at h
      cases h

theorem pagLock_of_none (h : resolve m st (pageOf addr) = none) :
    pagLock m st addr = (eperm, st) := by
  unfold resolve at h
  unfold pagLock
  cases hframe : st.frame (pageOf addr) with
  | some g =>
    rw [hframe] at h
    cases h
  | none =>
    rw [hframe] at h
    cases htouch : m.touch (pageOf addr) with
    | mapped g =>
      rw [htouch] at h
      cases h
    | fault => rfl
    | absent => rfl

/-- Mapping a page to its own frame changes no frame. -/
theorem resolve_mapPage {p f : ℕ} (h : resolve m st p = some f) (p' : ℕ) :
    resolve m (st.mapPage p f) p' = resolve m st p' := by
  by_cases hp : p' = p
  · rw [hp, h, resolve, mapPage_frame_self]
  · rw [resolve, mapPage_frame_of_ne st f hp, resolve]

/-- Unlocking a page clears the flags of its frame, if it is present. -/
theorem pagUnlock_flags (st : MemState) (addr : UInt64) :
    (pagUnlock st addr).2.flags =
      overwrite st.flags ([pageOf addr].filterMap st.frame) .clear := by
  unfold pagUnlock
  cases hframe : st.frame (pageOf addr) with
  | some f =>
    rw [List.filterMap_cons_some hframe, List.filterMap_nil, overwrite_singleton]
    rfl
  | none =>
    rw [List.filterMap_cons_none hframe, List.filterMap_nil, overwrite_nil]

@[simp] theorem pagUnlock_frame (st : MemState) (addr : UInt64) :
    (pagUnlock st addr).2.frame = st.frame := by
  unfold pagUnlock
  cases st.frame (pageOf addr) <;> rfl

/-! ### The lock loop -/

/-- The page of round `i`. -/
def pageAt (addr : UInt64) (i : ℕ) : ℕ := pageOf (pageAddr addr i)

/-- The pages of `n` rounds from round `i` on. -/
def roundPages (addr : UInt64) (i n : ℕ) : List ℕ := (List.range' i n).map (pageAt addr)

/-- From `st₀` to `st` the pages `ps` have been locked. -/
structure LockedTo (m : Machine) (st₀ st : MemState) (ps : List ℕ) : Prop where
  flags : st.flags = overwrite st₀.flags (ps.filterMap (resolve m st₀)) .set
  resolve_eq : ∀ p, resolve m st p = resolve m st₀ p
  present : ∀ p ∈ ps, st.frame p = resolve m st₀ p

theorem LockedTo.refl (m : Machine) (st : MemState) : LockedTo m st st [] where
  flags := by rw [List.filterMap_nil, overwrite_nil]
  resolve_eq _ := rfl
  present _ hp := absurd hp List.not_mem_nil

/-- One more page. -/
theorem LockedTo.lock {ps : List ℕ} (h : LockedTo m st₀ st ps) {p f : ℕ}
    (hp : resolve m st₀ p = some f) :
    LockedTo m st₀ ((st.mapPage p f).setFlags f .set) (ps ++ [p]) where
  flags := by
    rw [List.filterMap_append, overwrite_append, ← h.flags, List.filterMap_cons_some hp,
      List.filterMap_nil, overwrite_singleton]
    rfl
  resolve_eq p' := by
    rw [← h.resolve_eq p', ← resolve_mapPage ((h.resolve_eq p).trans hp) p']
    rfl
  present p' hp' := by
    by_cases hpp : p' = p
    · rw [hpp, setFlags_frame, mapPage_frame_self, hp]
    · rw [setFlags_frame, mapPage_frame_of_ne st f hpp]
      refine h.present p' ((List.mem_append.mp hp').resolve_right fun h1 => ?_)
      exact hpp (List.mem_singleton.mp h1)

theorem roundPages_cons (addr : UInt64) (i n : ℕ) :
    roundPages addr i (n + 1) = pageAt addr i :: roundPages addr (i + 1) n := by
  unfold roundPages
  rw [List.range'_succ, List.map_cons]

theorem roundPages_concat (addr : UInt64) (i n : ℕ) :
    roundPages addr i (n + 1) = roundPages addr i n ++ [pageAt addr (i + n)] := by
  unfold roundPages
  rw [List.range'_1_concat, List.map_append]
  rfl

/-- A loop whose pages can all be locked. -/
theorem lockPages_ok (i n : ℕ) {ps : List ℕ} (h : LockedTo m st₀ st ps)
    (hall : ∀ j, i ≤ j → j < i + n → resolve m st₀ (pageAt addr j) ≠ none) :
    ∃ st', lockPages m addr i n st = (0, st') ∧
      LockedTo m st₀ st' (ps ++ roundPages addr i n) := by
  induction n generalizing i st ps with
  | zero =>
    refine ⟨st, rfl, ?_⟩
    rw [roundPages, List.range'_zero, List.map_nil, List.append_nil]
    exact h
  | succ n ih =>
    obtain ⟨f, hf⟩ := Option.ne_none_iff_exists'.mp (hall i le_rfl (by omega))
    have hlock : pagLock m st (pageAddr addr i) = _ :=
      pagLock_of_some ((h.resolve_eq (pageAt addr i)).trans hf)
    obtain ⟨st', hst', hps⟩ := ih (i + 1) (h.lock hf) fun j hj hjn =>
      hall j (by omega) (by omega)
    refine ⟨st', ?_, ?_⟩
    · rw [lockPages, hlock]
      exact hst'
    · rw [roundPages_cons, List.append_cons]
      exact hps

/-- A loop goes on where its first rounds left off. -/
theorem lockPages_add {i k n : ℕ} (h : lockPages m addr i k st = (0, st')) :
    lockPages m addr i (k + n) st = lockPages m addr (i + k) n st' := by
  induction k generalizing i st with
  | zero =>
    obtain ⟨-, rfl⟩ := Prod.mk.inj h
    rw [Nat.zero_add, Nat.add_zero]
  | succ k ih =>
    rw [Nat.add_right_comm, lockPages]
    rw [lockPages] at h
    dsimp only at h ⊢
    split_ifs at h ⊢ with hret
    · exact absurd (Prod.mk.inj h).1 hret
    · rw [ih h, Nat.add_right_comm, Nat.add_assoc]

/-- Page `k` is the first that cannot be locked. -/
structure FirstFailure (m : Machine) (st : MemState) (addr : UInt64) (n k : ℕ) : Prop where
  lt : k < n
  fails : resolve m st (pageAt addr k) = none
  before : ∀ j < k, resolve m st (pageAt addr j) ≠ none

/-- A loop that meets a page which cannot be locked. -/
theorem lockPages_fail {n k : ℕ} (h : FirstFailure m st addr n k) :
    ∃ st', LockedTo m st st' (roundPages addr 0 k) ∧
      lockPages m addr 0 n st = (eperm, unlockPrefix addr k st') := by
  obtain ⟨st', hst', hps⟩ := lockPages_ok 0 k (LockedTo.refl m st)
    fun j _ hj => h.before j (by omega)
  rw [List.nil_append] at hps
  refine ⟨st', hps, ?_⟩
  have hlock : pagLock m st' (pageAddr addr k) = (eperm, st') :=
    pagLock_of_none ((hps.resolve_eq (pageAt addr k)).trans h.fails)
  have hlt := h.lt
  obtain ⟨r, rfl⟩ : ∃ r, n = k + (r + 1) := ⟨n - k - 1, by omega⟩
  rw [lockPages_add hst', Nat.zero_add, lockPages, hlock]
  rfl

theorem FirstFailure.unique {n k k' : ℕ} (h : FirstFailure m st addr n k)
    (h' : FirstFailure m st addr n k') : k = k' := by
  rcases Nat.lt_trichotomy k k' with hlt | heq | hgt
  · exact absurd h.fails (h'.before k hlt)
  · exact heq
  · exact absurd h'.fails (h.before k' hgt)

/-- Either all pages can be locked, or there is a first that cannot. -/
theorem exists_firstFailure {n : ℕ} (h : ¬ ∀ j < n, resolve m st (pageAt addr j) ≠ none) :
    ∃ k, FirstFailure m st addr n k := by
  classical
  have hex : ∃ j, j < n ∧ resolve m st (pageAt addr j) = none := by
    push Not at h
    exact h
  obtain ⟨hlt, hfails⟩ := Nat.find_spec hex
  refine ⟨Nat.find hex, hlt, hfails, fun j hj hnone => ?_⟩
  exact Nat.find_min hex hj ⟨by omega, hnone⟩

/-! ### The unlock loops -/

theorem unlockPrefix_succ (addr : UInt64) (i : ℕ) (st : MemState) :
    unlockPrefix addr (i + 1) st = (pagUnlock (unlockPrefix addr i st) (pageAddr addr i)).2 := by
  unfold unlockPrefix
  rw [List.range_succ, List.foldl_append]
  rfl

@[simp] theorem unlockPrefix_frame (addr : UInt64) (i : ℕ) (st : MemState) :
    (unlockPrefix addr i st).frame = st.frame := by
  induction i with
  | zero => rfl
  | succ i ih => rw [unlockPrefix_succ, pagUnlock_frame, ih]

/-- The roll-back clears the flags of its pages, whatever they were. -/
theorem unlockPrefix_flags (addr : UInt64) (i : ℕ) (st : MemState) :
    (unlockPrefix addr i st).flags =
      overwrite st.flags ((roundPages addr 0 i).filterMap st.frame) .clear := by
  induction i with
  | zero => exact (overwrite_nil _ _).symm
  | succ i ih =>
    rw [unlockPrefix_succ, pagUnlock_flags, unlockPrefix_frame, ih, roundPages_concat,
      List.filterMap_append, overwrite_append, Nat.zero_add]
    rfl

/-- Unlocking pages that are all present succeeds. -/
theorem unlockPages_ok (st : MemState) (addr : UInt64) (i n : ℕ)
    (hall : ∀ p ∈ roundPages addr i n, st.frame p ≠ none) :
    (unlockPages addr i n st).1 = 0 ∧
      (unlockPages addr i n st).2.flags =
        overwrite st.flags ((roundPages addr i n).filterMap st.frame) .clear := by
  induction n generalizing i st with
  | zero => exact ⟨rfl, (overwrite_nil _ _).symm⟩
  | succ n ih =>
    rw [roundPages_cons] at hall ⊢
    obtain ⟨f, hf⟩ := Option.ne_none_iff_exists'.mp (hall _ List.mem_cons_self)
    have hunlock : pagUnlock st (pageAddr addr i) = (0, st.setFlags f .clear) := by
      unfold pagUnlock
      rw [show st.frame (pageOf (pageAddr addr i)) = some f from hf]
    obtain ⟨hret, hflags⟩ := ih (st.setFlags f .clear) (i + 1)
      fun p hp => hall p (List.mem_cons_of_mem _ hp)
    rw [unlockPages, hunlock]
    dsimp only
    rw [if_neg (by decide)]
    refine ⟨hret, hflags.trans ?_⟩
    rw [List.filterMap_cons_some hf, ← List.singleton_append, overwrite_append,
      overwrite_singleton]
    rfl

/-! ### Atomicity of a failed lock request -/

/-- What a lock request finds locked or reserved before the page at which it fails: nothing. -/
def NothingLockedBefore (m : Machine) (st : MemState) (addr length : UInt64) : Prop :=
  ∀ k, FirstFailure m st addr (nitems length) k →
    ∀ j < k, ∀ f, resolve m st (pageAt addr j) = some f → st.flags f = .clear

/-- **A failed request leaves all flags as they were iff it found none of them set** on the pages
before the one that failed.  This holds for every memory state and every range; a request whose
argument cannot be read changes nothing. -/
theorem lockMem_atomic_iff (m : Machine) (readable : Readable) (st : MemState)
    (addr length : UInt64) :
    ((dhahelperLockMem m readable st addr length).1 ≠ 0 →
        (dhahelperLockMem m readable st addr length).2.flags = st.flags) ↔
      (readable = true → NothingLockedBefore m st addr length) := by
  unfold dhahelperLockMem
  cases readable with
  | false => exact iff_of_true (fun _ => rfl) fun h => absurd h (by decide)
  | true =>
    rw [Bool.not_true, if_neg (by decide)]
    simp only [true_implies]
    by_cases hall : ∀ j < nitems length, resolve m st (pageAt addr j) ≠ none
    · obtain ⟨st', hst', -⟩ := lockPages_ok 0 (nitems length) (LockedTo.refl m st)
        fun j _ hj => hall j (by omega)
      rw [hst']
      refine iff_of_true (fun h => absurd rfl h) fun k hk => ?_
      exact absurd hk.fails (hall k hk.lt)
    · obtain ⟨k, hk⟩ := exists_firstFailure hall
      obtain ⟨st', hps, heq⟩ := lockPages_fail hk
      -- the roll-back goes over the frames that were locked, and its values are the last word
      have hsame : (roundPages addr 0 k).filterMap st'.frame =
          (roundPages addr 0 k).filterMap (resolve m st) :=
        List.filterMap_congr fun p hp => hps.present p hp
      have hflags : (unlockPrefix addr k st').flags =
          overwrite st.flags ((roundPages addr 0 k).filterMap (resolve m st)) .clear := by
        rw [unlockPrefix_flags, hsame, hps.flags, overwrite_overwrite]
      rw [heq, hflags, overwrite_eq_self_iff]
      constructor
      · intro h k' hk' j hj f hf
        obtain rfl := hk.unique hk'
        refine h (show eperm ≠ 0 by decide) f (List.mem_filterMap.mpr ⟨pageAt addr j, ?_, hf⟩)
        exact List.mem_map_of_mem (List.mem_range'_1.mpr ⟨Nat.zero_le _, by omega⟩)
      · intro h _ f hf
        obtain ⟨p, hp, hpf⟩ := List.mem_filterMap.mp hf
        obtain ⟨j, hj, rfl⟩ := List.mem_map.mp hp
        rw [List.mem_range'_1, Nat.zero_add] at hj
        exact h k hk j hj.2 f hpf

/-- A machine on which every access to an absent page faults. -/
def faultingMachine : Machine where
  touch _ := .fault
  pageAddress f := 0xffff880000000000 ||| (UInt64.ofNat f * 4096)
  pageAddress_ne _ := or_ne_zero _ (by decide)
  virtToBus kva := kva - 0xffff880000000000

/-- Page 1 is present and was locked by an earlier request; no other page is present. -/
def lockedPage : MemState where
  frame p := if p = 1 then some 7 else none
  flags f := if f = 7 then .set else .clear

/-- **An overlapping request that fails unlocks what the earlier one had locked.** -/
theorem lockMem_rollback :
    (dhahelperLockMem faultingMachine true lockedPage 4096 8192).1 = eperm ∧
      lockedPage.flags 7 = .set ∧
      (dhahelperLockMem faultingMachine true lockedPage 4096 8192).2.flags 7 = .clear := by
  decide

/-! ### The pages of a range -/

/-- The pages with a byte of `[addr, addr + length)`, in order; addresses are taken modulo
`2 ^ 64`. -/
def rangePages (addr length : UInt64) : List ℕ :=
  (pages 4096 addr.toNat length.toNat).map (· % 2 ^ 52)

/-- The pages of a range are those of its bytes. -/
theorem mem_rangePages (hlen : 1 ≤ length.toNat) {p : ℕ} :
    p ∈ rangePages addr length ↔ ∃ i < length.toNat, pageOf (addr + UInt64.ofNat i) = p := by
  have hpage : ∀ i < length.toNat,
      pageOf (addr + UInt64.ofNat i) = (addr.toNat + i) / 4096 % 2 ^ 52 := by
    intro i hi
    have hlt : length.toNat < 2 ^ 64 := length.toNat_lt
    rw [pageOf, UInt64.toNat_add, UInt64.toNat_ofNat']
    omega
  rw [rangePages, List.mem_map]
  constructor
  · rintro ⟨q, hq, rfl⟩
    obtain ⟨b, hlo, hhi, rfl⟩ := (mem_pages (by decide) hlen).mp hq
    refine ⟨b - addr.toNat, by omega, ?_⟩
    rw [hpage _ (by omega), Nat.add_sub_cancel' hlo]
  · rintro ⟨i, hi, rfl⟩
    refine ⟨(addr.toNat + i) / 4096, (mem_pages (by decide) hlen).mpr ?_, (hpage i hi).symm⟩
    exact ⟨addr.toNat + i, by omega, by omega, rfl⟩

/-- The bus address that belongs to an offset in a page. -/
def pageBus (m : Machine) (st : MemState) (offset : UInt64) (p : ℕ) : Option UInt64 :=
  (st.frame p).map fun f => m.virtToBus (m.pageAddress f ||| offset)

/-- What a lock request and its successors owe for the range of `length` bytes at `addr`; `st` is
the state that the lock request left. -/
structure CoversRange (m : Machine) (st : MemState) (addr length : UInt64) : Prop where
  /-- Every page with a byte of the range is locked. -/
  locked : ∀ p ∈ rangePages addr length, ∃ f, st.frame p = some f ∧ st.flags f = .set
  /-- A successful `virt_to_bus` request delivers one bus address for each such page, in order. -/
  bus : ∀ readable writable, (dhahelperVirtToBus m readable writable st addr length).1 = 0 →
    (dhahelperVirtToBus m readable writable st addr length).2.map some =
      (rangePages addr length).map (pageBus m st (addr &&& (pageSize - 1)))
  /-- A successful unlock request clears the flags of the frames of these pages, and no others. -/
  released : ∀ readable, (dhahelperUnlockMem readable st addr length).1 = 0 →
    ∀ f, (dhahelperUnlockMem readable st addr length).2.flags f =
      if f ∈ (rangePages addr length).filterMap st.frame then .clear else st.flags f

theorem nitems_eq (length : UInt64) : nitems length = items 4096 length.toNat := by
  unfold nitems items
  have hdiv : (length / pageSize).toNat = length.toNat / 4096 := UInt64.toNat_div _ _
  have hmod : length % pageSize = 0 ↔ length.toNat % 4096 = 0 := by
    rw [← UInt64.toNat_inj, UInt64.toNat_mod]
    rfl
  have hlt : length.toNat < 2 ^ 64 := length.toNat_lt
  dsimp only
  by_cases h : length % pageSize = 0
  · rw [if_pos h, if_pos (hmod.mp h), hdiv]
  · rw [if_neg h, if_neg (fun h' => h (hmod.mpr h')), UInt64.toNat_add, hdiv]
    show (_ + 1) % 2 ^ 64 = _
    omega

theorem toNat_pageAddr (addr : UInt64) (i : ℕ) :
    (pageAddr addr i).toNat = (addr.toNat + i * 4096) % 2 ^ 64 := by
  unfold pageAddr
  rw [UInt64.toNat_add, UInt64.toNat_mul, UInt64.toNat_ofNat', show pageSize.toNat = 4096 from rfl]
  omega

/-- Round `i` is at the `i`-th page from that of the address. -/
theorem pageAt_eq (addr : UInt64) (i : ℕ) :
    pageAt addr i = (addr.toNat / 4096 + i) % 2 ^ 52 := by
  unfold pageAt pageOf
  rw [toNat_pageAddr]
  omega

/-- All rounds have the offset of the address in its page. -/
theorem pageAddr_offset (addr : UInt64) (i : ℕ) :
    pageAddr addr i &&& (pageSize - 1) = addr &&& (pageSize - 1) := by
  have hmask : (pageSize - 1).toNat = 2 ^ 12 - 1 := rfl
  apply UInt64.toNat_inj.mp
  rw [UInt64.toNat_and, UInt64.toNat_and, hmask, Nat.and_two_pow_sub_one_eq_mod,
    Nat.and_two_pow_sub_one_eq_mod, toNat_pageAddr]
  omega

theorem roundPages_eq (addr : UInt64) (n : ℕ) :
    roundPages addr 0 n = (List.range' (addr.toNat / 4096) n).map (· % 2 ^ 52) := by
  unfold roundPages
  rw [← List.range_eq_range', List.range'_eq_map_range, List.map_map]
  exact List.map_congr_left fun i _ => pageAt_eq addr i

/-- When the count is right, the rounds are at the pages of the range. -/
theorem roundPages_eq_rangePages
    (h : nitems length = (pages 4096 addr.toNat length.toNat).length) :
    roundPages addr 0 (nitems length) = rangePages addr length := by
  rw [roundPages_eq, h, pages, List.length_range', rangePages, pages]

theorem virtToBusPages_eq (m : Machine) (writable : ℕ → Bool) (st : MemState) (addr : UInt64)
    (i n : ℕ) (h : (virtToBusPages m writable st addr i n).1 = 0) :
    (virtToBusPages m writable st addr i n).2 =
      (List.range' i n).map fun j => uvirtToBus m st (pageAddr addr j) := by
  induction n generalizing i with
  | zero => rfl
  | succ n ih =>
    rw [virtToBusPages] at h ⊢
    cases hw : writable i with
    | false =>
      rw [hw] at h
      exact absurd h (show -efault ≠ 0 by decide)
    | true =>
      rw [hw] at h
      dsimp only [Bool.not_true] at h ⊢
      rw [if_neg (by decide)] at h ⊢
      rw [ih (i + 1) h, List.range'_succ, List.map_cons]

theorem virtToBusPages_ok (m : Machine) (st : MemState) (addr : UInt64) (i n : ℕ) :
    (virtToBusPages m (fun _ => true) st addr i n).1 = 0 := by
  induction n generalizing i with
  | zero => rfl
  | succ n ih =>
    rw [virtToBusPages]
    exact ih (i + 1)

theorem uvirtToBus_eq {i f : ℕ} (h : st.frame (pageAt addr i) = some f) :
    some (uvirtToBus m st (pageAddr addr i)) =
      pageBus m st (addr &&& (pageSize - 1)) (pageAt addr i) := by
  unfold uvirtToBus uvirtToKva pageBus
  rw [h, show st.frame (pageOf (pageAddr addr i)) = some f from h]
  dsimp only [Option.map_some]
  rw [pageAddr_offset]

/-- A lock request that succeeds has locked the pages of all its rounds. -/
theorem lockedTo_of_lockMem {readable : Readable}
    (h : (dhahelperLockMem m readable st addr length).1 = 0) :
    (∀ j < nitems length, resolve m st (pageAt addr j) ≠ none) ∧
      LockedTo m st (dhahelperLockMem m readable st addr length).2
        (roundPages addr 0 (nitems length)) := by
  unfold dhahelperLockMem at h ⊢
  cases readable with
  | false => exact absurd h (show -efault ≠ 0 by decide)
  | true =>
    rw [Bool.not_true, if_neg (by decide)] at h ⊢
    by_cases hall : ∀ j < nitems length, resolve m st (pageAt addr j) ≠ none
    · obtain ⟨st', hst', hps⟩ := lockPages_ok 0 (nitems length) (LockedTo.refl m st)
        fun j _ hj => hall j (by omega)
      rw [hst']
      exact ⟨hall, hps⟩
    · obtain ⟨k, hk⟩ := exists_firstFailure hall
      obtain ⟨st', -, heq⟩ := lockPages_fail hk
      rw [heq] at h
      exact absurd h (show eperm ≠ 0 by decide)

/-- **A lock request that succeeds, and the requests for the same range after it, cover the range
iff its length, which alone decides on the number of pages, leaves room for the offset of the
address.** -/
theorem lockMem_covers_iff (m : Machine) (readable : Readable) (st : MemState)
    (addr length : UInt64) (hlen : 1 ≤ length.toNat)
    (hlock : (dhahelperLockMem m readable st addr length).1 = 0) :
    CoversRange m (dhahelperLockMem m readable st addr length).2 addr length ↔
      addr.toNat % 4096 + (length.toNat - 1) % 4096 < 4096 := by
  rw [← items_eq_length_pages_iff (by decide) hlen, ← nitems_eq]
  obtain ⟨hall, hps⟩ := lockedTo_of_lockMem hlock
  generalize (dhahelperLockMem m readable st addr length).2 = st' at hps ⊢
  constructor
  · intro h
    -- the bus addresses give the count away
    have hret : (dhahelperVirtToBus m true (fun _ => true) st' addr length).1 = 0 :=
      virtToBusPages_ok m st' addr 0 (nitems length)
    have hbus := congrArg List.length (h.bus true (fun _ => true) hret)
    have heq : (dhahelperVirtToBus m true (fun _ => true) st' addr length).2 = _ :=
      virtToBusPages_eq m _ st' addr 0 (nitems length) hret
    rw [heq, List.length_map, List.length_map, List.length_map, List.length_range', rangePages,
      List.length_map] at hbus
    exact hbus
  · intro h
    have hrange := roundPages_eq_rangePages h
    have hpresent : ∀ p ∈ rangePages addr length, ∃ f, resolve m st p = some f ∧
        st'.frame p = some f := by
      intro p hp
      rw [← hrange] at hp
      obtain ⟨j, hj, rfl⟩ := List.mem_map.mp hp
      rw [List.mem_range'_1] at hj
      obtain ⟨f, hf⟩ := Option.ne_none_iff_exists'.mp (hall j (by omega))
      exact ⟨f, hf, (hps.present _ hp).trans hf⟩
    constructor
    · intro p hp
      obtain ⟨f, hf, hframe⟩ := hpresent p hp
      refine ⟨f, hframe, ?_⟩
      rw [hps.flags, hrange, overwrite, if_pos (List.mem_filterMap.mpr ⟨p, hp, hf⟩)]
    · intro readable' writable hret
      unfold dhahelperVirtToBus at hret ⊢
      cases readable' with
      | false => exact absurd hret (show -efault ≠ 0 by decide)
      | true =>
        rw [Bool.not_true, if_neg (by decide)] at hret ⊢
        rw [virtToBusPages_eq m writable st' addr 0 _ hret, ← hrange, roundPages, List.map_map,
          List.map_map]
        refine List.map_congr_left fun i hi => ?_
        have hp : pageAt addr i ∈ rangePages addr length := by
          rw [← hrange]
          exact List.mem_map_of_mem hi
        obtain ⟨f, -, hframe⟩ := hpresent _ hp
        exact uvirtToBus_eq hframe
    · intro readable' hret f
      unfold dhahelperUnlockMem at hret ⊢
      cases readable' with
      | false => exact absurd hret (show -efault ≠ 0 by decide)
      | true =>
        rw [Bool.not_true, if_neg (by decide)] at hret ⊢
        have hok := unlockPages_ok st' addr 0 (nitems length)
          fun p hp hnone => by
            rw [hrange] at hp
            obtain ⟨f, -, hframe⟩ := hpresent p hp
            rw [hnone] at hframe
            cases hframe
        rw [hok.2, hrange, overwrite]

/-- Every page is present, in the frame of its number. -/
def presentPages : MemState where
  frame p := some p
  flags _ := .clear

/-- A range that begins on a page is covered. -/
theorem lockMem_covers_aligned :
    CoversRange faultingMachine
      (dhahelperLockMem faultingMachine true presentPages 4096 8192).2 4096 8192 :=
  (lockMem_covers_iff faultingMachine true presentPages 4096 8192 (by decide) (by decide)).mpr
    (by decide)

/-- **Of the 4096 bytes at address 100 the request locks the first page only,** and one bus address
is delivered for the two pages. -/
theorem lockMem_misses_page :
    (dhahelperLockMem faultingMachine true presentPages 100 4096).1 = 0 ∧
      (dhahelperVirtToBus faultingMachine true (fun _ => true)
        (dhahelperLockMem faultingMachine true presentPages 100 4096).2 100 4096) = (0, [100]) ∧
      ¬ CoversRange faultingMachine
        (dhahelperLockMem faultingMachine true presentPages 100 4096).2 100 4096 := by
  refine ⟨by decide, by decide, fun h => ?_⟩
  obtain ⟨f, hframe, hflags⟩ := h.locked 1 (by decide)
  obtain rfl := Option.some.inj hframe
  exact absurd hflags (by decide)

end Vidix.Dhahelper
