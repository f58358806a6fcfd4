import Vidix.Vidixlib.Reopen
import Vidix.Vidixlib.Equiv.Open
import Mathlib.Data.List.TakeWhile

/-!
# Opening with the same string again

`vdlOpen` writes a zero over the colon of the caller's name, so the arguments behind it are there
for the first call only.  A name without a colon stays what it is, and then only `dl_idx` can make a
difference: it is what an earlier call has left when the file's name has no slash, and `vdlClose`
resets it (`afterClose_serve`).  `vdlOpen_repeatable_iff` puts the two together.
-/

namespace Vidix.Vidixlib

variable {ld : Loader} {st : LibState} {path name file : CString} {verbose : ℤ} {req : Request}

/-- Of the name, `vdlOpen` uses the request only. -/
theorem openNamed_eq_serve (ld : Loader) (st : LibState) (path name : CString) (verbose : ℤ) :
    openNamed ld st path (splitName name).1 (splitName name).2 verbose =
      serve ld st (request ld st.dlIdx path name) verbose :=
  rfl

/-! ### What is left in `dl_idx` -/

theorem afterClose_fillAndInit (ld : Loader) (st : LibState) (stream : VdlStream)
    (args : Option CString) : (afterClose (fillAndInit ld st stream args)).dlIdx = none := by
  rw [fillAndInit]
  dsimp only
  split_ifs
  · rfl
  · split
    · rfl
    · split_ifs <;> rfl

/-- **Once it is closed, no driver of the program is chosen.** -/
theorem afterClose_serve (ld : Loader) (st : LibState) (req : Request) (verbose : ℤ) :
    (afterClose (serve ld st req verbose)).dlIdx = none := by
  rw [serve]
  dsimp only
  split
  · rfl
  · split_ifs
    · rfl
    · split
      · rfl
      · split_ifs
        · rfl
        · exact afterClose_fillAndInit _ _ _ _

/-! ### Names -/

/-- A name is its own first part iff it has no second one. -/
theorem splitName_fst_eq_iff (name : CString) : (splitName name).1 = name ↔ ':' ∉ name := by
  rw [splitName]
  split_ifs with hcolon
  · refine iff_of_false (fun h => ?_) (not_not_intro hcolon)
    have hfst : name.takeWhile (· ≠ ':') = name := h
    have hmem : ':' ∈ name.takeWhile (· ≠ ':') := by rwa [hfst]
    have hne := List.mem_takeWhile_imp hmem
    exact absurd rfl (of_decide_eq_true hne)
  · exact iff_of_true rfl hcolon

theorem splitName_of_notMem (hcolon : ':' ∉ name) : splitName name = (name, none) :=
  if_neg hcolon

/-- What was left in `dl_idx` is used for files without a slash. -/
theorem locate_none_eq_iff (ld : Loader) (dlIdx : Option ℕ) (file : CString) :
    locate ld none file = locate ld dlIdx file ↔ dlIdx = none ∨ '/' ∈ file := by
  rw [locate, locate, afterSlash]
  by_cases hslash : '/' ∈ file
  · rw [if_pos hslash]
    exact iff_of_true rfl (.inr hslash)
  · rw [if_neg hslash, or_iff_left hslash]
    exact eq_comm

theorem request_none_eq_iff (hcolon : ':' ∉ name) (dlIdx : Option ℕ) :
    request ld none path name = request ld dlIdx path name ↔
      dlIdx = none ∨ '/' ∈ drvName path name := by
  rw [← locate_none_eq_iff ld, request, request, splitName_of_notMem hcolon]
  simp

/-- **A call of `vdlOpen` can be repeated iff it does nothing for want of memory, or the name has no
colon and either no driver of the program was chosen before or the file's name has a slash.** -/
theorem vdlOpen_repeatable_iff (ld : Loader) (memory : Bool) (st : LibState)
    (path name : CString) (cap : UInt32) (verbose : ℤ) :
    Repeatable ld memory st path name cap verbose ↔
      memory = false ∨ ':' ∉ name ∧ (st.dlIdx = none ∨ '/' ∈ drvName path name) := by
  cases memory with
  | false =>
    refine iff_of_true ⟨rfl, ?_⟩ (.inl rfl)
    rintro stream name' st' heq
    obtain ⟨rfl, hrest⟩ := Prod.mk.inj heq
    obtain ⟨hname, rfl⟩ := Prod.mk.inj hrest
    rw [← Option.some.inj hname]
    rfl
  | true =>
    have hopen : vdlOpen ld true st path (some name) cap verbose =
        ((serve ld st (request ld st.dlIdx path name) verbose).1, some (splitName name).1,
          (serve ld st (request ld st.dlIdx path name) verbose).2) := rfl
    have hclosed := afterClose_serve ld st (request ld st.dlIdx path name) verbose
    rw [or_iff_right (by decide)]
    constructor
    · rintro ⟨hname, hagain⟩
      rw [hopen] at hname hagain
      have hcolon := (splitName_fst_eq_iff name).1 (Option.some.inj hname)
      have hsame := hagain _ _ _ rfl
      rw [hclosed, splitName_of_notMem hcolon] at hsame
      exact ⟨hcolon, (request_none_eq_iff hcolon st.dlIdx).1 hsame⟩
    · rintro ⟨hcolon, hidx⟩
      refine ⟨?_, ?_⟩
      · rw [hopen, splitName_of_notMem hcolon]
      · intro stream name' st' heq
        rw [hopen, splitName_of_notMem hcolon] at heq
        obtain ⟨rfl, hrest⟩ := Prod.mk.inj heq
        obtain ⟨hname, rfl⟩ := Prod.mk.inj hrest
        rw [← Option.some.inj hname, hclosed]
        exact (request_none_eq_iff hcolon st.dlIdx).2 hidx

/-- The name is cut at its colon, and the arguments are not passed the second time. -/
theorem vdlOpen_loses_args :
    (vdlOpen s3Loader true ⟨none, []⟩ "/usr/lib/vidix/".toList (some "s3_vid.so:mem=4".toList) 0
        0).2.1 = some "s3_vid.so".toList ∧
      (request s3Loader none "/usr/lib/vidix/".toList "s3_vid.so:mem=4".toList).args =
        some "mem=4".toList ∧
      (request s3Loader none "/usr/lib/vidix/".toList "s3_vid.so".toList).args = none ∧
      ¬ Repeatable s3Loader true ⟨none, []⟩ "/usr/lib/vidix/".toList "s3_vid.so:mem=4".toList
        0 0 := by
  have hname : (vdlOpen s3Loader true ⟨none, []⟩ "/usr/lib/vidix/".toList
      (some "s3_vid.so:mem=4".toList) 0 0).2.1 = some "s3_vid.so".toList := by
    decide +kernel
  refine ⟨hname, by decide +kernel, by decide +kernel, fun h => ?_⟩
  have hunchanged := h.unchanged
  rw [hname] at hunchanged
  exact absurd hunchanged (by decide +kernel)

end Vidix.Vidixlib
