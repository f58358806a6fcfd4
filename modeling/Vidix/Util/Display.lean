import Vidix.Util.Overwrite
import Vidix.Util.Simulation
import Mathlib.Data.List.Nodup
import Mathlib.Data.Option.Defs

/-!
# A display that fetches frames from a memory

Some frames have a place in a memory for each of their samples.  An application draws into the
frames and makes calls to a driver, and a display fetches the samples from where the driver has told
it, or shows nothing.  All that should be known of this are the pictures last drawn and which of
them is shown (`Frames`).  It is all that can be seen when no two samples share a place and each
call of the driver has the display fetch one whole frame (`display_refines`).
-/

namespace Vidix.Util

variable {ι κ β γ σ τ : Type*}

/-- What an application does, and when the display fetches. -/
inductive DisplayRequest (ι κ β γ : Type*)
  | draw (i : ι) (picture : κ → β)
  | call (c : γ)
  | scan

/-- The picture in each frame, and what decides which of them is shown. -/
structure Frames (ι κ β τ : Type*) where
  pictures : ι → κ → β
  control : τ

/-- The memory, and the driver with the registers of the display. -/
structure Display (β σ : Type*) where
  memory : ℕ → β
  driver : σ

/-- What a request is to do: only a scan has something to show, and only when a frame is shown. -/
def framesStep [DecidableEq ι] (samples : List κ) (turn : τ → γ → τ) (front : τ → Option ι)
    (f : Frames ι κ β τ) : DisplayRequest ι κ β γ → Option (List β) × Frames ι κ β τ
  | .draw i picture => (none, { f with pictures := Function.update f.pictures i picture })
  | .call c => (none, { f with control := turn f.control c })
  | .scan => ((front f.control).map fun i => samples.map (f.pictures i), f)

/-- What a request does. -/
def displayStep (samples : List κ) (place : ι → κ → ℕ) (call : σ → γ → σ)
    (fetch : σ → Option (κ → ℕ)) (d : Display β σ) :
    DisplayRequest ι κ β γ → Option (List β) × Display β σ
  | .draw i picture =>
    (none, { d with memory := writeAll d.memory (samples.map fun k => (place i k, picture k)) })
  | .call c => (none, { d with driver := call d.driver c })
  | .scan => ((fetch d.driver).map fun adrs => samples.map fun k => d.memory (adrs k), d)

/-- No two samples have the same place. -/
structure PlacesApart (samples : List κ) (place : ι → κ → ℕ) : Prop where
  nodup : samples.Nodup
  eq_of_place : ∀ i j, ∀ k ∈ samples, ∀ l ∈ samples, place i k = place j l → i = j ∧ k = l

/-- The frame that is shown, if any, is the one that is fetched. -/
def FetchesFront (samples : List κ) (place : ι → κ → ℕ) : Option (κ → ℕ) → Option ι → Prop :=
  Option.Rel fun adrs i => ∀ k ∈ samples, adrs k = place i k

section

variable {samples : List κ} {place : ι → κ → ℕ}

/-! ### Drawing -/

theorem PlacesApart.draw_same (h : PlacesApart samples place) (memory : ℕ → β) (i : ι)
    (picture : κ → β) {k : κ} (hk : k ∈ samples) :
    writeAll memory (samples.map fun k => (place i k, picture k)) (place i k) = picture k := by
  refine writeAll_of_mem ?_ (List.mem_map_of_mem (f := fun k => (place i k, picture k)) hk) memory
  rw [List.map_map]
  exact h.nodup.map_on fun k hk l hl heq => (h.eq_of_place i i k hk l hl heq).2

/-- What is no place in the frame keeps what it held. -/
theorem draw_of_ne (memory : ℕ → β) (i : ι) (picture : κ → β) {a : ℕ}
    (ha : ∀ k ∈ samples, place i k ≠ a) :
    writeAll memory (samples.map fun k => (place i k, picture k)) a = memory a := by
  apply writeAll_of_not_mem
  rw [List.map_map, List.mem_map]
  rintro ⟨k, hk, heq⟩
  exact ha k hk heq

/-! ### The two steps side by side -/

/-- The frames hold what is in the memory. -/
structure Pictured (samples : List κ) (place : ι → κ → ℕ) (Shows : σ → τ → Prop)
    (d : Display β σ) (f : Frames ι κ β τ) : Prop where
  shows : Shows d.driver f.control
  pictures : ∀ i, ∀ k ∈ samples, f.pictures i k = d.memory (place i k)

variable {call : σ → γ → σ} {fetch : σ → Option (κ → ℕ)} {turn : τ → γ → τ}
  {front : τ → Option ι} {Shows : σ → τ → Prop} {d : Display β σ} {f : Frames ι κ β τ}

/-- What is fetched is the picture in the frame that is shown. -/
theorem Pictured.scan (h : Pictured samples place Shows d f)
    (hfetch : FetchesFront samples place (fetch d.driver) (front f.control)) :
    ((fetch d.driver).map fun adrs => samples.map fun k => d.memory (adrs k)) =
      (front f.control).map fun i => samples.map (f.pictures i) := by
  unfold FetchesFront at hfetch
  generalize fetch d.driver = fetched at hfetch ⊢
  generalize front f.control = shown at hfetch ⊢
  cases hfetch with
  | none => rfl
  | some hadrs =>
    refine congrArg some (List.map_congr_left fun k hk => ?_)
    rw [hadrs k hk, h.pictures _ k hk]

variable [DecidableEq ι]

theorem Pictured.draw (hplace : PlacesApart samples place) (h : Pictured samples place Shows d f)
    (i : ι) (picture : κ → β) :
    Pictured samples place Shows
      { d with memory := writeAll d.memory (samples.map fun k => (place i k, picture k)) }
      { f with pictures := Function.update f.pictures i picture } := by
  refine ⟨h.shows, fun j k hk => ?_⟩
  dsimp only
  by_cases hij : j = i
  · rw [hij, Function.update_self]
    exact (hplace.draw_same d.memory i picture hk).symm
  · rw [Function.update_of_ne hij, h.pictures j k hk]
    refine (draw_of_ne d.memory i picture fun l hl heq => ?_).symm
    exact hij (hplace.eq_of_place i j l hl k hk heq).1.symm

theorem displayStep_simulates (hplace : PlacesApart samples place)
    (hcall : ∀ s t c, Shows s t → Shows (call s c) (turn t c))
    (hfetch : ∀ s t, Shows s t → FetchesFront samples place (fetch s) (front t)) :
    Simulates (Pictured (β := β) samples place Shows) (displayStep samples place call fetch)
      (framesStep samples turn front) := by
  intro d f request h
  cases request with
  | draw i picture => exact ⟨rfl, h.draw hplace i picture⟩
  | call c => exact ⟨rfl, hcall _ _ c h.shows, h.pictures⟩
  | scan => exact ⟨h.scan (hfetch _ _ h.shows), h⟩

/-- **All that is ever fetched is the picture last drawn into the frame that is shown.** -/
theorem display_refines (hplace : PlacesApart samples place)
    (hcall : ∀ s t c, Shows s t → Shows (call s c) (turn t c))
    (hfetch : ∀ s t, Shows s t → FetchesFront samples place (fetch s) (front t)) {t : τ}
    (h : Shows d.driver t) (requests : List (DisplayRequest ι κ β γ)) :
    (answers (displayStep samples place call fetch) d requests).1 =
      (answers (framesStep samples turn front)
        { pictures := fun i k => d.memory (place i k), control := t } requests).1 :=
  (answers_eq (displayStep_simulates hplace hcall hfetch) ⟨h, fun _ _ _ => rfl⟩ requests).1

end

end Vidix.Util
