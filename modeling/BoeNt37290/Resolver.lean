/-
`nt37290_update_min_idle_vrefresh`, the idle-rate resolver, against the
resolver the driver is documented to be.

The code buckets `ctx->min_vrefresh` with a chain of `<=` tests, drops the
rate when auto mode is not allowed or the mode cannot idle, cuts it when it
is not strictly below the target, and then holds it back while less than
`idle_delay_ms` has passed since the last mode set. `resolve_ref` says the
first three steps the way the documentation does: the least tier of
`{10, 30, 60}` at or above the request, then the cut.
`update_min_idle_vrefresh_eq` shows the code computes exactly that, with the
debounce on top, for every input; every later proof reads the resolver
through it and the three facts below it, never through the `if` chain.

`panel_get_idle_time_delta` lives in the common header, which is not in this
tree: it is the time since `last_mode_set_ts` in milliseconds, taken from the
same clock reading as the rest of the operation.
-/
import BoeNt37290.Panel

set_option autoImplicit false

namespace BoeNt37290

open exynos_panel_idle_mode

/-- The idle rates the panel has an auto-frame-insertion payload for, and 0 (idle off). -/
def IdleRate (x : Int) : Prop := x = 0 ∨ x = 10 ∨ x = 30 ∨ x = 60

instance : DecidablePred IdleRate := fun x =>
  inferInstanceAs (Decidable (x = 0 ∨ x = 10 ∨ x = 30 ∨ x = 60))

/-! ## The code -/

/-- `is_auto_mode_allowed`: no auto mode or early exit during HBM or while dimming. -/
def is_auto_mode_allowed (s : nt37290_panel) : Bool :=
  if IS_HBM_ON s.inputs.hbm_mode || s.inputs.dimming_on then false
  else s.inputs.panel_idle_enabled

/-- Modelled from the spec: `panel_get_idle_time_delta` of the common code, the milliseconds
since the last mode set, from the injected clock. -/
def panel_get_idle_time_delta (s : nt37290_panel) : Nat := (s.now - s.last_mode_set_ts) / 1000

/-- `nt37290_update_min_idle_vrefresh`: bucket `min_vrefresh`, keep it strictly below the
target rate, and hold it back (`delayed_idle`) while the idle delay has not passed. -/
def nt37290_update_min_idle_vrefresh (s : nt37290_panel) (pmode : exynos_panel_mode) :
    nt37290_panel :=
  let vrefresh := pmode.vrefresh
  let min_vrefresh := s.inputs.min_vrefresh
  let idle_vrefresh : Int :=
    if min_vrefresh = 0 ∨ is_auto_mode_allowed s = false ∨
        pmode.idle_mode = IDLE_MODE_UNSUPPORTED then 0
    else if min_vrefresh ≤ 10 then 10
    else if min_vrefresh ≤ 30 then 30
    else if min_vrefresh ≤ 60 then 60
    else 0
  let idle_vrefresh := if idle_vrefresh ≥ vrefresh then 0 else idle_vrefresh
  if idle_vrefresh ≠ 0 ∧ s.inputs.idle_delay_ms ≠ 0 ∧
      panel_get_idle_time_delta s < s.inputs.idle_delay_ms then
    { s with delayed_idle := true, auto_mode_vrefresh := 0 }
  else
    { s with delayed_idle := false, auto_mode_vrefresh := idle_vrefresh }

/-! ## The reference -/

/-- The least tier of `{10, 30, 60}` at or above `min_vrefresh`, 0 if there is none. -/
def idle_tier_ref (min_vrefresh : Int) : Int :=
  (([10, 30, 60] : List Int).find? (min_vrefresh ≤ ·)).getD 0

/-- The resolver as documented: no idle when nothing is requested, auto mode is not
allowed or the mode cannot idle; else the tier of the request, unless it is not below
the target rate `vrefresh`. -/
def resolve_ref (min_vrefresh : Int) (allowed : Bool) (idle_mode : exynos_panel_idle_mode)
    (vrefresh : Int) : Int :=
  let b := if min_vrefresh = 0 ∨ allowed = false ∨ idle_mode = IDLE_MODE_UNSUPPORTED then 0
    else idle_tier_ref min_vrefresh
  if b ≥ vrefresh then 0 else b

/-- The least tier as the `<=` chain of the code computes it. -/
theorem idle_tier_ref_eq (m : Int) :
    idle_tier_ref m = if m ≤ 10 then 10 else if m ≤ 30 then 30 else if m ≤ 60 then 60 else 0 := by
  by_cases h10 : m ≤ 10
  · simp [idle_tier_ref, h10]
  by_cases h30 : m ≤ 30
  · simp [idle_tier_ref, h10, h30]
  by_cases h60 : m ≤ 60 <;> simp [idle_tier_ref, h10, h30, h60]

/-- The reference resolver gives 0 or a tier below the target. -/
theorem resolve_ref_spec (m : Int) (a : Bool) (im : exynos_panel_idle_mode) (v : Int) :
    IdleRate (resolve_ref m a im v) ∧ (resolve_ref m a im v ≠ 0 → resolve_ref m a im v < v) := by
  have hb : IdleRate (if m = 0 ∨ a = false ∨ im = IDLE_MODE_UNSUPPORTED then 0
      else idle_tier_ref m) := by
    rw [idle_tier_ref_eq]
    unfold IdleRate
    split_ifs <;> omega
  simp only [resolve_ref]
  generalize (if m = 0 ∨ a = false ∨ im = IDLE_MODE_UNSUPPORTED then 0 else idle_tier_ref m) = b
    at hb ⊢
  unfold IdleRate at hb ⊢
  split_ifs <;> omega

/-! ## The code computes the reference -/

/-- The resolver's rate before the debounce, for the inputs of `s` and the target `pmode`. -/
abbrev resolved (s : nt37290_panel) (pmode : exynos_panel_mode) : Int :=
  resolve_ref s.inputs.min_vrefresh (is_auto_mode_allowed s) pmode.idle_mode pmode.vrefresh

/-- Whether the debounce holds a rate `r` back. -/
abbrev held_back (s : nt37290_panel) (r : Int) : Prop :=
  r ≠ 0 ∧ s.inputs.idle_delay_ms ≠ 0 ∧ panel_get_idle_time_delta s < s.inputs.idle_delay_ms

/-- **The resolver.** The code writes `delayed_idle` and `auto_mode_vrefresh` and nothing
else, and writes there what the reference and the debounce give. -/
theorem update_min_idle_vrefresh_eq (s : nt37290_panel) (pmode : exynos_panel_mode) :
    nt37290_update_min_idle_vrefresh s pmode =
      { s with delayed_idle := decide (held_back s (resolved s pmode)),
               auto_mode_vrefresh := if held_back s (resolved s pmode) then 0
                 else resolved s pmode } := by
  have hcode : nt37290_update_min_idle_vrefresh s pmode =
      if held_back s (resolved s pmode) then { s with delayed_idle := true, auto_mode_vrefresh := 0 }
      else { s with delayed_idle := false, auto_mode_vrefresh := resolved s pmode } := by
    simp only [nt37290_update_min_idle_vrefresh, resolved, resolve_ref, idle_tier_ref_eq]
  by_cases h : held_back s (resolved s pmode)
  · rw [hcode, if_pos h, if_pos h, decide_eq_true h]
  · rw [hcode, if_neg h, if_neg h, decide_eq_false h]

/-- The resolver writes nothing but `delayed_idle` and `auto_mode_vrefresh`. -/
@[simp] theorem update_min_idle_vrefresh_frame (s : nt37290_panel) (pmode : exynos_panel_mode) :
    let r := nt37290_update_min_idle_vrefresh s pmode
    r.current_mode = s.current_mode ∧ r.active = s.active ∧ r.inputs = s.inputs ∧
      r.panel_rev = s.panel_rev ∧ r.panel_idle_vrefresh = s.panel_idle_vrefresh ∧
      r.local_hbm_enabled = s.local_hbm_enabled ∧ r.last_commit_ts = s.last_commit_ts ∧
      r.last_mode_set_ts = s.last_mode_set_ts ∧ r.feat = s.feat ∧ r.hw_feat = s.hw_feat ∧
      r.hw_vrefresh = s.hw_vrefresh ∧ r.hw_idle_vrefresh = s.hw_idle_vrefresh ∧ r.now = s.now ∧
      r.log = s.log := by
  simp only [update_min_idle_vrefresh_eq, and_self]

/-- **Idle-rate resolver against its reference.** For every input, the resolver sets
`delayed_idle` exactly when the documented rate is nonzero, a delay is configured and it
has not passed, and stores the documented rate unless it held it back; so it only ever
stores 0, 10, 30 or 60, and a nonzero rate below the target. -/
theorem nt37290_update_min_idle_vrefresh_matches_ref (s : nt37290_panel)
    (pmode : exynos_panel_mode) :
    let r := resolve_ref s.inputs.min_vrefresh (is_auto_mode_allowed s) pmode.idle_mode
      pmode.vrefresh
    let s' := nt37290_update_min_idle_vrefresh s pmode
    s'.delayed_idle = decide (r ≠ 0 ∧ s.inputs.idle_delay_ms ≠ 0 ∧
        panel_get_idle_time_delta s < s.inputs.idle_delay_ms) ∧
      s'.auto_mode_vrefresh = (if s'.delayed_idle then 0 else r) ∧
      IdleRate s'.auto_mode_vrefresh ∧
      (s'.auto_mode_vrefresh ≠ 0 → s'.auto_mode_vrefresh < pmode.vrefresh) := by
  obtain ⟨hmem, hlt⟩ := resolve_ref_spec s.inputs.min_vrefresh (is_auto_mode_allowed s)
    pmode.idle_mode pmode.vrefresh
  simp only [update_min_idle_vrefresh_eq]
  by_cases h : held_back s (resolved s pmode)
  · simp only [resolved] at h
    simp [h, IdleRate]
  · simp only [resolved] at h
    simp only [h, decide_False, ite_false, Bool.false_eq_true, true_and]
    exact ⟨hmem, hlt⟩

/-! ## What the rest of the driver uses -/

section
variable (s : nt37290_panel) (pmode : exynos_panel_mode)

/-- The stored rate is one the panel has a payload for. -/
theorem auto_mode_vrefresh_idleRate :
    IdleRate (nt37290_update_min_idle_vrefresh s pmode).auto_mode_vrefresh := by
  rw [update_min_idle_vrefresh_eq]
  split_ifs
  · exact Or.inl rfl
  · exact (resolve_ref_spec _ _ _ _).1

/-- A mode that cannot idle gets no idle rate. -/
theorem auto_mode_vrefresh_unsupported (h : pmode.idle_mode = IDLE_MODE_UNSUPPORTED) :
    (nt37290_update_min_idle_vrefresh s pmode).auto_mode_vrefresh = 0 := by
  simp [update_min_idle_vrefresh_eq, resolve_ref, h]

/-- Holding idle back stores no rate. -/
theorem auto_mode_vrefresh_of_delayed
    (h : (nt37290_update_min_idle_vrefresh s pmode).delayed_idle = true) :
    (nt37290_update_min_idle_vrefresh s pmode).auto_mode_vrefresh = 0 := by
  rw [update_min_idle_vrefresh_eq] at h ⊢
  simp_all

end

end BoeNt37290
