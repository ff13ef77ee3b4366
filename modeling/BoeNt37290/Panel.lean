/-
The state the nt37290 refresh-rate engine works on.

`struct nt37290_panel` embeds the common `struct exynos_panel` as `base`; the
model flattens the two into one record and keeps of `base` only the fields
this driver reads or writes. The fields the surrounding DRM, backlight and
sysfs code writes and the driver only reads (self refresh, HBM, dimming, the
idle knobs, the backlight level) are grouped in `Inputs`, so that the
environment changing them is one transition.

Two fields are not in either struct: `now`, the monotonic clock `ktime_get()`
reads (in microseconds, the unit of the early-exit thresholds), and `log`,
everything the driver has sent to the panel or printed, oldest first.

The feature bitmap is `DECLARE_BITMAP(feat, G10_FEAT_MAX)` with
`G10_FEAT_MAX = 2`, modelled as a record of its two bits with the bitmap
operations the driver uses. `bitmap_empty (bitmap_xor a b)` is `a = b`
(`bitmap_empty_xor`), which is the skip test of `nt37290_update_panel_feat`.
-/
import BoeNt37290.Tables

set_option autoImplicit false

namespace BoeNt37290

/-! ## The feature bitmap -/

/-- `enum nt37290_panel_feature`. The two features are correlated: when one changes the
other is rewritten too. -/
inductive nt37290_panel_feature where
  /-- Early exit from a long frame. -/
  | G10_FEAT_EARLY_EXIT
  /-- Automatic (not manual) frame control. -/
  | G10_FEAT_FRAME_AUTO
deriving DecidableEq, Repr

open nt37290_panel_feature

/-- `DECLARE_BITMAP(.., G10_FEAT_MAX)`: one bit per feature. -/
structure feat_bitmap where
  early_exit : Bool
  frame_auto : Bool
deriving DecidableEq, Repr

/-- The bitmap `bitmap_clear(map, 0, G10_FEAT_MAX)` leaves (and `devm_kzalloc` starts with). -/
def bitmap_zero : feat_bitmap := ⟨false, false⟩

/-- `test_bit(nr, map)`. -/
def test_bit : nt37290_panel_feature → feat_bitmap → Bool
  | G10_FEAT_EARLY_EXIT, m => m.early_exit
  | G10_FEAT_FRAME_AUTO, m => m.frame_auto

/-- `set_bit(nr, map)`. -/
def set_bit : nt37290_panel_feature → feat_bitmap → feat_bitmap
  | G10_FEAT_EARLY_EXIT, m => { m with early_exit := true }
  | G10_FEAT_FRAME_AUTO, m => { m with frame_auto := true }

/-- `clear_bit(nr, map)`. -/
def clear_bit : nt37290_panel_feature → feat_bitmap → feat_bitmap
  | G10_FEAT_EARLY_EXIT, m => { m with early_exit := false }
  | G10_FEAT_FRAME_AUTO, m => { m with frame_auto := false }

/-- `bitmap_xor(dst, a, b, G10_FEAT_MAX)`. -/
def bitmap_xor (a b : feat_bitmap) : feat_bitmap :=
  ⟨xor a.early_exit b.early_exit, xor a.frame_auto b.frame_auto⟩

/-- `bitmap_empty(map, G10_FEAT_MAX)`. -/
def bitmap_empty (m : feat_bitmap) : Bool := !m.early_exit && !m.frame_auto

@[simp] theorem test_bit_early_exit (m : feat_bitmap) : test_bit G10_FEAT_EARLY_EXIT m = m.early_exit :=
  rfl

@[simp] theorem test_bit_frame_auto (m : feat_bitmap) : test_bit G10_FEAT_FRAME_AUTO m = m.frame_auto :=
  rfl

/-- Setting both correlated bits gives the full bitmap, whatever was there. -/
@[simp] theorem set_bit_both (m : feat_bitmap) :
    set_bit G10_FEAT_FRAME_AUTO (set_bit G10_FEAT_EARLY_EXIT m) = ⟨true, true⟩ := rfl

/-- Clearing both correlated bits gives the empty bitmap. -/
@[simp] theorem clear_bit_both (m : feat_bitmap) :
    clear_bit G10_FEAT_FRAME_AUTO (clear_bit G10_FEAT_EARLY_EXIT m) = bitmap_zero := rfl

/-- The skip test of `nt37290_update_panel_feat`: no bit differs exactly when the
bitmaps are equal. -/
@[simp] theorem bitmap_empty_xor (a b : feat_bitmap) : bitmap_empty (bitmap_xor a b) = (a == b) := by
  rcases a with ⟨_ | _, _ | _⟩ <;> rcases b with ⟨_ | _, _ | _⟩ <;> rfl

/-! ## Modes -/

/-- `enum exynos_panel_idle_mode` of the common header; a mode that does not set it (the
LP mode) has the first enumerator. -/
inductive exynos_panel_idle_mode where
  | IDLE_MODE_UNSUPPORTED
  | IDLE_MODE_ON_INACTIVITY
  | IDLE_MODE_ON_SELF_REFRESH
deriving DecidableEq, Repr

open exynos_panel_idle_mode

/-- `struct exynos_panel_mode`, as far as this driver reads it. `vrefresh` is
`drm_mode_vrefresh(&pmode->mode)`, the DRM core's rate of the mode's timings. -/
structure exynos_panel_mode where
  vrefresh : Int
  is_lp_mode : Bool
  idle_mode : exynos_panel_idle_mode
deriving DecidableEq, Repr

/-- The first entry of `nt37290_modes[]`, `"1440x3120x60"`: no idle. -/
def nt37290_mode_60 : exynos_panel_mode := ⟨60, false, IDLE_MODE_UNSUPPORTED⟩

/-- The second entry of `nt37290_modes[]`, `"1440x3120x120"`: idle on self refresh. -/
def nt37290_mode_120 : exynos_panel_mode := ⟨120, false, IDLE_MODE_ON_SELF_REFRESH⟩

/-- `nt37290_modes[]`: 1440x3120 at 60 Hz and at 120 Hz. -/
def nt37290_modes : List exynos_panel_mode := [nt37290_mode_60, nt37290_mode_120]

/-- `nt37290_lp_mode`: 1440x3120 at 30 Hz, the AOD mode. -/
def nt37290_lp_mode : exynos_panel_mode := ⟨30, true, IDLE_MODE_UNSUPPORTED⟩

/-! ## The panel -/

/-- `enum exynos_hbm_mode` of the common header. -/
inductive exynos_hbm_mode where
  | HBM_OFF
  | HBM_ON_IRC_ON
  | HBM_ON_IRC_OFF
deriving DecidableEq, Repr

/-- `IS_HBM_ON(mode)`. -/
def IS_HBM_ON : exynos_hbm_mode → Bool
  | .HBM_OFF => false
  | _ => true

/-- The fields of `struct exynos_panel` that the common code and the backlight core write
and this driver only reads. -/
structure Inputs where
  self_refresh_active : Bool
  hbm_mode : exynos_hbm_mode
  dimming_on : Bool
  panel_idle_enabled : Bool
  min_vrefresh : Int
  idle_delay_ms : Nat
  /-- `ctx->bl->props.brightness`. -/
  brightness : Nat
deriving DecidableEq, Repr

/-- `struct nt37290_panel` with its `base` flattened in, plus the clock and the log. -/
structure nt37290_panel where
  /-- `ctx->current_mode`; `none` is `NULL`. -/
  current_mode : Option exynos_panel_mode
  /-- `is_panel_active(ctx)`. -/
  active : Bool
  inputs : Inputs
  /-- `ctx->panel_rev`, read from the panel id at probe. -/
  panel_rev : UInt32
  /-- `ctx->panel_idle_vrefresh`: the idle rate the driver reports to the display pipeline. -/
  panel_idle_vrefresh : Int
  /-- `ctx->hbm.local_hbm.enabled`. -/
  local_hbm_enabled : Bool
  last_commit_ts : Nat
  last_mode_set_ts : Nat
  /-- Software/working correlated features, not guaranteed to be effective in the panel. -/
  feat : feat_bitmap
  /-- Correlated features effective in the panel. -/
  hw_feat : feat_bitmap
  /-- Refresh rate effective in the panel. -/
  hw_vrefresh : Int
  /-- Idle refresh rate effective in the panel. -/
  hw_idle_vrefresh : Int
  /-- The minimum refresh rate in auto mode, 0 when auto mode is off (`u32` in the
  source; every value stored is 0, 10, 30 or 60). -/
  auto_mode_vrefresh : Int
  /-- Idle was held back by `idle_delay_ms`. -/
  delayed_idle : Bool
  /-- `ktime_get()`, in microseconds. -/
  now : Nat
  /-- What the driver sent and printed, oldest first. -/
  log : List Event

/-- `nt37290_panel_probe`: the zeroed allocation with the four shadow fields set; the
common init leaves no mode, an inactive panel and default inputs. -/
def nt37290_panel_probe (panel_rev : UInt32) : nt37290_panel where
  current_mode := none
  active := false
  inputs := ⟨false, .HBM_OFF, false, false, 0, 0, 0⟩
  panel_rev := panel_rev
  panel_idle_vrefresh := 0
  local_hbm_enabled := false
  last_commit_ts := 0
  last_mode_set_ts := 0
  feat := bitmap_zero
  hw_feat := bitmap_zero
  hw_vrefresh := 60
  hw_idle_vrefresh := 0
  auto_mode_vrefresh := 0
  delayed_idle := false
  now := 0
  log := []

end BoeNt37290
