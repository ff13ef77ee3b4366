/-
The rest of the driver's entry points: self refresh, the early-exit trigger
and `commit_done`, AOD exit, enable and disable, brightness, local HBM, mode
set, and the TE2 timing update.

Several functions of the common panel code are called here and are not in
this tree. They are modelled from the spec, as narrowly as the driver's use of
them needs: `exynos_panel_set_lp_mode` writes the panel's `lp_cmd_set`,
`exynos_panel_set_binned_lp` the command set of an AOD bin,
`exynos_panel_disable` writes the `off_cmd_set` and leaves the panel
inactive, and `exynos_panel_set_brightness` writes the DCS brightness (0x51).
`exynos_panel_get_current_mode_te2` is an answer the TE2 update is given
(`te2_timing_result`), since it only reads the common mode table.

Each function that can dereference a `NULL` `ctx->current_mode` returns an
`Option`; `none` is that dereference. Each entry point with branches has a
`_cases` lemma that says everything it can do, and the log-only ones a `_log`
lemma that says what they write, so the invariant proofs never unfold them.
-/
import BoeNt37290.Feat

set_option autoImplicit false

namespace BoeNt37290

open nt37290_panel_feature exynos_panel_idle_mode

/-! ## Self refresh and early exit -/

/-- `nt37290_set_self_refresh`: renegotiate the current mode; self refresh is not supported
in LP mode, which always makes use of early exit. -/
def nt37290_set_self_refresh (s : nt37290_panel) (_enable : Bool) :
    Option (nt37290_panel × Bool) :=
  match s.current_mode with
  | none => some (s, false)
  | some pmode => if pmode.is_lp_mode then some (s, false) else nt37290_change_frequency s pmode

/-- What `nt37290_set_self_refresh` can do: nothing, or renegotiate a non-LP current mode. -/
theorem set_self_refresh_cases {s s' : nt37290_panel} {enable u : Bool}
    (hs : nt37290_set_self_refresh s enable = some (s', u)) :
    s' = s ∨ ∃ cur, s.current_mode = some cur ∧ cur.is_lp_mode = false ∧
      nt37290_change_frequency s cur = some (s', u) := by
  unfold nt37290_set_self_refresh at hs
  split at hs
  · exact .inl (Prod.mk.inj (Option.some.inj hs)).1.symm
  rename_i cur hcur
  split at hs
  · exact .inl (Prod.mk.inj (Option.some.inj hs)).1.symm
  · rename_i hlp
    exact .inr ⟨cur, hcur, by simpa using hlp, hs⟩

/-- `EARLY_EXIT_THRESHOLD_US`: just over two 120 Hz frames, the least time auto mode needs
to start lowering the rate. -/
def EARLY_EXIT_THRESHOLD_US : Nat := 17000

/-- `IDLE_DELAY_THRESHOLD_US`: a frame gap long enough to drop auto idle rather than keep
it alive. -/
def IDLE_DELAY_THRESHOLD_US : Nat := 50000

/-- `nt37290_trigger_early_exit`: nothing within 17 ms of the last commit; otherwise stamp
a mode set and either renegotiate the current mode (a delay is configured and more than
50 ms passed) or send a single 0x2C. -/
def nt37290_trigger_early_exit (s : nt37290_panel) : Option nt37290_panel :=
  let delta_us := s.now - s.last_commit_ts
  if delta_us < EARLY_EXIT_THRESHOLD_US then some s
  else
    let s := { s with last_mode_set_ts := s.now }
    if s.inputs.idle_delay_ms ≠ 0 ∧ delta_us > IDLE_DELAY_THRESHOLD_US then
      match s.current_mode with
      | none => none
      | some pmode => (nt37290_change_frequency s pmode).map Prod.fst
    else some { s with log := s.log ++ EXYNOS_DCS_WRITE_TABLE stream_2c }

/-- `nt37290_commit_done`: on an active panel with a mode, trigger early exit when it is
on, else renegotiate a mode that idles on inactivity once idle was held back. -/
def nt37290_commit_done (s : nt37290_panel) : Option nt37290_panel :=
  match s.current_mode with
  | none => some s
  | some pmode =>
    if s.active = false then some s
    else if test_bit G10_FEAT_EARLY_EXIT s.feat then nt37290_trigger_early_exit s
    else if pmode.idle_mode = IDLE_MODE_ON_INACTIVITY ∧ s.delayed_idle = true then
      (nt37290_change_frequency s pmode).map Prod.fst
    else some s

/-- **What `nt37290_commit_done` can do**: nothing; or, on an active panel with a mode,
stamp a mode set and send 0x2C (early exit soon after a commit), or renegotiate the
current mode, from the state itself (deferred idle) or with the mode set stamped (early
exit after a long idle). -/
theorem commit_done_cases {s s' : nt37290_panel} (hs : nt37290_commit_done s = some s') :
    s' = s ∨ s.active = true ∧ ∃ cur, s.current_mode = some cur ∧
      (s' = { s with last_mode_set_ts := s.now, log := s.log ++ EXYNOS_DCS_WRITE_TABLE stream_2c } ∨
        ∃ u, nt37290_change_frequency s cur = some (s', u) ∨
          nt37290_change_frequency { s with last_mode_set_ts := s.now } cur = some (s', u)) := by
  unfold nt37290_commit_done at hs
  split at hs
  · exact .inl (Option.some.inj hs).symm
  rename_i cur hcur
  split at hs
  · exact .inl (Option.some.inj hs).symm
  rename_i hact
  have hact : s.active = true := by simpa using hact
  split at hs
  · unfold nt37290_trigger_early_exit at hs
    dsimp only at hs
    split at hs
    · exact .inl (Option.some.inj hs).symm
    split at hs
    · split at hs
      · cases hs
      · rename_i pmode hm
        obtain rfl : pmode = cur := Option.some.inj (hm.symm.trans hcur)
        obtain ⟨⟨t, u⟩, hc, rfl⟩ := Option.map_eq_some'.1 hs
        exact .inr ⟨hact, pmode, hcur, .inr ⟨u, .inr hc⟩⟩
    · exact .inr ⟨hact, cur, hcur, .inl (Option.some.inj hs).symm⟩
  split at hs
  · obtain ⟨⟨t, u⟩, hc, rfl⟩ := Option.map_eq_some'.1 hs
    exact .inr ⟨hact, cur, hcur, .inr ⟨u, .inl hc⟩⟩
  · exact .inl (Option.some.inj hs).symm

/-! ## AOD, enable, disable -/

/-- Modelled from the spec: `exynos_panel_set_lp_mode`, the common helper, writes the
panel's `lp_cmd_set`. -/
def exynos_panel_set_lp_mode (s : nt37290_panel) (_pmode : exynos_panel_mode) : nt37290_panel :=
  { s with log := s.log ++ exynos_panel_send_cmd_set s.panel_rev nt37290_lp_cmds }

/-- Modelled from the spec: `exynos_panel_set_binned_lp`, the common helper, writes the
command set of one of the panel's AOD brightness bins. -/
def exynos_panel_set_binned_lp (s : nt37290_panel) (binned_lp : exynos_binned_lp) :
    nt37290_panel :=
  { s with log := s.log ++ exynos_panel_send_cmd_set s.panel_rev binned_lp.cmds }

/-- `nt37290_set_nolp_mode`: exit AOD, renegotiate `pmode` (forced, the current mode is
still the LP one), and send two frames and display on. -/
def nt37290_set_nolp_mode (s : nt37290_panel) (pmode : exynos_panel_mode) :
    Option nt37290_panel :=
  if s.active = false then some s
  else
    let s := { s with log := s.log ++ EXYNOS_DCS_WRITE_SEQ_DELAY 34 [0x38] }
    (nt37290_change_frequency s pmode).map fun (s, _) =>
      { s with log := s.log ++ (EXYNOS_DCS_WRITE_TABLE_DELAY 34 stream_2c ++
          EXYNOS_DCS_WRITE_TABLE stream_2c ++ EXYNOS_DCS_WRITE_TABLE display_on) }

/-- What `nt37290_set_nolp_mode` can do: nothing on an inactive panel; otherwise 0x38, a
forced renegotiation of `pmode`, two frames and display on. -/
theorem set_nolp_mode_cases {s s' : nt37290_panel} {pmode : exynos_panel_mode}
    (hs : nt37290_set_nolp_mode s pmode = some s') :
    s.active = false ∧ s' = s ∨ s.active = true ∧ ∃ t u,
      nt37290_change_frequency { s with log := s.log ++ EXYNOS_DCS_WRITE_SEQ_DELAY 34 [0x38] } pmode =
        some (t, u) ∧
      s' = { t with log := t.log ++ (EXYNOS_DCS_WRITE_TABLE_DELAY 34 stream_2c ++
        EXYNOS_DCS_WRITE_TABLE stream_2c ++ EXYNOS_DCS_WRITE_TABLE display_on) } := by
  unfold nt37290_set_nolp_mode at hs
  split at hs
  · exact .inl ⟨‹_›, (Option.some.inj hs).symm⟩
  · rename_i hact
    obtain ⟨⟨t, u⟩, hc, rfl⟩ := Option.map_eq_some'.1 hs
    exact .inr ⟨by simpa using hact, t, u, hc, rfl⟩

/-- `-EINVAL`. -/
def EINVAL : Int := 22

/-- `nt37290_enable`: reset, init and local-HBM settings, then commit the stored features
and idle rate at the current mode's rate, forced; display on, or AOD for an LP mode. -/
def nt37290_enable (s : nt37290_panel) : Option (nt37290_panel × Int) :=
  match s.current_mode with
  | none => some ({ s with log := s.log ++ [.warn .no_current_mode_set] }, -EINVAL)
  | some pmode =>
    let s := { s with log := s.log ++ ([.reset] ++
      exynos_panel_send_cmd_set s.panel_rev nt37290_init_cmds ++
      exynos_panel_send_cmd_set s.panel_rev nt37290_lhbm_on_setting_cmds) }
    (nt37290_update_panel_feat s (some pmode) true).map fun (s, _) =>
      (if pmode.is_lp_mode = false then { s with log := s.log ++ EXYNOS_DCS_WRITE_TABLE display_on }
        else exynos_panel_set_lp_mode s pmode, 0)

/-- Modelled from the spec: `exynos_panel_disable`, the common helper, writes the panel's
`off_cmd_set`, and the panel is no longer active. -/
def exynos_panel_disable (s : nt37290_panel) : nt37290_panel :=
  { s with active := false,
           log := s.log ++ exynos_panel_send_cmd_set s.panel_rev nt37290_off_cmds }

/-- `nt37290_disable`: the panel registers are reset with the hardware, so the shadow goes
back to its reset values. -/
def nt37290_disable (s : nt37290_panel) : nt37290_panel :=
  exynos_panel_disable { s with hw_feat := bitmap_zero, hw_vrefresh := 60, hw_idle_vrefresh := 0 }

/-- `nt37290_panel_init`: write the local-HBM settings (the debugfs entry it also creates is
not modelled). -/
def nt37290_panel_init (s : nt37290_panel) : nt37290_panel :=
  { s with log := s.log ++ exynos_panel_send_cmd_set s.panel_rev nt37290_lhbm_on_setting_cmds }

/-! ## Brightness and local HBM -/

/-- The LHBM DBV value write both brightness paths queue: the level split in two bytes,
three times, at offset 0x4C of CMD2 page 0. -/
def lhbm_dbv_write (level : UInt16) : List Event :=
  let val1 : UInt8 := (level >>> 8).toUInt8
  let val2 : UInt8 := (level &&& 0xff).toUInt8
  EXYNOS_DCS_BUF_ADD_SET cmd2_page0 ++ EXYNOS_DCS_BUF_ADD [0x6F, 0x4C] ++
    EXYNOS_DCS_BUF_ADD [0xDF, val1, val2, val1, val2, val1, val2]

@[simp] theorem writes_lhbm_dbv_write (level : UInt16) :
    writes (lhbm_dbv_write level) = [0xF0, 0x6F, 0xDF] := rfl

@[simp] theorem NoUnsupported_lhbm_dbv_write (level : UInt16) :
    NoUnsupported (lhbm_dbv_write level) := by
  simp [lhbm_dbv_write, EXYNOS_DCS_BUF_ADD_SET]

/-- Modelled from the spec: `exynos_panel_set_brightness`, the common helper, writes the
brightness to the panel (DCS 0x51, high byte first). -/
def exynos_panel_set_brightness (s : nt37290_panel) (br : UInt16) : nt37290_panel :=
  { s with log := s.log ++ EXYNOS_DCS_WRITE_TABLE [0x51, (br >>> 8).toUInt8, (br &&& 0xff).toUInt8] }

/-- `nt37290_set_brightness`: with local HBM on an EVT1 or later panel, rewrite the LHBM
level (`br * 4`) along with the brightness. -/
def nt37290_set_brightness (s : nt37290_panel) (br : UInt16) : nt37290_panel :=
  let s := if s.panel_rev ≥ PANEL_REV_EVT1 ∧ s.local_hbm_enabled = true then
      { s with log := s.log ++ lhbm_dbv_write (br * 4) }
    else s
  exynos_panel_set_brightness s br

/-- `nt37290_set_local_hbm_mode`: nothing when the state is already the requested one;
otherwise on EVT1 and later panels switch gamma timing (0x2F) and FPS mode with LHBM,
on earlier panels use the single 0x87 code. -/
def nt37290_set_local_hbm_mode (s : nt37290_panel) (local_hbm_en : Bool) : nt37290_panel :=
  if s.local_hbm_enabled = local_hbm_en then s
  else
    let s := { s with local_hbm_enabled := local_hbm_en }
    let cmds : List Event :=
      if local_hbm_en then
        (if s.panel_rev ≥ PANEL_REV_EVT1 then
          lhbm_dbv_write (UInt16.ofNat (s.inputs.brightness * 4)) ++
            EXYNOS_DCS_BUF_ADD [0x2F, 0x02] ++ EXYNOS_DCS_BUF_ADD [0x87, 0x01]
        else EXYNOS_DCS_BUF_ADD [0x87, 0x21]) ++ EXYNOS_DCS_BUF_ADD_AND_FLUSH [0x85]
      else
        EXYNOS_DCS_BUF_ADD [0x86] ++
          (if s.panel_rev ≥ PANEL_REV_EVT1 then
            EXYNOS_DCS_BUF_ADD [0x87, 0x00] ++ EXYNOS_DCS_BUF_ADD_AND_FLUSH [0x2F, 0x00]
          else EXYNOS_DCS_BUF_ADD_AND_FLUSH [0x87, 0x20])
    { s with log := s.log ++ cmds }

/-! ## Mode set and TE2 -/

/-- `nt37290_mode_set`: renegotiate for the new mode on an active panel. -/
def nt37290_mode_set (s : nt37290_panel) (pmode : exynos_panel_mode) : Option nt37290_panel :=
  if s.active = false then some s else (nt37290_change_frequency s pmode).map Prod.fst

/-- What `nt37290_mode_set` can do: nothing on an inactive panel, else renegotiate. -/
theorem mode_set_cases {s s' : nt37290_panel} {pmode : exynos_panel_mode}
    (hs : nt37290_mode_set s pmode = some s') :
    s.active = false ∧ s' = s ∨
      s.active = true ∧ ∃ u, nt37290_change_frequency s pmode = some (s', u) := by
  unfold nt37290_mode_set at hs
  split at hs
  · exact .inl ⟨‹_›, (Option.some.inj hs).symm⟩
  · rename_i hact
    obtain ⟨⟨t, u⟩, hc, rfl⟩ := Option.map_eq_some'.1 hs
    exact .inr ⟨by simpa using hact, u, hc⟩

/-- `NT37290_TE2_MIN_RATE`: below this idle rate TE2 must be fixed. -/
def NT37290_TE2_MIN_RATE : Int := 30

/-- `NT37290_TE2_CHANGEABLE`. -/
def NT37290_TE2_CHANGEABLE : UInt8 := 0x02

/-- `NT37290_TE2_FIXED`. -/
def NT37290_TE2_FIXED : UInt8 := 0x22

/-- `nt37290_get_te2_option`: fixed TE2 in AOD and when auto mode may go below 30 Hz. -/
def nt37290_get_te2_option (s : nt37290_panel) : UInt8 :=
  match s.current_mode with
  | none => NT37290_TE2_CHANGEABLE
  | some m =>
    if m.is_lp_mode = true ∨ (s.hw_idle_vrefresh > 0 ∧ s.hw_idle_vrefresh < NT37290_TE2_MIN_RATE)
    then NT37290_TE2_FIXED else NT37290_TE2_CHANGEABLE

/-- Modelled from the spec: what `exynos_panel_get_current_mode_te2` of the common code
answers (`getCurrentModeTE2Timing`): the current mode's edges, `-EAGAIN` (not ready) or
another error. -/
inductive te2_timing_result where
  | ok (rising_edge falling_edge : Nat)
  | eagain
  | error
deriving DecidableEq, Repr

/-- `nt37290_update_te2`: write the TE2 option and edges (rising 0, falling 0x30 when the
timing is not ready); on any other failure write nothing. -/
def nt37290_update_te2 (s : nt37290_panel) (timing : te2_timing_result) : nt37290_panel :=
  let option := nt37290_get_te2_option s
  let edges : Option (UInt8 × UInt8) := match timing with
    | .ok r f => some (UInt8.ofNat r, UInt8.ofNat f)
    | .eagain => some (0, 0x30)
    | .error => none
  match edges with
  | none => { s with log := s.log ++ [.warn .failed_to_get_current_timing] }
  | some (rising, falling) =>
    { s with log := s.log ++ (EXYNOS_DCS_BUF_ADD [0xF0, 0x55, 0xAA, 0x52, 0x08, 0x03] ++
        EXYNOS_DCS_BUF_ADD [0xC3, option] ++ EXYNOS_DCS_BUF_ADD [0x6F, 0x04] ++
        EXYNOS_DCS_BUF_ADD [0xC3, option] ++
        EXYNOS_DCS_BUF_ADD_AND_FLUSH [0xC4, 0x00, 0x00, 0x00, 0x00, 0x00, rising, 0x10, falling]) }

/-- **What `nt37290_enable` does** with a current mode: after the reset and the init and
local-HBM sets, a forced commit of the stored features and idle rate at the rate of the
current mode, then display on, or the AOD set for an LP mode. -/
theorem enable_eq (s : nt37290_panel) {pmode : exynos_panel_mode}
    (h : s.current_mode = some pmode) :
    nt37290_enable s = some ({ s with
      panel_idle_vrefresh := 0, hw_vrefresh := pmode.vrefresh,
      hw_idle_vrefresh := s.auto_mode_vrefresh, hw_feat := s.feat,
      log := s.log ++ ([.reset] ++ exynos_panel_send_cmd_set s.panel_rev nt37290_init_cmds ++
        exynos_panel_send_cmd_set s.panel_rev nt37290_lhbm_on_setting_cmds) ++
        nt37290_update_panel_feat.batch pmode.vrefresh s.auto_mode_vrefresh s.feat.early_exit
          s.feat.frame_auto ++
        if pmode.is_lp_mode = false then EXYNOS_DCS_WRITE_TABLE display_on
        else exynos_panel_send_cmd_set s.panel_rev nt37290_lp_cmds }, 0) := by
  simp only [nt37290_enable, h, update_panel_feat_eq, feat_changed, Bool.true_or, ite_true,
    Option.map_some']
  split <;> simp_all [exynos_panel_set_lp_mode]

/-! ## What the log-only entry points write

Brightness, local HBM and TE2 write nothing but the log (and the local-HBM
flag). None of them writes the TE shift; only local HBM on an EVT1 or later
panel writes 0x2F. -/

theorem set_brightness_log (s : nt37290_panel) (br : UInt16) :
    ∃ l, nt37290_set_brightness s br = { s with log := s.log ++ l } ∧
      writes l ⊆ [0xF0, 0x6F, 0xDF, 0x51] ∧ NoUnsupported l ∧ Sent l := by
  unfold nt37290_set_brightness exynos_panel_set_brightness
  split_ifs
  · refine ⟨lhbm_dbv_write (br * 4) ++ EXYNOS_DCS_WRITE_TABLE
      [0x51, (br >>> 8).toUInt8, (br &&& 0xff).toUInt8], by simp, ?_, ?_, ?_⟩ <;>
    simp [EXYNOS_DCS_WRITE_TABLE, Sent]
  · exact ⟨_, rfl, by simp [EXYNOS_DCS_WRITE_TABLE], by simp [EXYNOS_DCS_WRITE_TABLE],
      by simp [EXYNOS_DCS_WRITE_TABLE, Sent]⟩

theorem set_local_hbm_mode_log (s : nt37290_panel) (local_hbm_en : Bool) :
    ∃ l, nt37290_set_local_hbm_mode s local_hbm_en =
        { s with local_hbm_enabled := local_hbm_en, log := s.log ++ l } ∧
      writes l ⊆ [0x2F, 0xF0, 0x6F, 0xDF, 0x87, 0x85, 0x86] ∧
      (s.panel_rev < PANEL_REV_EVT1 → writes l ⊆ [0x87, 0x85, 0x86]) ∧ NoUnsupported l ∧
      Sent l := by
  unfold nt37290_set_local_hbm_mode
  by_cases heq : s.local_hbm_enabled = local_hbm_en
  · exact ⟨[], by simp [← heq], by simp, fun _ => by simp, nofun, by simp [Sent]⟩
  rw [if_neg heq]
  refine ⟨_, rfl, ?_⟩
  by_cases hrev : s.panel_rev < PANEL_REV_EVT1
  · have hge : ¬ s.panel_rev ≥ PANEL_REV_EVT1 := fun h => absurd hrev (UInt32.not_lt.2 h)
    cases local_hbm_en <;>
      simp only [hge, ↓reduceIte, Bool.false_eq_true, writes_append, writes_BUF_ADD,
        writes_BUF_ADD_AND_FLUSH, List.head?_cons, Option.toList_some] <;>
      exact ⟨by decide, fun _ => by decide, by simp, by simp [Sent]⟩
  · have hge : s.panel_rev ≥ PANEL_REV_EVT1 := UInt32.not_lt.1 hrev
    cases local_hbm_en <;>
      simp only [hge, ↓reduceIte, Bool.false_eq_true, writes_append, writes_BUF_ADD,
        writes_BUF_ADD_AND_FLUSH, writes_lhbm_dbv_write, List.head?_cons, Option.toList_some] <;>
      exact ⟨by decide, (absurd · hrev), by simp, by simp [Sent]⟩

theorem update_te2_log (s : nt37290_panel) (timing : te2_timing_result) :
    ∃ l, nt37290_update_te2 s timing = { s with log := s.log ++ l } ∧
      writes l ⊆ [0xF0, 0xC3, 0x6F, 0xC4] ∧ NoUnsupported l ∧ Sent l := by
  unfold nt37290_update_te2
  cases timing
  case error => exact ⟨_, rfl, by simp, by decide, by simp [Sent]⟩
  all_goals exact ⟨_, rfl, by
    simp only [writes_append, writes_BUF_ADD, writes_BUF_ADD_AND_FLUSH, List.head?_cons,
      Option.toList_some]
    decide, by simp, by simp [Sent]⟩

end BoeNt37290
