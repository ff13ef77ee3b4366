/-
The command-batch builder and the reconciliation of the desired features
against the committed shadow: `nt37290_update_panel_feat` and
`nt37290_change_frequency`.

`nt37290_update_panel_feat` is cut in two. `nt37290_update_panel_feat.batch`
is the register sequence it queues for a rate, an idle rate and the two
feature bits (with `.afi`, the auto frame insertion part, on its own because
the safety statement is about it); the function itself is the skip test and
the shadow update around it. The only fallible step is the dereference of
`ctx->current_mode` when it is passed no mode, which none of its callers in
this driver does.

`batch_shape` says once what a batch is: a body that leaves 0x2F as the
configuration asks, then the TE shift, with the one flush at the end; the
register and transfer facts about batches are read off it.
`update_panel_feat_eq` and `change_frequency_eq` say once what a call does:
the resulting record, field by field. Every invariant proof goes through them
and never through the `if` chains, and `nt37290_change_frequency_contract`
is the reconciliation contract read off `change_frequency_eq`.
-/
import BoeNt37290.Resolver

set_option autoImplicit false

namespace BoeNt37290

open nt37290_panel_feature exynos_panel_idle_mode

/-! ## The batch -/

/-- The auto frame insertion part of a frame-skip batch: the 0xBA payload for manual mode
at 60 Hz or for auto mode at an idle rate of 10, 30 or 60 Hz, a warning otherwise. -/
def nt37290_update_panel_feat.afi (vrefresh idle_vrefresh : Int) (fi : Bool) : List Event :=
  if fi = false then
    if vrefresh = 60 then
      EXYNOS_DCS_BUF_ADD [0xBA, 0x91, 0x01, 0x01, 0x00, 0x01, 0x01, 0x01, 0x00]
    else [.warn (.unsupported_vrefresh vrefresh)]
  else if idle_vrefresh = 10 then
    EXYNOS_DCS_BUF_ADD [0xBA, 0x93, 0x09, 0x03, 0x00, 0x11, 0x0B, 0x0B, 0x00, 0x06]
  else if idle_vrefresh = 30 then
    EXYNOS_DCS_BUF_ADD [0xBA, 0x93, 0x03, 0x02, 0x00, 0x11, 0x03, 0x03, 0x00, 0x04]
  else if idle_vrefresh = 60 then
    EXYNOS_DCS_BUF_ADD [0xBA, 0x93, 0x01, 0x01, 0x00, 0x01, 0x01, 0x01, 0x00, 0x00]
  else [.warn (.unsupported_idle_vrefresh idle_vrefresh)]

/-- The batch `nt37290_update_panel_feat` queues and flushes: manual high speed without
frame skip at 120 Hz, else frame skip with the early exit bit (the panel's bit disables
it), the auto frame insertion setting at offset 0x1C of CMD2 page 0, a frame, and the TE
shift (none at 120 Hz, 8.2 ms below). -/
def nt37290_update_panel_feat.batch (vrefresh idle_vrefresh : Int) (ee fi : Bool) :
    List Event :=
  if vrefresh = 120 ∧ fi = false then
    EXYNOS_DCS_BUF_ADD [0x2F, 0x00] ++ EXYNOS_DCS_BUF_ADD_AND_FLUSH [0x44, 0x00, 0x00]
  else
    EXYNOS_DCS_BUF_ADD [0x2F, 0x00] ++ EXYNOS_DCS_BUF_ADD [0x2F, 0x30] ++
      EXYNOS_DCS_BUF_ADD [0x5A, if ee then 0 else 1] ++
      EXYNOS_DCS_BUF_ADD_SET cmd2_page0 ++ EXYNOS_DCS_BUF_ADD [0x6F, 0x1C] ++
      nt37290_update_panel_feat.afi vrefresh idle_vrefresh fi ++
      EXYNOS_DCS_BUF_ADD [0x2C] ++
      (if vrefresh = 120 then EXYNOS_DCS_BUF_ADD_AND_FLUSH [0x44, 0x00, 0x00]
        else EXYNOS_DCS_BUF_ADD_AND_FLUSH [0x44, 0x00, 0x01])

/-- The value a batch leaves in 0x2F: 0x00 (no frame skip) at 120 Hz in manual mode,
0x30 (frame skip) otherwise. -/
def expected2F (vrefresh : Int) (fi : Bool) : UInt8 :=
  if vrefresh = 120 ∧ fi = false then 0x00 else 0x30

/-- The TE shift a batch leaves in 0x44: none at 120 Hz, 8.2 ms below. -/
def expected44 (vrefresh : Int) : List UInt8 :=
  if vrefresh = 120 then [0x00, 0x00] else [0x00, 0x01]

/-- The auto frame insertion part is one 0xBA payload or one of the two `Unsupported`
warnings. -/
theorem afi_cases (v i : Int) (fi : Bool) :
    (∃ p, nt37290_update_panel_feat.afi v i fi = [.cmd (0xBA :: p) 0]) ∨
      ∃ w, nt37290_update_panel_feat.afi v i fi = [.warn w] ∧ w.unsupported = true := by
  generalize h : nt37290_update_panel_feat.afi v i fi = l
  unfold nt37290_update_panel_feat.afi at h
  repeat' split at h
  all_goals subst h; first | exact .inl ⟨_, rfl⟩ | exact .inr ⟨_, rfl, rfl⟩

/-- **What a batch is**: a body that leaves 0x2F as the configuration asks, then the TE
shift for the rate, queued with the one flush that sends them all. -/
theorem batch_shape (v i : Int) (ee fi : Bool) :
    ∃ body, nt37290_update_panel_feat.batch v i ee fi =
        body ++ EXYNOS_DCS_BUF_ADD_AND_FLUSH (0x44 :: expected44 v) ∧
      Event.flush ∉ body ∧ regVal 0x2F body = some [expected2F v fi] := by
  have hafi : Event.flush ∉ nt37290_update_panel_feat.afi v i fi ∧
      regVal 0x2F (nt37290_update_panel_feat.afi v i fi) = none := by
    rcases afi_cases v i fi with ⟨p, h⟩ | ⟨w, h, -⟩ <;> simp [h]
  have htail : (if v = 120 then EXYNOS_DCS_BUF_ADD_AND_FLUSH [0x44, 0x00, 0x00]
      else EXYNOS_DCS_BUF_ADD_AND_FLUSH [0x44, 0x00, 0x01]) =
        EXYNOS_DCS_BUF_ADD_AND_FLUSH (0x44 :: expected44 v) := by
    unfold expected44; split <;> rfl
  unfold nt37290_update_panel_feat.batch expected2F
  by_cases hm : v = 120 ∧ fi = false
  · rw [if_pos hm, if_pos hm, expected44, if_pos hm.1]
    exact ⟨EXYNOS_DCS_BUF_ADD [0x2F, 0x00], rfl, by simp [EXYNOS_DCS_BUF_ADD], rfl⟩
  · rw [if_neg hm, if_neg hm, htail]
    exact ⟨_, rfl, by simp [hafi.1, EXYNOS_DCS_BUF_ADD, EXYNOS_DCS_BUF_ADD_SET],
      by simp [hafi.2, EXYNOS_DCS_BUF_ADD, EXYNOS_DCS_BUF_ADD_SET, cmd2_page0]⟩

/-- Every batch sets 0x2F to what the configuration asks for. -/
theorem regVal_batch_2F (v i : Int) (ee fi : Bool) :
    regVal 0x2F (nt37290_update_panel_feat.batch v i ee fi) = some [expected2F v fi] := by
  obtain ⟨body, h, -, h2F⟩ := batch_shape v i ee fi
  simp [h, h2F, EXYNOS_DCS_BUF_ADD_AND_FLUSH]

/-- Every batch sets the TE shift for its rate. -/
theorem regVal_batch_44 (v i : Int) (ee fi : Bool) :
    regVal 0x44 (nt37290_update_panel_feat.batch v i ee fi) = some (expected44 v) := by
  obtain ⟨body, h, -⟩ := batch_shape v i ee fi
  simp [h, EXYNOS_DCS_BUF_ADD_AND_FLUSH]

/-- A batch is one transfer: a single flush, at its end. -/
theorem batch_one_transfer (v i : Int) (ee fi : Bool) :
    ∃ cmds, nt37290_update_panel_feat.batch v i ee fi = cmds ++ [.flush] ∧ .flush ∉ cmds := by
  obtain ⟨body, h, hflush, -⟩ := batch_shape v i ee fi
  exact ⟨body ++ [.cmd (0x44 :: expected44 v) 0], by simp [h, EXYNOS_DCS_BUF_ADD_AND_FLUSH],
    by simpa using hflush⟩

/-- So a batch leaves nothing queued. -/
theorem queueState_batch (v i : Int) (ee fi : Bool) :
    queueState (nt37290_update_panel_feat.batch v i ee fi) = some false := by
  obtain ⟨body, h, -⟩ := batch_shape v i ee fi
  simp [h]

/-! ## `nt37290_update_panel_feat` -/

/-- `nt37290_update_panel_feat`: unless `enforce`, skip (and return `false`) when neither
the features nor the rates differ from what the panel has; otherwise commit them to the
shadow and queue the batch. Reports no idle rate to the pipeline meanwhile. -/
def nt37290_update_panel_feat (s : nt37290_panel) (pmode : Option exynos_panel_mode)
    (enforce : Bool) : Option (nt37290_panel × Bool) :=
  let vrefresh? := match pmode with
    | some p => some p.vrefresh
    | none => s.current_mode.map exynos_panel_mode.vrefresh
  vrefresh?.map fun vrefresh =>
    let idle_vrefresh := s.auto_mode_vrefresh
    let s := { s with panel_idle_vrefresh := 0 }
    if enforce = false ∧ bitmap_empty (bitmap_xor s.feat s.hw_feat) = true ∧
        vrefresh = s.hw_vrefresh ∧ idle_vrefresh = s.hw_idle_vrefresh then (s, false)
    else
      let ee := test_bit G10_FEAT_EARLY_EXIT s.feat
      let fi := test_bit G10_FEAT_FRAME_AUTO s.feat
      ({ s with hw_vrefresh := vrefresh, hw_idle_vrefresh := idle_vrefresh, hw_feat := s.feat,
                log := s.log ++ nt37290_update_panel_feat.batch vrefresh idle_vrefresh ee fi },
        true)

/-- Whether `nt37290_update_panel_feat` flushes: when forced, or when something differs. -/
abbrev feat_changed (s : nt37290_panel) (vrefresh : Int) (enforce : Bool) : Bool :=
  enforce || !(s.feat == s.hw_feat && vrefresh == s.hw_vrefresh &&
    s.auto_mode_vrefresh == s.hw_idle_vrefresh)

/-- **What `nt37290_update_panel_feat` does.** Afterwards the shadow holds the features
and rates, whether or not it flushed; it appended the batch exactly when it flushed. -/
theorem update_panel_feat_eq (s : nt37290_panel) (p : exynos_panel_mode) (enforce : Bool) :
    nt37290_update_panel_feat s (some p) enforce =
      some ({ s with panel_idle_vrefresh := 0, hw_vrefresh := p.vrefresh,
                     hw_idle_vrefresh := s.auto_mode_vrefresh, hw_feat := s.feat,
                     log := s.log ++ if feat_changed s p.vrefresh enforce then
                       nt37290_update_panel_feat.batch p.vrefresh s.auto_mode_vrefresh
                         s.feat.early_exit s.feat.frame_auto else [] },
            feat_changed s p.vrefresh enforce) := by
  simp only [nt37290_update_panel_feat, Option.map_some', bitmap_empty_xor, beq_iff_eq,
    test_bit_early_exit, test_bit_frame_auto, feat_changed]
  by_cases h : enforce = false ∧ s.feat = s.hw_feat ∧ p.vrefresh = s.hw_vrefresh ∧
      s.auto_mode_vrefresh = s.hw_idle_vrefresh
  · obtain ⟨rfl, h1, h2, h3⟩ := h
    cases s
    simp_all
  · rw [if_neg h]
    have : (enforce || !(s.feat == s.hw_feat && p.vrefresh == s.hw_vrefresh &&
        s.auto_mode_vrefresh == s.hw_idle_vrefresh)) = true := by
      cases enforce
      · simp only [true_and, not_and] at h
        simpa [or_assoc, imp_iff_not_or] using h
      · rfl
    simp only [this, ite_true]

/-! ## `nt37290_change_frequency` -/

/-- The `idle_active` test of `nt37290_change_frequency`, on the state the resolver left:
an idle rate, and a mode that idles on inactivity, or on self refresh while it is on. -/
def nt37290_change_frequency.idle_active (s : nt37290_panel) (pmode : exynos_panel_mode) :
    Bool :=
  s.auto_mode_vrefresh != 0 && (pmode.idle_mode == IDLE_MODE_ON_INACTIVITY ||
    (pmode.idle_mode == IDLE_MODE_ON_SELF_REFRESH && s.inputs.self_refresh_active))

/-- `nt37290_change_frequency`: resolve the idle rate for `pmode`, set or clear the two
correlated features together, and commit (forced when leaving AOD, which left the panel
in manual mode); notify the backlight when something was sent. `none` is the
dereference of a `NULL` current mode. -/
def nt37290_change_frequency (s : nt37290_panel) (pmode : exynos_panel_mode) :
    Option (nt37290_panel × Bool) :=
  match s.current_mode with
  | none => none
  | some cur =>
    let was_lp_mode := cur.is_lp_mode
    let s := nt37290_update_min_idle_vrefresh s pmode
    let s := if nt37290_change_frequency.idle_active s pmode then
        { s with feat := set_bit G10_FEAT_FRAME_AUTO (set_bit G10_FEAT_EARLY_EXIT s.feat) }
      else { s with feat := clear_bit G10_FEAT_FRAME_AUTO (clear_bit G10_FEAT_EARLY_EXIT s.feat) }
    (nt37290_update_panel_feat s (some pmode) was_lp_mode).map fun (s, updated) =>
      let s := { s with
        panel_idle_vrefresh := if s.inputs.self_refresh_active then s.hw_idle_vrefresh else 0 }
      (if updated then { s with log := s.log ++ [.backlight_state_changed] } else s, updated)

/-- The features `nt37290_change_frequency` asks for: both or neither. -/
def desired_feat (s : nt37290_panel) (pmode : exynos_panel_mode) : feat_bitmap :=
  if nt37290_change_frequency.idle_active (nt37290_update_min_idle_vrefresh s pmode) pmode
  then ⟨true, true⟩ else bitmap_zero

/-- The state after `nt37290_change_frequency s pmode` when the current mode is set:
resolver output, desired features, and the shadow equal to them. -/
def change_frequency_post (s : nt37290_panel) (pmode : exynos_panel_mode) (updated : Bool) :
    nt37290_panel :=
  let r := nt37290_update_min_idle_vrefresh s pmode
  { r with feat := desired_feat s pmode, hw_feat := desired_feat s pmode,
           hw_vrefresh := pmode.vrefresh, hw_idle_vrefresh := r.auto_mode_vrefresh,
           panel_idle_vrefresh :=
             if s.inputs.self_refresh_active then r.auto_mode_vrefresh else 0,
           log := s.log ++ if updated then
             nt37290_update_panel_feat.batch pmode.vrefresh r.auto_mode_vrefresh
               (desired_feat s pmode).early_exit (desired_feat s pmode).frame_auto ++
               [.backlight_state_changed] else [] }

/-- Whether `nt37290_change_frequency s pmode` flushes, coming from mode `cur`. -/
def change_frequency_updated (s : nt37290_panel) (cur pmode : exynos_panel_mode) : Bool :=
  cur.is_lp_mode || !(desired_feat s pmode == s.hw_feat && pmode.vrefresh == s.hw_vrefresh &&
    (nt37290_update_min_idle_vrefresh s pmode).auto_mode_vrefresh == s.hw_idle_vrefresh)

/-- **What `nt37290_change_frequency` does**, when the current mode is set. -/
theorem change_frequency_eq (s : nt37290_panel) {cur : exynos_panel_mode}
    (hcur : s.current_mode = some cur) (pmode : exynos_panel_mode) :
    nt37290_change_frequency s pmode =
      some (change_frequency_post s pmode (change_frequency_updated s cur pmode),
            change_frequency_updated s cur pmode) := by
  obtain ⟨D, A, hr⟩ : ∃ D A, nt37290_update_min_idle_vrefresh s pmode =
      { s with delayed_idle := D, auto_mode_vrefresh := A } := ⟨_, _, update_min_idle_vrefresh_eq s pmode⟩
  simp only [nt37290_change_frequency, hcur, update_panel_feat_eq, Option.map_some',
    change_frequency_post, change_frequency_updated, desired_feat, feat_changed, hr]
  generalize nt37290_change_frequency.idle_active _ pmode = b
  cases b <;> cases cur.is_lp_mode <;> simp <;> split_ifs <;> simp

/-- `nt37290_change_frequency` leaves the mode, the power state, the inputs and the clocks
alone. -/
theorem change_frequency_frame {s s' : nt37290_panel} {pmode : exynos_panel_mode} {u : Bool}
    (hc : nt37290_change_frequency s pmode = some (s', u)) :
    s'.current_mode = s.current_mode ∧ s'.active = s.active ∧ s'.inputs = s.inputs ∧
      s'.last_commit_ts = s.last_commit_ts ∧ s'.last_mode_set_ts = s.last_mode_set_ts ∧
      s'.now = s.now := by
  cases hcur : s.current_mode with
  | none => simp [nt37290_change_frequency, hcur] at hc
  | some cur =>
    rw [change_frequency_eq s hcur] at hc
    cases hc
    simp [change_frequency_post, hcur]

/-- The resolver, run again on the state `nt37290_change_frequency` left with the same
inputs and clock, changes nothing. -/
theorem update_min_idle_vrefresh_post (s : nt37290_panel) (pmode : exynos_panel_mode)
    (u : Bool) :
    nt37290_update_min_idle_vrefresh (change_frequency_post s pmode u) pmode =
      change_frequency_post s pmode u := by
  rw [update_min_idle_vrefresh_eq (change_frequency_post s pmode u)]
  simp only [change_frequency_post, update_min_idle_vrefresh_eq s pmode, resolved, held_back,
    is_auto_mode_allowed, panel_get_idle_time_delta]

/-- **Reconciliation contract of `nt37290_change_frequency`.** For every state with a
current mode, every requested mode and every input: the call ends with the shadow equal to
the desired features and rates; it flushes (one transfer, the batch for the desired
configuration) and notifies the backlight exactly when the current mode was LP or the
desired configuration differs from the shadow, and otherwise sends nothing. Outside LP, a
second call with the same mode and inputs returns `false` and changes nothing. -/
theorem nt37290_change_frequency_contract (s : nt37290_panel) (cur pmode : exynos_panel_mode)
    (hcur : s.current_mode = some cur) :
    ∃ s' updated, nt37290_change_frequency s pmode = some (s', updated) ∧
      s'.hw_feat = s'.feat ∧ s'.hw_vrefresh = pmode.vrefresh ∧
      s'.hw_idle_vrefresh = s'.auto_mode_vrefresh ∧
      (updated = true ↔ cur.is_lp_mode = true ∨
        (s'.feat, pmode.vrefresh, s'.auto_mode_vrefresh) ≠
          (s.hw_feat, s.hw_vrefresh, s.hw_idle_vrefresh)) ∧
      s'.log = s.log ++ (if updated then
        nt37290_update_panel_feat.batch pmode.vrefresh s'.auto_mode_vrefresh
          s'.feat.early_exit s'.feat.frame_auto ++ [.backlight_state_changed] else []) ∧
      (∃ cmds, nt37290_update_panel_feat.batch pmode.vrefresh s'.auto_mode_vrefresh
          s'.feat.early_exit s'.feat.frame_auto = cmds ++ [.flush] ∧ .flush ∉ cmds) ∧
      (cur.is_lp_mode = false → nt37290_change_frequency s' pmode = some (s', false)) := by
  refine ⟨_, _, change_frequency_eq s hcur pmode, rfl, rfl, rfl, ?_, rfl,
    batch_one_transfer _ _ _ _, fun hlp => ?_⟩
  · simp only [change_frequency_updated, change_frequency_post, Bool.or_eq_true,
      Bool.not_eq_true', Bool.and_eq_false_iff, beq_eq_false_iff_ne, ne_eq, Prod.mk.injEq,
      not_and_or, or_assoc]
  · have hcur' : (change_frequency_post s pmode (change_frequency_updated s cur pmode)).current_mode
        = some cur := by simpa [change_frequency_post, update_min_idle_vrefresh_eq] using hcur
    rw [change_frequency_eq _ hcur']
    have hr := update_min_idle_vrefresh_post s pmode (change_frequency_updated s cur pmode)
    have hd : desired_feat (change_frequency_post s pmode (change_frequency_updated s cur pmode))
        pmode = desired_feat s pmode := by
      simp only [desired_feat, hr]
      simp [change_frequency_post, nt37290_change_frequency.idle_active]
    have hu : change_frequency_updated
        (change_frequency_post s pmode (change_frequency_updated s cur pmode)) cur pmode = false := by
      rw [change_frequency_updated, hd, hr, hlp]
      simp [change_frequency_post]
    rw [hu]
    conv_lhs => rw [change_frequency_post, hr, hd]
    simp [change_frequency_post]

theorem change_frequency_contract_60_to_120 :
    ∃ s' updated, nt37290_change_frequency
        { nt37290_panel_probe 8 with current_mode := some nt37290_mode_60 } nt37290_mode_120 =
          some (s', updated) ∧ s'.hw_vrefresh = 120 ∧ updated = true := by
  obtain ⟨s', u, hc, -, hv, -, hu, -⟩ :=
    nt37290_change_frequency_contract { nt37290_panel_probe 8 with current_mode := some nt37290_mode_60 }
      nt37290_mode_60 nt37290_mode_120 rfl
  refine ⟨s', u, hc, hv, hu.2 (.inr fun h => ?_)⟩
  simp only [Prod.mk.injEq] at h
  exact absurd h.2.1 (by decide)

end BoeNt37290
