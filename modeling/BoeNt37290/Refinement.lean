/-
The committed shadow is an abstraction of the panel.

The shadow (`hw_vrefresh`, `hw_idle_vrefresh`, `hw_feat`) stands for what
the panel runs. Read off the panel's frame-control registers, that is a
`frame_control`: no frame skip (0x2F = 0x00, TE unshifted), or frame skip
(0x2F = 0x30) from a base rate (0x44: no TE shift at 120 Hz, 8.2 ms at
60 Hz), with early exit on or off (0x5A disables it) and frame insertion that
is manual or auto down to an idle rate (the 0xBA payload). The payloads are
decoded by the tables of `nt37290_update_panel_feat` itself.

Two layers connect the shadow to it. `reachable_synced`: outside AOD
an active panel has committed what the driver last resolved, the current
mode's rate, the resolved idle rate and the features; nothing is left
pending between calls. `panel_frame_control_batch`: a batch for a
configuration the panel has payloads for sets exactly that configuration,
whatever the registers held before. With the settled registers of `Replay`,
`panel_runs_committed_frame_control` is the refinement: on the panel's own
modes, in every reachable state outside AOD, the registers decode to the
frame control the shadow stands for.
-/
import BoeNt37290.Replay
import BoeNt37290.Coherence
import BoeNt37290.Supported

set_option autoImplicit false

namespace BoeNt37290

open nt37290_panel_feature

/-! ## Nothing is left uncommitted outside AOD -/

/-- Outside AOD an active panel has committed the current mode's rate, the resolved idle
rate and the features. -/
def Synced (s : nt37290_panel) : Prop :=
  s.active = true → ∀ m, s.current_mode = some m → m.is_lp_mode = false →
    s.hw_vrefresh = m.vrefresh ∧ s.hw_idle_vrefresh = s.auto_mode_vrefresh ∧ s.hw_feat = s.feat

section
variable {s s' t : nt37290_panel}

/-- `Synced` reads seven fields; a step that keeps them keeps it. -/
theorem Synced.congr (h : Synced s) (hact : s'.active = s.active)
    (hcur : s'.current_mode = s.current_mode) (hv : s'.hw_vrefresh = s.hw_vrefresh)
    (hi : s'.hw_idle_vrefresh = s.hw_idle_vrefresh) (ha : s'.auto_mode_vrefresh = s.auto_mode_vrefresh)
    (hf : s'.hw_feat = s.hw_feat) (hf' : s'.feat = s.feat) : Synced s' := by
  intro ha' m hm hlp
  rw [hv, hi, ha, hf, hf']
  exact h (hact ▸ ha') m (hcur ▸ hm) hlp

theorem Synced.with_log (h : Synced s) (l : List Event) : Synced { s with log := l } :=
  h.congr rfl rfl rfl rfl rfl rfl rfl

/-- A state that commits a mode's rate with what it resolves is synced in that mode. -/
theorem Synced.of_commit {pmode : exynos_panel_mode} (hcur : s.current_mode = some pmode)
    (hv : s.hw_vrefresh = pmode.vrefresh) (hi : s.hw_idle_vrefresh = s.auto_mode_vrefresh)
    (hf : s.hw_feat = s.feat) : Synced s := by
  intro _ m hm _
  rw [hcur, Option.some.injEq] at hm
  exact hm ▸ ⟨hv, hi, hf⟩

/-- `nt37290_change_frequency` commits `pmode`'s rate with what it resolves, and leaves the
mode. -/
theorem change_frequency_synced {pmode : exynos_panel_mode} {u : Bool}
    (hc : nt37290_change_frequency s pmode = some (t, u)) :
    t.hw_vrefresh = pmode.vrefresh ∧ t.hw_idle_vrefresh = t.auto_mode_vrefresh ∧
      t.hw_feat = t.feat ∧ t.current_mode = s.current_mode := by
  cases hcur : s.current_mode with
  | none => simp [nt37290_change_frequency, hcur] at hc
  | some cur =>
    rw [change_frequency_eq s hcur] at hc
    obtain ⟨rfl, rfl⟩ := Prod.mk.inj (Option.some.inj hc)
    simp [change_frequency_post, update_min_idle_vrefresh_eq, hcur]

/-- A renegotiation for the current mode leaves the panel synced. -/
theorem Synced.of_change_frequency {pmode : exynos_panel_mode} {u : Bool}
    (hc : nt37290_change_frequency s pmode = some (t, u)) (hcur : s.current_mode = some pmode) :
    Synced t :=
  let ⟨hv, hi, hf, hcur'⟩ := change_frequency_synced hc
  .of_commit (hcur'.trans hcur) hv hi hf

/-- **Every step keeps the panel synced.** -/
theorem Synced.step {op : Op} (h : Synced s) (hok : op.drm_ok = true) (hs : step s op = some s') :
    Synced s' := by
  cases op with
  | mode_set pmode =>
    obtain ⟨t, ht, rfl⟩ := Option.map_eq_some'.1 hs
    rcases mode_set_cases ht with ⟨hact, rfl⟩ | ⟨-, u, hc⟩
    · exact fun ha => absurd ha (by simp [nt37290_panel.set_current_mode, hact])
    · obtain ⟨hv, hi, hf, -⟩ := change_frequency_synced hc
      exact .of_commit rfl hv hi hf
  | set_lp_mode pmode =>
    cases hs
    intro _ m hm hlp
    have hl : pmode.is_lp_mode = true := hok
    simp only [nt37290_panel.set_current_mode, Option.some.injEq] at hm
    simp [← hm, hl] at hlp
  | set_nolp_mode pmode =>
    obtain ⟨t, ht, rfl⟩ := Option.map_eq_some'.1 hs
    rcases set_nolp_mode_cases ht with ⟨hact, rfl⟩ | ⟨-, t, u, hc, rfl⟩
    · exact fun ha => absurd ha (by simp [nt37290_panel.set_current_mode, hact])
    · obtain ⟨hv, hi, hf, -⟩ := change_frequency_synced hc
      exact .of_commit rfl hv hi hf
  | set_self_refresh enable =>
    obtain ⟨⟨t, u⟩, ht, rfl⟩ := Option.map_eq_some'.1 hs
    rcases set_self_refresh_cases ht with rfl | ⟨cur, hcur, -, hc⟩
    · exact h
    · exact .of_change_frequency hc hcur
  | commit_done =>
    rcases commit_done_cases hs with rfl | ⟨-, cur, hcur, rfl | ⟨u, hc | hc⟩⟩
    · exact h
    · exact h.congr rfl rfl rfl rfl rfl rfl rfl
    all_goals exact .of_change_frequency hc hcur
  | enable =>
    obtain ⟨⟨t, ret⟩, ht, rfl⟩ := Option.map_eq_some'.1 hs
    show Synced (if ret = 0 then { t with active := true } else t)
    cases hcur : s.current_mode with
    | none =>
      simp only [nt37290_enable, hcur, Option.some.injEq, Prod.mk.injEq] at ht
      obtain ⟨rfl, rfl⟩ := ht
      rw [if_neg (by decide)]
      exact h.congr rfl hcur.symm rfl rfl rfl rfl rfl
    | some pmode =>
      rw [enable_eq s hcur] at ht
      obtain ⟨rfl, rfl⟩ := Prod.mk.inj (Option.some.inj ht)
      exact .of_commit hcur rfl rfl rfl
  | disable =>
    cases hs
    exact fun ha => absurd ha (by simp [nt37290_disable, exynos_panel_disable])
  | set_brightness br =>
    cases hs
    obtain ⟨l, hl, -⟩ := set_brightness_log s br
    rw [hl]; exact h.with_log _
  | set_local_hbm_mode en =>
    cases hs
    obtain ⟨l, hl, -⟩ := set_local_hbm_mode_log s en
    rw [hl]; exact h.congr rfl rfl rfl rfl rfl rfl rfl
  | update_te2 timing =>
    cases hs
    obtain ⟨l, hl, -⟩ := update_te2_log s timing
    rw [hl]; exact h.with_log _
  | set_binned_lp _ | panel_init => cases hs; exact h.with_log _
  | set_inputs _ | tick _ | record_commit | record_mode_set =>
    cases hs; exact h.congr rfl rfl rfl rfl rfl rfl rfl

end

theorem reachable_synced {s : nt37290_panel} (h : Reachable s) : Synced s := by
  induction h with
  | probe panel_rev => exact fun hact => nomatch hact
  | step op _ hok _ hs ih => exact ih.step hok hs

/-- **Nothing is left uncommitted outside AOD.** In every reachable state of an active
panel whose current mode is not an LP one, the committed shadow is the current mode's rate,
the idle rate last resolved and the features last asked for: between calls the driver never
holds a change it has not sent. (In AOD the shadow keeps the rate the panel had before, for
the forced commit of AOD exit.) -/
theorem reachable_shadow_synced {s : nt37290_panel} (h : Reachable s) (hact : s.active = true)
    {m : exynos_panel_mode} (hcur : s.current_mode = some m) (hlp : m.is_lp_mode = false) :
    s.hw_vrefresh = m.vrefresh ∧ s.hw_idle_vrefresh = s.auto_mode_vrefresh ∧ s.hw_feat = s.feat :=
  reachable_synced h hact m hcur hlp

theorem self_refresh_idle_synced :
    ∃ s, Reachable s ∧ s.active = true ∧ s.current_mode = some nt37290_mode_120 ∧
      s.hw_vrefresh = 120 ∧ s.hw_idle_vrefresh = s.auto_mode_vrefresh ∧ s.hw_feat = s.feat := by
  obtain ⟨s, hs, hp⟩ := Reachable.of_probe_run 8 self_refresh_idle_run
    (fun s => s.active && s.current_mode == some nt37290_mode_120) rfl (by decide)
  simp only [Bool.and_eq_true, beq_iff_eq] at hp
  exact ⟨s, hs, hp.1, hp.2, reachable_shadow_synced hs hp.1 hp.2 rfl⟩

/-! ## What the frame-control registers run -/

/-- What the panel's frame control runs. -/
inductive frame_control where
  /-- 0x2F = 0x00 with the TE timing restored: manual, high speed, no frame skip. -/
  | no_frame_skip
  /-- 0x2F = 0x30: frame skip from a base rate, early exit on or off, and frame insertion
  down to an idle rate, 0 for manual. -/
  | frame_skip (vrefresh : Int) (early_exit : Bool) (idle_vrefresh : Int)
deriving DecidableEq, Repr

/-- The base rate 0x44 sets: no TE shift at 120 Hz, 8.2 ms at 60 Hz. -/
def decode_te_shift (p : List UInt8) : Option Int :=
  if p = [0x00, 0x00] then some 120 else if p = [0x00, 0x01] then some 60 else none

/-- 0x5A is the early exit disable bit. -/
def decode_early_exit (p : List UInt8) : Option Bool :=
  if p = [0x00] then some true else if p = [0x01] then some false else none

/-- The frame insertion of an 0xBA payload, by the table of `nt37290_update_panel_feat`:
manual (0 Hz) or auto down to 10, 30 or 60 Hz. -/
def decode_afi (p : List UInt8) : Option Int :=
  if p = [0x91, 0x01, 0x01, 0x00, 0x01, 0x01, 0x01, 0x00] then some 0
  else if p = [0x93, 0x09, 0x03, 0x00, 0x11, 0x0B, 0x0B, 0x00, 0x06] then some 10
  else if p = [0x93, 0x03, 0x02, 0x00, 0x11, 0x03, 0x03, 0x00, 0x04] then some 30
  else if p = [0x93, 0x01, 0x01, 0x00, 0x01, 0x01, 0x01, 0x00, 0x00] then some 60
  else none

/-- The frame control the values of 0x2F, 0x44, 0x5A and 0xBA set. -/
def frame_control_of (r2F r44 r5A rBA : Option (List UInt8)) : Option frame_control :=
  if r2F = some [0x00] then
    if r44 = some [0x00, 0x00] then some .no_frame_skip else none
  else if r2F = some [0x30] then
    match r44.bind decode_te_shift, r5A.bind decode_early_exit, rBA.bind decode_afi with
    | some v, some ee, some i => some (.frame_skip v ee i)
    | _, _, _ => none
  else none

/-- The frame control the registers a command stream leaves set. -/
def panel_frame_control (l : List Event) : Option frame_control :=
  frame_control_of (regVal 0x2F l) (regVal 0x44 l) (regVal 0x5A l) (regVal 0xBA l)

/-- The frame control the committed shadow stands for. -/
def committed_frame_control (s : nt37290_panel) : frame_control :=
  if s.hw_vrefresh = 120 ∧ s.hw_feat.frame_auto = false then .no_frame_skip
  else .frame_skip s.hw_vrefresh s.hw_feat.early_exit
    (if s.hw_feat.frame_auto then s.hw_idle_vrefresh else 0)

/-- **A batch sets exactly its configuration.** For a rate of 60 or 120 Hz and auto frame
insertion at an idle rate the panel has a payload for, whatever the registers held before,
after the batch they decode to no frame skip at 120 Hz in manual mode, and otherwise to frame
skip from that rate with its early exit and frame insertion. -/
theorem panel_frame_control_batch (l : List Event) {v i : Int} {ee fi : Bool}
    (hv : v = 60 ∨ v = 120) (hauto : fi = true → i = 10 ∨ i = 30 ∨ i = 60) :
    panel_frame_control (l ++ nt37290_update_panel_feat.batch v i ee fi) =
      some (if v = 120 ∧ fi = false then .no_frame_skip
        else .frame_skip v ee (if fi then i else 0)) := by
  simp only [panel_frame_control, regVal_append]
  rcases hv with rfl | rfl <;> cases fi
  · cases ee <;> rfl
  · rcases hauto rfl with rfl | rfl | rfl <;> cases ee <;> rfl
  · rfl
  · rcases hauto rfl with rfl | rfl | rfl <;> cases ee <;> rfl

/-- The decoded frame control reads the frame-control registers only. -/
theorem panel_frame_control_congr {l l' : List Event}
    (h : ∀ r ∈ frame_regs, regVal r l' = regVal r l) :
    panel_frame_control l' = panel_frame_control l := by
  simp only [panel_frame_control, h 0x2F (by decide), h 0x44 (by decide), h 0x5A (by decide),
    h 0xBA (by decide)]

/-! ## The refinement -/

/-- A state reached through the runs one restriction admits is reached through those of a
weaker one. -/
theorem ReachableBy.mono {adm adm' : nt37290_panel → Op → Prop}
    (hadm : ∀ t op, adm t op → adm' t op) {s : nt37290_panel} (h : ReachableBy adm s) :
    ReachableBy adm' s := by
  induction h with
  | probe panel_rev => exact .probe panel_rev
  | step op _ hok ha hs ih => exact .step op ih hok (hadm _ _ ha) hs

/-- **The panel runs the committed frame control.** In every state reachable through runs
that pass the driver only the panel's own modes, and through runs that switch local HBM
only on panels before EVT1, while the panel is on outside AOD, the frame-control registers
decode to the frame control the committed shadow stands for: no frame skip at 120 Hz
without auto frame insertion, otherwise frame skip from the committed rate with the
committed early exit and, with auto frame insertion, the committed idle rate. -/
theorem panel_runs_committed_frame_control {s : nt37290_panel}
    (ht : ReachableBy TableModes s) (hl : ReachableBy LhbmBeforeEvt1 s) (hact : s.active = true)
    {m : exynos_panel_mode} (hcur : s.current_mode = some m) (hlp : m.is_lp_mode = false) :
    panel_frame_control s.log = some (committed_frame_control s) := by
  obtain ⟨hv, hi, hf⟩ := reachable_synced ht.reachable hact m hcur hlp
  have hinv := reachable_inv ht
  have hrate : s.hw_vrefresh = 60 ∨ s.hw_vrefresh = 120 :=
    hv ▸ table_vrefresh (reachable_mode_in_table ht m hcur) hlp
  have hauto : s.hw_feat.frame_auto = true →
      s.hw_idle_vrefresh = 10 ∨ s.hw_idle_vrefresh = 30 ∨ s.hw_idle_vrefresh = 60 := fun hfa => by
    have h0 := hinv.frame_auto_rate (by rw [← hf]; exact hfa)
    have hr := hinv.auto_rate
    unfold IdleRate at hr
    omega
  have hset : ∀ r ∈ frame_regs, regVal r s.log = regVal r (s.log ++ commit_batch s) := fun r hr =>
    (reachable_frame_settled hr (fun _ _ hrev => .inl hrev) hl hact (.of_current hcur hlp)).symm
  rw [panel_frame_control_congr hset, commit_batch, panel_frame_control_batch _ hrate hauto]
  rfl

theorem self_refresh_idle_frame_control :
    ∃ s, ReachableBy TableModes s ∧ ReachableBy LhbmBeforeEvt1 s ∧ s.active = true ∧
      s.current_mode = some nt37290_mode_120 ∧
      panel_frame_control s.log = some (.frame_skip 120 true 10) := by
  obtain ⟨s, hs, hp⟩ := ReachableBy.of_probe_run (fun t op => TableModes t op ∧ LhbmBeforeEvt1 t op)
    8 self_refresh_idle_run
    (fun s => s.active && s.current_mode == some nt37290_mode_120 &&
      committed_frame_control s == .frame_skip 120 true 10)
    (by simp only [self_refresh_idle_run, List.mem_cons, List.not_mem_nil, or_false]
        rintro op (rfl | rfl | rfl | rfl) <;>
          exact ⟨rfl, fun _ => ⟨by unfold TableModes; decide, trivial⟩⟩)
    (by decide)
  simp only [Bool.and_eq_true, beq_iff_eq] at hp
  obtain ⟨⟨hact, hcur⟩, he⟩ := hp
  have ht := hs.mono fun _ _ h => h.1
  have hl := hs.mono fun _ _ h => h.2
  exact ⟨s, ht, hl, hact, hcur,
    (panel_runs_committed_frame_control ht hl hact hcur rfl).trans (congrArg some he)⟩

end BoeNt37290
