/-
The driver in its environment: a transition system whose steps are the
driver's entry points as the DRM core and the backlight core call them, and
the environment's own moves.

A mode change is one of three steps, as the common bridge dispatches it:
`nt37290_mode_set`, AOD entry (`exynos_panel_set_lp_mode`, on an active
panel) or AOD exit (`nt37290_set_nolp_mode`), each followed by the new mode
becoming `ctx->current_mode`. The order matters and is fixed by the driver:
`nt37290_change_frequency` reads the current mode to see whether it is
leaving AOD. On an inactive panel the first two send nothing, so a mode
change while the panel is off is a bare change of the current mode. The
environment may also change any input at any time, let time pass, and stamp
a commit or a mode set.

`ReachableBy adm` is every state reachable from a probe through steps the
core makes (`Op.drm_ok`: AOD entry goes to an LP mode, AOD exit leaves it)
and that `adm` admits; `Reachable` admits every such step. A statement about
`Reachable` is about every run.
-/
import BoeNt37290.Ops

set_option autoImplicit false

namespace BoeNt37290

/-- One call into the driver, or one move of its environment. -/
inductive Op where
  /-- The core sets mode `pmode` through `nt37290_mode_set`. -/
  | mode_set (pmode : exynos_panel_mode)
  /-- The core enters AOD mode `pmode`. -/
  | set_lp_mode (pmode : exynos_panel_mode)
  /-- The core leaves AOD for mode `pmode`. -/
  | set_nolp_mode (pmode : exynos_panel_mode)
  | set_self_refresh (enable : Bool)
  | commit_done
  | enable
  | disable
  | set_brightness (br : UInt16)
  | set_local_hbm_mode (local_hbm_en : Bool)
  | update_te2 (timing : te2_timing_result)
  /-- The core writes an AOD brightness bin. -/
  | set_binned_lp (binned_lp : exynos_binned_lp)
  | panel_init
  /-- The surrounding code changes what the driver reads. -/
  | set_inputs (i : Inputs)
  /-- Time passes. -/
  | tick (us : Nat)
  /-- A frame is committed: `last_commit_ts = ktime_get()`. -/
  | record_commit
  /-- The core stamps a mode set: `last_mode_set_ts = ktime_get()`. -/
  | record_mode_set
deriving DecidableEq, Repr

/-- The calls the core makes: AOD entry to an LP mode, AOD exit to another, and the
panel's own AOD brightness bins. -/
def Op.drm_ok : Op → Bool
  | .set_lp_mode pmode => pmode.is_lp_mode
  | .set_nolp_mode pmode => !pmode.is_lp_mode
  | .set_binned_lp binned_lp => decide (binned_lp ∈ nt37290_binned_lp)
  | _ => true

/-- The modes a step passes to the driver. -/
def Op.modes : Op → List exynos_panel_mode
  | .mode_set pmode | .set_lp_mode pmode | .set_nolp_mode pmode => [pmode]
  | _ => []

/-- Modelled from the spec: the common code makes `pmode` the current mode once the driver's
mode-set callback returns. -/
def nt37290_panel.set_current_mode (s : nt37290_panel) (pmode : exynos_panel_mode) :
    nt37290_panel :=
  { s with current_mode := some pmode }

/-- One step; `none` is a `NULL` dereference of the current mode. -/
def step (s : nt37290_panel) : Op → Option nt37290_panel
  | .mode_set pmode => (nt37290_mode_set s pmode).map (·.set_current_mode pmode)
  | .set_lp_mode pmode =>
    some ((if s.active then exynos_panel_set_lp_mode s pmode else s).set_current_mode pmode)
  | .set_nolp_mode pmode => (nt37290_set_nolp_mode s pmode).map (·.set_current_mode pmode)
  | .set_self_refresh enable => (nt37290_set_self_refresh s enable).map Prod.fst
  | .commit_done => nt37290_commit_done s
  | .enable => (nt37290_enable s).map fun (s, ret) => if ret = 0 then { s with active := true } else s
  | .disable => some (nt37290_disable s)
  | .set_brightness br => some (nt37290_set_brightness s br)
  | .set_local_hbm_mode local_hbm_en => some (nt37290_set_local_hbm_mode s local_hbm_en)
  | .update_te2 timing => some (nt37290_update_te2 s timing)
  | .set_binned_lp binned_lp => some (exynos_panel_set_binned_lp s binned_lp)
  | .panel_init => some (nt37290_panel_init s)
  | .set_inputs i => some { s with inputs := i }
  | .tick us => some { s with now := s.now + us }
  | .record_commit => some { s with last_commit_ts := s.now }
  | .record_mode_set => some { s with last_mode_set_ts := s.now }

/-- The states reachable from a probe through steps the core makes and `adm` admits. -/
inductive ReachableBy (adm : nt37290_panel → Op → Prop) : nt37290_panel → Prop where
  | probe (panel_rev : UInt32) : ReachableBy adm (nt37290_panel_probe panel_rev)
  | step {s s' : nt37290_panel} (op : Op) : ReachableBy adm s → op.drm_ok = true → adm s op →
      step s op = some s' → ReachableBy adm s'

/-- The states reachable through any run. -/
abbrev Reachable : nt37290_panel → Prop := ReachableBy fun _ _ => True

/-- A restricted run is a run. -/
theorem ReachableBy.reachable {adm : nt37290_panel → Op → Prop} {s : nt37290_panel}
    (h : ReachableBy adm s) : Reachable s := by
  induction h with
  | probe panel_rev => exact .probe panel_rev
  | step op _ hok _ hs ih => exact .step op ih hok trivial hs

/-- Run a list of steps. -/
def run (s : nt37290_panel) : List Op → Option nt37290_panel
  | [] => some s
  | op :: ops => (step s op).bind fun s => run s ops

/-- A run of steps the core makes, each admitted, ends in a reachable state. -/
theorem ReachableBy.of_run {adm : nt37290_panel → Op → Prop} :
    ∀ (ops : List Op) {s s' : nt37290_panel}, ReachableBy adm s →
      (∀ op ∈ ops, op.drm_ok = true ∧ ∀ t, adm t op) → run s ops = some s' → ReachableBy adm s'
  | [], _, _, h, _, hrun => by cases hrun; exact h
  | op :: ops, _, _, h, hops, hrun => by
    simp only [run, Option.bind_eq_some] at hrun
    obtain ⟨t, ht, hrun⟩ := hrun
    obtain ⟨hok, hadm⟩ := hops op (List.mem_cons_self _ _)
    exact of_run ops (.step op h hok (hadm _) ht) (fun o ho => hops o (List.mem_cons_of_mem _ ho))
      hrun

/-- A run from a probe whose last state satisfies `p` gives a reachable state that does. -/
theorem ReachableBy.of_probe_run (adm : nt37290_panel → Op → Prop) (panel_rev : UInt32)
    (ops : List Op) (p : nt37290_panel → Bool) (hops : ∀ op ∈ ops, op.drm_ok = true ∧ ∀ t, adm t op)
    (h : (run (nt37290_panel_probe panel_rev) ops).map p = some true) :
    ∃ s, ReachableBy adm s ∧ p s = true := by
  cases hr : run (nt37290_panel_probe panel_rev) ops with
  | none => simp [hr] at h
  | some s =>
    simp only [hr, Option.map_some', Option.some.injEq] at h
    exact ⟨s, of_run ops (.probe panel_rev) hops hr, h⟩

theorem Reachable.of_probe_run (panel_rev : UInt32) (ops : List Op) (p : nt37290_panel → Bool)
    (hops : ops.all Op.drm_ok = true)
    (h : (run (nt37290_panel_probe panel_rev) ops).map p = some true) :
    ∃ s, Reachable s ∧ p s = true :=
  ReachableBy.of_probe_run _ panel_rev ops p
    (fun op hop => ⟨List.all_eq_true.1 hops op hop, fun _ => trivial⟩) h

end BoeNt37290
