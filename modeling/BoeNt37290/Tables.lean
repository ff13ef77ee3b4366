/-
The driver's fixed command tables, byte for byte: the short DCS sequences
(`display_on`, `cmd2_page0`, ...), the AOD entry set `nt37290_lp_cmds`, the off
set, the panel init set and the local-HBM setting set that `nt37290_enable`
writes after a reset.

What the proofs need of them is the registers they write: of these tables
only `nt37290_lp_cmds` writes one of the refresh registers, 0x2F (manual
mode, no frame skip), which is why leaving AOD needs the forced flush. The binned LP
tables, the AOD brightness bins, are written by the common
`exynos_panel_set_binned_lp`.
-/
import BoeNt37290.Dsi

set_option autoImplicit false

namespace BoeNt37290

/-- `display_off[]`. -/
def display_off : List UInt8 := [0x28]

/-- `display_on[]`. -/
def display_on : List UInt8 := [0x29]

/-- `cmd2_page0[]`: select CMD2 page 0. -/
def cmd2_page0 : List UInt8 := [0xF0, 0x55, 0xAA, 0x52, 0x08, 0x00]

/-- `stream_2c[]`: a frame is coming. -/
def stream_2c : List UInt8 := [0x2C]

/-- `nt37290_lp_cmds[]`: enter AOD, then manual mode (no frame skip). -/
def nt37290_lp_cmds : List exynos_dsi_cmd :=
  [EXYNOS_DSI_CMD_SEQ [0x39],
    EXYNOS_DSI_CMD_SEQ [0x2F, 0x00]]

/-- `nt37290_lp_off_cmds[]`. -/
def nt37290_lp_off_cmds : List exynos_dsi_cmd := [EXYNOS_DSI_CMD0 display_off]

/-- `nt37290_lp_low_cmds[]`: 10 nit, then two frames and display on. -/
def nt37290_lp_low_cmds : List exynos_dsi_cmd :=
  [EXYNOS_DSI_CMD_SEQ_DELAY 9 [0x51, 0x00, 0x00, 0x00, 0x00, 0x03, 0x33],
    EXYNOS_DSI_CMD stream_2c 9,
    EXYNOS_DSI_CMD0 stream_2c,
    EXYNOS_DSI_CMD0 display_on]

/-- `nt37290_lp_high_cmds[]`: 50 nit, then two frames and display on. -/
def nt37290_lp_high_cmds : List exynos_dsi_cmd :=
  [EXYNOS_DSI_CMD_SEQ_DELAY 9 [0x51, 0x00, 0x00, 0x00, 0x00, 0x0F, 0xFE],
    EXYNOS_DSI_CMD stream_2c 9,
    EXYNOS_DSI_CMD0 stream_2c,
    EXYNOS_DSI_CMD0 display_on]

/-- `struct exynos_binned_lp` as far as it is written to the panel: the brightness
threshold of the bin and its command set (its name and TE2 edges are not modelled). -/
structure exynos_binned_lp where
  bl_threshold : Nat
  cmds : List exynos_dsi_cmd
deriving DecidableEq, Repr

/-- `nt37290_binned_lp[]`: off, low (up to 80) and high (up to 2047). -/
def nt37290_binned_lp : List exynos_binned_lp :=
  [⟨0, nt37290_lp_off_cmds⟩, ⟨80, nt37290_lp_low_cmds⟩, ⟨2047, nt37290_lp_high_cmds⟩]

/-- `nt37290_off_cmds[]`. -/
def nt37290_off_cmds : List exynos_dsi_cmd :=
  [EXYNOS_DSI_CMD display_off 100,
    EXYNOS_DSI_CMD_SEQ_DELAY 120 [0x10]]

/-- `nt37290_lhbm_on_setting_cmds[]`: the local-HBM circle and gamma settings; the
first block goes to EVT1 and later panels, the last one to earlier panels. -/
def nt37290_lhbm_on_setting_cmds : List exynos_dsi_cmd := [
    EXYNOS_DSI_CMD_SEQ_REV (PANEL_REV_GE PANEL_REV_EVT1) [0xF0, 0x55, 0xAA, 0x52, 0x08, 0x07],
    EXYNOS_DSI_CMD_SEQ_REV (PANEL_REV_GE PANEL_REV_EVT1) [0xC0, 0xB1],
    EXYNOS_DSI_CMD_SEQ_REV (PANEL_REV_GE PANEL_REV_EVT1) [0x6F, 0x08],
    EXYNOS_DSI_CMD_SEQ_REV (PANEL_REV_GE PANEL_REV_EVT1) [0xC0, 0x55],
    EXYNOS_DSI_CMD_SEQ_REV (PANEL_REV_GE PANEL_REV_EVT1) [0xD5, 0x21, 0x00, 0x39, 0x31, 0x39, 0x31,
      0x00, 0x00, 0x3F, 0xC9, 0xEF, 0xAE, 0x3F, 0xC9, 0xEF, 0xAE, 0x00, 0x0C, 0xC6, 0xDB, 0x61,
      0x23, 0x00, 0x00, 0x79, 0x00, 0x00, 0x79, 0x33, 0xF0, 0x87, 0x87, 0x39, 0x31, 0x00, 0x00,
      0x00, 0x00, 0x00, 0x00, 0x00, 0x00, 0x00, 0x00],
    EXYNOS_DSI_CMD_SEQ_REV (PANEL_REV_GE PANEL_REV_EVT1) [0xD6, 0x27, 0x00, 0x39, 0x31, 0x39, 0x31,
      0x00, 0x00, 0x00, 0x00, 0x00, 0x00, 0x3F, 0xC9, 0xEF, 0xAE, 0x00, 0x00, 0x00, 0x00, 0x00,
      0x23, 0x00, 0x7A, 0xF3, 0x00, 0x00, 0x79, 0x33, 0x30, 0x79, 0x87, 0x00, 0x00, 0x00, 0x00,
      0x00, 0x00, 0x00, 0x00, 0x00, 0x00, 0x00, 0x00],
    EXYNOS_DSI_CMD_SEQ_REV (PANEL_REV_GE PANEL_REV_EVT1) [0xD7, 0x2B, 0x00, 0x39, 0x31, 0x39, 0x31,
      0x00, 0x00, 0x00, 0x00, 0x00, 0x00, 0x00, 0x00, 0x00, 0x00, 0x7F, 0xF3, 0x39, 0x24, 0x9F,
      0x55, 0x00, 0x7A, 0xF3, 0x00, 0x7A, 0xF3, 0x33, 0x0F, 0x79, 0x79, 0xC6, 0xCF, 0x00, 0x00,
      0x00, 0x00, 0x00, 0x00, 0x00, 0x00, 0x00, 0x00],
    EXYNOS_DSI_CMD_SEQ_REV (PANEL_REV_GE PANEL_REV_EVT1) [0xD8, 0x2D, 0x00, 0x39, 0x31, 0x39, 0x31,
      0x00, 0x00, 0x3F, 0xC9, 0xEF, 0xAE, 0x00, 0x00, 0x00, 0x00, 0x00, 0x00, 0x00, 0x00, 0x00,
      0x55, 0x00, 0x00, 0x79, 0x00, 0x7A, 0xF3, 0x33, 0xC0, 0x87, 0x79, 0x00, 0x00, 0x00, 0x00,
      0x00, 0x00, 0x00, 0x00, 0x00, 0x00, 0x00, 0x00],
    EXYNOS_DSI_CMD0_REV cmd2_page0 (PANEL_REV_GE PANEL_REV_EVT1),
    EXYNOS_DSI_CMD_SEQ_REV (PANEL_REV_GE PANEL_REV_EVT1) [0xDF, 0x05],
    EXYNOS_DSI_CMD_SEQ_REV (PANEL_REV_GE PANEL_REV_EVT1) [0x6F, 0x01],
    EXYNOS_DSI_CMD_SEQ_REV (PANEL_REV_GE PANEL_REV_EVT1) [0xDF, 0x00],
    EXYNOS_DSI_CMD_SEQ_REV (PANEL_REV_GE PANEL_REV_EVT1) [0x6F, 0x02],
    EXYNOS_DSI_CMD_SEQ_REV (PANEL_REV_GE PANEL_REV_EVT1) [0xDF, 0x00],
    EXYNOS_DSI_CMD_SEQ_REV (PANEL_REV_GE PANEL_REV_EVT1) [0x6F, 0x13],
    EXYNOS_DSI_CMD_SEQ_REV (PANEL_REV_GE PANEL_REV_EVT1) [0xDF, 0x00, 0x7A, 0x00, 0x7A],
    EXYNOS_DSI_CMD_SEQ_REV (PANEL_REV_GE PANEL_REV_EVT1) [0x6F, 0x1B],
    EXYNOS_DSI_CMD_SEQ_REV (PANEL_REV_GE PANEL_REV_EVT1) [0xDF, 0x00, 0x00, 0x00, 0x00],
    EXYNOS_DSI_CMD_SEQ_REV (PANEL_REV_GE PANEL_REV_EVT1) [0x6F, 0x1F],
    EXYNOS_DSI_CMD_SEQ_REV (PANEL_REV_GE PANEL_REV_EVT1) [0xDF, 0x00, 0xF3, 0x00, 0xF3],
    EXYNOS_DSI_CMD_SEQ_REV (PANEL_REV_GE PANEL_REV_EVT1) [0x6F, 0x2B],
    EXYNOS_DSI_CMD_SEQ_REV (PANEL_REV_GE PANEL_REV_EVT1) [0xDF, 0x3F, 0xFF, 0x3F, 0xFF, 0x3F, 0xFF],
    EXYNOS_DSI_CMD_SEQ_REV (PANEL_REV_GE PANEL_REV_EVT1) [0x6F, 0x31],
    EXYNOS_DSI_CMD_SEQ_REV (PANEL_REV_GE PANEL_REV_EVT1) [0xDF, 0x22],
    EXYNOS_DSI_CMD_SEQ_REV (PANEL_REV_GE PANEL_REV_EVT1) [0x6F, 0x32],
    EXYNOS_DSI_CMD_SEQ_REV (PANEL_REV_GE PANEL_REV_EVT1) [0xDF, 0x2A],
    EXYNOS_DSI_CMD_SEQ_REV (PANEL_REV_GE PANEL_REV_EVT1) [0x6F, 0x33],
    EXYNOS_DSI_CMD_SEQ_REV (PANEL_REV_GE PANEL_REV_EVT1) [0xDF, 0x2A],
    EXYNOS_DSI_CMD_SEQ_REV (PANEL_REV_GE PANEL_REV_EVT1) [0x6F, 0x34],
    EXYNOS_DSI_CMD_SEQ_REV (PANEL_REV_GE PANEL_REV_EVT1) [0xDF, 0x16],
    EXYNOS_DSI_CMD_SEQ_REV (PANEL_REV_GE PANEL_REV_EVT1) [0x6F, 0x35],
    EXYNOS_DSI_CMD_SEQ_REV (PANEL_REV_GE PANEL_REV_EVT1) [0xDF, 0x00],
    EXYNOS_DSI_CMD_SEQ_REV (PANEL_REV_GE PANEL_REV_EVT1) [0x6F, 0x36],
    EXYNOS_DSI_CMD_SEQ_REV (PANEL_REV_GE PANEL_REV_EVT1) [0xDF, 0x02],
    EXYNOS_DSI_CMD_SEQ_REV (PANEL_REV_GE PANEL_REV_EVT1) [0x6F, 0x37],
    EXYNOS_DSI_CMD_SEQ_REV (PANEL_REV_GE PANEL_REV_EVT1) [0xDF, 0x01],
    EXYNOS_DSI_CMD_SEQ_REV (PANEL_REV_GE PANEL_REV_EVT1) [0x6F, 0x38],
    EXYNOS_DSI_CMD_SEQ_REV (PANEL_REV_GE PANEL_REV_EVT1) [0xDF, 0x0C, 0x38],
    EXYNOS_DSI_CMD_SEQ_REV (PANEL_REV_GE PANEL_REV_EVT1) [0x6F, 0x3A],
    EXYNOS_DSI_CMD_SEQ_REV (PANEL_REV_GE PANEL_REV_EVT1) [0xDF, 0x01, 0x1F, 0x00, 0x61, 0x00, 0x93],
    EXYNOS_DSI_CMD_SEQ_REV (PANEL_REV_GE PANEL_REV_EVT1) [0x6F, 0x40],
    EXYNOS_DSI_CMD_SEQ_REV (PANEL_REV_GE PANEL_REV_EVT1) [0xDF, 0x00, 0xF8, 0x01, 0x07, 0x00, 0x2E],
    EXYNOS_DSI_CMD_SEQ_REV (PANEL_REV_GE PANEL_REV_EVT1) [0x6F, 0x46],
    EXYNOS_DSI_CMD_SEQ_REV (PANEL_REV_GE PANEL_REV_EVT1) [0xDF, 0x00, 0x99, 0x00, 0x29, 0x00, 0x88],
    EXYNOS_DSI_CMD_SEQ_REV (PANEL_REV_GE PANEL_REV_EVT1) [0x6F, 0x4C],
    EXYNOS_DSI_CMD_SEQ_REV (PANEL_REV_GE PANEL_REV_EVT1) [0xDF, 0x1F, 0xFC, 0x1F, 0xFC, 0x1F, 0xFC],
    EXYNOS_DSI_CMD_SEQ_REV (PANEL_REV_GE PANEL_REV_EVT1) [0x6F, 0x52],
    EXYNOS_DSI_CMD_SEQ_REV (PANEL_REV_GE PANEL_REV_EVT1) [0xDF, 0x0A, 0x99, 0x22, 0xDA, 0x3E, 0xB5],
    EXYNOS_DSI_CMD_SEQ_REV (PANEL_REV_GE PANEL_REV_EVT1) [0x6F, 0x58],
    EXYNOS_DSI_CMD_SEQ_REV (PANEL_REV_GE PANEL_REV_EVT1) [0xDF, 0x3D, 0xDC, 0x28, 0xD5, 0x1D, 0x52],
    EXYNOS_DSI_CMD_SEQ_REV (PANEL_REV_GE PANEL_REV_EVT1) [0x6F, 0x5E],
    EXYNOS_DSI_CMD_SEQ_REV (PANEL_REV_GE PANEL_REV_EVT1) [0xDF, 0x13, 0x51, 0x13, 0xCD, 0x0D, 0x4E],
    EXYNOS_DSI_CMD_SEQ_REV (PANEL_REV_GE PANEL_REV_EVT1) [0x6F, 0x64],
    EXYNOS_DSI_CMD_SEQ_REV (PANEL_REV_GE PANEL_REV_EVT1) [0xDF, 0x3B, 0x3F, 0x2E, 0x39, 0x35, 0xF2],
    EXYNOS_DSI_CMD_SEQ_REV (PANEL_REV_GE PANEL_REV_EVT1) [0x6F, 0x6A],
    EXYNOS_DSI_CMD_SEQ_REV (PANEL_REV_GE PANEL_REV_EVT1) [0xDF, 0x25, 0x35, 0x18, 0x3C, 0x30, 0xCF],
    EXYNOS_DSI_CMD_SEQ_REV (PANEL_REV_GE PANEL_REV_EVT1) [0x6F, 0x70],
    EXYNOS_DSI_CMD_SEQ_REV (PANEL_REV_GE PANEL_REV_EVT1) [0xDF, 0x3E, 0xD6, 0x03, 0xE4, 0x3F, 0xF5],
    EXYNOS_DSI_CMD_SEQ_REV (PANEL_REV_GE PANEL_REV_EVT1) [0x6F, 0x76],
    EXYNOS_DSI_CMD_SEQ_REV (PANEL_REV_GE PANEL_REV_EVT1) [0xDF, 0x23, 0x19, 0x1C, 0x89, 0x37, 0x4B],
    EXYNOS_DSI_CMD_SEQ_REV (PANEL_REV_GE PANEL_REV_EVT1) [0x6F, 0x7C],
    EXYNOS_DSI_CMD_SEQ_REV (PANEL_REV_GE PANEL_REV_EVT1) [0xDF, 0x3F, 0x69, 0x0A, 0xC7, 0x3C, 0xB5],
    EXYNOS_DSI_CMD_SEQ_REV (PANEL_REV_GE PANEL_REV_EVT1) [0x6F, 0x82],
    EXYNOS_DSI_CMD_SEQ_REV (PANEL_REV_GE PANEL_REV_EVT1) [0xDF, 0x13, 0x61, 0x1E, 0x2E, 0x03, 0xA9],
    EXYNOS_DSI_CMD_SEQ_REV (PANEL_REV_GE PANEL_REV_EVT1) [0x6F, 0x88],
    EXYNOS_DSI_CMD_SEQ_REV (PANEL_REV_GE PANEL_REV_EVT1) [0xDF, 0x40],
    EXYNOS_DSI_CMD_SEQ_REV (PANEL_REV_GE PANEL_REV_EVT1) [0x6F, 0x01],
    EXYNOS_DSI_CMD_SEQ_REV (PANEL_REV_GE PANEL_REV_EVT1) [0x87, 0x07, 0x5E],
    EXYNOS_DSI_CMD_SEQ_REV (PANEL_REV_GE PANEL_REV_EVT1) [0x6F, 0x03],
    EXYNOS_DSI_CMD_SEQ_REV (PANEL_REV_GE PANEL_REV_EVT1) [0x87, 0x07, 0x5E],
    EXYNOS_DSI_CMD_SEQ_REV (PANEL_REV_GE PANEL_REV_EVT1) [0x6F, 0x05],
    EXYNOS_DSI_CMD_SEQ_REV (PANEL_REV_GE PANEL_REV_EVT1) [0x87, 0x07, 0x5E, 0x07, 0x5E, 0x07, 0x5E,
      0x07, 0x5E, 0x07, 0x5E, 0x07, 0x5E, 0x07, 0x5E, 0x07, 0x5E],
    EXYNOS_DSI_CMD_SEQ [0x88, 0x01],
    EXYNOS_DSI_CMD_SEQ [0x6F, 0x01],
    EXYNOS_DSI_CMD_SEQ [0x88, 0x02, 0xD0, 0x09, 0x39],
    EXYNOS_DSI_CMD_SEQ [0x6F, 0x15],
    EXYNOS_DSI_CMD_SEQ [0x87, 0x0A, 0x86],
    EXYNOS_DSI_CMD_SEQ [0x6F, 0x17],
    EXYNOS_DSI_CMD_SEQ [0x87, 0x0F, 0xFF],
    EXYNOS_DSI_CMD_SEQ [0x6F, 0x19],
    EXYNOS_DSI_CMD_SEQ [0x87, 0x01, 0x4F, 0x06, 0x45, 0x0B, 0x98, 0x01, 0x96, 0x08, 0x19, 0x0A,
      0xFD, 0x01, 0x55, 0x05, 0x84],
    EXYNOS_DSI_CMD_SEQ [0x6F, 0x3D],
    EXYNOS_DSI_CMD_SEQ [0x87, 0x01, 0x4A],
    EXYNOS_DSI_CMD_SEQ [0x6F, 0x3F],
    EXYNOS_DSI_CMD_SEQ [0x87, 0x08, 0xBB],
    EXYNOS_DSI_CMD_SEQ [0x6F, 0x41],
    EXYNOS_DSI_CMD_SEQ [0x87, 0x08, 0xF4, 0x0C, 0xAB, 0x00, 0xD4, 0x08, 0x80, 0x09, 0x91, 0x0A,
      0x87, 0x04, 0x1D, 0x0B, 0x9C],
    EXYNOS_DSI_CMD_SEQ [0x6F, 0x65],
    EXYNOS_DSI_CMD_SEQ [0x87, 0x07, 0x68],
    EXYNOS_DSI_CMD_SEQ [0x6F, 0x67],
    EXYNOS_DSI_CMD_SEQ [0x87, 0x01, 0x1C],
    EXYNOS_DSI_CMD_SEQ [0x6F, 0x69],
    EXYNOS_DSI_CMD_SEQ [0x87, 0x0B, 0x3C, 0x0D, 0x16, 0x04, 0x32, 0x07, 0x83, 0x0D, 0x92, 0x0C,
      0x87, 0x07, 0x4B, 0x07, 0x18],
    EXYNOS_DSI_CMD_SEQ [0x6F, 0x29],
    EXYNOS_DSI_CMD_SEQ [0x87, 0x09, 0xBE],
    EXYNOS_DSI_CMD_SEQ [0x6F, 0x2B],
    EXYNOS_DSI_CMD_SEQ [0x87, 0x0D, 0x95],
    EXYNOS_DSI_CMD_SEQ [0x6F, 0x2D],
    EXYNOS_DSI_CMD_SEQ [0x87, 0x0E, 0x45, 0x07, 0xCE, 0x04, 0x18, 0x03, 0x47, 0x0B, 0x52, 0x00,
      0x7C, 0x0D, 0x90, 0x0A, 0x8B],
    EXYNOS_DSI_CMD_SEQ [0x6F, 0x51],
    EXYNOS_DSI_CMD_SEQ [0x87, 0x02, 0x10],
    EXYNOS_DSI_CMD_SEQ [0x6F, 0x53],
    EXYNOS_DSI_CMD_SEQ [0x87, 0x07, 0x9D],
    EXYNOS_DSI_CMD_SEQ [0x6F, 0x55],
    EXYNOS_DSI_CMD_SEQ [0x87, 0x01, 0x11, 0x04, 0x28, 0x00, 0xF0, 0x0B, 0x8C, 0x0C, 0xC0, 0x04,
      0x0F, 0x05, 0x1F, 0x0E, 0x89],
    EXYNOS_DSI_CMD_SEQ [0x6F, 0x79],
    EXYNOS_DSI_CMD_SEQ [0x87, 0x07, 0x8C],
    EXYNOS_DSI_CMD_SEQ [0x6F, 0x7B],
    EXYNOS_DSI_CMD_SEQ [0x87, 0x0C, 0xE2],
    EXYNOS_DSI_CMD_SEQ [0x6F, 0x7D],
    EXYNOS_DSI_CMD_SEQ [0x87, 0x09, 0x08, 0x02, 0xF9, 0x01, 0x08, 0x0D, 0x17, 0x04, 0x6B, 0x00,
      0xD0, 0x04, 0x77, 0x05, 0x7D],
    EXYNOS_DSI_CMD_SEQ_REV (PANEL_REV_LT PANEL_REV_EVT1) [0x51, 0x3F, 0xFF],
    EXYNOS_DSI_CMD_SEQ_REV (PANEL_REV_LT PANEL_REV_EVT1) [0x53, 0x20],
    EXYNOS_DSI_CMD_SEQ_REV (PANEL_REV_LT PANEL_REV_EVT1) [0xFF, 0xAA, 0x55, 0xA5, 0x84],
    EXYNOS_DSI_CMD_SEQ_REV (PANEL_REV_LT PANEL_REV_EVT1) [0x6F, 0x7C],
    EXYNOS_DSI_CMD_SEQ_REV (PANEL_REV_LT PANEL_REV_EVT1) [0xF3, 0x01]]

/-- `nt37290_init_cmds[]`: CMD1 setup, DSC, the CMD2/CMD3 pages, sleep out. -/
def nt37290_init_cmds : List exynos_dsi_cmd := [
    EXYNOS_DSI_CMD_SEQ [0x1F, 0xF0],
    EXYNOS_DSI_CMD_SEQ [0x26, 0x00],
    EXYNOS_DSI_CMD_SEQ [0x2B, 0x00, 0x00, 0x0C, 0x2F],
    EXYNOS_DSI_CMD_SEQ [0x35],
    EXYNOS_DSI_CMD_SEQ [0x51, 0x03, 0xF8, 0x03, 0xF8, 0x0F, 0xFE],
    EXYNOS_DSI_CMD_SEQ [0x53, 0x20],
    EXYNOS_DSI_CMD_SEQ [0x5A, 0x01],
    EXYNOS_DSI_CMD_SEQ [0x90, 0x03, 0x03],
    EXYNOS_DSI_CMD_SEQ [0x91, 0x89, 0x28, 0x00, 0x18, 0xD2, 0x00, 0x02, 0x86, 0x02, 0x83, 0x00,
      0x0A, 0x04, 0x86, 0x03, 0x2E, 0x10, 0xF0],
    EXYNOS_DSI_CMD0 cmd2_page0,
    EXYNOS_DSI_CMD_SEQ [0xBA, 0x00],
    EXYNOS_DSI_CMD_SEQ [0xF0, 0x55, 0xAA, 0x52, 0x08, 0x01],
    EXYNOS_DSI_CMD_SEQ [0xC5, 0x00, 0x0B, 0x0B, 0x0B],
    EXYNOS_DSI_CMD_SEQ [0xFF, 0xAA, 0x55, 0xA5, 0x80],
    EXYNOS_DSI_CMD_SEQ [0x6F, 0x1B],
    EXYNOS_DSI_CMD_SEQ [0xF4, 0x55],
    EXYNOS_DSI_CMD_SEQ [0xFF, 0xAA, 0x55, 0xA5, 0x81],
    EXYNOS_DSI_CMD_SEQ [0x6F, 0x12],
    EXYNOS_DSI_CMD_SEQ [0xF5, 0x00],
    EXYNOS_DSI_CMD_SEQ [0x6F, 0x09],
    EXYNOS_DSI_CMD_SEQ [0xF9, 0x10],
    EXYNOS_DSI_CMD_SEQ [0xFF, 0xAA, 0x55, 0xA5, 0x83],
    EXYNOS_DSI_CMD_SEQ [0x6F, 0x14],
    EXYNOS_DSI_CMD_SEQ [0xF8, 0x0D],
    EXYNOS_DSI_CMD_SEQ [0x6F, 0x01],
    EXYNOS_DSI_CMD_SEQ [0xF9, 0x06],
    EXYNOS_DSI_CMD_SEQ [0x6F, 0x01],
    EXYNOS_DSI_CMD_SEQ [0xFA, 0x06],
    EXYNOS_DSI_CMD_SEQ [0x6F, 0x01],
    EXYNOS_DSI_CMD_SEQ [0xFB, 0x06],
    EXYNOS_DSI_CMD_SEQ [0x6F, 0x01],
    EXYNOS_DSI_CMD_SEQ [0xFC, 0x06],
    EXYNOS_DSI_CMD_SEQ [0xFF, 0xAA, 0x55, 0xA5, 0x84],
    EXYNOS_DSI_CMD_SEQ [0x6F, 0x1C],
    EXYNOS_DSI_CMD_SEQ [0xF8, 0x3A],
    EXYNOS_DSI_CMD_SEQ_DELAY 120 [0x11]]

/-! ## The registers the tables write -/

/-- AOD entry writes 0x39 and the frequency register 0x2F. -/
theorem nt37290_lp_cmds_regs : exynos_dsi_cmd.regs nt37290_lp_cmds = [0x39, 0x2F] := rfl

/-- The local-HBM settings do not touch the refresh registers. -/
theorem nt37290_lhbm_on_setting_cmds_regs :
    0x2F ∉ exynos_dsi_cmd.regs nt37290_lhbm_on_setting_cmds ∧
      0x44 ∉ exynos_dsi_cmd.regs nt37290_lhbm_on_setting_cmds := by
  decide

/-- Nor do the AOD brightness bins. -/
theorem nt37290_binned_lp_regs :
    ∀ b ∈ nt37290_binned_lp, 0x2F ∉ exynos_dsi_cmd.regs b.cmds ∧ 0x44 ∉ exynos_dsi_cmd.regs b.cmds := by
  decide

end BoeNt37290
