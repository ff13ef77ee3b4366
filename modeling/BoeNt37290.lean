import BoeNt37290.Dsi
import BoeNt37290.Tables
import BoeNt37290.Panel
import BoeNt37290.Resolver
import BoeNt37290.Feat
import BoeNt37290.Ops
import BoeNt37290.System
import BoeNt37290.Invariant
import BoeNt37290.Coherence
import BoeNt37290.EarlyExit
import BoeNt37290.Supported
import BoeNt37290.Transfer
import BoeNt37290.Replay
import BoeNt37290.Refinement
