import Contour.Tracker.Basic
import Contour.Tracker.Invariants
import Contour.Tracker.Epoch
import Contour.Tracker.Refinement
import Contour.Sequencer.Osc
import Contour.Config.InputMapping
import Contour.Frontend.BlurBehind
import Contour.Pty.MockPty
