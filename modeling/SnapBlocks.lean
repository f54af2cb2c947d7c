import SnapBlocks.Drawing
import SnapBlocks.Editor.Workspace
import SnapBlocks.Execution.Installed
import SnapBlocks.Proofs.Resettling
import SnapBlocks.Proofs.Resting
import SnapBlocks.Proofs.Programs
import SnapBlocks.Proofs.Rounds
import SnapBlocks.Proofs.Sessions
import SnapBlocks.Proofs.Freshness
import SnapBlocks.Proofs.Runs
import SnapBlocks.Proofs.Gestures
import SnapBlocks.Proofs.Painting
import SnapBlocks.Proofs.Turns
import SnapBlocks.Proofs.Rewording
import SnapBlocks.Proofs.Names
import SnapBlocks.Proofs.Bars
import SnapBlocks.Proofs.Indentation
import SnapBlocks.Proofs.Reports
import SnapBlocks.Proofs.Nesting
import SnapBlocks.Proofs.Nearness
import SnapBlocks.Proofs.Silence
