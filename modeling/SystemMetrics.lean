import SystemMetrics.Main
import SystemMetrics.Proofs.Cpu.Rows
import SystemMetrics.Proofs.Cpu.Shares
import SystemMetrics.Proofs.Daemon.Reports
import SystemMetrics.Proofs.Daemon.Sections
import SystemMetrics.Proofs.MemoryFigures
import SystemMetrics.Proofs.Network.Refreshing
import SystemMetrics.Proofs.Network.Registry
import SystemMetrics.Proofs.Network.Tracking
import SystemMetrics.Proofs.Overlap.Order
import SystemMetrics.Proofs.Paging
import SystemMetrics.Proofs.Proc.CpuRow
import SystemMetrics.Proofs.Proc.LastLines
import SystemMetrics.Proofs.Proc.Layout
import SystemMetrics.Proofs.Proc.NetDev
import SystemMetrics.Proofs.Proc.Terminal
import SystemMetrics.Proofs.Process.Accounting
import SystemMetrics.Proofs.Process.Arguments
import SystemMetrics.Proofs.Process.Busiest
import SystemMetrics.Proofs.Process.Counters
import SystemMetrics.Proofs.Process.Death
import SystemMetrics.Proofs.Process.Idempotence
import SystemMetrics.Proofs.Process.Messages
import SystemMetrics.Proofs.Process.Neighbours
import SystemMetrics.Proofs.Process.Privileges
import SystemMetrics.Proofs.Process.Rebuild
import SystemMetrics.Proofs.Process.Reuse
import SystemMetrics.Proofs.Process.Signals
import SystemMetrics.Proofs.Process.Views
import SystemMetrics.Proofs.Regressions
import SystemMetrics.Proofs.Sampler.Cadence
import SystemMetrics.Proofs.Sampler.Spacing
import SystemMetrics.Proofs.Sampler.Waking
import SystemMetrics.Proofs.Tree.Consistency
import SystemMetrics.Simulation.Fixtures
import SystemMetrics.Simulation.Run
