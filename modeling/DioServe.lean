import DioServe.Config.Fallback
import DioServe.Config.Fidelity
import DioServe.Config.File
import DioServe.Config.Init
import DioServe.Config.Load
import DioServe.Config.MetadataHosts
import DioServe.Data.Deque
import DioServe.Data.Dict
import DioServe.Data.Lru
import DioServe.Data.Rotation
import DioServe.Effect.Copy
import DioServe.Effect.Desk
import DioServe.Effect.DeskLog
import DioServe.Effect.Lift
import DioServe.Effect.Monitor
import DioServe.Effect.Prog
import DioServe.Effect.Settle
import DioServe.Effect.System
import DioServe.Effect.Trace
import DioServe.Engine.MockBackend
import DioServe.Engine.MockParity
import DioServe.Engine.PrometheusText
import DioServe.Gateway.Backend
import DioServe.Gateway.BrokenStream
import DioServe.Gateway.Budget
import DioServe.Gateway.ControlPlane
import DioServe.Gateway.Counters
import DioServe.Gateway.Cutting
import DioServe.Gateway.Dispatch
import DioServe.Gateway.Effects
import DioServe.Gateway.Endpoints
import DioServe.Gateway.Exchange
import DioServe.Gateway.Forwarding
import DioServe.Gateway.Fragments
import DioServe.Gateway.Goodput
import DioServe.Gateway.Handlers
import DioServe.Gateway.HangUp
import DioServe.Gateway.JsonSlot
import DioServe.Gateway.KeyGuard
import DioServe.Gateway.LookAlike
import DioServe.Gateway.LostText
import DioServe.Gateway.Malformed
import DioServe.Gateway.Metrics
import DioServe.Gateway.Models
import DioServe.Gateway.Parity
import DioServe.Gateway.PromptCap
import DioServe.Gateway.Reply
import DioServe.Gateway.ReplyParity
import DioServe.Gateway.Request
import DioServe.Gateway.Resolution
import DioServe.Gateway.Slots
import DioServe.Gateway.StreamSlot
import DioServe.Gateway.TgiParity
import DioServe.Gateway.ToolFrames
import DioServe.Gateway.Translate
import DioServe.Gateway.Verbatim
import DioServe.Manager.Floors
import DioServe.Manager.History
import DioServe.Manager.Parity
import DioServe.Manager.Pick
import DioServe.Manager.Predictor
import DioServe.Manager.Scheduler
import DioServe.Manager.Server
import DioServe.Mcp.PredictLatency
import DioServe.Mcp.Server
import DioServe.Mcp.Stdio
import DioServe.Py.Dumps
import DioServe.Py.Loads
import DioServe.Py.Text
import DioServe.Py.Value
import DioServe.Py.Yaml
import DioServe.Scheduler.Admission
import DioServe.Scheduler.Affinity
import DioServe.Scheduler.Bounds
import DioServe.Scheduler.Breakdown
import DioServe.Scheduler.Breaker
import DioServe.Scheduler.Conservation
import DioServe.Scheduler.Convergence
import DioServe.Scheduler.Descent
import DioServe.Scheduler.Exploration
import DioServe.Scheduler.Gate
import DioServe.Scheduler.Guard
import DioServe.Scheduler.InflightLog
import DioServe.Scheduler.Learner
import DioServe.Scheduler.Modes
import DioServe.Scheduler.Observed
import DioServe.Scheduler.Outcome
import DioServe.Scheduler.Percentile
import DioServe.Scheduler.Pick
import DioServe.Scheduler.Projection
import DioServe.Scheduler.Quartile
import DioServe.Scheduler.Ranking
import DioServe.Scheduler.Recovery
import DioServe.Scheduler.Reregister
import DioServe.Scheduler.Reset
import DioServe.Scheduler.Rls
import DioServe.Scheduler.RoundRobin
import DioServe.Scheduler.Run
import DioServe.Scheduler.Snapshot
import DioServe.Scheduler.State
import DioServe.Scheduler.Traffic
import DioServe.Stats.Leading
import DioServe.Stats.LeastSquares
import DioServe.Stats.Numerals
import DioServe.Stats.Percentile
import DioServe.Stats.Smoothing
import DioServe.Stats.Step
import DioServe.Text.BlockYaml
import DioServe.Text.Exposition
import DioServe.Text.IpAddress
import DioServe.Text.Lines
import DioServe.Text.Utf8
