import SignalScript.Decimal.Places
import SignalScript.Decimal.Reader
import SignalScript.Expr.Pool
import SignalScript.Main
import SignalScript.Scenario.Drive
import SignalScript.Scenario.Loader
import SignalScript.Scenario.Run
import SignalScript.Simulation.Offline
import SignalScript.Simulation.Recorder
import SignalScript.Proofs.Expr.Flatten
import SignalScript.Proofs.Expr.Sequence
import SignalScript.Proofs.Scenario.Monitor
import SignalScript.Proofs.Scene.Predicate
import SignalScript.Proofs.Expr.Sweep
import SignalScript.Proofs.Expr.Configured
import SignalScript.Proofs.Scenario.Standing
import SignalScript.Proofs.Scenario.Trace
import SignalScript.Proofs.Scenario.Verdict
import SignalScript.Proofs.Scene.Demand
import SignalScript.Proofs.Scene.ReadBack
import SignalScript.Proofs.Scenario.Operation
import SignalScript.Proofs.Expr.Tour
import SignalScript.Proofs.Scenario.ReadingOrder
import SignalScript.Proofs.Scene.Frame
import SignalScript.Proofs.Expr.Reading
import SignalScript.Proofs.Expr.Grammar
import SignalScript.Proofs.Scenario.Drive
import SignalScript.Proofs.Cli.Run
import SignalScript.Proofs.Cli.Check
import SignalScript.Proofs.Scene.Routing
import SignalScript.Proofs.Expr.Calls
import SignalScript.Proofs.Expr.Holes
import SignalScript.Proofs.Expr.Junction
import SignalScript.Proofs.Expr.Meaning
import SignalScript.Proofs.Expr.Shared
import SignalScript.Proofs.Scene.Agreement
import SignalScript.Proofs.Intersection.Change
import SignalScript.Proofs.Intersection.Entry
import SignalScript.Proofs.Intersection.Construction
import SignalScript.Proofs.Intersection.ExtraKeys
import SignalScript.Proofs.Expr.Failures
import SignalScript.Proofs.Expr.Legible
import SignalScript.Proofs.Node.OneLine
import SignalScript.Proofs.Condition.Handles
import SignalScript.Proofs.Simulation.Steps
