import BrokerRollout.Exec.Scripted
import BrokerRollout.Json.Shape
import BrokerRollout.Main
import BrokerRollout.Proofs.NetEffect
import BrokerRollout.Proofs.ObjectServer
import BrokerRollout.Proofs.OfflineCommand
import BrokerRollout.Proofs.Persistence
import BrokerRollout.Proofs.Rollout
import BrokerRollout.Proofs.Verdict
import BrokerRollout.Store.Scripted
import BrokerRollout.Store.Timeline
import BrokerRollout.Proofs.Capture
import BrokerRollout.Proofs.StoreHistory
import BrokerRollout.Proofs.Budget
import BrokerRollout.Proofs.StoreCells
import BrokerRollout.Proofs.Markers
import BrokerRollout.Proofs.Timelines
import BrokerRollout.Proofs.Extension
import BrokerRollout.Proofs.Refusals
import BrokerRollout.Proofs.RolloutScripts
import BrokerRollout.Proofs.LastObserved
import BrokerRollout.Proofs.ReadOnly
import BrokerRollout.Proofs.Completion
import BrokerRollout.Proofs.Recovery
import BrokerRollout.Proofs.Readiness
import BrokerRollout.Proofs.Counting
import BrokerRollout.Proofs.WorkerNames
import BrokerRollout.Proofs.Overrides
