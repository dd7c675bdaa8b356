import PRaft.Rounding
import PRaft.Cluster
import PRaft.RunningMin
import PRaft.MoveLeader
import PRaft.PredictLeader
import PRaft.Projector
import PRaft.LeaderLogger
import PRaft.Migration
import PRaft.ControlLoop
import PRaft.Runs
import PRaft.Reload
import PRaft.ReloadWorld
import PRaft.Workload
import PRaft.LeaderLoad
import PRaft.RaftStats
import PRaft.TsCommon
import PRaft.Forecaster
import PRaft.UpdateLoop
import PRaft.Artifacts
import PRaft.SlotLoop
import PRaft.StatsLog
import PRaft.MixController
import PRaft.TransferScripts
import PRaft.Cycle
