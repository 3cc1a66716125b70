import RampMetering.Barrier
import RampMetering.ReplayLog
import RampMetering.MeterRate
import RampMetering.Overwrite
import RampMetering.SentGreen
import RampMetering.LevelDrop
import RampMetering.Exclusion
import RampMetering.Repoll
import RampMetering.Congestion
import RampMetering.GreenWalk
import RampMetering.TestRun
import RampMetering.QueueBalance
import RampMetering.GreenOcc
import RampMetering.RateDirection
import RampMetering.VehicleCount
import RampMetering.ExitIntegral
import RampMetering.QueueActivation
import RampMetering.RampRange
import RampMetering.TimingWriteBack
import RampMetering.FlagPulses
import RampMetering.Separation
import RampMetering.RampQueueRun
import RampMetering.SignalRange
import RampMetering.GreenRecovery
import RampMetering.DeadBand
import RampMetering.Replay
import RampMetering.SignalRestart
import RampMetering.LogReplay
import RampMetering.Progress
