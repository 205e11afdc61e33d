import FhssOtaRadio.Library.Machine
import FhssOtaRadio.Library.PieceLog
import FhssOtaRadio.OtaProtocol
import FhssOtaRadio.OtaClient.BatchCache
import FhssOtaRadio.OtaClient.Writer
import FhssOtaRadio.OtaClient.Client
import FhssOtaRadio.OtaClient.Session
import FhssOtaRadio.OtaClient.SessionIntegrity
import FhssOtaRadio.OtaClient.BootSafety
import FhssOtaRadio.ConfigStore
import FhssOtaRadio.ConfigStore.Faults
import FhssOtaRadio.OtaClient.Consumer
import FhssOtaRadio.OtaClient.AckSoundness
import FhssOtaRadio.FhssCore.HopSequence
import FhssOtaRadio.FhssCore.SlotScheduler
import FhssOtaRadio.Library.MachineInt
import FhssOtaRadio.FhssCore.MachineSlots
import FhssOtaRadio.FhssCore.PhaseLaw
import FhssOtaRadio.FhssCore.ReceiveArithmetic
import FhssOtaRadio.FhssCore.SyncState
import FhssOtaRadio.Library.Hysteresis
import FhssOtaRadio.FhssCore.LockTrace
import FhssOtaRadio.FhssCore.Core
import FhssOtaRadio.FhssCore.SyncController
import FhssOtaRadio.FhssCore.SlotProgress
import FhssOtaRadio.FhssService.RxTask
import FhssOtaRadio.FhssService.RxAgreement
import FhssOtaRadio.AudioAdapter.OtaMode
import FhssOtaRadio.AudioAdapter.VoiceRestore
import FhssOtaRadio.AudioAdapter.VoiceSession
import FhssOtaRadio.Library.EventQueue
import FhssOtaRadio.Library.FaultChain
import FhssOtaRadio.Product.Fsm
import FhssOtaRadio.Product.System
import FhssOtaRadio.Product.Session
import FhssOtaRadio.Product.SessionRefinement
import FhssOtaRadio.OtaClient.Bystander
import FhssOtaRadio.FhssService.RecoveryBeforeLoss
import FhssOtaRadio.FhssService.RxCalls
import FhssOtaRadio.FhssService.CorrectionStats
import FhssOtaRadio.FhssService.SlotMisses
import FhssOtaRadio.AudioAdapter.AudioPacket
import FhssOtaRadio.FhssService.TxQueue
import FhssOtaRadio.FhssService.TxIdle
import FhssOtaRadio.AudioAdapter.Talkspurt
import FhssOtaRadio.Product.PttRelease
import FhssOtaRadio.Product.Listening
import FhssOtaRadio.AudioAdapter.SeedAnnounce
import FhssOtaRadio.AudioAdapter.RadioMutex
import FhssOtaRadio.Product.Restart
import FhssOtaRadio.Product.Resync
import FhssOtaRadio.Product.SessionAgreement
import FhssOtaRadio.Product.SessionEvents
import FhssOtaRadio.Product.OtaReady
import FhssOtaRadio.Product.Promotion
import FhssOtaRadio.Library.CyclicList
import FhssOtaRadio.FhssCore.HopPermutation
import FhssOtaRadio.FhssCore.SyncAtomicity
import FhssOtaRadio.FhssCore.ClockConvergence
import FhssOtaRadio.FhssService.Rendezvous
import FhssOtaRadio.AudioAdapter.VoiceWire
import FhssOtaRadio.AudioAdapter.FrameOrder
import FhssOtaRadio.Library.LastKey
import FhssOtaRadio.AudioAdapter.EndNotice
import FhssOtaRadio.Library.Monitor
import FhssOtaRadio.OtaClient.HandleTypestate
import FhssOtaRadio.OtaClient.StartAck
import FhssOtaRadio.OtaClient.LossRecovery
import FhssOtaRadio.AudioAdapter.ModeFlags
import FhssOtaRadio.AudioAdapter.SecretSeed
import FhssOtaRadio.Library.XorShift
import FhssOtaRadio.FhssCore.ShuffleGenerator
import FhssOtaRadio.FhssService.RecoveryProbe
import FhssOtaRadio.FhssService.Diagnostics
import FhssOtaRadio.Library.Debounce
import FhssOtaRadio.Library.Winding
import FhssOtaRadio.Input.PttButton
import FhssOtaRadio.Input.RotaryEncoder
import FhssOtaRadio.Library.Dialogue
import FhssOtaRadio.RfTransport.Pins
import FhssOtaRadio.RfTransport.Receive
import FhssOtaRadio.RfTransport.Registers
import FhssOtaRadio.RfTransport.Init
import FhssOtaRadio.RfTransport.Timestamps
import FhssOtaRadio.FhssService.TxTask
import FhssOtaRadio.FhssCore.DriftTracking
import FhssOtaRadio.OtaClient.Delivery
import FhssOtaRadio.Library.TaskSlot
import FhssOtaRadio.Library.Progress
import FhssOtaRadio.Product.Playout
import FhssOtaRadio.Product.AudioProgress
import FhssOtaRadio.FhssService.LinkLock
