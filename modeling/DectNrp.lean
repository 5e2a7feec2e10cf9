import DectNrp.PlcfStability
import DectNrp.PdcSoundness
import DectNrp.HarqLifeCycle
import DectNrp.PdcSoftbuffer
import DectNrp.FirmwareOrder
import DectNrp.GridPartition
import DectNrp.MacPduReception
import DectNrp.MacPduRoundTrip
import DectNrp.RadioTxLifeCycle
import DectNrp.HeaderAdmission
import DectNrp.HwSimulatorRuns
import DectNrp.MovingSum
import DectNrp.BufferRx
import DectNrp.Beamforming
import DectNrp.ResamplerStreams
import DectNrp.RxPacerUnits
import DectNrp.TransmitDiversity
import DectNrp.ModulateBytes
import DectNrp.FetchAhead
import DectNrp.PdcMapping
import DectNrp.PdcRows
import DectNrp.VirtualSpace
import DectNrp.VirtualSpaceRounds
import DectNrp.PacketDominance
import DectNrp.FixedTerminationRuns
import DectNrp.MacHeaderCodec
import DectNrp.ClusterBeaconCodec
import DectNrp.NetworkBeacon
import DectNrp.Rounding
import DectNrp.CheckedRuns
import DectNrp.Ppx
import DectNrp.HistoryRing
import DectNrp.Pll
import DectNrp.CoverMovingSum
import DectNrp.DatagramQueue
import DectNrp.ApplicationClient
import DectNrp.ApplicationClientRuns
import DectNrp.CommonHeaderExposure
import DectNrp.PackedBits
import DectNrp.Scrambling
import DectNrp.PdcEncodeParts
import DectNrp.UnicastPdu
import DectNrp.UnicastPduRuns
import DectNrp.PdcMappingRuns
import DectNrp.LoadAndMeasurement
import DectNrp.RandomAccessResource
import DectNrp.AssociationRequest
import DectNrp.Reconfiguration
import DectNrp.SmallElements
import DectNrp.ReceivePool
import DectNrp.TxPowerCoding
import DectNrp.BoundedFifo
import DectNrp.JobQueueFifo
import DectNrp.ApplicationQueue
import DectNrp.PeriodicOccurrence
import DectNrp.TxOpportunitySearch
import DectNrp.ScramblingChunks
import DectNrp.SlotArray
import DectNrp.IrregularQueue
import DectNrp.IrregularJobs
import DectNrp.Callbacks
import DectNrp.CallbacksRuns
import DectNrp.TxRequests
import DectNrp.DataDemapping
import DectNrp.PacerStreamRuns
import DectNrp.PackedModulation
import DectNrp.CompleteGraph
import DectNrp.BatonOrderRuns
import DectNrp.HwUsrpRuns
import DectNrp.ProcessingStagesRuns
import DectNrp.FirmwareLifeCycle
