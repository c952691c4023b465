import WchCh56x.CriticalSections.LibraryCalls
import WchCh56x.Hspi.TwoBoards
import WchCh56x.InterruptQueue.TaskRuns
import WchCh56x.Logging.Messages
import WchCh56x.Memory.AllocatorsAgree
import WchCh56x.Memory.FifoBytes
import WchCh56x.Memory.ForeignPointers
import WchCh56x.Memory.GuardedFifo
import WchCh56x.Memory.GuardedPool
import WchCh56x.Memory.GuardedRamx
import WchCh56x.Memory.OwnerCount
import WchCh56x.Serdes.Link
import WchCh56x.Usb.AddressChange
import WchCh56x.Usb.BackendWrites
import WchCh56x.Usb.BurstLimits
import WchCh56x.Usb.Configured
import WchCh56x.Usb.ControlOutData
import WchCh56x.Usb.Endp0Buffers
import WchCh56x.Usb.EndpointAccesses
import WchCh56x.Usb.Enumeration
import WchCh56x.Usb.EventFlags
import WchCh56x.Usb.InDelivery
import WchCh56x.Usb.NewSetupExact
import WchCh56x.Usb.OutPipe
import WchCh56x.Usb.PacketSequence
import WchCh56x.Usb.PassthroughToggles
import WchCh56x.Usb.SetupExact
import WchCh56x.Usb.StateRace
import WchCh56x.Usb.StatusStage
import WchCh56x.Usb.StoredAddress
import WchCh56x.Usb.TransmitRequests
import WchCh56x.Usb.UnsetDescriptors
