import LibE3.Proofs.LifecycleRace
import LibE3.Proofs.Agreement
import LibE3.Proofs.Deadline
import LibE3.Proofs.SetupChannel
import LibE3.Proofs.ControlGate
import LibE3.Proofs.Acknowledgments
import LibE3.Proofs.Sending
import LibE3.Proofs.Listing
import LibE3.Proofs.Isolation
import LibE3.Proofs.Ownership
import LibE3.Proofs.RawLink
import LibE3.Proofs.RegistryMaps
import LibE3.Proofs.DAppRecords
import LibE3.Proofs.Responses
import LibE3.Proofs.SetupLoop
import LibE3.Proofs.Answers
import LibE3.Proofs.JsonIntegers
import LibE3.Proofs.TypeDiscipline
import LibE3.Proofs.Detail
import LibE3.Proofs.RoundRobin
import LibE3.Proofs.ZmqLink
import LibE3.Proofs.LatrecRing
import LibE3.Proofs.AgentHandlers
import LibE3.Proofs.AgentRoles
import LibE3.Proofs.Delivery
import LibE3.Proofs.WakeUps
import LibE3.Proofs.MpmcTickets
import LibE3.Proofs.DecodeLeaks
import LibE3.Proofs.Utf8Reads
import LibE3.Proofs.DownlinkOrder
