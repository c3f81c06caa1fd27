import MarineFix.Broadcast.Session
import MarineFix.Decode.Session
import MarineFix.Feed.Session
import MarineFix.Proofs.Broadcast.Delivery
import MarineFix.Proofs.Decode.Corruption
import MarineFix.Proofs.Feed.Cancellation
import MarineFix.Proofs.Feed.Conservation
import MarineFix.Proofs.Feed.Interruption
import MarineFix.Proofs.Service.Agreement
import MarineFix.Proofs.Service.Clients
import MarineFix.Service.Basic
import MarineFix.Proofs.Decode.Coverage
import MarineFix.Proofs.Feed.Sockets
import MarineFix.Proofs.Sentence.Fields
import MarineFix.Proofs.Decode.Positions
import MarineFix.Proofs.Broadcast.Isolation
import MarineFix.Proofs.Decode.Gaps
import MarineFix.Proofs.Feed.Noise
import MarineFix.Proofs.Record.Message
import MarineFix.Proofs.Decode.Kinds
import MarineFix.Proofs.Decode.Ownership
import MarineFix.Proofs.Decode.FirstFailure
import MarineFix.Proofs.DataField.Instant
import MarineFix.Proofs.Decode.Rendering
import MarineFix.Proofs.DataField.Coordinates
import MarineFix.Proofs.Decode.Variation
import MarineFix.Proofs.Decode.Finite
import MarineFix.Proofs.Decode.Clocks
import MarineFix.Proofs.Decode.Decoration
import MarineFix.Proofs.Decode.Extension
import MarineFix.Proofs.Sentence.Checksum
import MarineFix.Proofs.Feed.Iteration
import MarineFix.Proofs.Feed.Refusal
