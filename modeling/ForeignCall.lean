import ForeignCall.Proofs.Bridge.Polling
import ForeignCall.Proofs.Bridge.Sessions
import ForeignCall.Proofs.Bridge.Separation
import ForeignCall.Proofs.Bridge.Pacing
import ForeignCall.Proofs.Payload.Release
import ForeignCall.Proofs.HandleMap.Clients
import ForeignCall.Proofs.Arenas.Turns
import ForeignCall.Proofs.Arenas.StandIn
import ForeignCall.Proofs.Payload.Nesting
import ForeignCall.Proofs.Loading.Load
import ForeignCall.Proofs.Loading.History
import ForeignCall.Proofs.Text.Decoding
import ForeignCall.Proofs.MessagePack.Delimited
import ForeignCall.Proofs.MessagePack.Encoding
import ForeignCall.Proofs.Json.Rendering
import ForeignCall.Proofs.Json.Whole
import ForeignCall.Proofs.Word.Fields
import ForeignCall.Proofs.Payload.Forms
import ForeignCall.Proofs.Payload.Texts
import ForeignCall.Proofs.Arenas.Scopes
import ForeignCall.Proofs.Arenas.Contents
import ForeignCall.Proofs.Word.Offsets
import ForeignCall.Proofs.Payload.Misplaced
import ForeignCall.Proofs.Bridge.Unregistered
import ForeignCall.Proofs.Payload.Lending
import ForeignCall.Proofs.HandleMap.Minting
import ForeignCall.Proofs.Payload.Records
import ForeignCall.Proofs.Payload.Refusal
import ForeignCall.Proofs.Payload.Choice
import ForeignCall.Proofs.Files.Resolution
import ForeignCall.Proofs.Loading.Search
import ForeignCall.Proofs.Loading.Candidates
