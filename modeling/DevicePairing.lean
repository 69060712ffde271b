import DevicePairing.Connection.Server
import DevicePairing.Proofs.Cbor.Compound
import DevicePairing.Proofs.Cbor.Extension
import DevicePairing.Proofs.Cbor.Lawful
import DevicePairing.Proofs.Cbor.Payment
import DevicePairing.Proofs.Cbor.Size
import DevicePairing.Proofs.Cbor.Worth
import DevicePairing.Proofs.Client.Agreement
import DevicePairing.Proofs.Client.Deadline
import DevicePairing.Proofs.Client.Enrolment
import DevicePairing.Proofs.Client.Grammar
import DevicePairing.Proofs.Client.Payload
import DevicePairing.Proofs.Config.Address
import DevicePairing.Proofs.Config.Storage
import DevicePairing.Proofs.Connection.Answers
import DevicePairing.Proofs.Connection.Course
import DevicePairing.Proofs.Connection.Cut
import DevicePairing.Proofs.Connection.Delivery
import DevicePairing.Proofs.Connection.Framing
import DevicePairing.Proofs.Connection.Intake
import DevicePairing.Proofs.Connection.Link
import DevicePairing.Proofs.Connection.Listener
import DevicePairing.Proofs.Connection.OneCall
import DevicePairing.Proofs.Connection.Refinement
import DevicePairing.Proofs.Connection.Serving
import DevicePairing.Proofs.Connection.Sizes
import DevicePairing.Proofs.Connection.Streaming
import DevicePairing.Proofs.Credentials
import DevicePairing.Proofs.Ed25519.Curve
import DevicePairing.Proofs.Ed25519.Group
import DevicePairing.Proofs.Ed25519.Primality
import DevicePairing.Proofs.Ed25519.Residue
import DevicePairing.Proofs.Ed25519.Signature
import DevicePairing.Proofs.Error.Crossing
import DevicePairing.Proofs.Exchange
import DevicePairing.Proofs.Frame
import DevicePairing.Proofs.Frame.Reading
import DevicePairing.Proofs.Json.Printing
import DevicePairing.Proofs.Message
import DevicePairing.Proofs.Sealing
import DevicePairing.Proofs.Session.Answers
import DevicePairing.Proofs.Session.Atomicity
import DevicePairing.Proofs.Session.Attestation
import DevicePairing.Proofs.Session.ChannelHistory
import DevicePairing.Proofs.Session.Delegation
import DevicePairing.Proofs.Session.Desertion
import DevicePairing.Proofs.Session.Discretion
import DevicePairing.Proofs.Session.Effects
import DevicePairing.Proofs.Session.Events
import DevicePairing.Proofs.Session.Faithful
import DevicePairing.Proofs.Session.Isolation
import DevicePairing.Proofs.Session.Lives
import DevicePairing.Proofs.Session.Origin
import DevicePairing.Proofs.Session.Pending
import DevicePairing.Proofs.Session.Registry
import DevicePairing.Proofs.Session.Replay
import DevicePairing.Proofs.Session.Representation
import DevicePairing.Proofs.Session.Rights
import DevicePairing.Proofs.Session.Senders
import DevicePairing.Proofs.Session.Setup
import DevicePairing.Proofs.Session.Viewed
import DevicePairing.Proofs.Signing
import DevicePairing.Proofs.Text.Blank
import DevicePairing.Proofs.Text.Numeral
import DevicePairing.Proofs.Text.Utf8
import DevicePairing.Proofs.Transport.Feed
import DevicePairing.Proofs.WireForm
import DevicePairing.Transport.Scripted
