import Countersign.AddressCheck
import Countersign.Authority
import Countersign.Bytes
import Countersign.Bytes.BigEndian
import Countersign.Bytes.Hex
import Countersign.Command
import Countersign.Command.Instruction
import Countersign.Command.Request
import Countersign.Command.Response
import Countersign.Command.StatusWord
import Countersign.CommandLine.Argument
import Countersign.CommandLine.Number
import Countersign.CommandLine.Output
import Countersign.CommandLine.RehearsalTool
import Countersign.CommandLine.Settings
import Countersign.CommandLine.SigningTool
import Countersign.Credential
import Countersign.Currency
import Countersign.Currency.Bundle
import Countersign.Currency.Coin
import Countersign.Curve
import Countersign.Curve.Modular
import Countersign.Curve.Parameters
import Countersign.Curve.Sec1
import Countersign.Curve.Weierstrass
import Countersign.Device
import Countersign.Device.Descriptor
import Countersign.Device.Server
import Countersign.Dialog
import Countersign.Error
import Countersign.Flow
import Countersign.Handle
import Countersign.Hash.Hmac
import Countersign.Hash.Sha256
import Countersign.Main
import Countersign.Network.Address
import Countersign.Program
import Countersign.Rehearsal
import Countersign.Root
import Countersign.Signature.Ecdsa
import Countersign.Signature.Nonce
import Countersign.Signature.Scheme
import Countersign.Signature.Sequence
import Countersign.Stream
import Countersign.Stream.Frame
import Countersign.Stream.Transport
import Countersign.Text.ControlSequence
import Countersign.Text.Invisible
import Countersign.Text.Json
import Countersign.Text.Quoted
import Countersign.Tlv.Der
import Countersign.Tlv.FieldTag
import Countersign.Tlv.Reader
import Countersign.Tlv.Record
import Countersign.TrustedName.Descriptor
import Countersign.TrustedName.Info
import Countersign.TrustedName.Kind
import Countersign.Wire.Buffer
import Countersign.Wire.Codec
import Countersign.Wire.Error
import Countersign.Wire.Field
import Countersign.Proofs.Device.Run
import Countersign.Proofs.Device.Authorisation
import Countersign.Proofs.Stream.Movement
import Countersign.Proofs.Stream.Framing
import Countersign.Proofs.Stream.Pairing
import Countersign.Proofs.Stream.Arrival
import Countersign.Proofs.Stream.Steadiness
import Countersign.Proofs.Stream.Timing
import Countersign.Proofs.Stream.Delays
import Countersign.Proofs.Stream.Deadline
import Countersign.Proofs.Device.Connection
import Countersign.Proofs.Tlv.Canonical
import Countersign.Proofs.Tlv.Walk
import Countersign.Proofs.TrustedName.Grammar
import Countersign.Proofs.Wire.Reading
import Countersign.Proofs.Wire.Field
import Countersign.Proofs.Command.Wire
import Countersign.Proofs.Device.Challenge
import Countersign.Proofs.Credential.Form
import Countersign.Proofs.Currency.Form
import Countersign.Proofs.Root.Purpose
import Countersign.Proofs.Handle.Conversation
import Countersign.Proofs.Handle.Registration
import Countersign.Proofs.Handle.Sharing
import Countersign.Proofs.Handle.TwoSteps
import Countersign.Proofs.Signature.Ecdsa
import Countersign.Proofs.Handle.Interleaving
import Countersign.Proofs.Device.Refusal
import Countersign.Proofs.Command.AddressCheck
import Countersign.Proofs.Command.Request
import Countersign.Proofs.Command.Response
import Countersign.Proofs.Currency.Coin
import Countersign.Proofs.Wire.InPlace
import Countersign.Proofs.Wire.Encoders
import Countersign.Proofs.TrustedName.Building
import Countersign.Proofs.Device.StandardDescriptor
import Countersign.Proofs.Tlv.Sequence
import Countersign.Proofs.Device.PartnerCurve
import Countersign.Proofs.Currency.Bundle
import Countersign.Proofs.Wire.Places
import Countersign.Proofs.Wire.Decoders
import Countersign.Proofs.TrustedName.Safety
import Countersign.Proofs.Stream.Places
import Countersign.Proofs.Device.Safety
import Countersign.Proofs.Tlv.Number
import Countersign.Proofs.Tlv.Value
import Countersign.Proofs.Stream.Fragments
import Countersign.Proofs.Currency.Shapes
import Countersign.Proofs.TrustedName.Omission
import Countersign.Proofs.Credential.Authority
import Countersign.Proofs.Credential.Generations
import Countersign.Proofs.Command.SignatureBoundary
import Countersign.Proofs.Currency.Image
import Countersign.Proofs.TrustedName.Binding
import Countersign.Proofs.Credential.Authority
