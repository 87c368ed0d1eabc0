import GssApi.Bytes
import GssApi.Status
import GssApi.Text.Numeral
import GssApi.Text.Utf8
import GssApi.Text.Ranges
import GssApi.Text.GraphemeExtend
import GssApi.Text.OtherOrSeparator
import GssApi.Text.ControlSequence
import GssApi.Oid
import GssApi.Codec.Error
import GssApi.Crypto.EncType
import GssApi.Crypto.Error
import GssApi.Error
import GssApi.Codec.Length
import GssApi.Codec.TokenTag
import GssApi.Codec.Frame
import GssApi.Codec.Checksum
import GssApi.Codec.Header
import GssApi.Script.Edit
import GssApi.Crypto.Cipher
import GssApi.Crypto.Des
import GssApi.Crypto.Digest
import GssApi.Crypto.Key
import GssApi.Crypto.NFold
import GssApi.Crypto.Random
import GssApi.Crypto.Suite
import GssApi.Krb5.Minor
import GssApi.Krb5.Exchange.Error
import GssApi.Krb5.Exchange.Field
import GssApi.Krb5.Exchange.Seal
import GssApi.Krb5.Ticket
import GssApi.Krb5.Exchange.Message
import GssApi.Name
import GssApi.Context.Flags
import GssApi.Config.Settings
import GssApi.Credential
import GssApi.Text.Quote
import GssApi.Krb5.Context
import GssApi.Mech.Interface
import GssApi.Krb5.Establish
import GssApi.Krb5.PerMessage
import GssApi.Krb5.Dispatch
import GssApi.Mech.Decoy
import GssApi.Mech.Registry
import GssApi.Context.Calls
import GssApi.Script.Spec
import GssApi.Script.Step
import GssApi.Script.World
import GssApi.Krb5.Realm
import GssApi.Script.Realm
import GssApi.Config.Toml
import GssApi.Config.Load
import GssApi.Text.Base64
import GssApi.Cli.Args
import GssApi.Cli.Run
import GssApi.Cli.Selftest
import GssApi.Main
import GssApi.Proofs.Cipher
import GssApi.Proofs.Framing
import GssApi.Proofs.Effects
import GssApi.Proofs.HonestTokens
import GssApi.Proofs.Channel
import GssApi.Proofs.Utf8
import GssApi.Proofs.Fields
import GssApi.Proofs.Sealing
import GssApi.Proofs.Messages
import GssApi.Proofs.Flags
import GssApi.Proofs.Handshake
import GssApi.Proofs.ContextInvariant
import GssApi.Proofs.Lifecycle
import GssApi.Proofs.Acceptor
import GssApi.Proofs.Unframing
import GssApi.Proofs.Tampering
import GssApi.Proofs.CodecBounds
import GssApi.Proofs.ExchangeBounds
import GssApi.Proofs.ReceiveBounds
import GssApi.Proofs.WrapperCodec
import GssApi.Proofs.Lifetimes
import GssApi.Proofs.SupportedKeys
import GssApi.Proofs.MutualOption
import GssApi.Proofs.LegacyStatus
import GssApi.Proofs.KeyExpansion
import GssApi.Proofs.NFold
import GssApi.Proofs.OidCoding
import GssApi.Proofs.LengthCoding
import GssApi.Proofs.ChecksumChecks
