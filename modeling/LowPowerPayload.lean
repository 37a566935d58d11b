import LowPowerPayload.Decimal.Shortest
import LowPowerPayload.Decimal.Notation
import LowPowerPayload.Decimal.Read
import LowPowerPayload.Decimal.Integral
import LowPowerPayload.Text.Blank
import LowPowerPayload.Text.Printable
import LowPowerPayload.Text.Quote
import LowPowerPayload.Text.Cased
import LowPowerPayload.Text.Case
import LowPowerPayload.Text.Hex
import LowPowerPayload.Text.DecimalDigit
import LowPowerPayload.Text.Numeral
import LowPowerPayload.Fault
import LowPowerPayload.Timestamp
import LowPowerPayload.Datum
import LowPowerPayload.KeyedMap
import LowPowerPayload.Reading
import LowPowerPayload.Wire.Encoding
import LowPowerPayload.Wire.Field
import LowPowerPayload.Descriptor
import LowPowerPayload.Standard
import LowPowerPayload.Event
import LowPowerPayload.Registry
import LowPowerPayload.Frame
import LowPowerPayload.Report
import LowPowerPayload.Decoder
import LowPowerPayload.Json.Write
import LowPowerPayload.Json.Read
import LowPowerPayload.HexText
import LowPowerPayload.Digest.Sha256
import LowPowerPayload.Digest.SipHash
import LowPowerPayload.Hashing
import LowPowerPayload.Yaml.Failure
import LowPowerPayload.Yaml.Token
import LowPowerPayload.Yaml.Lexer
import LowPowerPayload.Yaml.Stamp
import LowPowerPayload.Yaml.Resolve
import LowPowerPayload.Yaml.Graph
import LowPowerPayload.Yaml.Scalar
import LowPowerPayload.Yaml.Value
import LowPowerPayload.Yaml.SetOrder
import LowPowerPayload.Yaml.Load
import LowPowerPayload.Catalog
import LowPowerPayload.Build
import LowPowerPayload.Command.Line
import LowPowerPayload.Command.Run
import LowPowerPayload.Main
import LowPowerPayload.Proofs.KeyedMap
import LowPowerPayload.Proofs.Frames
import LowPowerPayload.Proofs.Append
import LowPowerPayload.Proofs.Failure
import LowPowerPayload.Proofs.Registry
import LowPowerPayload.Proofs.Catalog
import LowPowerPayload.Proofs.Loaded
import LowPowerPayload.Proofs.Build
import LowPowerPayload.Proofs.Double
import LowPowerPayload.Proofs.Layout
import LowPowerPayload.Proofs.Faults
import LowPowerPayload.Proofs.Command
import LowPowerPayload.Proofs.Extension
import LowPowerPayload.Proofs.Codec
import LowPowerPayload.Proofs.StandardLayout
import LowPowerPayload.Proofs.HexTokens
import LowPowerPayload.Proofs.Loop
import LowPowerPayload.Proofs.Termination
import LowPowerPayload.Proofs.Log
