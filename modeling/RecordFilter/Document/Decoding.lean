import RecordFilter.Document.Cbor
import RecordFilter.Document.Format
import RecordFilter.Document.MessagePack
import RecordFilter.Document.Toml.Reader
import RecordFilter.Document.Yaml.Schema
import RecordFilter.Json.Reader

/-! Decoding bytes in any of the formats. -/

namespace RecordFilter.Format

/-- The document that bytes hold in a format, if they hold one. -/
def decode (format : Format) (bytes : ByteArray) : Option Json :=
  match format with
  | json => Json.decode bytes
  | yaml => Yaml.decode bytes
  | toml => Toml.decode bytes
  | cbor => Cbor.decode bytes.toList
  | messagePack => MessagePack.decode bytes.toList

end RecordFilter.Format
