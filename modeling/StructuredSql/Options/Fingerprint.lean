-- The number under which a connection with given options is shared.
import StructuredSql.Options.Datum
import StructuredSql.MessagePack.Encode
import StructuredSql.Hash.Xxh3

namespace StructuredSql.Options

/-- The octets in which options travel. -/
def octets (o : Options) : List UInt8 := MessagePack.encode o.toDatum

/-- The hash of the octets in which options travel. -/
def fingerprint (o : Options) : UInt64 := Hash.Xxh3.hash o.octets

end StructuredSql.Options
