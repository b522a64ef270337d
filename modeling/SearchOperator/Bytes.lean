/-!
# Bytes

A string of bytes, as requests and answers carry it.
-/

namespace SearchOperator

abbrev Bytes := List UInt8

end SearchOperator
