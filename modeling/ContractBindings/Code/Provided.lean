/-!
# Provided names

The names that every module of bindings imports from the library it runs with, and that the
bindings refer to as they stand.
-/

namespace ContractBindings.Provided

/-- The base class of calls. -/
def call : String := "EthereumCall"

/-- The base class of events. -/
def event : String := "EthereumEvent"

/-- A value as it is decoded from the chain. -/
def value : String := "EthereumValue"

/-- The base class of structs, which stands for a tuple without a class of its own. -/
def tuple : String := "EthereumTuple"

/-- The base class of contracts. -/
def contract : String := "SmartContract"

/-- A map with typed entries. -/
def map : String := "TypedMap"

/-- A JSON value. -/
def json : String := "JSONValue"

/-- An entity of the store. -/
def entity : String := "Entity"

/-- An integer of any size. -/
def integer : String := "BigInt"

/-- A sequence of bytes. -/
def bytes : String := "Bytes"

/-- The address of an account. -/
def address : String := "Address"

/-- The imported names, in the order of the import: the base classes first, then the types
of values. -/
def names : List String :=
  [call, event, contract, value, json, map, entity, tuple, bytes, address, integer]

/-- The module that the names are imported from unless another is chosen. -/
def module : String := "@graphprotocol/graph-ts"

end ContractBindings.Provided
