/-!
References to classes.

* `BasicClass`: the classes every class table starts from, with their bases, ancestors and names.
* `ClassRef`: a basic class, or a declared class by its position in the class table.
-/

namespace ModelSchema

/-- The classes that exist before any declaration. `model` is the root of all record models and
`enumeration` of all enumerations. -/
inductive BasicClass where
  | object
  | null
  | str
  | bytes
  | bool
  | int
  | float
  | complex
  | decimal
  | uuid
  | date
  | datetime
  | time
  | duration
  | url
  | httpUrl
  | ipv4
  | ipv6
  | ipv4Interface
  | ipv4Network
  | purePath
  | path
  | instant
  | list
  | set
  | frozenSet
  | tuple
  | dict
  | deque
  | model
  | enumeration
  | flag
  | intFlag
  deriving DecidableEq, Repr, Inhabited

/-- The names a class is shown by: the module it is defined in, its name within the module with
all enclosing scopes, and its simple name. -/
structure ClassName where
  module : String
  qualname : String
  name : String
  deriving DecidableEq, Repr, Inhabited

namespace BasicClass

/-- All basic classes. -/
def all : List BasicClass :=
  [object, null, str, bytes, bool, int, float, complex, decimal, uuid, date, datetime, time,
    duration, url, httpUrl, ipv4, ipv6, ipv4Interface, ipv4Network, purePath, path, instant, list,
    set, frozenSet, tuple, dict, deque, model, enumeration, flag, intFlag]

/-- The classes that a class names as its bases. -/
def bases : BasicClass → List BasicClass
  | object => []
  | bool => [int]
  | datetime => [date]
  | httpUrl => [url]
  | ipv4Interface => [ipv4]
  | path => [purePath]
  | flag => [enumeration]
  | intFlag => [int, flag]
  | _ => [object]

/-- The class itself and its ancestors, nearest first. -/
def ancestors : BasicClass → List BasicClass
  | object => [object]
  | bool => [bool, int, object]
  | datetime => [datetime, date, object]
  | httpUrl => [httpUrl, url, object]
  | ipv4Interface => [ipv4Interface, ipv4, object]
  | path => [path, purePath, object]
  | flag => [flag, enumeration, object]
  | intFlag => [intFlag, int, flag, enumeration, object]
  | c => [c, object]

/-- The module and the name of a basic class. -/
def label : BasicClass → String × String
  | object => ("builtins", "object")
  | null => ("builtins", "NoneType")
  | str => ("builtins", "str")
  | bytes => ("builtins", "bytes")
  | bool => ("builtins", "bool")
  | int => ("builtins", "int")
  | float => ("builtins", "float")
  | complex => ("builtins", "complex")
  | decimal => ("decimal", "Decimal")
  | uuid => ("uuid", "UUID")
  | date => ("datetime", "date")
  | datetime => ("datetime", "datetime")
  | time => ("datetime", "time")
  | duration => ("datetime", "timedelta")
  | url => ("pydantic.networks", "AnyUrl")
  | httpUrl => ("pydantic.networks", "HttpUrl")
  | ipv4 => ("ipaddress", "IPv4Address")
  | ipv6 => ("ipaddress", "IPv6Address")
  | ipv4Interface => ("ipaddress", "IPv4Interface")
  | ipv4Network => ("ipaddress", "IPv4Network")
  | purePath => ("pathlib", "PurePath")
  | path => ("pathlib", "Path")
  | instant => ("polyschema.core.formats", "Instant")
  | list => ("builtins", "list")
  | set => ("builtins", "set")
  | frozenSet => ("builtins", "frozenset")
  | tuple => ("builtins", "tuple")
  | dict => ("builtins", "dict")
  | deque => ("collections", "deque")
  | model => ("pydantic.main", "BaseModel")
  | enumeration => ("enum", "Enum")
  | flag => ("enum", "Flag")
  | intFlag => ("enum", "IntFlag")

def className (c : BasicClass) : ClassName := ⟨c.label.1, c.label.2, c.label.2⟩

end BasicClass

/-- A class: a basic one, or the declared class at a position of the class table. -/
inductive ClassRef where
  | basic (c : BasicClass)
  | declared (index : Nat)
  deriving DecidableEq, Repr, Inhabited

end ModelSchema
