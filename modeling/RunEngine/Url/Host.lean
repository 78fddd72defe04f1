import RunEngine.Domain.Ascii
import RunEngine.Url.Address
import RunEngine.Url.Percent

/-!
# Hosts

The host of a URL is an address or a name. The schemes of the web take names for names of domains,
and those that look like numbers for IPv4 addresses; other schemes take them as they are.
-/

namespace RunEngine.Url

inductive Host where
  | v4 (address : UInt32)
  | v6 (groups : Vector UInt16 8)
  | name (text : String)
  deriving DecidableEq, Inhabited

namespace Host

def isEmpty : Host → Bool
  | name text => text.isEmpty
  | _ => false

/-- An IPv6 address, from what follows its opening bracket. -/
def readBracketed (cs : List Char) : Option Host :=
  if cs.getLast? = some ']' then (readAddress6 (String.ofList cs.dropLast)).map v6 else none

/-- The host that the ASCII form of a domain name stands for. -/
def ofDomain (domain : String) : Option Host :=
  if domain.isEmpty then none
  else if isAddress domain then (readAddress domain).map v4
  else some (name domain)

/-- A host as the schemes of the web have it. -/
def read : List Char → Option Host
  | '[' :: rest => readBracketed rest
  | cs => do ofDomain (← Domain.ascii? (← decode cs).toList)

/-- What may not stand in a host that is taken as it is. -/
def forbidden : List Char :=
  ['\x00', '\t', '\n', '\r', ' ', '#', '/', ':', '<', '>', '?', '@', '[', '\\', ']', '^', '|']

/-- A host as other schemes have it. It may be empty. -/
def readPlain : List Char → Option Host
  | '[' :: rest => readBracketed rest
  | cs => if cs.any forbidden.contains then none else some (name (encode [] cs))

def text : Host → String
  | v4 address => addressText address
  | v6 groups => "[" ++ address6Text groups ++ "]"
  | name text => text

end Host

end RunEngine.Url
