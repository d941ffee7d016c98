/-!
# URL errors
-/

namespace ChartSpec

/-- Why a text is no URL. -/
inductive UrlError where
  | emptyHost
  | invalidPort
  | invalidDomain
  | invalidIpv4
  | invalidIpv6
  /-- A character that the host of an unknown scheme cannot have. -/
  | invalidHostCharacter
  | relativeWithoutBase
  deriving DecidableEq

def UrlError.message : UrlError → String
  | emptyHost => "empty host"
  | invalidPort => "invalid port number"
  | invalidDomain => "invalid international domain name"
  | invalidIpv4 => "invalid IPv4 address"
  | invalidIpv6 => "invalid IPv6 address"
  | invalidHostCharacter => "invalid domain character"
  | relativeWithoutBase => "relative URL without a base"

end ChartSpec
