import Fleetd.Kernel.Text
import Fleetd.Serde.Split

/-!
# The endpoint of an egress

A loopback collector needs no transport security, because nothing leaves the machine. Anything else
must be reached by https. The address is taken apart by splitting it.
-/

namespace Fleetd.Otlp

open Serde

/-- The part of an authority in front of its last colon, or all of it. -/
def hostOf (authority : List Char) : List Char :=
  match rsplitOnce ':' authority with
  | some (host, _) => host
  | none => authority

/-- The hosts that are on the same machine. -/
def isLoopback (host : List Char) : Bool :=
  host = "127.0.0.1".toList ∨ host = "localhost".toList ∨ host = "[::1]".toList

/-- Refuses an endpoint that would carry reasoning off the machine in clear text. -/
def validateEndpoint (endpoint : String) : Except String Unit :=
  match splitOnce "://".toList endpoint.toList with
  | none => .error "egress endpoint must be an absolute http or https URL"
  | some (scheme, rest) =>
    if scheme ≠ "http".toList ∧ scheme ≠ "https".toList then
      .error ("unsupported egress endpoint scheme `" ++ String.ofList scheme ++ "`")
    else if '@' ∈ rest then .error "egress endpoint must not embed credentials"
    else if '?' ∈ rest ∨ '#' ∈ rest then
      .error "egress endpoint must not carry a query or fragment"
    else
      let authority := rest.takeWhile (· ≠ '/')
      if authority = [] then .error "egress endpoint must name a host"
      else if isLoopback (hostOf authority) = false ∧ scheme ≠ "https".toList then
        .error ("egress endpoint host `" ++ String.ofList (hostOf authority) ++
          "` is not loopback, so its scheme must be https")
      else .ok ()

end Fleetd.Otlp
