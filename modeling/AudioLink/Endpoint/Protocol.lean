/-
The network protocols that an endpoint can name, with the facts of each: its URI scheme, its
standard port, and whether a URI of it may carry a path and a query.

Only the consolidated signalling protocol has a standard port and a resource; every other protocol
moves packets of one kind to an explicit port.
-/
set_option autoImplicit false

namespace AudioLink

/-- Network protocol of an endpoint. -/
inductive Protocol where
  /-- RTSP: signalling and media together. -/
  | rtsp
  /-- RTP over UDP without error correction. -/
  | rtp
  /-- RTP source packets with a Reed-Solomon footer. -/
  | rtpRs8mSource
  /-- Reed-Solomon repair packets. -/
  | rs8mRepair
  /-- RTP source packets with an LDPC-Staircase footer. -/
  | rtpLdpcSource
  /-- LDPC-Staircase repair packets. -/
  | ldpcRepair
  /-- RTCP: control messages. -/
  | rtcp
  deriving DecidableEq, Repr

namespace Protocol

/-- Every protocol, in the order in which they are listed to a user. -/
def all : List Protocol :=
  [rtsp, rtp, rtpRs8mSource, rs8mRepair, rtpLdpcSource, ldpcRepair, rtcp]

/-- The URI scheme, which is also the displayed form. -/
def scheme : Protocol → String
  | rtsp => "rtsp"
  | rtp => "rtp"
  | rtpRs8mSource => "rtp+rs8m"
  | rs8mRepair => "rs8m"
  | rtpLdpcSource => "rtp+ldpc"
  | ldpcRepair => "ldpc"
  | rtcp => "rtcp"

/-- The constructor's name, used where a value is shown for debugging. -/
def debugName : Protocol → String
  | rtsp => "Rtsp"
  | rtp => "Rtp"
  | rtpRs8mSource => "RtpRs8mSource"
  | rs8mRepair => "Rs8mRepair"
  | rtpLdpcSource => "RtpLdpcSource"
  | ldpcRepair => "LdpcRepair"
  | rtcp => "Rtcp"

/-- The protocol with the given URI scheme; the case of letters matters. -/
def ofScheme? (scheme : String) : Option Protocol := all.find? (·.scheme = scheme)

/-- The standard port, if the protocol defines one. -/
def defaultPort? : Protocol → Option UInt16
  | rtsp => some 554
  | _ => none

/-- Whether a path and a query may follow the authority of a URI. -/
def supportsResource : Protocol → Bool
  | rtsp => true
  | _ => false

/-- Each protocol is found again by its scheme, so no two share one. -/
theorem ofScheme?_scheme (p : Protocol) : ofScheme? p.scheme = some p := by
  cases p <;> decide

end Protocol
end AudioLink
