import AudioLink.Net.Network

/-
The machine that engines run on: its network, its clock, and its source of random numbers.

Several engines may share a machine. The clock is read in nanoseconds and moves only while somebody
sleeps. The random numbers are given as a whole and used up one after the other.
-/
set_option autoImplicit false

namespace AudioLink

/-- A machine. -/
structure Machine where
  /-- What its interfaces and routes allow, and which names it knows. -/
  host : Host
  network : Network := .empty
  /-- The reading of its clock. -/
  now : Nat := 0
  /-- Its random numbers. -/
  random : Nat → UInt32
  /-- How many of them have been used. -/
  drawn : Nat := 0

namespace Machine

/-- The next random number. -/
def draw (m : Machine) : UInt32 × Machine := (m.random m.drawn, { m with drawn := m.drawn + 1 })

/-- Lets time pass. -/
def sleep (m : Machine) (nanos : Nat) : Machine := { m with now := m.now + nanos }

/-- Sends a datagram by a connected socket and passes over a failure. -/
def post (m : Machine) (id : SocketId) (bytes : Bytes) : Machine :=
  { m with network := m.network.post m.host id bytes }

/-- Sends a datagram to an address. -/
def sendTo (m : Machine) (address : SocketAddress) (bytes : Bytes) : Except SendFault Machine :=
  match m.network.sendTo m.host address bytes with
  | .ok network => .ok { m with network }
  | .error fault => .error fault

end Machine
end AudioLink
