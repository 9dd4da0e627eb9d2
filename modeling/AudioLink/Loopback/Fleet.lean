import AudioLink.Loopback.Engine

/-
Several loopback engines on one machine.

Each engine has handles of its own, but their sockets are on the same network, so that a sender of
one can be heard by a receiver of another and a port that one has taken is taken for all.
-/
set_option autoImplicit false

namespace AudioLink.Loopback

/-- A machine with engines, each of which has a number. -/
structure Fleet where
  machine : Machine
  /-- States of the engines that have been used. -/
  engines : Table Nat State := .empty

namespace Fleet

/-- An engine of the fleet on its machine. -/
def site (fleet : Fleet) (number : Nat) : Site :=
  { state := (fleet.engines.get? number).getD {}, machine := fleet.machine }

/-- Puts an engine and the machine back. -/
def setSite (number : Nat) (site : Site) (fleet : Fleet) : Fleet :=
  { machine := site.machine, engines := fleet.engines.insert number site.state }

/-- The engine with the given number. -/
def engine (number : Nat) : Engine Fleet :=
  Loopback.engine.lift (fun fleet => fleet.site number) (setSite number)

/-- Lets every receiver of every engine take what was sent to it. -/
def settle (fleet : Fleet) : Fleet :=
  fleet.engines.keys.foldl (fun fleet number =>
    let site := fleet.site number
    setSite number (site.state.peers.keys.foldl Site.settle site) fleet) fleet

end Fleet
end AudioLink.Loopback
