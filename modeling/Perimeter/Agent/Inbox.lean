import Perimeter.Net.Address
import Perimeter.Wire.Grant

/-!
# `Perimeter.Agent.Inbox`: datagrams that wait for an agent

All datagrams for an agent arrive at one socket in some order, late answers to
earlier attempts and forgeries among them. The agent takes the first that bears the
address of the controller, drops those before it, and leaves those behind it to the
next attempt. Whether what it took is a grant is judged afterwards.

* `receive_eq_none_iff`: nothing is received only if nothing came from the sender.
-/

set_option autoImplicit false

namespace Perimeter.Agent

/-- Datagrams with the addresses they bear, in order of arrival. -/
abbrev Inbox := List (SocketAddress × Bytes)

namespace Inbox

/-- A datagram as the agent's buffer holds it: one octet more than the longest grant,
so that what is too long shows. -/
def cut (datagram : Bytes) : Bytes := datagram.take (Grant.maxLength + 1)

/-- The first datagram from a sender and the inbox after it. -/
def receive (sender : SocketAddress) : Inbox → Inbox × Option Bytes
  | [] => ([], none)
  | (address, datagram) :: rest =>
    if address = sender then (rest, some (cut datagram)) else receive sender rest

theorem receive_eq_none_iff {sender : SocketAddress} {inbox : Inbox} :
    (inbox.receive sender).2 = none ↔ sender ∉ inbox.map (·.1) := by
  induction inbox with
  | nil => simp [receive]
  | cons m rest ih =>
    by_cases h : m.1 = sender
    · simp [receive, h]
    · have h' : ¬sender = m.1 := fun e => h e.symm
      simp [receive, h, h', ih]

end Inbox

end Perimeter.Agent
