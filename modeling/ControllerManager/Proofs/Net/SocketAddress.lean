import ControllerManager.Net.SocketAddress
import ControllerManager.Proofs.Net.Ip

/-!
# Printed socket addresses

A socket address reads back from its printed form, so that different addresses are printed
differently. No text that is read as a socket address begins with a colon or a letter.

## Main results

* `Net.SocketAddress.parse?_print` — an address reads back.
* `Net.SocketAddress.head_of_parse?` — how a text begins that is an address.
* `Net.SocketAddress.parse?_ip4_iff` — which texts behind an address of four bytes are its port.
-/

namespace ControllerManager.Net

namespace SocketAddress

variable {cs : List Char}

/-! ### Ports and scopes -/

theorem readPort?_digits (port : UInt16) :
    readPort? (':' :: Nat.toDigits 10 port.toNat) = some (port, []) := by
  have hport := Numeral.read?_port port (Numeral.stops_nil _)
  rw [List.append_nil] at hport
  simp [readPort?, hport]

/-- A scope as it is printed, which it is unless it is zero. -/
def printScope (scope : UInt32) : List Char :=
  if scope = 0 then [] else '%' :: Nat.toDigits 10 scope.toNat

theorem readScope_printScope (scope : UInt32) (rest : List Char) :
    readScope (printScope scope ++ ']' :: rest) = (scope, ']' :: rest) := by
  unfold printScope
  split_ifs with hscope
  · subst hscope
    rfl
  · have hread : Numeral.scope.read? (Nat.toDigits 10 scope.toNat ++ ']' :: rest) =
        some (scope.toNat, ']' :: rest) :=
      Numeral.read?_scope scope (Numeral.stops_cons rfl)
    simp [readScope, hread]

/-- A scope in front of a bracket ends the groups of an address. -/
theorem ends_printScope (scope : UInt32) (rest : List Char) :
    Ip6.Ends (printScope scope ++ ']' :: rest) := by
  right
  unfold printScope
  split_ifs
  · simpa using (by decide : digitValue? 16 ']' = none)
  · simpa using (by decide : digitValue? 16 '%' = none)

/-! ### Addresses -/

/-- **A socket address reads back** from its printed form. -/
theorem parse?_print (a : SocketAddress) : parse? a.print = some a := by
  cases a with
  | v4 ip port =>
    have hip : Ip4.read? (ip.print ++ ':' :: Nat.toDigits 10 port.toNat) =
        some (ip, ':' :: Nat.toDigits 10 port.toNat) :=
      ip.read?_print (Numeral.stops_cons rfl)
    simp [parse?, print, read4?, hip, readPort?_digits]
  | v6 ip scope port =>
    have hprint : print (v6 ip scope port) = '[' :: (ip.print ++ (printScope scope ++
        ']' :: ':' :: Nat.toDigits 10 port.toNat)) := by
      simp [print, printScope]
    have hip := ip.read?_print (ends_printScope scope (':' :: Nat.toDigits 10 port.toNat))
    rw [hprint, parse?, read4?, Ip4.read?_of_stops (Numeral.stops_cons rfl)]
    simp [read6?, hip, readScope_printScope, readPort?_digits]

/-- Different addresses are printed differently. -/
theorem print_injective {a b : SocketAddress} (h : a.print = b.print) : a = b := by
  have hparse := congrArg parse? h
  rw [parse?_print, parse?_print] at hparse
  exact Option.some.inj hparse

/-- A text that is an address begins with a decimal digit or a bracket. -/
theorem head_of_parse? {a : SocketAddress} (h : parse? cs = some a) :
    ∃ c rest, cs = c :: rest ∧ (c = '[' ∨ (digitValue? 10 c).isSome = true) := by
  rcases cs with _ | ⟨c, rest⟩
  · cases h
  · refine ⟨c, rest, rfl, ?_⟩
    by_contra hc
    obtain ⟨hbracket, hdigit⟩ := not_or.1 hc
    have hip : Ip4.read? (c :: rest) = none :=
      Ip4.read?_of_stops (Numeral.stops_cons (Option.not_isSome_iff_eq_none.1 hdigit))
    have hsix : expect? '[' (c :: rest) = none := expect?_of_ne (by simpa using hbracket)
    simp [parse?, read4?, hip, read6?, hsix] at h

/-- A printed address ends with its port. -/
theorem exists_print_eq (a : SocketAddress) :
    ∃ front, a.print = front ++ Nat.toDigits 10 a.port.toNat := by
  cases a with
  | v4 ip port => exact ⟨_, rfl⟩
  | v6 ip scope port => exact ⟨_, rfl⟩

/-- Behind an address of four bytes and a colon stands a port, and nothing else. -/
theorem parse?_ip4_iff {ip : Ip4} {a : SocketAddress} :
    parse? (ip.print ++ ':' :: cs) = some a ↔
      ∃ p, Numeral.port.read? cs = some (p, []) ∧ a = v4 ip (.ofNat p) := by
  have hip : Ip4.read? (ip.print ++ ':' :: cs) = some (ip, ':' :: cs) :=
    ip.read?_print (Numeral.stops_cons rfl)
  rcases hport : Numeral.port.read? cs with _ | ⟨p, rest⟩
  · have hsix : expect? '[' (ip.print ++ ':' :: cs) = none := by
      refine expect?_of_ne fun hbracket => ?_
      rw [Ip4.read?_of_stops fun c hc => ?_] at hip
      · cases hip
      · obtain rfl := Option.some.inj (hbracket.symm.trans hc)
        rfl
    simp [parse?, read4?, hip, readPort?, hport, read6?, hsix]
  · rcases rest with _ | ⟨c, rest⟩
    · simp [parse?, read4?, hip, readPort?, hport, eq_comm]
    · simp [parse?, read4?, hip, readPort?, hport]

end SocketAddress

end ControllerManager.Net
