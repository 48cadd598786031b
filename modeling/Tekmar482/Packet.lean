import Mathlib.Data.List.Basic
import Mathlib.Algebra.Order.Ring.Int

/-!
# Packets and the exceptions raised below the session

A packet is an 8-bit type with an opaque payload. The constructor of the
source accepts any integer type and raises outside one byte; the structure
below holds the byte itself, so a packet of another type cannot be built.
-/

namespace Tekmar482

/-- The exceptions that the modelled code raises or hands to its callers. -/
inductive PyException where
  | protocolError (msg : String)
  | transportError (msg : String)
  | connectionClosedError (msg : String)
  | unknownServiceError (msg : String)
  | unknownMethodError (msg : String)
  | unknownFieldError (msg : String)
  | osError (msg : String)
  | valueError (msg : String)
  | otherError (msg : String)
  | timeoutError
  | cancelledError
  deriving DecidableEq, Repr

/-- A tekmar packet: an 8-bit type and the payload bytes. -/
structure Packet where
  type : UInt8 := 0
  data : List UInt8 := []
  deriving DecidableEq, Repr

namespace Packet

/-- The packet type that carries a tRPC message. -/
def TYPE_TRPC : UInt8 := 6

/-- The constructor call with an arbitrary integer type, range check included. -/
def create (type : Int) (data : List UInt8) : Except PyException Packet :=
  if 0 ≤ type ∧ type ≤ 255 then
    .ok { type := UInt8.ofNat type.toNat, data := data }
  else
    .error (.protocolError s!"packet type must fit in one byte: {type}")

/-- Construction succeeds exactly in the byte range and keeps type and payload. -/
theorem create_eq_ok_iff (type : Int) (data : List UInt8) (p : Packet) :
    create type data = .ok p ↔ (p.type.toNat : Int) = type ∧ p.data = data := by
  obtain ⟨t, d⟩ := p
  have ht : t.toNat < 256 := t.toNat_lt
  unfold create
  split
  · rename_i h
    constructor
    · intro heq
      injection heq with heq
      injection heq with h₁ h₂
      subst h₁
      refine ⟨?_, h₂.symm⟩
      simp only [UInt8.toNat_ofNat']
      omega
    · rintro ⟨h₁, h₂⟩
      have hn : type.toNat = t.toNat := by simp only at h₁; omega
      simp only at h₂
      rw [hn, h₂, UInt8.ofNat_toNat]
  · rename_i h
    constructor
    · intro heq
      cases heq
    · rintro ⟨h₁, _⟩
      simp only at h₁
      omega

end Packet

end Tekmar482
