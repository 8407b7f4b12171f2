import MemberAddress.Inet.Network

/-!
# Address patterns

A pattern selects addresses of one version by their numbers alone.

* `Pattern` has three kinds: the addresses from one to another, a network, and a span of values
  for each group;
* `Pattern.covers` says which addresses a pattern selects; zones never matter.
-/

namespace MemberAddress

/-- The values from `low` to `high`, both included. -/
structure Span where
  low : Nat
  high : Nat
  deriving DecidableEq, Repr

/-- Whether a value lies in a span. -/
def Span.contains (s : Span) (n : Nat) : Bool := s.low ≤ n && n ≤ s.high

/-- A selection of addresses. -/
inductive Pattern
  | range (version : Version) (first last : Nat)
  | network (net : Network)
  | segments (version : Version) (spans : List Span)
  deriving DecidableEq, Repr

namespace Pattern

/-- The pattern that selects one address, with any zone. -/
def single (x : Inet) : Pattern := .range x.version x.number x.number

/-- The version of the addresses that a pattern selects. -/
def version : Pattern → Version
  | .range v _ _ => v
  | .network net => net.address.version
  | .segments v _ => v

/-- Whether each value lies in the span at its place. -/
def spansContain : List Span → List Nat → Bool
  | span :: spans, n :: ns => span.contains n && spansContain spans ns
  | _, _ => true

/-- Whether a pattern selects an address. -/
def covers (p : Pattern) (x : Inet) : Bool :=
  x.version == p.version &&
    match p with
    | .range _ first last => first ≤ x.number && x.number ≤ last
    | .network net => net.contains x
    | .segments _ spans => spansContain spans x.groups

/-- A pattern selects an address whatever its zone. -/
theorem covers_bare (p : Pattern) (x : Inet) : p.covers x.bare = p.covers x := by
  cases x <;> cases p <;> rfl

end Pattern

end MemberAddress
