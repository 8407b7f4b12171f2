import MemberAddress.Proofs.Forced

/-!
# Addresses of groups that are ruled out

Settings can rule out that an address of groups is picked. A scan passes such addresses over, and
the loopback address has four octets. A forced address is not looked at in this way: of the
addresses that a hostname stands for, the first is taken, whatever its version is.

* `Choice.KeepsToOctets` is what settings promise that rule such addresses out;
* `Choice.version_of_bind` says when an address of groups is chosen all the same.
-/

namespace MemberAddress.Choice

variable {s : Settings} {env : Surroundings} {c : Candidate}

/-- What settings that rule out addresses of groups promise: whatever is chosen has four octets,
unless the forced text stands for no address of four octets. -/
def KeepsToOctets (s : Settings) (env : Surroundings) : Prop :=
  s.preferIPv4Stack = true →
    (∀ t, s.localAddress = some t →
      t ∈ loopbackNames ∨ ∃ x, env.names.Denotes t x ∧ x.version = .v4) →
    ∀ c, (bind s env).result = .ok c → c.inet.version = .v4

/-- When addresses of groups are ruled out, one of them is chosen exactly when it is forced: by a
text that stands, first of all, for an address of groups. Every other choice has four octets. -/
theorem version_of_bind (h4 : s.preferIPv4Stack = true) (h : (bind s env).result = .ok c) :
    c.inet.version = .v6 ↔
      ∃ t x, s.localAddress = some t ∧ t ∉ loopbackNames ∧ env.names.DenotesFirst t x ∧
        x.version = .v6 := by
  cases hl : s.localAddress with
  | none =>
    have hv : c.inet.version = .v4 := Scan.version_of_isAdmitted h4 (isAdmitted_of_bind hl h)
    simp [hv]
  | some t =>
    have hc := (bind_forced_ok_iff hl).1 h
    by_cases ht : t ∈ loopbackNames
    · rw [if_pos ht] at hc
      have hv : c.inet.version = .v4 := by rw [hc]; rfl
      simp [hv, ht]
    · rw [if_neg ht] at hc
      obtain ⟨x, y, hx, hy, rfl⟩ := hc
      have hversion : y.version = x.version :=
        Inet.version_of_bare_eq (Listing.bare_of_fixZone hy)
      constructor
      · intro hv
        exact ⟨t, x, rfl, ht, NameService.resolveOne_ok_iff.1 hx, hversion ▸ hv⟩
      · rintro ⟨t', x', ht', -, hx', hv⟩
        cases ht'
        -- only one address is the first
        obtain rfl : x = x' :=
          Except.ok.inj (hx.symm.trans (NameService.resolveOne_ok_iff.2 hx'))
        exact hversion.trans hv

/-- Settings that force a hostname and rule out addresses of groups. -/
def forcingNode : Settings :=
  { Settings.default with localAddress := some "node".toList, preferIPv4Stack := true }

/-- A host at `10.0.0.5` whose name service answers as given for the hostname. -/
def nodeAt (answers : List Text) : Surroundings :=
  .ofTables [("node".toList, answers)] [.up "eth0".toList [.v4 0x0a000005]]

/-- An address of groups that comes second is passed over. -/
theorem version_of_bind_octetsFirst :
    let env := nodeAt ["10.0.0.5".toList, "2001:db8::1".toList]
    (bind forcingNode env).result = .ok (.of (.v4 0x0a000005) (some "node".toList) 0) ∧
      ¬ ∃ t x, forcingNode.localAddress = some t ∧ t ∉ loopbackNames ∧
        env.names.DenotesFirst t x ∧ x.version = .v6 := by
  intro env
  have hchosen : (bind forcingNode env).result = .ok (.of (.v4 0x0a000005) (some "node".toList) 0) :=
    Except.eq_ok_of_toOption (by decide +kernel)
  exact ⟨hchosen, mt (version_of_bind rfl hchosen).2 (by decide)⟩

/-- An address of groups that comes first is taken, though there is one of four octets. -/
theorem not_keepsToOctets_groupsFirst :
    ¬ KeepsToOctets forcingNode (nodeAt ["2001:db8::1".toList, "10.0.0.5".toList]) := by
  intro h
  have hchosen : (bind forcingNode (nodeAt ["2001:db8::1".toList, "10.0.0.5".toList])).result =
      .ok (.of (.v6 0x20010db8000000000000000000000001 none) (some "node".toList) 0) :=
    Except.eq_ok_of_toOption (by decide +kernel)
  have hoctets : NameService.Denotes (nodeAt ["2001:db8::1".toList, "10.0.0.5".toList]).names
      "node".toList (.v4 0x0a000005) :=
    .inr ⟨by decide +kernel, _, rfl, "10.0.0.5".toList, by decide, by decide +kernel⟩
  have hv := h rfl (by rintro t ⟨⟩; exact .inr ⟨_, hoctets, rfl⟩) _ hchosen
  cases hv

end MemberAddress.Choice
