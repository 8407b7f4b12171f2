import MemberAddress.MemberList
import MemberAddress.Proofs.Loading

/-!
# Nulls in a table

A key whose value is null says as much as a key that is left out, but not everywhere: properties and
members are read as texts, and the text of a null is a word like any other.

* `Place` are the places at which a table may say null, `Place.IsNeutral` those at which it may as
  well say nothing;
* `Config.gathered` is all that a picker learns from a table;
* `Config.ofEntries_removed` and `Config.gathered_removed_property` leave a null out,
  `Config.ofEntries_spelled` writes it out;
* `Config.ignoresNull_iff` tells the two kinds of places apart.
-/

namespace MemberAddress

/-- The properties that the picker asks for. -/
def Property.ofPicker : List Property := [localAddress, publicAddress, preferIPv4Stack, bindAny]

/-! ### Places in a table -/

/-- A place at which a table may say null: a key of a section, or the item with the given index in
the list of members. -/
inductive Place
  | entry (s : Section) (key : Value)
  | member (index : Nat)

/-- A null written out; other values stay as they are. -/
def Value.spelled : Value → Value
  | .null => .text "None".toList
  | v => v

/-- The items of a list without the item at an index, if it is null. -/
def Value.withoutNullAt (index : Nat) (items : List Value) : List Value :=
  if items[index]?.any isNull then items.eraseIdx index else items

namespace Place

/-- A table without the null at a place; a table that says something else there is left as it is. -/
def removed : Place → Entries → Entries
  | .entry s key => Entries.modifyAt s.path (Entries.withoutNull key)
  | .member index =>
    Entries.modifyAt Section.tcpIp.path
      (Entries.modify (.text "members".toList) (Value.onList (Value.withoutNullAt index)))

/-- A table with the null at a place written out. -/
def spelled : Place → Entries → Entries
  | .entry s key => Entries.modifyAt s.path (Entries.modify key Value.spelled)
  | .member index =>
    Entries.modifyAt Section.tcpIp.path
      (Entries.modify (.text "members".toList) (Value.onList (·.modify index Value.spelled)))

/-- Whether a null at a place says as much as nothing: the two numbers of ports have to be numbers,
and the properties that the picker asks for and the members are read as texts. -/
def IsNeutral : Place → Prop
  | .entry .network key => key ≠ .text "port".toList ∧ key ≠ .text "port_count".toList
  | .entry .properties key => ∀ p ∈ Property.ofPicker, key ≠ .text p.name
  | .entry _ _ => True
  | .member _ => False

/-- Whether what stands at a place is read as a text. -/
def IsShown : Place → Prop
  | .entry s _ => s = .properties
  | .member _ => True

end Place

/-! ### Changes that loading does not see -/

section

variable {entries entries' : Entries} {g : Entries → Entries} {key : String}

theorem AddressSection.ofEntries_congr (h : ∀ k, entries.get k = entries'.get k) :
    ofEntries entries key = ofEntries entries' key := by
  simp only [ofEntries, Entries.textList, h]

namespace NetworkConfig

theorem membersOf_congr (h : ∀ k, entries.get k = entries'.get k) :
    membersOf entries = membersOf entries' := by
  rw [membersOf, membersOf, Entries.nested_congr (h "tcp_ip")]

theorem ofEntries_congr (h : ∀ k, entries.get k = entries'.get k)
    (hport : Entries.find? (.text "port".toList) entries =
      Entries.find? (.text "port".toList) entries')
    (hcount : Entries.find? (.text "port_count".toList) entries =
      Entries.find? (.text "port_count".toList) entries') :
    ofEntries entries = ofEntries entries' := by
  simp only [ofEntries, h, hport, hcount, Entries.nested_congr (h "interfaces"),
    Entries.nested_congr (h "join")]

theorem membersOf_modify (h0 : g [] = [])
    (hg : ∀ es, AddressSection.ofEntries (g es) "members" = AddressSection.ofEntries es "members") :
    membersOf (entries.modify (.text "tcp_ip".toList) (Value.onTable g)) = membersOf entries := by
  rw [membersOf, membersOf, Entries.nested_modify h0]
  cases entries.nested "tcp_ip" with
  | error e => rfl
  | ok inner => exact hg inner

theorem ofEntries_modify_interfaces (h0 : g [] = [])
    (hg : ∀ es, AddressSection.ofEntries (g es) "interfaces" =
      AddressSection.ofEntries es "interfaces") :
    ofEntries (entries.modify (.text "interfaces".toList) (Value.onTable g)) = ofEntries entries := by
  simp (disch := decide) only [ofEntries, Entries.nested_modify h0, Entries.get_modify_other,
    Entries.nested_modify_other, Entries.find?_modify_other, Except.bind_map, hg]

theorem ofEntries_modify_join (h0 : g [] = []) (hg : ∀ es, membersOf (g es) = membersOf es) :
    ofEntries (entries.modify (.text "join".toList) (Value.onTable g)) = ofEntries entries := by
  simp (disch := decide) only [ofEntries, Entries.nested_modify h0, Entries.get_modify_other,
    Entries.nested_modify_other, Entries.find?_modify_other, Except.bind_map, hg]

end NetworkConfig

namespace Config

theorem ofEntries_congr (h : ∀ k, entries.get k = entries'.get k) :
    ofEntries entries = ofEntries entries' := by
  rw [ofEntries_eq, ofEntries_eq, Entries.nested_congr (h "network"),
    Entries.nested_congr (h "properties")]

theorem ofEntries_modify_network (h0 : g [] = [])
    (hg : ∀ es, NetworkConfig.ofEntries (g es) = NetworkConfig.ofEntries es) :
    ofEntries (entries.modify (.text "network".toList) (Value.onTable g)) = ofEntries entries := by
  simp (disch := decide) only [ofEntries_eq, Entries.nested_modify h0, Entries.nested_modify_other,
    Except.bind_map, hg]

theorem ofEntries_modify_properties (h0 : g [] = [])
    (hg : ∀ es, addProperties [] (g es) = addProperties [] es) :
    ofEntries (entries.modify (.text "properties".toList) (Value.onTable g)) =
      ofEntries entries := by
  simp (disch := decide) only [ofEntries_eq, Entries.nested_modify h0, Entries.nested_modify_other,
    Except.bind_map, hg]

end Config

/-! ### Nulls written out -/

theorem Value.toText_spelled (v : Value) : v.spelled.toText = v.toText := by
  cases v <;> rfl

theorem Value.toTexts_modify_spelled (index : Nat) (items : List Value) :
    toTexts (items.modify index spelled) = toTexts items := by
  induction items generalizing index with
  | nil => cases index <;> rfl
  | cons v rest ih =>
    cases index with
    | zero =>
      rw [List.modify_zero_cons, toTexts, toTexts, toText_spelled]
    | succ n => rw [List.modify_succ_cons, toTexts, toTexts, ih]

theorem AddressSection.ofEntries_modify_list {f : List Value → List Value}
    (hf : ∀ items, Value.toTexts (f items) = Value.toTexts items) (h : key ≠ "enabled") :
    ofEntries (entries.modify (.text key.toList) (Value.onList f)) key = ofEntries entries key := by
  simp only [ofEntries, Entries.get_modify_other h, Entries.textList,
    Entries.get_modify_text (f := Value.onList f) rfl, Value.content_onList]
  cases hc : (entries.get key).content with
  | list items => simp only [Value.onList, hf]
  | knot mark v => exact absurd hc Value.content_ne_knot
  | _ => rfl

theorem Config.propertyText_spelled (v : Value) : propertyText v.spelled = propertyText v := by
  cases v <;> rfl

theorem Config.addProperties_modify_spelled (key : Value) (properties more : Entries) :
    addProperties properties (more.modify key Value.spelled) = addProperties properties more := by
  induction more generalizing properties with
  | nil => rfl
  | cons e rest ih =>
    rw [Entries.modify] at ih ⊢
    rw [List.map_cons]
    split
    · simp only [addProperties, propertyText_spelled, ih]
    · simp only [addProperties, ih]

/-- Among the properties and the members a null stands for its own text. -/
theorem Config.ofEntries_spelled {place : Place} (h : place.IsShown) :
    ofEntries (place.spelled entries) = ofEntries entries := by
  cases place with
  | entry s key =>
    cases h
    exact ofEntries_modify_properties rfl (addProperties_modify_spelled key [])
  | member index =>
    refine ofEntries_modify_network rfl fun network => ?_
    refine NetworkConfig.ofEntries_modify_join rfl fun join => ?_
    refine NetworkConfig.membersOf_modify rfl fun es => ?_
    exact AddressSection.ofEntries_modify_list (Value.toTexts_modify_spelled index) (by decide)

/-! ### Nulls left out -/

theorem Config.ofEntries_removed {t : Section} {key : Value} (ht : t ≠ .properties)
    (h : (Place.entry t key).IsNeutral) :
    ofEntries ((Place.entry t key).removed entries) = ofEntries entries := by
  have hget {es : Entries} (k : String) : (es.withoutNull key).get k = es.get k :=
    Entries.get_withoutNull k
  cases t with
  | root => exact ofEntries_congr hget
  | properties => exact absurd rfl ht
  | network =>
    refine ofEntries_modify_network rfl fun network => ?_
    exact NetworkConfig.ofEntries_congr hget (Entries.find?_withoutNull_of_ne h.1)
      (Entries.find?_withoutNull_of_ne h.2)
  | interfaces =>
    refine ofEntries_modify_network rfl fun network => ?_
    refine NetworkConfig.ofEntries_modify_interfaces rfl fun es => ?_
    exact AddressSection.ofEntries_congr hget
  | join =>
    refine ofEntries_modify_network rfl fun network => ?_
    refine NetworkConfig.ofEntries_modify_join rfl fun join => ?_
    exact NetworkConfig.membersOf_congr hget
  | tcpIp =>
    refine ofEntries_modify_network rfl fun network => ?_
    refine NetworkConfig.ofEntries_modify_join rfl fun join => ?_
    refine NetworkConfig.membersOf_modify rfl fun es => ?_
    exact AddressSection.ofEntries_congr hget

/-- Two lists of properties in which the same is found under every text but one key. -/
def Entries.AgreeBut (key : Value) (entries entries' : Entries) : Prop :=
  ∀ t, key ≠ .text t → find? (.text t) entries = find? (.text t) entries'

/-- A key whose value is null adds at most itself to the properties. -/
theorem Config.addProperties_without {key : Value} {properties properties' more : Entries}
    (h : Entries.AgreeBut key properties properties') (hnull : more.isNullAt key = true) :
    (∃ f, addProperties properties more = .error f ∧
      addProperties properties' (more.without key) = .error f) ∨
    ∃ ps ps', addProperties properties more = .ok ps ∧
      addProperties properties' (more.without key) = .ok ps' ∧ Entries.AgreeBut key ps ps' := by
  induction more generalizing properties properties' with
  | nil => exact .inr ⟨properties, properties', rfl, rfl, h⟩
  | cons e rest ih =>
    obtain ⟨k, v⟩ := e
    rw [Entries.isNullAt, List.all_cons, Bool.and_eq_true] at hnull
    obtain ⟨hv, hrest⟩ := hnull
    rw [Entries.without]
    by_cases hk : k.sameKey key = true
    · rw [hk, Bool.not_true, Bool.false_or, Value.isNull_iff] at hv
      subst hv
      rw [List.filter_cons_of_neg (by simp [hk])]
      -- the text of the null is put under a key that no other text finds
      refine ih (fun t ht => ?_) hrest
      have hkt : k ≠ .text t := fun hkt => ht (Value.text_sameKey.1 (hkt ▸ hk))
      rw [Entries.find?_put_of_ne hkt, h t ht]
    · rw [List.filter_cons_of_pos (by simp [hk])]
      cases hp : propertyText v with
      | error f => exact .inl ⟨f, by simp [addProperties, hp], by simp [addProperties, hp]⟩
      | ok x =>
        simp only [addProperties, hp]
        refine ih (fun t ht => ?_) hrest
        by_cases hkt : k = .text t
        · rw [hkt, Entries.find?_put_text, Entries.find?_put_text]
        · rw [Entries.find?_put_of_ne hkt, Entries.find?_put_of_ne hkt, h t ht]

end

/-! ### What a picker learns -/

/-- Only the properties that the picker asks for count. -/
theorem Settings.ofConfig_congr {c c' : Config} (hn : c.network = c'.network)
    (hp : ∀ p ∈ Property.ofPicker, Entries.find? (.text p.name) c.properties =
      Entries.find? (.text p.name) c'.properties) (environment : Environment) :
    ofConfig c environment = ofConfig c' environment := by
  have hget : ∀ p ∈ Property.ofPicker, PropertyLayers.getText ⟨c.properties, environment⟩ p =
      PropertyLayers.getText ⟨c'.properties, environment⟩ p := by
    intro p hmem
    simp only [PropertyLayers.getText, PropertyLayers.configured?, hp p hmem]
  have hlocal := hget .localAddress (by simp [Property.ofPicker])
  have hpublic := hget .publicAddress (by simp [Property.ofPicker])
  have hstack := hget .preferIPv4Stack (by simp [Property.ofPicker])
  have hany := hget .bindAny (by simp [Property.ofPicker])
  simp only [ofConfig, publicAddressOf, PropertyLayers.getFlag, hlocal, hpublic, hstack, hany, hn]

namespace Config

variable {entries : Entries} {environment : Environment}

/-- All that a picker learns from a table and an environment: whether the table can be loaded and
the settings be gathered, the settings, and the addresses that the members name. -/
def gathered (entries : Entries) (environment : Environment) :
    Except Fault (Except Fault (Settings × Except Fault (List Text))) :=
  (ofEntries entries).map fun c => (Settings.ofConfig c environment).map fun s =>
    ({ s with members := [] }, MemberList.split s.members)

/-- Null at a place says as much as nothing. -/
def IgnoresNull (place : Place) : Prop :=
  ∀ entries environment, gathered (place.removed entries) environment = gathered entries environment

theorem gathered_removed_property {key : Value} (h : ∀ p ∈ Property.ofPicker, key ≠ .text p.name) :
    gathered ((Place.entry .properties key).removed entries) environment =
      gathered entries environment := by
  show gathered (entries.modify (.text "properties".toList)
    (Value.onTable (Entries.withoutNull key))) environment = _
  rw [gathered, gathered, ofEntries_eq, ofEntries_eq, Entries.nested_modify rfl,
    Entries.nested_modify_other (by decide)]
  cases entries.nested "network" >>= NetworkConfig.ofEntries with
  | error f => rfl
  | ok network =>
    cases entries.nested "properties" with
    | error f => rfl
    | ok more =>
      by_cases hnull : more.isNullAt key = true
      · have hwithout : more.withoutNull key = more.without key := if_pos hnull
        show ((addProperties [] (more.withoutNull key)).map _).map _ =
          ((addProperties [] more).map _).map _
        rw [hwithout]
        rcases addProperties_without (fun _ _ => rfl : Entries.AgreeBut key [] []) hnull with
          ⟨f, hf, hf'⟩ | ⟨ps, ps', hps, hps', hagree⟩
        · rw [hf, hf']
        · have hsettings : Settings.ofConfig ⟨network, ps'⟩ environment =
              Settings.ofConfig ⟨network, ps⟩ environment := by
            refine Settings.ofConfig_congr ?_ (fun p hp => ?_) environment
            · rfl
            · exact (hagree _ (h p hp)).symm
          rw [hps, hps']
          simp only [Except.map, hsettings]
      · have hwithout : more.withoutNull key = more := if_neg hnull
        show ((addProperties [] (more.withoutNull key)).map _).map _ = _
        rw [hwithout]
        rfl

theorem ignoresNull_of_isNeutral {place : Place} (h : place.IsNeutral) : IgnoresNull place := by
  intro entries environment
  cases place with
  | entry t key =>
    by_cases ht : t = .properties
    · subst ht
      exact gathered_removed_property h
    · rw [gathered, gathered, ofEntries_removed ht h]
  | member index => cases h

/-! ### Nulls that count -/

/-- A number of ports that is null is out of range, and one that is left out has a default. -/
theorem not_ignoresNull_ports {key : Value}
    (h : key = .text "port".toList ∨ key = .text "port_count".toList) :
    ¬ IgnoresNull (.entry .network key) := by
  intro hi
  rcases h with rfl | rfl
  · cases hi (Entries.ofTexts [("network", .table (Entries.ofTexts [("port", .null)]))]) []
  · cases hi (Entries.ofTexts [("network", .table (Entries.ofTexts [("port_count", .null)]))]) []

/-- The settings that come from properties. -/
def fromProperties (r : Except Fault (Except Fault (Settings × Except Fault (List Text)))) :
    Option (Option Text × Bool × Bool × Bool) :=
  (r.toOption.bind Except.toOption).map fun s =>
    (s.1.localAddress, s.1.publicAddress.isSome, s.1.preferIPv4Stack, s.1.bindAny)

theorem not_ignoresNull_property {p : Property} (h : p ∈ Property.ofPicker) :
    ¬ IgnoresNull (.entry .properties (.text p.name)) := by
  intro hi
  have hn (environment : Environment) := congrArg fromProperties
    (hi (Entries.ofTexts [("properties", .table [(.text p.name, .null)])]) environment)
  simp only [Property.ofPicker, List.mem_cons, List.not_mem_nil, or_false] at h
  rcases h with rfl | rfl | rfl | rfl
  · exact absurd (hn []) (by decide)
  · exact absurd (hn []) (by decide)
  · -- the text of the null reads as the default here, but it hides the variable
    exact absurd (hn [("HAZELCAST_PREFER_IPV4_STACK".toList, "true".toList)]) (by decide)
  · exact absurd (hn []) (by decide)

/-- A table that names members, and nothing else. -/
def membersTable (items : List Value) : Entries :=
  Entries.ofTexts [("network", .table (Entries.ofTexts
    [("join", .table (Entries.ofTexts
      [("tcp_ip", .table (Entries.ofTexts [("members", .list items)]))]))]))]

theorem membersOf_ofTexts {items : List Value} {ts : List Text} (h : Value.toTexts items = .ok ts) :
    NetworkConfig.membersOf (Entries.ofTexts
      [("tcp_ip", .table (Entries.ofTexts [("members", .list items)]))]) =
        .ok ⟨.flag false, ts.map .text⟩ := by
  have hitems : (Entries.ofTexts [("members", .list items)]).get "members" = .list items := by
    rw [Entries.get_ofTexts_cons, if_pos rfl]
  rw [NetworkConfig.membersOf, Entries.nested_ofTexts]
  simp only [AddressSection.ofEntries, Entries.textList, hitems, Value.content, h,
    Entries.get_ofTexts_singleton_of_ne (by decide : "members" ≠ "enabled")]
  rfl

theorem ofEntries_membersTable {items : List Value} {ts : List Text}
    (h : Value.toTexts items = .ok ts) :
    ofEntries (membersTable items) =
      .ok ⟨{ NetworkConfig.default with members := ⟨.flag false, ts.map .text⟩ }, []⟩ := by
  have hnetwork : NetworkConfig.ofEntries (Entries.ofTexts [("join", .table (Entries.ofTexts
      [("tcp_ip", .table (Entries.ofTexts [("members", .list items)]))]))]) =
        .ok { NetworkConfig.default with members := ⟨.flag false, ts.map .text⟩ } := by
    refine NetworkConfig.ofEntries_ok_iff.2 ⟨true, true, [], .empty, _, _, ?_, ?_, ?_, rfl,
      Entries.nested_ofTexts _ _, membersOf_ofTexts h, ?_⟩
    · rw [Entries.get_ofTexts_singleton_of_ne (by decide)]
      rfl
    · rw [Entries.get_ofTexts_singleton_of_ne (by decide)]
      rfl
    · rw [Entries.nested, Entries.get_ofTexts_singleton_of_ne (by decide)]
      rfl
    · rw [Entries.find?_ofTexts_cons, Entries.find?_ofTexts_cons, if_neg (by decide),
        if_neg (by decide), Entries.get_ofTexts_singleton_of_ne (by decide)]
      rfl
  refine ofEntries_ok_iff.2 ⟨_, [], Entries.nested_ofTexts _ _, hnetwork, ?_, rfl⟩
  rw [Entries.nested, membersTable, Entries.get_ofTexts_singleton_of_ne (by decide)]
  rfl

theorem removed_membersTable (index : Nat) (items : List Value) :
    (Place.member index).removed (membersTable items) =
      membersTable (Value.withoutNullAt index items) := by
  simp only [Place.removed, Section.path, Entries.modifyAt, membersTable,
    Entries.modify_ofTexts_singleton, Value.onTable, Value.onList]

theorem gathered_membersTable (n : Nat) :
    gathered (membersTable (List.replicate n .null)) [] =
      .ok (.ok (Settings.default, .ok (List.replicate n "None".toList))) := by
  have htexts (n : Nat) : Value.toTexts (List.replicate n .null) =
      .ok (List.replicate n "None".toList) := by
    induction n with
    | zero => rfl
    | succ n ih => rw [List.replicate_succ, Value.toTexts, ih]; rfl
  have hsplit (n : Nat) : MemberList.split ((List.replicate n "None".toList).map .text) =
      .ok (List.replicate n "None".toList) := by
    induction n with
    | zero => rfl
    | succ n ih => rw [List.replicate_succ, List.map_cons, MemberList.split, ih]; rfl
  rw [gathered, ofEntries_membersTable (htexts n), ← hsplit n]
  rfl

theorem not_ignoresNull_member (index : Nat) : ¬ IgnoresNull (.member index) := by
  intro hi
  have hwithout : Value.withoutNullAt index (List.replicate (index + 1) .null) =
      List.replicate index .null := by
    simp [Value.withoutNullAt, Value.isNull, List.eraseIdx_replicate]
  have h := hi (membersTable (List.replicate (index + 1) .null)) []
  rw [removed_membersTable, hwithout, gathered_membersTable, gathered_membersTable] at h
  have hlength := congrArg List.length
    (Except.ok.inj (Prod.mk.inj (Except.ok.inj (Except.ok.inj h))).2)
  simp at hlength

/-- A null may be left out of a table at every place but the two numbers of ports, which have to be
numbers, the properties that the picker asks for, and the members. Where it is read as a text, it is
a word like any other. -/
theorem ignoresNull_iff (place : Place) :
    (IgnoresNull place ↔ place.IsNeutral) ∧
      (place.IsShown → ∀ entries, ofEntries (place.spelled entries) = ofEntries entries) := by
  refine ⟨⟨fun hi => ?_, ignoresNull_of_isNeutral⟩, fun h entries => ofEntries_spelled h⟩
  cases place with
  | entry t key =>
    cases t with
    | network =>
      exact ⟨fun h => not_ignoresNull_ports (.inl h) hi, fun h => not_ignoresNull_ports (.inr h) hi⟩
    | properties =>
      rintro p hp rfl
      exact not_ignoresNull_property hp hi
    | _ => trivial
  | member index => exact not_ignoresNull_member index hi

/-- A null property and a null member: both are taken for the word that stands for null. -/
theorem not_ignoresNull_localAddress :
    ¬ IgnoresNull (.entry .properties (.text "hazelcast.local.localAddress".toList)) ∧
      ¬ IgnoresNull (.member 0) := by
  constructor
  · intro hi
    have h := hi (Entries.ofTexts [("properties", .table (Entries.ofTexts
      [("hazelcast.local.localAddress", .null)]))]) []
    exact absurd (congrArg fromProperties h) (by decide)
  · intro hi
    have h := hi (membersTable [.null]) []
    cases h

end Config

end MemberAddress
