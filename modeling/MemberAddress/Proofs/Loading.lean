import MemberAddress.Proofs.Tables
import MemberAddress.Settings
import Mathlib.Tactic

/-!
# Faults of loading

A table becomes a configuration, and the configuration gives the settings of the picker and the
search for a port. What can go wrong on the way is a fault of the library with two exceptions: a
number too long to write where a text is asked for, and an address to advertise that is no text.

* `Config.shownValues` are the values of a table that are read as texts;
* `Config.stemsFrom_of_ofEntries` says what a fault of loading is;
* `NetworkConfig.IsLoaded` is what every loaded network keeps to, so that
  `NetworkConfig.IsLoaded.exists_search` and `Settings.ofConfig_error_iff` leave the address to
  advertise as the one thing that can still go wrong;
* `Config.isHandled_iff` puts the parts together.
-/

namespace MemberAddress

/-! ### Sequences of steps -/

namespace Except

variable {α β : Type} {x : Except Fault α} {g : α → Except Fault β}

theorem bind_ok_iff {b : β} : (x >>= g) = .ok b ↔ ∃ a, x = .ok a ∧ g a = .ok b := by
  cases x with
  | error f => simp [bind, Except.bind]
  | ok a => simp [bind, Except.bind]

theorem bind_error_iff {f : Fault} :
    (x >>= g) = .error f ↔ x = .error f ∨ ∃ a, x = .ok a ∧ g a = .error f := by
  cases x with
  | error e => simp [bind, Except.bind]
  | ok a => simp [bind, Except.bind]

theorem map_error_iff {φ : α → β} {f : Fault} : x.map φ = .error f ↔ x = .error f := by
  cases x <;> simp [Except.map]

theorem map_ok_iff {φ : α → β} {b : β} : x.map φ = .ok b ↔ ∃ a, x = .ok a ∧ φ a = b := by
  cases x <;> simp [Except.map]

theorem bind_map {γ : Type} {y : Except Fault γ} {φ : γ → α} :
    (y.map φ >>= g) = (y >>= fun c => g (φ c)) := by
  cases y <;> rfl

end Except

/-! ### Texts and flags in values -/

/-- A fault of loading: one of the library's own, or a number too long to write in one of the given
values. -/
def Fault.StemsFrom (values : List Value) (f : Fault) : Prop :=
  f.errorClass? = some .configuration ∨
    f = .overlongNumber ∧ ∃ v ∈ values, v.isShowable = false

theorem Fault.StemsFrom.mono {vs ws : List Value} {f : Fault} (h : f.StemsFrom vs)
    (hsub : ∀ v ∈ vs, v ∈ ws) : f.StemsFrom ws := by
  rcases h with h | ⟨rfl, v, hv, hs⟩
  · exact .inl h
  · exact .inr ⟨rfl, v, hsub v hv, hs⟩

namespace Value

variable {v : Value} {f : Fault}

theorem error_of_toText (h : v.toText = .error f) : f = .overlongNumber ∧ v.isShowable = false := by
  unfold toText at h
  split at h
  · cases h
  · next hs =>
    cases h
    exact ⟨rfl, by simpa using hs⟩

theorem stemsFrom_of_toFlag {default : Bool} (h : v.toFlag default = .error f) :
    f.StemsFrom [v] := by
  unfold toFlag at h
  split at h
  · cases h
  · next hs =>
    cases h
    exact .inr ⟨rfl, v, List.mem_singleton.2 rfl, by simpa using hs⟩

theorem stemsFrom_of_toTexts {vs : List Value} (h : toTexts vs = .error f) : f.StemsFrom vs := by
  induction vs with
  | nil => cases h
  | cons v rest ih =>
    unfold toTexts at h
    split at h
    · next e he =>
      cases h
      obtain ⟨rfl, hs⟩ := error_of_toText he
      exact .inr ⟨rfl, v, List.mem_cons_self, hs⟩
    · exact (ih (Except.map_error_iff.1 h)).mono fun v hv => List.mem_cons_of_mem _ hv

end Value

/-! ### Sections -/

namespace Entries

variable {entries : Entries} {key : String} {f : Fault}

/-- The items of the list under a key. -/
def listItems (entries : Entries) (key : String) : List Value :=
  match (entries.get key).content with
  | .list items => items
  | _ => []

theorem stemsFrom_of_textList (h : entries.textList key = .error f) :
    f.StemsFrom (entries.listItems key) := by
  unfold textList at h
  split at h
  · cases h
  · cases h
  · next items hc =>
    have hitems : entries.listItems key = items := by
      unfold listItems
      rw [hc]
    rw [hitems]
    exact Value.stemsFrom_of_toTexts (Except.map_error_iff.1 h)
  · cases h
    exact .inl rfl

end Entries

namespace AddressSection

variable {entries : Entries} {key : String} {f : Fault}

/-- The values of a section that are read as texts. -/
def shownValues (entries : Entries) (key : String) : List Value :=
  entries.get "enabled" :: entries.listItems key

theorem stemsFrom_of_ofEntries (h : ofEntries entries key = .error f) :
    f.StemsFrom (shownValues entries key) := by
  unfold ofEntries at h
  split at h
  · next e he =>
    cases h
    exact (Value.stemsFrom_of_toFlag he).mono fun v hv =>
      List.mem_cons.2 (.inl (List.mem_singleton.1 hv))
  · exact (Entries.stemsFrom_of_textList (Except.map_error_iff.1 h)).mono fun v hv =>
      List.mem_cons_of_mem _ hv

theorem enabled_of_ofEntries {s : AddressSection} (h : ofEntries entries key = .ok s) :
    ∃ b, s.enabled = .flag b := by
  unfold ofEntries at h
  split at h
  · cases h
  · obtain ⟨items, -, rfl⟩ := Except.map_ok_iff.1 h
    exact ⟨_, rfl⟩

end AddressSection

/-! ### The network -/

namespace NetworkConfig

variable {entries : Entries} {n : NetworkConfig} {f : Fault}

/-- The values of a network's table that are read as texts. -/
def shownValues (entries : Entries) : List Value :=
  [entries.get "port_auto_increment", entries.get "reuse_address"] ++
    AddressSection.shownValues (entries.section? "interfaces") "interfaces" ++
    AddressSection.shownValues ((entries.section? "join").section? "tcp_ip") "members"

/-- What a loaded network keeps to: the ports are in range, and the switches are flags. -/
structure IsLoaded (n : NetworkConfig) : Prop where
  port : isPort n.port = true
  portCount : isPortCount n.portCount = true
  interfaces : ∃ b, n.interfaces.enabled = .flag b
  members : ∃ b, n.members.enabled = .flag b

theorem validated_ok_iff {n' : NetworkConfig} :
    validated n = .ok n' ↔ isPort n.port = true ∧ isPortCount n.portCount = true ∧ n' = n := by
  unfold validated validate
  cases isPort n.port with
  | false => simp
  | true =>
    cases isPortCount n.portCount with
    | false => simp
    | true => simp [eq_comm]

theorem errorClass?_of_validated (h : validated n = .error f) :
    f.errorClass? = some .configuration := by
  unfold validated validate at h
  cases hp : isPort n.port with
  | false =>
    simp only [hp] at h
    cases h
    rfl
  | true =>
    cases hc : isPortCount n.portCount with
    | false =>
      simp only [hp, hc] at h
      cases h
      rfl
    | true =>
      simp only [hp, hc] at h
      cases h

theorem stemsFrom_of_membersOf (h : membersOf entries = .error f) :
    f.StemsFrom (AddressSection.shownValues (entries.section? "tcp_ip") "members") := by
  unfold membersOf at h
  split at h
  · next e he =>
    cases h
    exact .inl (Entries.errorClass?_of_nested he)
  · next inner hi =>
    rw [Entries.section?_of_nested hi]
    exact AddressSection.stemsFrom_of_ofEntries h

theorem members_of_membersOf {s : AddressSection} (h : membersOf entries = .ok s) :
    ∃ b, s.enabled = .flag b := by
  unfold membersOf at h
  split at h
  · cases h
  · exact AddressSection.enabled_of_ofEntries h

/-- The steps of loading a network. -/
theorem ofEntries_ok_iff :
    ofEntries entries = .ok n ↔
      ∃ autoIncrement reuse interfaces s join m,
        (entries.get "port_auto_increment").toFlag true = .ok autoIncrement ∧
        (entries.get "reuse_address").toFlag true = .ok reuse ∧
        entries.nested "interfaces" = .ok interfaces ∧
        AddressSection.ofEntries interfaces "interfaces" = .ok s ∧
        entries.nested "join" = .ok join ∧ membersOf join = .ok m ∧
        validated
          { port := (Entries.find? (.text "port".toList) entries).getD default.port
            portAutoIncrement := .flag autoIncrement
            portCount := (Entries.find? (.text "port_count".toList) entries).getD default.portCount
            reuseAddress := .flag reuse
            publicAddress := entries.get "public_address"
            interfaces := s
            members := m } = .ok n := by
  simp only [ofEntries, Except.bind_ok_iff]
  constructor
  · rintro ⟨a, ha, r, hr, t, ht, s, hs, j, hj, m, hm, hv⟩
    exact ⟨a, r, t, s, j, m, ha, hr, ht, hs, hj, hm, hv⟩
  · rintro ⟨a, r, t, s, j, m, ha, hr, ht, hs, hj, hm, hv⟩
    exact ⟨a, ha, r, hr, t, ht, s, hs, j, hj, m, hm, hv⟩

theorem isLoaded_of_ofEntries (h : ofEntries entries = .ok n) :
    n.IsLoaded ∧ n.publicAddress = entries.get "public_address" := by
  obtain ⟨a, r, t, s, j, m, -, -, -, hs, -, hm, hv⟩ := ofEntries_ok_iff.1 h
  obtain ⟨hp, hc, rfl⟩ := validated_ok_iff.1 hv
  exact ⟨⟨hp, hc, AddressSection.enabled_of_ofEntries hs, members_of_membersOf hm⟩, rfl⟩

theorem stemsFrom_of_ofEntries (h : ofEntries entries = .error f) :
    f.StemsFrom (shownValues entries) := by
  simp only [ofEntries, Except.bind_error_iff] at h
  rcases h with h | ⟨a, -, h | ⟨r, -, h | ⟨t, ht, h | ⟨s, -, h | ⟨j, hj, h | ⟨m, -, h⟩⟩⟩⟩⟩⟩
  · exact (Value.stemsFrom_of_toFlag h).mono (by simp [shownValues])
  · exact (Value.stemsFrom_of_toFlag h).mono (by simp [shownValues])
  · exact .inl (Entries.errorClass?_of_nested h)
  · refine (AddressSection.stemsFrom_of_ofEntries h).mono fun v hv => ?_
    rw [shownValues, Entries.section?_of_nested ht]
    exact List.mem_append_left _ (List.mem_append_right _ hv)
  · exact .inl (Entries.errorClass?_of_nested h)
  · refine (stemsFrom_of_membersOf h).mono fun v hv => ?_
    rw [shownValues, Entries.section?_of_nested hj]
    exact List.mem_append_right _ hv
  · exact .inl (errorClass?_of_validated h)

end NetworkConfig

/-! ### The configuration -/

namespace Config

variable {entries properties : Entries} {c : Config} {f : Fault}

/-- The values of a table that are read as texts: flags, listed addresses and properties. -/
def shownValues (entries : Entries) : List Value :=
  NetworkConfig.shownValues (entries.section? "network") ++
    (entries.section? "properties").map Prod.snd

theorem stemsFrom_of_addProperties {more : Entries} (h : addProperties properties more = .error f) :
    f.StemsFrom (more.map Prod.snd) := by
  induction more generalizing properties with
  | nil => cases h
  | cons e rest ih =>
    unfold addProperties at h
    split at h
    · next f' hf =>
      cases h
      unfold propertyText at hf
      split at hf
      · cases hf
      · obtain ⟨rfl, hs⟩ := Value.error_of_toText hf
        exact .inr ⟨rfl, _, List.mem_cons_self, hs⟩
    · exact (ih h).mono fun v hv => List.mem_cons_of_mem _ hv

/-- The steps of loading a configuration. -/
theorem ofEntries_eq (entries : Entries) :
    ofEntries entries =
      (entries.nested "network" >>= NetworkConfig.ofEntries) >>= fun network =>
        (entries.nested "properties" >>= addProperties []).map fun properties =>
          ⟨network, properties⟩ := by
  unfold ofEntries
  cases entries.nested "network" with
  | error e => rfl
  | ok network =>
    simp only [bind, Except.bind]
    cases NetworkConfig.ofEntries network with
    | error e => rfl
    | ok n => cases entries.nested "properties" <;> rfl

theorem ofEntries_ok_iff :
    ofEntries entries = .ok c ↔
      ∃ network properties, entries.nested "network" = .ok network ∧
        NetworkConfig.ofEntries network = .ok c.network ∧
        entries.nested "properties" = .ok properties ∧
        addProperties [] properties = .ok c.properties := by
  simp only [ofEntries_eq, Except.bind_ok_iff, Except.map_ok_iff]
  constructor
  · rintro ⟨n, ⟨network, hnetwork, hn⟩, ps, ⟨properties, hproperties, hps⟩, rfl⟩
    exact ⟨network, properties, hnetwork, hn, hproperties, hps⟩
  · rintro ⟨network, properties, hnetwork, hn, hproperties, hps⟩
    exact ⟨c.network, ⟨network, hnetwork, hn⟩, c.properties, ⟨properties, hproperties, hps⟩, rfl⟩

theorem isLoaded_of_ofEntries (h : ofEntries entries = .ok c) : c.network.IsLoaded := by
  obtain ⟨network, -, -, hn, -⟩ := ofEntries_ok_iff.1 h
  exact (NetworkConfig.isLoaded_of_ofEntries hn).1

/-- A table that cannot be loaded has a fault of the library, or a number too long to write where a
text is asked for. -/
theorem stemsFrom_of_ofEntries (h : ofEntries entries = .error f) :
    f.StemsFrom (shownValues entries) := by
  simp only [ofEntries_eq, Except.bind_error_iff, Except.map_error_iff] at h
  rcases h with (h | ⟨network, hnetwork, h⟩) | ⟨n, -, h | ⟨properties, hproperties, h⟩⟩
  · exact .inl (Entries.errorClass?_of_nested h)
  · rw [shownValues, Entries.section?_of_nested hnetwork]
    exact (NetworkConfig.stemsFrom_of_ofEntries h).mono fun v hv => List.mem_append_left _ hv
  · exact .inl (Entries.errorClass?_of_nested h)
  · rw [shownValues, Entries.section?_of_nested hproperties]
    exact (stemsFrom_of_addProperties h).mono fun v hv => List.mem_append_right _ hv

end Config

/-! ### The search for a port -/

theorem PortSearch.exists_whole_of_isPort {v : Value} (h : NetworkConfig.isPort v = true) :
    ∃ n : Whole, comparable v = .ok (.whole n) ∧ 0 ≤ n.value ∧ n.value ≤ maxPort := by
  cases v with
  | whole n =>
    have hn : 0 ≤ n ∧ n ≤ maxPort := by simpa [NetworkConfig.isPort, Value.toInt?] using h
    exact ⟨.number n, rfl, hn⟩
  | flag b => exact ⟨.flag b, rfl, by cases b <;> decide⟩
  | _ => cases h

theorem PortSearch.exists_whole_of_isPortCount {v : Value}
    (h : NetworkConfig.isPortCount v = true) :
    ∃ n : Whole, comparable v = .ok (.whole n) ∧ 1 ≤ n.value := by
  cases v with
  | whole n =>
    have hn : 1 ≤ n := by simpa [NetworkConfig.isPortCount, Value.toInt?] using h
    exact ⟨.number n, rfl, hn⟩
  | flag b =>
    cases b with
    | true => exact ⟨.flag true, rfl, by decide⟩
    | false => cases h
  | _ => cases h

/-- The ports of a loaded network are whole numbers that a search takes, whatever its flags are. -/
theorem NetworkConfig.IsLoaded.exists_search {n : NetworkConfig} (h : n.IsLoaded) :
    ∃ port count : Whole, 0 ≤ port.value ∧ port.value ≤ PortSearch.maxPort ∧ 1 ≤ count.value ∧
      ∀ autoIncrement reuseAddress backlog,
        PortSearch.make n.port n.portCount autoIncrement reuseAddress backlog =
          .ok ⟨.whole port, .whole count, autoIncrement, reuseAddress, backlog⟩ := by
  obtain ⟨port, hport, h0, hmax⟩ := PortSearch.exists_whole_of_isPort h.port
  obtain ⟨count, hcount, h1⟩ := PortSearch.exists_whole_of_isPortCount h.portCount
  refine ⟨port, count, h0, hmax, h1, fun autoIncrement reuseAddress backlog => ?_⟩
  have hrange : ((Number.whole port).isBelow 0 || (Number.whole port).isAbove PortSearch.maxPort) =
      false := by
    simp [Number.isBelow, Number.isAbove, h0, hmax]
  have hfew : (Number.whole count).isBelow 1 = false := by
    simpa [Number.isBelow] using h1
  simp only [PortSearch.make, hport, hrange, hcount, hfew, Bool.false_eq_true, if_false]

/-! ### The settings -/

/-- Whether a value is null or has blanks to trim. -/
def Value.isTrimmable : Value → Bool
  | .null | .text _ | .bytes _ => true
  | _ => false

namespace Settings

variable {c : Config} {environment : Environment} {f : Fault}

theorem trimmedValue_error_iff {v : Value} :
    trimmedValue v = .error f ↔ v.isTrimmable = false ∧ f = .notText v.kind := by
  cases v with
  | null | text _ | bytes _ => simp [trimmedValue, Value.isTrimmable]
  | _ => simp only [trimmedValue, Value.isTrimmable, Except.error.injEq, true_and, eq_comm]

theorem publicAddressOf_error_iff {layers : PropertyLayers} {n : NetworkConfig} :
    publicAddressOf layers n = .error f ↔
      trimmed (layers.getText .publicAddress) = none ∧ n.publicAddress.isTrimmable = false ∧
        f = .notText n.publicAddress.kind := by
  unfold publicAddressOf
  cases trimmed (layers.getText .publicAddress) with
  | some t => simp
  | none => simp [trimmedValue_error_iff]

/-- The settings of a loaded configuration fail only with the address to advertise. -/
theorem ofConfig_error_iff (h : c.network.IsLoaded) :
    ofConfig c environment = .error f ↔
      publicAddressOf ⟨c.properties, environment⟩ c.network = .error f := by
  obtain ⟨i, hi⟩ := h.interfaces
  obtain ⟨m, hm⟩ := h.members
  have hflag (b : Bool) : (Value.flag b).toFlag false = .ok b := rfl
  simp only [ofConfig, hi, hm, hflag, Except.bind_error_iff]
  constructor
  · rintro (h | ⟨a, -, h | ⟨b, -, h | ⟨d, -, h⟩⟩⟩)
    · exact h
    · cases h
    · cases h
    · cases h
  · exact .inl

end Settings

/-! ### All that a picker is made from -/

namespace Config

variable {entries : Entries} {environment : Environment} {f : Fault}

/-- The settings of a picker and its search for a port, as a table and an environment give them. -/
def pickerParts (entries : Entries) (environment : Environment) :
    Except Fault (Settings × PortSearch) := do
  let c ← ofEntries entries
  let settings ← Settings.ofConfig c environment
  let search ← c.portSearch
  return (settings, search)

/-- Whatever goes wrong is a fault of the library. -/
def IsHandled (entries : Entries) (environment : Environment) : Prop :=
  ∀ f, pickerParts entries environment = .error f → f.errorClass?.isSome = true

/-- The address to advertise is a property that is not blank, or a value that can be trimmed. -/
def AdvertisesText (c : Config) (environment : Environment) : Prop :=
  (Settings.trimmed (PropertyLayers.getText ⟨c.properties, environment⟩ .publicAddress)).isSome =
      true ∨ c.network.publicAddress.isTrimmable = true

/-- What can go wrong: loading fails, or the address to advertise is of a wrong kind. -/
theorem pickerParts_error_iff :
    pickerParts entries environment = .error f ↔
      ofEntries entries = .error f ∨
        ∃ c, ofEntries entries = .ok c ∧ ¬ c.AdvertisesText environment ∧
          f = .notText c.network.publicAddress.kind := by
  simp only [pickerParts, Except.bind_error_iff]
  refine or_congr_right (exists_congr fun c => and_congr_right fun hc => ?_)
  have hloaded := isLoaded_of_ofEntries hc
  obtain ⟨port, count, -, -, -, hsearch⟩ := hloaded.exists_search
  rw [Settings.ofConfig_error_iff hloaded, Settings.publicAddressOf_error_iff, AdvertisesText]
  constructor
  · rintro (⟨ht, hv, rfl⟩ | ⟨settings, -, h | ⟨search, -, h⟩⟩)
    · exact ⟨by simp [ht, hv], rfl⟩
    · rw [portSearch, hsearch] at h
      cases h
    · cases h
  · rintro ⟨hno, rfl⟩
    rw [not_or, Bool.not_eq_true, Option.isSome_eq_false_iff, Option.isNone_iff_eq_none,
      Bool.not_eq_true] at hno
    exact .inl ⟨hno.1, hno.2, rfl⟩

/-- Whatever goes wrong is a fault of the library, unless a number too long to write is met while
loading, or the address to advertise in a configuration that was loaded is of a wrong kind. Only the
values that are read as texts can be too long. Values may be nested to any depth here; the limit
that the stack of a running program sets to it is left out, as in `Value.toText`. -/
theorem isHandled_iff (entries : Entries) (environment : Environment) :
    (IsHandled entries environment ↔
      ofEntries entries ≠ .error .overlongNumber ∧
        ∀ c, ofEntries entries = .ok c → c.AdvertisesText environment) ∧
    ((∀ v ∈ shownValues entries, v.isShowable = true) →
      ofEntries entries ≠ .error .overlongNumber) := by
  refine ⟨⟨fun h => ⟨fun ho => ?_, fun c hc => ?_⟩, ?_⟩, fun hshow ho => ?_⟩
  · cases h _ (pickerParts_error_iff.2 (.inl ho))
  · by_contra hno
    cases h _ (pickerParts_error_iff.2 (.inr ⟨c, hc, hno, rfl⟩))
  · rintro ⟨hlong, htext⟩ f hf
    rcases pickerParts_error_iff.1 hf with hf | ⟨c, hc, hno, -⟩
    · rcases stemsFrom_of_ofEntries hf with hclass | ⟨rfl, -⟩
      · rw [hclass]
        rfl
      · exact absurd hf hlong
    · exact absurd (htext c hc) hno
  · rcases stemsFrom_of_ofEntries ho with hclass | ⟨-, v, hv, hlong⟩
    · cases hclass
    · rw [hshow v hv] at hlong
      cases hlong

/-- A number as the address to advertise passes the loading and is then met where a text is asked
for. -/
theorem not_isHandled_number :
    ¬ IsHandled
      (Entries.ofTexts
        [("network", .table (Entries.ofTexts [("public_address", .whole 5701)]))]) [] := by
  intro h
  have hfault : pickerParts
      (Entries.ofTexts
        [("network", .table (Entries.ofTexts [("public_address", .whole 5701)]))]) [] =
        .error (.notText "int".toList) := rfl
  cases h _ hfault

end Config

end MemberAddress
