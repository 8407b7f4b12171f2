import MemberAddress.Proofs.Tables
import MemberAddress.Proofs.Text
import MemberAddress.Settings

/-!
# Blank properties

A property is looked up in the configuration and then in the environment. A text of blanks counts as
nothing once it is found, but it ends the search: the environment is not asked any more.

* `PropertyLayers.firstPresent` is what is read, the first text there is;
  `PropertyLayers.firstFull` passes over blank texts, as one would expect;
* `Settings.ofReading` are the settings, given what is read for each property, and
  `Settings.ofConfig_eq` finds those of a configuration;
* `Config.Counts` says which properties make a difference when the environment is not asked;
* `Config.ignoresBlankLayers_iff` says that these are the only cases in which a blank property is
  not as good as none.
-/

namespace MemberAddress

/-! ### Blank and full texts -/

/-- Whether a text, if there is one, is a word that turns flags on. -/
def Value.readsTrue (t : Option Text) : Bool := t.any isTrueWord

section

variable {t : Text} {x : Option Text}

theorem Value.isTrueWord_trim (t : Text) : isTrueWord (Text.trim t) = isTrueWord t := by
  rw [isTrueWord, Text.trim_trim, isTrueWord]

theorem Value.isTrueWord_of_blank (h : Text.trim t = []) : isTrueWord t = false := by
  rw [isTrueWord, h]
  rfl

theorem Settings.trimmed_some_of_blank (h : Text.trim t = []) : trimmed (some t) = none := if_pos h

theorem Settings.trimmed_some_of_full (h : Text.trim t ≠ []) :
    trimmed (some t) = some (Text.trim t) := if_neg h

/-- A flag is that of its text without blanks, if anything is left of it. -/
theorem Value.textFlag_eq (x : Option Text) (default : Bool) :
    textFlag x default = (Settings.trimmed x).elim default isTrueWord := by
  cases x with
  | none => rfl
  | some t =>
    have hflag : textFlag (some t) default =
        (if (Text.trim t).isEmpty then none else some (isTrueWord t)).getD default := rfl
    by_cases h : Text.trim t = []
    · rw [hflag, Settings.trimmed_some_of_blank h, h]
      rfl
    · rw [hflag, Settings.trimmed_some_of_full h, if_neg (by simpa using h)]
      exact (isTrueWord_trim t).symm

theorem Value.textFlag_false (x : Option Text) : textFlag x false = readsTrue x := by
  rw [textFlag_eq]
  cases x with
  | none => rfl
  | some t =>
    by_cases h : Text.trim t = []
    · rw [Settings.trimmed_some_of_blank h]
      exact (isTrueWord_of_blank h).symm
    · rw [Settings.trimmed_some_of_full h]
      exact isTrueWord_trim t

end

/-! ### Layers -/

/-- The properties that the picker asks for. -/
inductive AskedProperty
  | localAddress
  | publicAddress
  | preferIPv4Stack
  | bindAny
  deriving DecidableEq

/-- The name and the default of a property that the picker asks for. -/
def AskedProperty.property : AskedProperty → Property
  | .localAddress => .localAddress
  | .publicAddress => .publicAddress
  | .preferIPv4Stack => .preferIPv4Stack
  | .bindAny => .bindAny

theorem AskedProperty.name_injective {p q : AskedProperty}
    (h : p.property.name = q.property.name) : p = q := by
  revert h
  cases p <;> cases q <;> decide

namespace PropertyLayers

variable {layers : PropertyLayers} {p : Property}

/-- What the environment says of a property; blanks say nothing. -/
def fromEnvironment (layers : PropertyLayers) (p : Property) : Option Text :=
  Settings.trimmed (layers.environment.lookup p.variableName)

/-- What the first of the layers says that is not blank. -/
def firstFull (layers : PropertyLayers) (p : Property) : Option Text :=
  (Settings.trimmed (layers.configured? p)).or (layers.fromEnvironment p)

/-- What the first of the layers says that has a text for a property; blanks say nothing. -/
def firstPresent (layers : PropertyLayers) (p : Property) : Option Text :=
  Settings.trimmed ((layers.configured? p).or (layers.environment.lookup p.variableName))

/-- A property is configured, but with blanks alone. -/
def IsBlank (layers : PropertyLayers) (p : Property) : Prop :=
  ∃ t, layers.configured? p = some t ∧ Text.trim t = []

theorem firstPresent_of_isBlank (h : layers.IsBlank p) : layers.firstPresent p = none := by
  obtain ⟨t, ht, hblank⟩ := h
  rw [firstPresent, ht]
  exact Settings.trimmed_some_of_blank hblank

theorem firstFull_of_isBlank (h : layers.IsBlank p) :
    layers.firstFull p = layers.fromEnvironment p := by
  obtain ⟨t, ht, hblank⟩ := h
  rw [firstFull, ht, Settings.trimmed_some_of_blank hblank, Option.none_or]

theorem firstPresent_of_not_isBlank (h : ¬ layers.IsBlank p) :
    layers.firstPresent p = layers.firstFull p := by
  rw [firstPresent, firstFull]
  cases ht : layers.configured? p with
  | none => rfl
  | some t =>
    have hfull : Text.trim t ≠ [] := fun hblank => h ⟨t, ht, hblank⟩
    rw [Option.some_or, Settings.trimmed_some_of_full hfull, Option.some_or]

theorem firstPresent_of_configured_none (h : layers.configured? p = none) :
    layers.firstPresent p = layers.fromEnvironment p := by
  rw [firstPresent, h, Option.none_or]
  rfl

/-- The text of a property without a default. -/
theorem trimmed_getText (h : p.default = none) :
    Settings.trimmed (layers.getText p) = layers.firstPresent p := by
  rw [getText, firstPresent]
  cases layers.configured? p with
  | some t => rfl
  | none => cases layers.environment.lookup p.variableName <;> simp [h]

theorem getFlag_eq (layers : PropertyLayers) (p : Property) :
    layers.getFlag p =
      (layers.firstPresent p).elim (Value.textFlag p.default false) Value.isTrueWord := by
  rw [getFlag, getText, firstPresent]
  cases layers.configured? p with
  | some t => exact Value.textFlag_eq _ _
  | none =>
    cases layers.environment.lookup p.variableName with
    | some t => exact Value.textFlag_eq _ _
    | none =>
      show Value.textFlag p.default (Value.textFlag p.default false) = Value.textFlag p.default false
      rw [Value.textFlag_eq, Value.textFlag_eq]
      cases Settings.trimmed p.default <;> rfl

end PropertyLayers

/-! ### The settings -/

/-- The layers in which properties are looked up for a configuration and an environment. -/
def Config.layers (c : Config) (environment : Environment) : PropertyLayers :=
  ⟨c.properties, environment⟩

/-- The address to advertise that the network names, without blanks around it. -/
def Config.advertised? (c : Config) : Option Text :=
  match c.network.publicAddress with
  | .text t => Settings.trimmed (some t)
  | _ => none

/-- What stands beside the properties is of the right kind: the address to advertise is a text or
missing, and the switches can be read. -/
structure Config.HoldsTexts (c : Config) : Prop where
  publicAddress : c.network.publicAddress = .null ∨ ∃ t, c.network.publicAddress = .text t
  interfaces : c.network.interfaces.enabled.isShowable = true
  members : c.network.members.enabled.isShowable = true

namespace Settings

variable {c : Config} {environment : Environment} {reading reading' : AskedProperty → Option Text}

/-- The settings that a configuration and an environment give, if this is what is read for every
property. -/
def ofReading (reading : AskedProperty → Option Text) (c : Config) (environment : Environment) :
    Settings where
  localAddress := reading .localAddress
  publicAddress := ((reading .publicAddress).or c.advertised?).map .text
  interfacesEnabled := c.network.interfaces.enabled.asFlag false
  interfaces := c.network.interfaces.addresses
  membersEnabled := c.network.members.enabled.asFlag false
  members := c.network.members.addresses
  preferIPv4Stack :=
    Value.readsTrue (environment.lookup preferIPv4StackVariable) ||
      Value.readsTrue (reading .preferIPv4Stack)
  preferIPv6Addresses :=
    Value.readsTrue (environment.lookup preferIPv6AddressesVariable) &&
      !(Value.readsTrue (environment.lookup preferIPv4StackVariable) ||
        Value.readsTrue (reading .preferIPv4Stack))
  bindAny := (reading .bindAny).elim true Value.isTrueWord

theorem publicAddressOf_eq (h : c.HoldsTexts) (environment : Environment) :
    publicAddressOf (c.layers environment) c.network =
      .ok ((((c.layers environment).firstPresent .publicAddress).or c.advertised?).map .text) := by
  rw [publicAddressOf, PropertyLayers.trimmed_getText rfl, Config.advertised?]
  cases (c.layers environment).firstPresent .publicAddress with
  | some t => rfl
  | none =>
    rcases h.publicAddress with hp | ⟨t, hp⟩
    · simp [hp, trimmedValue]
    · simp [hp, trimmedValue]

/-- The settings are read from the first layer that is there. -/
theorem ofConfig_eq (h : c.HoldsTexts) (environment : Environment) :
    ofConfig c environment =
      .ok (ofReading (fun p => (c.layers environment).firstPresent p.property) c environment) := by
  have hlayers : (⟨c.properties, environment⟩ : PropertyLayers) = c.layers environment := rfl
  have hinterfaces : c.network.interfaces.enabled.toFlag false =
      .ok (c.network.interfaces.enabled.asFlag false) := if_pos h.interfaces
  have hmembers : c.network.members.enabled.toFlag false =
      .ok (c.network.members.enabled.asFlag false) := if_pos h.members
  have hlocal : trimmed ((c.layers environment).getText .localAddress) =
      (c.layers environment).firstPresent .localAddress := PropertyLayers.trimmed_getText rfl
  have hstack : Value.textFlag Property.preferIPv4Stack.default false = false := by decide
  have hany : Value.textFlag Property.bindAny.default false = true := by decide
  have hflag (x : Option Text) : x.elim false Value.isTrueWord = Value.readsTrue x := by
    cases x <;> rfl
  simp only [ofConfig, hlayers, publicAddressOf_eq h, hinterfaces, hmembers, hlocal,
    PropertyLayers.getFlag_eq, Value.textFlag_false, hstack, hany, hflag, bind, Except.bind]
  simp [pure, Except.pure, normalized, ofReading, AskedProperty.property, Bool.and_comm]

/-- What is read for a property makes no difference. -/
def SameFor (c : Config) (environment : Environment) (x y : Option Text) : AskedProperty → Prop
  | .localAddress => x = y
  | .publicAddress => x.or c.advertised? = y.or c.advertised?
  | .preferIPv4Stack =>
    (Value.readsTrue (environment.lookup preferIPv4StackVariable) || Value.readsTrue x) =
      (Value.readsTrue (environment.lookup preferIPv4StackVariable) || Value.readsTrue y)
  | .bindAny => x.elim true Value.isTrueWord = y.elim true Value.isTrueWord

theorem SameFor.refl (x : Option Text) (p : AskedProperty) : SameFor c environment x x p := by
  cases p <;> rfl

/-- Two readings give the same settings if they make no difference for any property. -/
theorem ofReading_eq_iff :
    ofReading reading c environment = ofReading reading' c environment ↔
      ∀ p, SameFor c environment (reading p) (reading' p) p := by
  have hmap {x y : Option Text} : x.map Value.text = y.map Value.text ↔ x = y :=
    Option.map_inj_right fun _ _ h => Value.text.inj h
  constructor
  · intro h p
    cases p with
    | localAddress => exact congrArg localAddress h
    | publicAddress => exact hmap.1 (congrArg publicAddress h)
    | preferIPv4Stack => exact congrArg preferIPv4Stack h
    | bindAny => exact congrArg bindAny h
  · intro h
    have hlocal : reading .localAddress = reading' .localAddress := h .localAddress
    have hpublic : (reading .publicAddress).or c.advertised? =
        (reading' .publicAddress).or c.advertised? := h .publicAddress
    have hstack : (Value.readsTrue (environment.lookup preferIPv4StackVariable) ||
        Value.readsTrue (reading .preferIPv4Stack)) =
      (Value.readsTrue (environment.lookup preferIPv4StackVariable) ||
        Value.readsTrue (reading' .preferIPv4Stack)) := h .preferIPv4Stack
    have hany : (reading .bindAny).elim true Value.isTrueWord =
        (reading' .bindAny).elim true Value.isTrueWord := h .bindAny
    simp only [ofReading, hlocal, hpublic, hstack, hany]

end Settings

namespace Config

variable {c : Config} {environment : Environment} {p : AskedProperty}

/-- The environment says something of a property that makes a difference. -/
def Counts (c : Config) (environment : Environment) (p : AskedProperty) : Prop :=
  let found := (c.layers environment).fromEnvironment p.property
  match p with
  | .localAddress => found ≠ none
  | .publicAddress => found ≠ none ∧ found ≠ c.advertised?
  | .preferIPv4Stack =>
    Value.readsTrue found = true ∧
      Value.readsTrue (environment.lookup Settings.preferIPv4StackVariable) = false
  | .bindAny => ∃ t, found = some t ∧ Value.isTrueWord t = false

theorem sameFor_none_iff :
    Settings.SameFor c environment none ((c.layers environment).fromEnvironment p.property) p ↔
      ¬ c.Counts environment p := by
  cases p with
  | localAddress => simp [Settings.SameFor, Counts, eq_comm]
  | publicAddress =>
    simp only [Settings.SameFor, Counts]
    cases (c.layers environment).fromEnvironment AskedProperty.publicAddress.property with
    | none => simp
    | some t => simp [eq_comm]
  | preferIPv4Stack =>
    simp only [Settings.SameFor, Counts]
    cases Value.readsTrue (environment.lookup Settings.preferIPv4StackVariable) <;>
      simp [Value.readsTrue]
  | bindAny =>
    simp only [Settings.SameFor, Counts]
    cases (c.layers environment).fromEnvironment AskedProperty.bindAny.property with
    | none => simp
    | some t =>
      simp only [Option.elim, Option.some.injEq, exists_eq_left', Bool.not_eq_false]
      exact eq_comm

/-- Properties that are blank are passed over: the settings are read from the first layer that is
full. -/
def IgnoresBlanks (c : Config) (environment : Environment) : Prop :=
  Settings.ofConfig c environment =
    .ok (Settings.ofReading (fun p => (c.layers environment).firstFull p.property) c environment)

theorem ignoresBlanks_iff (h : c.HoldsTexts) (environment : Environment) :
    c.IgnoresBlanks environment ↔
      ∀ p : AskedProperty, (c.layers environment).IsBlank p.property → ¬ c.Counts environment p := by
  rw [IgnoresBlanks, Settings.ofConfig_eq h, Except.ok.injEq, Settings.ofReading_eq_iff]
  refine forall_congr' fun p => ?_
  by_cases hblank : (c.layers environment).IsBlank p.property
  · rw [PropertyLayers.firstPresent_of_isBlank hblank, PropertyLayers.firstFull_of_isBlank hblank,
      sameFor_none_iff]
    exact ⟨fun hc _ => hc, fun hc => hc hblank⟩
  · rw [PropertyLayers.firstPresent_of_not_isBlank hblank]
    exact ⟨fun _ hb => absurd hb hblank, fun _ => .refl _ p⟩

/-! ### A property set to blanks -/

/-- A configuration without a property. -/
def withoutProperty (c : Config) (p : Property) : Config :=
  { c with properties := c.properties.without (.text p.name) }

/-- A configuration with a text for a property. -/
def withProperty (c : Config) (p : Property) (t : Text) : Config :=
  { c with properties := c.properties.put (.text p.name) (.text t) }

theorem setProperty_text (c : Config) (p : Property) (t : Text) :
    c.setProperty (.text p.name) (.text t) = .ok (c.withProperty p t) := rfl

theorem configured?_withProperty (c : Config) (environment : Environment) (p : Property)
    (t : Text) : ((c.withProperty p t).layers environment).configured? p = some t := by
  simp only [PropertyLayers.configured?, layers, withProperty, Entries.find?_put_text]
  rfl

theorem configured?_withoutProperty (c : Config) (environment : Environment) (p : Property) :
    ((c.withoutProperty p).layers environment).configured? p = none := by
  simp only [PropertyLayers.configured?, layers, withoutProperty, Entries.find?_without_text]

/-- Other properties do not see whether a property is set or left out. -/
theorem firstPresent_withProperty_of_ne {p q : Property} (h : p.name ≠ q.name) (t : Text) :
    ((c.withProperty p t).layers environment).firstPresent q =
      ((c.withoutProperty p).layers environment).firstPresent q := by
  have hkey : Value.text p.name ≠ .text q.name := fun he => h (Value.text.inj he)
  simp only [PropertyLayers.firstPresent, PropertyLayers.configured?, layers, withProperty,
    withoutProperty, Entries.find?_put_of_ne hkey, Entries.find?_without_of_ne hkey]

/-- A property set to blanks does what it does when it is left out, unless the environment says
something of it that makes a difference. -/
theorem ofConfig_withProperty_eq_iff (h : c.HoldsTexts) (environment : Environment)
    (p : AskedProperty) {t : Text} (ht : Text.trim t = []) :
    Settings.ofConfig (c.withProperty p.property t) environment =
        Settings.ofConfig (c.withoutProperty p.property) environment ↔
      ¬ c.Counts environment p := by
  have hwith : (c.withProperty p.property t).HoldsTexts :=
    ⟨h.publicAddress, h.interfaces, h.members⟩
  have hwithout : (c.withoutProperty p.property).HoldsTexts :=
    ⟨h.publicAddress, h.interfaces, h.members⟩
  let set (q : AskedProperty) :=
    ((c.withProperty p.property t).layers environment).firstPresent q.property
  let unset (q : AskedProperty) :=
    ((c.withoutProperty p.property).layers environment).firstPresent q.property
  have hblank : set p = none :=
    PropertyLayers.firstPresent_of_isBlank ⟨t, configured?_withProperty c environment _ t, ht⟩
  have hfound : unset p = (c.layers environment).fromEnvironment p.property :=
    PropertyLayers.firstPresent_of_configured_none (configured?_withoutProperty c environment _)
  have hother (q : AskedProperty) (hq : p ≠ q) : set q = unset q :=
    firstPresent_withProperty_of_ne (fun hname => hq (AskedProperty.name_injective hname)) t
  -- the network is the same in both, so that only the readings can differ
  have hreading : Settings.ofReading set c environment = Settings.ofReading unset c environment ↔
      ∀ q : AskedProperty, Settings.SameFor c environment (set q) (unset q) q :=
    Settings.ofReading_eq_iff
  rw [Settings.ofConfig_eq hwith, Settings.ofConfig_eq hwithout, Except.ok.injEq]
  refine hreading.trans ⟨fun hsame => ?_, fun hc q => ?_⟩
  · have hp := hsame p
    rwa [hblank, hfound, sameFor_none_iff] at hp
  · by_cases hq : p = q
    · subst hq
      rwa [hblank, hfound, sameFor_none_iff]
    · rw [hother q hq]
      exact .refl _ q

/-- The settings are read from the first layer that is full, unless a property is blank of which
the environment says something that makes a difference; and these are the properties for which it
is not the same to set them to blanks and to leave them out. -/
theorem ignoresBlankLayers_iff (h : c.HoldsTexts) (environment : Environment) :
    (c.IgnoresBlanks environment ↔
      ∀ p : AskedProperty, (c.layers environment).IsBlank p.property →
        ¬ c.Counts environment p) ∧
    ∀ (p : AskedProperty) (t : Text), Text.trim t = [] →
      ∃ c', c.setProperty (.text p.property.name) (.text t) = .ok c' ∧
        (Settings.ofConfig c' environment =
            Settings.ofConfig (c.withoutProperty p.property) environment ↔
          ¬ c.Counts environment p) :=
  ⟨ignoresBlanks_iff h environment, fun p t ht =>
    ⟨_, setProperty_text c p.property t, ofConfig_withProperty_eq_iff h environment p ht⟩⟩

/-- A blank property in front of a variable that reads as the default. -/
def blankBeforeDefault : Config :=
  Config.default.withProperty .bindAny " ".toList

theorem ignoresBlankLayers_iff_default :
    blankBeforeDefault.HoldsTexts ∧
      blankBeforeDefault.IgnoresBlanks
        [("HAZELCAST_SOCKET_SERVER_BIND_ANY".toList, " yes ".toList)] := by
  have htexts : blankBeforeDefault.HoldsTexts := ⟨.inl rfl, rfl, rfl⟩
  refine ⟨htexts, (ignoresBlankLayers_iff htexts _).1.2 fun p _ hcounts => ?_⟩
  cases p with
  | localAddress => exact hcounts rfl
  | publicAddress => exact hcounts.1 rfl
  | preferIPv4Stack => exact absurd hcounts.1 (by decide)
  | bindAny =>
    obtain ⟨t, ht, hfalse⟩ := hcounts
    cases ht
    exact absurd hfalse (by decide)

/-- A blank local address hides the address that the environment names. -/
theorem not_ignoresBlanks_localAddress :
    ¬ (Config.default.withProperty .localAddress "  ".toList).IgnoresBlanks
      [("HAZELCAST_LOCAL_LOCALADDRESS".toList, "10.0.0.9".toList)] := by
  intro h
  have hlocal := congrArg (fun r => r.toOption.bind Settings.localAddress) h
  exact absurd hlocal (by decide)

end Config

end MemberAddress
