import MemberAddress.Proofs.Loading
import MemberAddress.Socket.PortTable

/-!
# Flags that are texts

A flag of the network may be given as a text, in a table or by an assignment. A table's text is read
when the table is loaded; an assigned text is kept. The settings of the picker read two of the four
flags again, so that it makes no difference for them; the search for a port only looks whether its
two flags are full.

* `PortSearch.AgreesWith` are two searches that differ in the spelling of their flags only, and
  `PortSearch.openSocket_congr` says that they do the same;
* `PortSearch.sameDecisions_iff` says that nothing less will do;
* `Flag` are the four flags, `Flag.set` is the assignment of one;
* `Config.behavesAlike_iff` says which texts mean the same either way.
-/

namespace MemberAddress

/-! ### Searches that do the same -/

namespace PortSearch

variable {σ : Type} {p q : PortSearch}

/-- Two searches over the same ports with flags that are full alike. -/
structure AgreesWith (p q : PortSearch) : Prop where
  port : p.port = q.port
  portCount : p.portCount = q.portCount
  backlog : p.backlog = q.backlog
  autoIncrement : p.autoIncrement.isTrue = q.autoIncrement.isTrue
  reuseAddress : p.reuseAddress.isTrue = q.reuseAddress.isTrue

theorem attemptAt_congr (h : p.AgreesWith q) (os : SocketSystem σ) (version : Version)
    (address : σ → Except (SystemError ⊕ Fault) SocketAddress × σ) (s : Session σ) :
    attemptAt os p version address s = attemptAt os q version address s := by
  simp only [attemptAt, shareAddress, bindAndListen, h.backlog, h.reuseAddress]

theorem search_congr (h : p.AgreesWith q) (os : SocketSystem σ) (version : Version) (host : Text)
    (zone : Option Zone) (trials : Nat) (port : Int) (last : Option SystemError) (s : Session σ) :
    search os p version host zone trials port last s =
      search os q version host zone trials port last s := by
  have hattempt : attempt os p version host zone = attempt os q version host zone := by
    funext port s
    exact attemptAt_congr h os version _ s
  rw [search, search, hattempt]

theorem searchFrom_congr (h : p.AgreesWith q) (os : SocketSystem σ) (version : Version)
    (host : Text) (zone : Option Zone) (first : Number) (trials : Nat) (s : Session σ) :
    searchFrom os p version host zone first trials s =
      searchFrom os q version host zone first trials s := by
  have hattempt : attemptReal os p version host zone = attemptReal os q version host zone := by
    funext port s
    exact attemptAt_congr h os version _ s
  cases first <;> simp only [searchFrom, searchReal, search_congr h, hattempt]

theorem openSocket_congr (h : p.AgreesWith q) (os : SocketSystem σ) (address : Inet)
    (requested : Number) (bindAny : Bool) (s : Session σ) :
    openSocket os p address requested bindAny s = openSocket os q address requested bindAny s := by
  have hfirst : p.firstPort requested = q.firstPort requested := by
    rw [firstPort, firstPort, h.port]
  have htrials (first : Number) : p.trials first = q.trials first := by
    rw [trials, trials, h.autoIncrement, h.portCount]
  have hexhausted (first : Number) (trials : Int) (last : Option SystemError) :
      p.exhausted address first trials last = q.exhausted address first trials last := by
    rw [exhausted, exhausted, h.autoIncrement]
  simp only [openSocket, openFrom, hfirst, htrials, searchFrom_congr h, hexhausted]

/-- On every system, two searches open the same sockets in the same way, and fail alike. -/
def SameDecisions (p q : PortSearch) : Prop :=
  ∀ (σ : Type) (os : SocketSystem σ) (address : Inet) (requested : Number) (bindAny : Bool)
    (s : Session σ),
    openSocket os p address requested bindAny s = openSocket os q address requested bindAny s

/-! ### A search that fails -/

/-- A host on which no address can be bound. -/
def barren : PortTable := { PortTable.empty with unassigned := ["0.0.0.0".toList] }

/-- The highest port, after which there is none to go on to. -/
def highest : Number := .whole (.number maxPort)

/-- The answer of a barren host to an attempt to bind. -/
def unassignable : SystemError := ⟨"[Errno 99] Cannot assign requested address".toList⟩

/-- The only attempt at the highest port fails on a barren host. -/
theorem attempt_barren (p : PortSearch) :
    attempt PortTable.system p .v4 "0.0.0.0".toList none maxPort (.start barren) =
      (.failed unassignable,
        ⟨barren, 1, .closed 0 none :: .bound 0 (.v4 "0.0.0.0".toList maxPort) ::
          (if p.reuseAddress.isTrue then [.reused 0, .created 0 .v4] else [.created 0 .v4]),
          []⟩) := by
  cases hr : p.reuseAddress.isTrue with
  | false =>
    simp only [attempt, attemptAt, shareAddress, hr, Bool.false_eq_true, if_false]
    rfl
  | true =>
    simp only [attempt, attemptAt, shareAddress, hr, if_true]
    rfl

theorem search_above_maxPort (os : SocketSystem σ) (version : Version) (host : Text)
    (zone : Option Zone) (trials : Nat) (last : Option SystemError) (s : Session σ) :
    search os p version host zone trials (maxPort + 1) last s = (.exhausted last, s) := by
  cases trials with
  | zero => rfl
  | succ n => rw [search_succ, if_pos (by decide)]

theorem search_barren (p : PortSearch) (n : Nat) :
    ∃ s, search PortTable.system p .v4 "0.0.0.0".toList none (n + 1) maxPort none (.start barren) =
        (.exhausted (some unassignable), s) ∧
      (SocketEvent.reused 0 ∈ s.events ↔ p.reuseAddress.isTrue = true) := by
  simp only [search_succ, attempt_barren, search_above_maxPort, lt_irrefl, if_false]
  refine ⟨_, rfl, ?_⟩
  cases p.reuseAddress.isTrue <;> simp [Session.log]

/-- A whole search on a barren host, from the highest port on. -/
theorem openSocket_barren {count : Whole} (hcount : 1 ≤ count.value)
    (hp : p.portCount = .whole count) :
    ∃ trials s, openSocket PortTable.system p (.v4 0) highest true (.start barren) =
        (.error (p.exhausted (.v4 0) highest trials (some unassignable)), s) ∧
      (p.autoIncrement.isTrue = false → trials = 1) ∧
      (SocketEvent.reused 0 ∈ s.events ↔ p.reuseAddress.isTrue = true) := by
  obtain ⟨trials, htrials, hpos, hone⟩ : ∃ trials, p.trials highest = .ok trials ∧ 1 ≤ trials ∧
      (p.autoIncrement.isTrue = false → trials = 1) := by
    cases ha : p.autoIncrement.isTrue with
    | false => exact ⟨1, by simp [PortSearch.trials, ha], le_refl _, fun _ => rfl⟩
    | true =>
      refine ⟨count.value, ?_, hcount, nofun⟩
      rw [PortSearch.trials, if_pos ⟨by decide, ha⟩, hp]
      rfl
  obtain ⟨n, hn⟩ : ∃ n : Nat, trials.toNat = n + 1 := ⟨trials.toNat - 1, by omega⟩
  obtain ⟨s, hsearch, hreused⟩ := search_barren p n
  have hfirst : p.firstPort highest = highest := rfl
  refine ⟨trials, s, ?_, hone, hreused⟩
  have hs : searchFrom PortTable.system p (Inet.v4 0).version (bindHost (.v4 0) true)
      (bindZone (.v4 0) true) highest (n + 1) (.start barren) =
        (.exhausted (some unassignable), s) := hsearch
  have hzero : highest.isZero = false := rfl
  simp only [openSocket, hfirst, htrials, openFrom, hzero, Bool.false_eq_true, if_false, hn, hs]

/-- A failure that says that the port was fixed comes from a search that must not go on. -/
theorem autoIncrement_of_exhausted {address : Inet} {first : Number} {trials : Int}
    {last : Option SystemError} {a : Inet} {x : Number} {n : Int} {e : Option OutsideError}
    (h : p.exhausted address first trials last = .cannotBind a x n true e) :
    p.autoIncrement.isTrue = false := by
  unfold exhausted at h
  split at h
  · have hfixed := (Fault.cannotBind.inj h).2.2.2.1
    simpa using (Bool.and_eq_true_iff.1 hfixed).2
  · cases h

theorem exhausted_highest (h : p.autoIncrement.isTrue = false) (address : Inet)
    (last : Option SystemError) :
    p.exhausted address highest 1 last =
      .cannotBind address highest 1 true (last.map SystemError.toOutside) := by
  have hlt : maxPort.natAbs < 10 ^ Text.numeralLimit :=
    lt_of_lt_of_le (by decide : maxPort.natAbs < 10 ^ 5)
      (Nat.pow_le_pow_right (by decide) (by decide))
  have hshow : (Value.whole maxPort).isShowable = true := by
    show decide (maxPort.natAbs < 10 ^ Text.numeralLimit) = true
    exact decide_eq_true hlt
  have hall : (highest.toValue.isShowable && (highest.lastOf (max 1 1)).toValue.isShowable) =
      true :=
    Bool.and_eq_true_iff.2 ⟨hshow, hshow⟩
  rw [exhausted, if_pos hall, h]
  rfl

/-- Over a positive number of ports, two searches make the same decisions only if their flags are
full alike. -/
theorem sameDecisions_iff {port : Number} {count : Whole} {a a' r r' : Value} {backlog : Int}
    (hcount : 1 ≤ count.value) :
    SameDecisions ⟨port, .whole count, a, r, backlog⟩ ⟨port, .whole count, a', r', backlog⟩ ↔
      a.isTrue = a'.isTrue ∧ r.isTrue = r'.isTrue := by
  constructor
  · intro h
    obtain ⟨n, s, hs, hn, hr⟩ := openSocket_barren
      (p := ⟨port, .whole count, a, r, backlog⟩) hcount rfl
    obtain ⟨n', s', hs', hn', hr'⟩ := openSocket_barren
      (p := ⟨port, .whole count, a', r', backlog⟩) hcount rfl
    have heq := h PortTable PortTable.system (.v4 0) highest true (.start barren)
    rw [hs, hs', Prod.mk.injEq, Except.error.injEq] at heq
    obtain ⟨hfault, rfl⟩ := heq
    refine ⟨?_, Bool.eq_iff_iff.2 (hr.symm.trans hr')⟩
    cases ha : a.isTrue with
    | false =>
      rw [hn ha, exhausted_highest ha] at hfault
      exact (autoIncrement_of_exhausted hfault.symm).symm
    | true =>
      cases ha' : a'.isTrue with
      | true => rfl
      | false =>
        rw [hn' ha', exhausted_highest ha'] at hfault
        have hfalse : a.isTrue = false := autoIncrement_of_exhausted hfault
        rw [ha] at hfalse
        cases hfalse
  · rintro ⟨ha, hr⟩ σ os address requested bindAny s
    have hagree : AgreesWith ⟨port, .whole count, a, r, backlog⟩
        ⟨port, .whole count, a', r', backlog⟩ := ⟨rfl, rfl, rfl, ha, hr⟩
    exact openSocket_congr hagree os address requested bindAny s

end PortSearch

/-! ### The flags of a network -/

/-- The flags that a network is given. -/
inductive Flag
  | portAutoIncrement
  | reuseAddress
  | interfaces
  | members
  deriving DecidableEq

namespace Flag

/-- The section of a table in which a flag stands. -/
def table : Flag → Section
  | .portAutoIncrement | .reuseAddress => .network
  | .interfaces => .interfaces
  | .members => .tcpIp

/-- The key of a flag. -/
def key : Flag → String
  | .portAutoIncrement => "port_auto_increment"
  | .reuseAddress => "reuse_address"
  | .interfaces | .members => "enabled"

/-- What a flag is when it is not given. -/
def default : Flag → Bool
  | .portAutoIncrement | .reuseAddress => true
  | .interfaces | .members => false

/-- Whether a table gives a text for a flag. -/
def IsGiven (flag : Flag) (t : Text) (entries : Entries) : Prop :=
  (entries.sectionAt flag.table).get flag.key = .text t

/-- The value of a flag in a network. -/
def value (flag : Flag) (n : NetworkConfig) : Value :=
  match flag with
  | .portAutoIncrement => n.portAutoIncrement
  | .reuseAddress => n.reuseAddress
  | .interfaces => n.interfaces.enabled
  | .members => n.members.enabled

/-- The assignment of a flag. -/
def assignment (flag : Flag) (v : Value) (n : NetworkConfig) : NetworkAssignment :=
  match flag with
  | .portAutoIncrement => .portAutoIncrement v
  | .reuseAddress => .reuseAddress v
  | .interfaces => .interfaces { n.interfaces with enabled := v }
  | .members => .members { n.members with enabled := v }

/-- A configuration after the assignment of a flag. -/
def set (flag : Flag) (v : Value) (c : Config) : Config :=
  { c with network := (c.network.assign (flag.assignment v c.network)).1 }

/-- Whether a text means the same, read as a flag whose default is true, as it does when one only
looks whether it is full. -/
def ReadsAlike (t : Text) : Prop := t ≠ [] ∧ (Text.trim t = [] ∨ Value.isTrueWord t = true)

/-- Whether the settings of the picker read an assigned text again. -/
def IsReadAgain (flag : Flag) : Prop := flag = .interfaces ∨ flag = .members

variable {flag : Flag} {t : Text}

theorem toFlag_text (default : Bool) :
    (Value.text t).toFlag default = .ok ((Value.text t).asFlag default) := rfl

theorem readsAlike_iff :
    (Value.text t).isTrue = (Value.flag ((Value.text t).asFlag true)).isTrue ↔ ReadsAlike t := by
  have hflag : (Value.text t).asFlag true =
      if (Text.trim t).isEmpty then true else Value.isTrueWord t := by
    show (if (Text.trim t).isEmpty then none else some (Value.isTrueWord t)).getD true = _
    split <;> rfl
  rw [hflag, Value.isTrue, Value.isTrue, ReadsAlike]
  cases t with
  | nil => simp [Text.trim, Text.trimEnd, Text.trimStart]
  | cons c rest =>
    by_cases h : Text.trim (c :: rest) = [] <;> simp [h]

end Flag

/-! ### Assigned and loaded flags -/

theorem AddressSection.enabled_of_text {entries : Entries} {key : String} {s : AddressSection}
    {t : Text} (h : ofEntries entries key = .ok s) (ht : entries.get "enabled" = .text t) :
    s.enabled = .flag ((Value.text t).asFlag false) := by
  rw [ofEntries, ht, Flag.toFlag_text] at h
  obtain ⟨items, -, rfl⟩ := Except.map_ok_iff.1 h
  rfl

namespace Config

variable {entries : Entries} {c : Config} {flag : Flag} {t : Text}

/-- A loaded flag is what its text reads as. -/
theorem value_of_ofEntries (h : ofEntries entries = .ok c) (ht : flag.IsGiven t entries) :
    flag.value c.network = .flag ((Value.text t).asFlag flag.default) := by
  obtain ⟨network, -, hnetwork, hn, -⟩ := ofEntries_ok_iff.1 h
  obtain ⟨a, r, interfaces, s, join, m, ha, hr, hi, hs, hj, hm, hv⟩ :=
    NetworkConfig.ofEntries_ok_iff.1 hn
  obtain ⟨-, -, hc⟩ := NetworkConfig.validated_ok_iff.1 hv
  have hsection : entries.section? "network" = network := Entries.section?_of_nested hnetwork
  cases flag with
  | portAutoIncrement =>
    have hget : (entries.section? "network").get "port_auto_increment" = .text t := ht
    rw [hsection] at hget
    rw [hget, Flag.toFlag_text] at ha
    cases ha
    exact congrArg NetworkConfig.portAutoIncrement hc
  | reuseAddress =>
    have hget : (entries.section? "network").get "reuse_address" = .text t := ht
    rw [hsection] at hget
    rw [hget, Flag.toFlag_text] at hr
    cases hr
    exact congrArg NetworkConfig.reuseAddress hc
  | interfaces =>
    have hget : ((entries.section? "network").section? "interfaces").get "enabled" = .text t := ht
    rw [hsection, Entries.section?_of_nested hi] at hget
    rw [Flag.value, hc]
    exact AddressSection.enabled_of_text hs hget
  | members =>
    have hget : (((entries.section? "network").section? "join").section? "tcp_ip").get "enabled" =
        .text t := ht
    rw [hsection, Entries.section?_of_nested hj] at hget
    rw [NetworkConfig.membersOf] at hm
    split at hm
    · cases hm
    · next inner hinner =>
      rw [Entries.section?_of_nested hinner] at hget
      rw [Flag.value, hc]
      exact AddressSection.enabled_of_text hm hget

/-- The settings of the picker do not tell an assigned text from a loaded one. -/
theorem ofConfig_set (h : flag.value c.network = .flag ((Value.text t).asFlag flag.default))
    (environment : Environment) :
    Settings.ofConfig (flag.set (.text t) c) environment = Settings.ofConfig c environment := by
  cases flag with
  | portAutoIncrement => rfl
  | reuseAddress => rfl
  | interfaces =>
    have hread : c.network.interfaces.enabled.toFlag false = (Value.text t).toFlag false := by
      rw [show c.network.interfaces.enabled = .flag ((Value.text t).asFlag false) from h]
      rfl
    simp only [Settings.ofConfig, hread]
    rfl
  | members =>
    have hread : c.network.members.enabled.toFlag false = (Value.text t).toFlag false := by
      rw [show c.network.members.enabled = .flag ((Value.text t).asFlag false) from h]
      rfl
    simp only [Settings.ofConfig, hread]
    rfl

/-- Two configurations that give the same settings in every environment, and searches for a port
that make the same decisions. -/
def BehavesAs (c c' : Config) : Prop :=
  (∀ environment, Settings.ofConfig c environment = Settings.ofConfig c' environment) ∧
    ∃ p q, c.portSearch = .ok p ∧ c'.portSearch = .ok q ∧ p.SameDecisions q

/-- A flag that is assigned a text, by a setter or in a constructor, does what it does when the text
is loaded from a table, exactly if the settings read it again or the text reads alike: it is
blank but not empty, or a word that turns flags on. -/
theorem behavesAs_iff (h : ofEntries entries = .ok c) (ht : flag.IsGiven t entries) :
    NetworkConfig.validated (flag.set (.text t) c).network =
        .ok (flag.set (.text t) c).network ∧
      (BehavesAs (flag.set (.text t) c) c ↔ flag.IsReadAgain ∨ Flag.ReadsAlike t) := by
  have hloaded := isLoaded_of_ofEntries h
  have hvalue := value_of_ofEntries h ht
  obtain ⟨port, count, -, -, hcount, hmake⟩ := hloaded.exists_search
  have hsearch : c.portSearch = .ok ⟨.whole port, .whole count, c.network.portAutoIncrement,
      c.network.reuseAddress, PortSearch.defaultBacklog⟩ := hmake _ _ _
  have hset : (flag.set (.text t) c).portSearch = .ok ⟨.whole port, .whole count,
      (flag.set (.text t) c).network.portAutoIncrement,
      (flag.set (.text t) c).network.reuseAddress, PortSearch.defaultBacklog⟩ := by
    cases flag <;> exact hmake _ _ _
  refine ⟨?_, ?_⟩
  · cases flag <;> exact NetworkConfig.validated_ok_iff.2 ⟨hloaded.port, hloaded.portCount, rfl⟩
  · simp only [BehavesAs, ofConfig_set hvalue, implies_true, true_and, hsearch, hset,
      Except.ok.injEq, exists_and_left, exists_eq_left', PortSearch.sameDecisions_iff hcount]
    rw [Flag.IsReadAgain, ← Flag.readsAlike_iff]
    cases flag with
    | portAutoIncrement =>
      have ha : c.network.portAutoIncrement = .flag ((Value.text t).asFlag true) := hvalue
      simp [Flag.set, Flag.assignment, NetworkConfig.assign, ha]
    | reuseAddress =>
      have hr : c.network.reuseAddress = .flag ((Value.text t).asFlag true) := hvalue
      simp [Flag.set, Flag.assignment, NetworkConfig.assign, hr]
    | interfaces => simp [Flag.set, Flag.assignment, NetworkConfig.assign]
    | members => simp [Flag.set, Flag.assignment, NetworkConfig.assign]

/-- A word that turns flags on may be assigned as well as loaded. -/
theorem behavesAs_iff_yes :
    ofEntries (Entries.ofTexts
        [("network", .table (Entries.ofTexts [("port_auto_increment", .text "yes".toList)]))]) =
          .ok default ∧
      BehavesAs (Flag.portAutoIncrement.set (.text "yes".toList) default) default := by
  have hload : ofEntries (Entries.ofTexts
      [("network", .table (Entries.ofTexts [("port_auto_increment", .text "yes".toList)]))]) =
        .ok default := rfl
  have hgiven : Flag.portAutoIncrement.IsGiven "yes".toList (Entries.ofTexts
      [("network", .table (Entries.ofTexts [("port_auto_increment", .text "yes".toList)]))]) := rfl
  exact ⟨hload, (behavesAs_iff hload hgiven).2.2 (.inr ⟨by decide, .inr (by decide)⟩)⟩

/-- On a host whose port 5701 is taken, the word that turns flags off does so when it is loaded, but
an assigned one lets the search go on to the next port. -/
theorem not_behavesAs_false :
    ∃ c, ofEntries (Entries.ofTexts
        [("network", .table (Entries.ofTexts [("port_auto_increment", .text "false".toList)]))]) =
          .ok c ∧
      ¬ BehavesAs (Flag.portAutoIncrement.set (.text "false".toList) c) c := by
  refine ⟨_, rfl, ?_⟩
  rintro ⟨-, p, q, hp, hq, hsame⟩
  cases hp
  cases hq
  have h := hsame PortTable PortTable.system (.v4 0x0a000004) (.whole (.number 0)) true
    (.start { PortTable.empty with busy := [5701] })
  have hport := congrArg (fun r => r.1.toOption.map fun socket => socket.address.port) h
  exact absurd hport (by decide)

end Config

end MemberAddress
