import MemberAddress.Picker.Basic
import MemberAddress.Proofs.Choice
import MemberAddress.Proofs.Sockets
import MemberAddress.Socket.PortTable

/-!
# What one pick can do

A picker that has picked does nothing more (`Picker.pick_of_picked`). One that has not can go four
ways, which `Picker.pick_cases` lists: no address can be chosen, no socket can be opened, no address
to advertise can be found, or all three are there.
-/

namespace MemberAddress

namespace Picker

variable {σ : Type} {os : SocketSystem σ} {p : Picker} {env : Surroundings} {opener : Opener σ}
  {s : Session σ}

/-- Whether a picker has picked. -/
def HasPicked (p : Picker) : Prop := p.bindAddress.isSome = true ∨ p.publicAddress.isSome = true

instance (p : Picker) : Decidable p.HasPicked := inferInstanceAs (Decidable (_ ∨ _))

theorem not_hasPicked_iff :
    ¬ p.HasPicked ↔ p.bindAddress = none ∧ p.publicAddress = none := by
  simp [HasPicked]

@[simp] theorem release_none : release os none s = s := rfl

@[simp] theorem release_some (socket : Socket) :
    release os (some socket) s = s.closeSocket os socket.id (some socket.address.port) := rfl

@[simp] theorem sockets_release (held : Option Socket) :
    (release os held s).sockets = s.sockets := by
  cases held <;> rfl

/-! ### The ways of a pick -/

theorem pick_of_picked (h : p.HasPicked) : p.pick env os opener s = (.ok (), p, s) :=
  if_pos h

/-- The session when the choice of an address is made. -/
def afterChoice (p : Picker) (env : Surroundings) (s : Session σ) : Session σ :=
  s.absorb (Choice.bind p.settings env)

/-- The session when the socket is open and the address to advertise is looked up. -/
def afterLookup (p : Picker) (env : Surroundings) (c : Candidate) (socket : Socket)
    (s : Session σ) : Session σ :=
  (s.log .info pickerComponent
    (pickedMessage (c.toAddress socket.address.port) socket p.settings.bindAny)).absorb
    (advertise p.settings env.names (c.toAddress socket.address.port) : Logged Address)

@[simp] theorem events_afterChoice : (p.afterChoice env s).events = s.events := rfl

@[simp] theorem sockets_afterChoice : (p.afterChoice env s).sockets = s.sockets := rfl

@[simp] theorem events_afterLookup (c : Candidate) (socket : Socket) :
    (p.afterLookup env c socket s).events = s.events := rfl

@[simp] theorem sockets_afterLookup (c : Candidate) (socket : Socket) :
    (p.afterLookup env c socket s).sockets = s.sockets := rfl

/-- The opener is asked for a socket at the address of a candidate, and this is its answer. -/
def Opens (p : Picker) (env : Surroundings) (opener : Opener σ) (s : Session σ) (c : Candidate)
    (answer : Except Fault Socket) (s' : Session σ) : Prop :=
  (Choice.bind p.settings env).result = .ok c ∧
    opener c.inet c.endpoint.port p.settings.bindAny (p.afterChoice env s) = (answer, s')

/-- All that a pick can do when none was done before. -/
theorem pick_cases (os : SocketSystem σ) (env : Surroundings) (opener : Opener σ) (s : Session σ)
    (h : ¬ p.HasPicked) :
    (∃ f, (Choice.bind p.settings env).result = .error f ∧
      p.pick env os opener s = p.fail os p.socket f (p.afterChoice env s)) ∨
    (∃ c f s', p.Opens env opener s c (.error f) s' ∧
      p.pick env os opener s = p.fail os p.socket f s') ∨
    (∃ c socket s' f, p.Opens env opener s c (.ok socket) s' ∧
      (advertise p.settings env.names (c.toAddress socket.address.port)).result = .error f ∧
      p.pick env os opener s = p.fail os (some socket) f (p.afterLookup env c socket s')) ∨
    (∃ c socket s' a, p.Opens env opener s c (.ok socket) s' ∧
      (advertise p.settings env.names (c.toAddress socket.address.port)).result = .ok a ∧
      p.pick env os opener s = (.ok (),
        { p with
          bindAddress := some (c.toAddress socket.address.port)
          publicAddress := some a
          socket := some socket }, p.afterLookup env c socket s')) := by
  unfold HasPicked at h
  rw [pick, if_neg h]
  cases hc : (Choice.bind p.settings env).result with
  | error f => exact .inl ⟨f, rfl, by simp only [hc]; rfl⟩
  | ok c =>
    refine .inr ?_
    simp only [hc]
    rcases ho : opener c.inet c.endpoint.port p.settings.bindAny (p.afterChoice env s) with
      ⟨answer, s'⟩
    have hopens : p.Opens env opener s c answer s' := ⟨hc, ho⟩
    rw [afterChoice] at ho
    rw [ho]
    cases answer with
    | error f => exact .inl ⟨c, f, s', hopens, rfl⟩
    | ok socket =>
      refine .inr ?_
      cases ha : (advertise p.settings env.names (c.toAddress socket.address.port)).result with
      | error f => exact .inl ⟨c, socket, s', f, hopens, ha, by simp only [ha]; rfl⟩
      | ok a => exact .inr ⟨c, socket, s', a, hopens, ha, by simp only [ha]; rfl⟩

/-- A pick that succeeds has chosen an address, opened a socket there and found an address to
advertise. -/
theorem advertises_of_pick_ok {q : Picker} {s' : Session σ} (h : ¬ p.HasPicked)
    (hp : p.pick env os opener s = (.ok (), q, s')) :
    ∃ c socket s₁ a, p.Opens env opener s c (.ok socket) s₁ ∧
      (advertise p.settings env.names (c.toAddress socket.address.port)).result = .ok a ∧
      q.bindAddress = some (c.toAddress socket.address.port) ∧ q.publicAddress = some a := by
  rcases pick_cases os env opener s h with
    ⟨f, -, he⟩ | ⟨c, f, s₁, -, he⟩ | ⟨c, socket, s₁, f, -, -, he⟩ | ⟨c, socket, s₁, a, ho, ha, he⟩
  · rw [he] at hp
    cases hp
  · rw [he] at hp
    cases hp
  · rw [he] at hp
    cases hp
  · rw [he] at hp
    cases hp
    exact ⟨c, socket, s₁, a, ho, ha, rfl, rfl⟩

theorem opens_of_pick_ok {q : Picker} {s' : Session σ} (h : ¬ p.HasPicked)
    (hp : p.pick env os opener s = (.ok (), q, s')) :
    ∃ c socket s₁, p.Opens env opener s c (.ok socket) s₁ ∧
      q.bindAddress = some (c.toAddress socket.address.port) := by
  obtain ⟨c, socket, s₁, -, ho, -, hq, -⟩ := advertises_of_pick_ok h hp
  exact ⟨c, socket, s₁, ho, hq⟩

end Picker

/-! ### Pickers with tables around them

Concrete runs are computed with surroundings that are given by tables, as the host of
`PortTable.system` is.
-/

/-- A name service that answers from a table and knows no other host. -/
def NameService.ofTable (table : List (Text × List Text)) : NameService := fun host =>
  match table.lookup host with
  | some answers => .ok answers
  | none => .error ⟨.nameLookup, "Name or service not known".toList⟩

/-- Such a name service fails only for hosts that it does not know. -/
theorem NameService.onlyUnknown_ofTable (table : List (Text × List Text)) :
    (NameService.ofTable table).OnlyUnknown := by
  intro host e he
  unfold ofTable at he
  split at he
  · cases he
  · cases he
    exact .inl rfl

theorem NameService.onlyUnresolved_ofTable (table : List (Text × List Text)) :
    (NameService.ofTable table).OnlyUnresolved :=
  (onlyUnknown_ofTable table).onlyUnresolved

/-- Surroundings that are given by a table of hostnames and a list of interfaces. -/
def Surroundings.ofTables (hosts : List (Text × List Text)) (interfaces : List Interface) :
    Surroundings :=
  ⟨.ofTable hosts, ⟨[], .ok interfaces⟩⟩

/-- An interface that is up and has the given addresses. -/
def Interface.up (name : Text) (addresses : List Inet) : Interface :=
  ⟨name, addresses, true, false, false⟩

/-- The surroundings `10.0.0.1`, with no other address and no hostnames. -/
def Surroundings.oneAddress : Surroundings := .ofTables [] [.up "eth0".toList [.v4 0x0a000001]]

/-- The same surroundings, where some hostnames are known. -/
def Surroundings.knowing (hosts : List (Text × List Text)) : Surroundings :=
  .ofTables hosts [.up "eth0".toList [.v4 0x0a000001]]

/-- The settings of a picker that is told patterns and members; an empty list stands for none. -/
def Settings.ofLists (patterns members : List Text) : Settings :=
  { Settings.default with
    interfacesEnabled := !patterns.isEmpty
    interfaces := patterns.map .text
    membersEnabled := !members.isEmpty
    members := members.map .text }

/-- Members that are told as texts can be read when their entries can be taken apart. -/
theorem Settings.hasReadableMembers_ofLists (patterns : List Text) {members entries : List Text}
    {names : NameService} (hn : names.OnlyUnresolved)
    (hs : MemberList.split (members.map .text) = .ok entries)
    (h : ∀ entry ∈ entries, (HostPort.split entry).isOk = true) :
    (ofLists patterns members).HasReadableMembers names := by
  refine fun _ => ⟨⟨fun v hv => ?_, fun entries' hs' entry he digits hd => ?_⟩, hn⟩
  · obtain ⟨t, -, rfl⟩ := List.mem_map.1 hv
    exact ⟨t, rfl⟩
  · obtain rfl : entries = entries' := Except.ok.inj (hs.symm.trans hs')
    have hok := h entry he
    rw [hd] at hok
    cases hok

/-- The search for a port that a member makes when nothing else is said. -/
def PortSearch.default : PortSearch where
  port := .whole (.number Address.defaultPort)
  portCount := .whole (.number PortSearch.defaultPortCount)
  autoIncrement := .flag true
  reuseAddress := .flag true
  backlog := PortSearch.defaultBacklog

/-- The first pick of a picker on a host with nothing taken. -/
def Picker.firstPick (s : Settings) (env : Surroundings) :
    Except Fault Unit × Picker × Session PortTable :=
  (Picker.new s).pick env PortTable.system (PortSearch.default.opener PortTable.system)
    (.start .empty)

theorem Except.eq_ok_of_toOption {ε α : Type} {x : Except ε α} {a : α} (h : x.toOption = some a) :
    x = .ok a := by
  cases x with
  | error e => cases h
  | ok b =>
    cases h
    rfl

/-- The class of the fault in an answer, if there is one. -/
def faultClass? {α : Type} : Except Fault α → Option ErrorClass
  | .error f => f.errorClass?
  | .ok _ => none

theorem exists_error_of_faultClass? {α : Type} {x : Except Fault α} {k : ErrorClass}
    (h : faultClass? x = some k) : ∃ f, x = .error f ∧ f.errorClass? = some k := by
  cases x with
  | error f => exact ⟨f, rfl, h⟩
  | ok a => cases h

theorem Picker.firstPick_eq_ok (s : Settings) (env : Surroundings)
    (h : (firstPick s env).1.toOption = some ()) :
    firstPick s env = (.ok (), (firstPick s env).2.1, (firstPick s env).2.2) := by
  rw [← Except.eq_ok_of_toOption h]

end MemberAddress
