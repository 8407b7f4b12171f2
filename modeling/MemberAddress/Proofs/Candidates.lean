import MemberAddress.Proofs.Calls
import MemberAddress.Proofs.Flags
import MemberAddress.Proofs.Printing

/-!
# The order of the search for a port

A search goes through its candidates one after another, until the operating system lets it have one.

* `PortSearch.candidates` are the ports that a search may try, in this order;
* `PortSearch.Course` is the course of a search through candidates, `PortSearch.course_search` and
  `PortSearch.course_openFrom` say that a search takes it, by induction on the number of trials,
  unless the system refuses a socket (`PortSearch.Refused`);
* `PortSearch.isBindFault_exhausted` says which fault is left when all candidates fail;
* `PortSearch.openSocket_exact` puts them together for searches over whole ports.
-/

namespace MemberAddress

/-- Two sessions with the same dealings differ in nothing but the records. -/
structure Session.SameDealings {σ : Type} (s s₀ : Session σ) : Prop where
  state : s₀.state = s.state
  sockets : s₀.sockets = s.sockets
  events : s₀.events = s.events

namespace PortSearch

variable {σ : Type} {os : SocketSystem σ} {p : PortSearch} {address : Inet} {bindAny : Bool}
  {port : Int} {s s' : Session σ}

/-! ### The candidates -/

/-- Up to `trials` ports from `first` on, none of them above the highest. -/
def portsFrom (trials : Nat) (first : Int) : List Int :=
  ((List.range trials).map fun i : Nat => first + i).filter (· ≤ maxPort)

/-- The ports that a search tries: port zero alone if it starts there, else the first port, and the
ports after it if the search goes on. -/
def candidates (first : Int) (goesOn : Bool) (count : Int) : List Int :=
  if first = 0 then [0] else portsFrom (if goesOn then count.toNat else 1) first

theorem portsFrom_succ (trials : Nat) (first : Int) :
    portsFrom (trials + 1) first =
      if maxPort < first then [] else first :: portsFrom trials (first + 1) := by
  unfold portsFrom
  split
  · next habove =>
    rw [List.filter_eq_nil_iff]
    intro port hport
    obtain ⟨i, -, rfl⟩ := List.mem_map.1 hport
    simp only [decide_eq_true_eq]
    omega
  · next hbelow =>
    have hshift : (fun i : Nat => first + i) ∘ Nat.succ = fun i : Nat => first + 1 + i := by
      funext i
      simp only [Function.comp_apply]
      omega
    have hfirst : first ≤ maxPort := by omega
    rw [List.range_succ_eq_map, List.map_cons, List.map_map, hshift]
    simp [hfirst]

example : candidates 65534 true 100 = [65534, 65535] := by decide

/-! ### Several candidates -/

/-- Candidates fail one after another, each with its error. Records are no part of that. -/
inductive AllFail (os : SocketSystem σ) (p : PortSearch) (address : Inet) (bindAny : Bool) :
    List Int → Session σ → List SystemError → Session σ → Prop
  | nil {s s' : Session σ} (same : s.SameDealings s') : AllFail os p address bindAny [] s [] s'
  | cons {port : Int} {rest : List Int} {s s₁ s' : Session σ} {e : SystemError}
    {errors : List SystemError} (head : Fails os p address bindAny port s e s₁)
    (tail : AllFail os p address bindAny rest s₁ errors s') :
    AllFail os p address bindAny (port :: rest) s (e :: errors) s'

/-- The course of a search through candidates. Either those before some candidate fail and it is
had, and those after it are not tried; or all fail, and the last error is left. -/
inductive Course (os : SocketSystem σ) (p : PortSearch) (address : Inet) (bindAny : Bool)
    (ports : List Int) (s s' : Session σ) : Except (Option SystemError) Socket → Prop
  | found {before after : List Int} {port : Int} {errors : List SystemError} {s₁ : Session σ}
    {socket : Socket} (split : ports = before ++ port :: after)
    (failed : AllFail os p address bindAny before s errors s₁)
    (opened : Opens os p address bindAny port s₁ socket s') :
    Course os p address bindAny ports s s' (.ok socket)
  | exhausted {errors : List SystemError}
    (failed : AllFail os p address bindAny ports s errors s') :
    Course os p address bindAny ports s s' (.error errors.getLast?)

theorem AllFail.congr_left {ports : List Int} {s₀ : Session σ} {errors : List SystemError}
    (h : AllFail os p address bindAny ports s₀ errors s') (same : s.SameDealings s₀) :
    AllFail os p address bindAny ports s errors s' := by
  obtain ⟨hstate, hsockets, hevents⟩ := same
  cases h with
  | nil same =>
    exact .nil ⟨same.state.trans hstate, same.sockets.trans hsockets, same.events.trans hevents⟩
  | cons head tail =>
    refine .cons ⟨?_, ?_, ?_⟩ tail
    · rw [← hstate, ← hsockets]
      exact head.refused
    · rw [← hsockets]
      exact head.sockets
    · rw [← hsockets, ← hevents]
      exact head.journal

theorem Course.congr_left {ports : List Int} {s₀ : Session σ}
    {result : Except (Option SystemError) Socket}
    (h : Course os p address bindAny ports s₀ s' result) (same : s.SameDealings s₀) :
    Course os p address bindAny ports s s' result := by
  cases h with
  | found split failed opened => exact .found split (failed.congr_left same) opened
  | exhausted failed => exact .exhausted (failed.congr_left same)

/-- When candidates fail, each is refused a call where those before it have left the system. -/
theorem AllFail.refusesCall {before after : List Int} {t s₁ t₁ : Session σ}
    {errors errors' : List SystemError} (hbefore : AllFail os p address bindAny before s errors s₁)
    (hall : AllFail os p address bindAny (before ++ port :: after) t errors' t₁)
    (hstate : t.state = s.state) (hsockets : t.sockets = s.sockets) :
    RefusesCall os p address bindAny port s₁ := by
  induction before generalizing s t errors errors' with
  | nil =>
    cases hbefore with
    | nil same =>
      cases hall with
      | cons head tail =>
        obtain ⟨created, state, hc, hcalls, -⟩ := head.refused
        rw [hstate, hsockets] at hc
        rw [hsockets] at hcalls
        rw [RefusesCall, same.state, same.sockets]
        exact ⟨created, state, _, hc, hcalls⟩
  | cons first before ih =>
    cases hbefore with
    | cons head tail =>
      cases hall with
      | cons head' tail' =>
        obtain ⟨hstate₁, hsockets₁⟩ := head.unique head' hstate hsockets
        exact ih tail tail' hstate₁ hsockets₁

/-- When all candidates fail, none of them is had. -/
theorem AllFail.not_opens {before after : List Int} {t s₁ t₁ : Session σ} {socket : Socket}
    {errors errors' : List SystemError} (hbefore : AllFail os p address bindAny before s errors s₁)
    (hall : AllFail os p address bindAny (before ++ port :: after) t errors' t₁)
    (hstate : t.state = s.state) (hsockets : t.sockets = s.sockets) :
    ¬ Opens os p address bindAny port s₁ socket s' :=
  fun hopen => hopen.not_refusesCall (hbefore.refusesCall hall hstate hsockets)

/-- A refusal ends a search: those before some candidate fail, and its socket is not created. -/
def Refused (os : SocketSystem σ) (p : PortSearch) (address : Inet) (bindAny : Bool)
    (ports : List Int) (s : Session σ) (e : SystemError) : Prop :=
  ∃ before port after errors s₁, ports = before ++ port :: after ∧
    AllFail os p address bindAny before s errors s₁ ∧
    (os.create s₁.sockets address.version s₁.state).1 = .error e

/-- On a system that grants sockets there is no refusal. -/
theorem not_refused (hcreate : ∀ id state, (os.create id address.version state).1 = .ok ())
    (ports : List Int) (e : SystemError) : ¬ Refused os p address bindAny ports s e := by
  rintro ⟨before, port, after, errors, s₁, -, -, hrefused⟩
  rw [hcreate] at hrefused
  cases hrefused

theorem Refused.congr_left {ports : List Int} {s₀ : Session σ} {e : SystemError}
    (h : Refused os p address bindAny ports s₀ e) (same : s.SameDealings s₀) :
    Refused os p address bindAny ports s e := by
  obtain ⟨before, port, after, errors, s₁, hsplit, hfailed, hrefused⟩ := h
  exact ⟨before, port, after, errors, s₁, hsplit, hfailed.congr_left same, hrefused⟩

section Search

variable (hzone : ∀ z, bindZone address bindAny = some z → z.IsReadable)

include hzone

/-- Trying up to `trials` ports takes the course of a search through these ports, unless a refusal
ends it. -/
theorem course_search {trials : Nat} {last : Option SystemError} {o : SearchOutcome}
    (h : search os p address.version (bindHost address bindAny) (bindZone address bindAny) trials
      port last s = (o, s')) :
    (∃ socket, o = .opened socket ∧
        Course os p address bindAny (portsFrom trials port) s s' (.ok socket)) ∨
      (∃ errors, o = .exhausted (errors.getLast?.or last) ∧
        AllFail os p address bindAny (portsFrom trials port) s errors s') ∨
      ∃ e, o = .aborted (.outside e.toOutside) ∧
        Refused os p address bindAny (portsFrom trials port) s e := by
  induction trials generalizing port last s with
  | zero =>
    cases h
    exact .inr (.inl ⟨[], rfl, .nil ⟨rfl, rfl, rfl⟩⟩)
  | succ trials ih =>
    rw [portsFrom_succ]
    rw [search_succ] at h
    split at h
    · next habove =>
      cases h
      rw [if_pos habove]
      exact .inr (.inl ⟨[], rfl, .nil ⟨rfl, rfl, rfl⟩⟩)
    · next hbelow =>
      rw [if_neg hbelow]
      rcases ha : attempt os p address.version (bindHost address bindAny)
        (bindZone address bindAny) port s with ⟨a, s₁⟩
      rw [ha] at h
      rcases hc : os.create s.sockets address.version s.state with ⟨e | ⟨⟩, created⟩
      · obtain rfl := attempt_of_refused hc ha
        cases h
        refine .inr (.inr ⟨e, rfl, [], port, _, [], s, rfl, .nil ⟨rfl, rfl, rfl⟩, ?_⟩)
        rw [hc]
      rcases opens_or_fails hc hzone ha with ⟨socket, rfl, hopen⟩ | ⟨e, rfl, hfail⟩
      · cases h
        refine .inl ⟨socket, rfl, .found (List.nil_append _).symm (.nil ⟨rfl, rfl, rfl⟩) ?_⟩
        exact ⟨hopen.granted, hopen.id, hopen.sockets, hopen.journal⟩
      · -- the record of the failure is no event, so the rest goes on where the candidate stopped
        dsimp only at h
        have hlogged : Fails os p address bindAny port s e
            (s₁.log .debug serverSocketComponent
              (failureMessage (bindHost address bindAny) port e)) :=
          ⟨hfail.refused, hfail.sockets, hfail.journal⟩
        rcases ih h with ⟨socket, rfl, hcourse⟩ | ⟨errors, rfl, hall⟩ | ⟨e', rfl, hrefused⟩
        · cases hcourse with
          | @found before after port' errors s₂ socket split failed opened =>
            have hsplit : port :: portsFrom trials (port + 1) =
                (port :: before) ++ port' :: after := by rw [split, List.cons_append]
            exact .inl ⟨socket, rfl, .found hsplit (.cons hlogged failed) opened⟩
        · refine .inr (.inl ⟨e :: errors, ?_, .cons hlogged hall⟩)
          rw [List.getLast?_cons]
          cases errors.getLast? <;> rfl
        · obtain ⟨before, port', after, errors, s₂, hsplit, hfailed, hcreate⟩ := hrefused
          refine .inr (.inr ⟨e', rfl, port :: before, port', after, e :: errors, s₂, ?_,
            .cons hlogged hfailed, hcreate⟩)
          rw [hsplit, List.cons_append]

/-- A search takes the course through its ports and answers with the socket that it had, or with the
fault that it had none; or a refusal ends it, and its error is the answer. -/
theorem course_or_refused_openFrom {first : Whole} {trials : Int}
    {answer : Except Fault Socket} (hfirst : 0 ≤ first.value)
    (h : openFrom os p address (.whole first) trials bindAny s = (answer, s')) :
    (∃ result, Course os p address bindAny (portsFrom trials.toNat first.value) s s' result ∧
      match result with
      | .ok socket => answer = .ok socket
      | .error last => answer = .error (p.exhausted address (.whole first) trials last)) ∨
      ∃ e, answer = .error (.outside e.toOutside) ∧
        Refused os p address bindAny (portsFrom trials.toNat first.value) s e := by
  unfold openFrom at h
  simp only [searchFrom_whole _ _ _ _ _ hfirst] at h
  -- the record about a port that the system chooses is no event
  obtain ⟨s₀, hs₀⟩ : ∃ s₀, s₀ = if (Number.whole first).isZero then
      s.log .info serverSocketComponent ephemeralMessage else s := ⟨_, rfl⟩
  have hsame : s.SameDealings s₀ := by
    rw [hs₀]
    split <;> exact ⟨rfl, rfl, rfl⟩
  rw [← hs₀] at h
  rcases hsearch : search os p address.version (bindHost address bindAny)
    (bindZone address bindAny) trials.toNat first.value none s₀ with ⟨o, s₁⟩
  rw [hsearch] at h
  rcases course_search hzone hsearch with
    ⟨socket, rfl, hcourse⟩ | ⟨errors, rfl, hall⟩ | ⟨e, rfl, hrefused⟩
  · cases h
    exact .inl ⟨.ok socket, hcourse.congr_left hsame, rfl⟩
  · cases h
    refine .inl ⟨.error errors.getLast?, ?_, by rw [Option.or_none]⟩
    exact .exhausted (hall.congr_left hsame)
  · cases h
    exact .inr ⟨e, rfl, hrefused.congr_left hsame⟩

/-- On a system that grants sockets, a search takes the course through its ports. -/
theorem course_openFrom (hcreate : ∀ id state, (os.create id address.version state).1 = .ok ())
    {first : Whole} {trials : Int} {answer : Except Fault Socket} (hfirst : 0 ≤ first.value)
    (h : openFrom os p address (.whole first) trials bindAny s = (answer, s')) :
    ∃ result, Course os p address bindAny (portsFrom trials.toNat first.value) s s' result ∧
      match result with
      | .ok socket => answer = .ok socket
      | .error last => answer = .error (p.exhausted address (.whole first) trials last) :=
  (course_or_refused_openFrom hzone hfirst h).resolve_right
    fun ⟨e, _, hrefused⟩ => not_refused hcreate _ e hrefused

end Search

/-! ### The whole search -/

/-- The host that a search binds to is the address, or the one that stands for all of its
version. -/
theorem read?_bindHost (address : Inet) (bindAny : Bool) :
    Inet.read? (bindHost address bindAny) =
      some (if bindAny then .ofNumber address.version 0 else address.bare) := by
  cases bindAny with
  | true =>
    cases address with
    | v4 bits =>
      show Inet.read? "0.0.0.0".toList = some (.ofNumber .v4 0)
      decide
    | v6 bits zone =>
      show Inet.read? "::".toList = some (.ofNumber .v6 0)
      decide
  | false =>
    have htext : address.hostText = address.bare.text := by cases address <;> rfl
    show Inet.read? address.hostText = some address.bare
    rw [htext, Inet.read?_text]

/-- What a checked search over whole ports is. -/
theorem eq_of_make {port count : Whole} {autoIncrement reuseAddress : Value} {backlog : Int}
    (h : make port.toValue count.toValue autoIncrement reuseAddress backlog = .ok p) :
    p = ⟨.whole port, .whole count, autoIncrement, reuseAddress, backlog⟩ ∧
      0 ≤ port.value ∧ 1 ≤ count.value := by
  unfold make at h
  simp only [comparable_toValue] at h
  split at h
  · cases h
  · next hport =>
    split at h
    · cases h
    · next hcount =>
      cases h
      simp only [Number.isBelow, Number.isAbove, Bool.or_eq_true, decide_eq_true_eq] at hport hcount
      exact ⟨rfl, by omega, by omega⟩

/-- An integer can be written up to a number of digits, and a flag always. -/
theorem isShowable_toValue (n : Whole) :
    n.toValue.isShowable = true ↔ n.value.natAbs < 10 ^ Text.numeralLimit := by
  cases n with
  | number n =>
    show decide (n.natAbs < 10 ^ Text.numeralLimit) = true ↔ n.natAbs < 10 ^ Text.numeralLimit
    exact decide_eq_true_iff
  | flag b =>
    have hle : (Whole.flag b).value.natAbs ≤ 1 := by cases b <;> decide
    have hone : 1 < 10 ^ Text.numeralLimit := Nat.one_lt_pow (by decide) (by decide)
    have hflag : (Whole.flag b).toValue.isShowable = true := rfl
    exact iff_of_true hflag (hle.trans_lt hone)

/-- A fault that says that no port could be had, with the last error of the system behind it. -/
def IsBindFault (last : Option SystemError) (f : Fault) : Prop :=
  f.errorClass? = some .socketBind ∧ f.cause? = last.map SystemError.toOutside

/-- The fault of a search that found no port says so as long as the numbers in it can be
written. -/
theorem isBindFault_exhausted (address : Inet) {first : Whole} {trials : Int}
    (last : Option SystemError) (hfirst : 0 ≤ first.value) (htrials : 1 ≤ trials) :
    ((first.value + trials - 1).toNat < 10 ^ Text.numeralLimit →
        IsBindFault last (p.exhausted address (.whole first) trials last)) ∧
      (10 ^ Text.numeralLimit ≤ (first.value + trials - 1).toNat →
        p.exhausted address (.whole first) trials last = .overlongNumber) := by
  have hshown : ((Number.whole first).toValue.isShowable &&
      ((Number.whole first).lastOf (max trials 1)).toValue.isShowable) = true ↔
        (first.value + trials - 1).toNat < 10 ^ Text.numeralLimit := by
    have hfirst' : (Number.whole first).toValue.isShowable = true ↔
        first.value.natAbs < 10 ^ Text.numeralLimit := isShowable_toValue first
    have hlast : (Number.whole (.number (first.value + (trials - 1)))).toValue.isShowable = true ↔
        (first.value + (trials - 1)).natAbs < 10 ^ Text.numeralLimit :=
      isShowable_toValue (.number (first.value + (trials - 1)))
    rw [max_eq_left htrials, Number.lastOf_whole, Bool.and_eq_true, hfirst', hlast]
    generalize 10 ^ Text.numeralLimit = bound
    omega
  constructor
  · intro hshort
    rw [exhausted, if_pos (hshown.2 hshort)]
    exact ⟨rfl, rfl⟩
  · intro hlong
    rw [exhausted, if_neg fun hs => Nat.not_lt.2 hlong (hshown.1 hs)]

/-! ### Whole ports -/

/-- The port at which a search starts. -/
def startOf (requested port : Whole) : Whole := if 0 < requested.value then requested else port

/-- How many ports a search may try. -/
def trialsFrom (first : Int) (goesOn : Bool) (count : Int) : Int :=
  if 0 < first ∧ goesOn then count else 1

/-- The last port that is named when no port could be had; it may be above the highest. -/
def lastNamed (first : Int) (goesOn : Bool) (count : Int) : Int :=
  first + trialsFrom first goesOn count - 1

section Whole

variable {port count requested first : Whole}

theorem startOf_nonneg (h : 0 ≤ port.value) : 0 ≤ (startOf requested port).value := by
  unfold startOf
  split <;> omega

theorem one_le_trialsFrom (h : 1 ≤ count.value) (first : Int) (goesOn : Bool) :
    1 ≤ trialsFrom first goesOn count.value := by
  unfold trialsFrom
  split <;> omega

theorem firstPort_whole (hp : p.port = .whole port) :
    p.firstPort (.whole requested) = .whole (startOf requested port) := by
  unfold firstPort startOf
  by_cases h : 0 < requested.value
  · simp [Number.isAbove, h]
  · simp [Number.isAbove, h, hp]

theorem trials_whole (hp : p.portCount = .whole count) :
    p.trials (.whole first) =
      .ok (trialsFrom first.value p.autoIncrement.isTrue count.value) := by
  unfold trials trialsFrom
  by_cases h : 0 < first.value ∧ p.autoIncrement.isTrue
  · have habove : (Number.whole first).isAbove 0 = true ∧ p.autoIncrement.isTrue = true :=
      ⟨by simpa [Number.isAbove] using h.1, h.2⟩
    rw [if_pos h, if_pos habove, hp]
    rfl
  · have habove : ¬ ((Number.whole first).isAbove 0 = true ∧ p.autoIncrement.isTrue = true) := by
      simpa [Number.isAbove] using h
    rw [if_neg h, if_neg habove]

end Whole

/-- The candidates are as many ports as the search may try. -/
theorem candidates_eq {first : Int} (h : 0 ≤ first) (goesOn : Bool) (count : Int) :
    candidates first goesOn count = portsFrom (trialsFrom first goesOn count).toNat first := by
  unfold candidates trialsFrom
  split
  · next hzero =>
    rw [hzero]
    rfl
  · next hne =>
    have hpos : 0 < first := by omega
    cases goesOn <;> simp [hpos]

/-- A search over whole ports is the search from its first port. -/
theorem openSocket_whole {port count requested : Whole} (hport : p.port = .whole port)
    (hcount : p.portCount = .whole count) :
    p.openSocket os address (.whole requested) bindAny s =
      openFrom os p address (.whole (startOf requested port))
        (trialsFrom (startOf requested port).value p.autoIncrement.isTrue count.value) bindAny
        s := by
  simp only [openSocket, firstPort_whole hport, trials_whole hcount]

/-- A search over whole ports ends in its course through the candidates, or a refusal ends it. -/
theorem course_or_refused {port count requested : Whole} {answer : Except Fault Socket}
    (hzone : ∀ z, bindZone address bindAny = some z → z.IsReadable)
    (hport : p.port = .whole port) (hcount : p.portCount = .whole count) (hpos : 0 ≤ port.value)
    (h : p.openSocket os address (.whole requested) bindAny s = (answer, s')) :
    let first := startOf requested port
    let ports := candidates first.value p.autoIncrement.isTrue count.value
    (∃ result, Course os p address bindAny ports s s' result ∧
      match result with
      | .ok socket => answer = .ok socket
      | .error last => answer = .error (p.exhausted address (.whole first)
          (trialsFrom first.value p.autoIncrement.isTrue count.value) last)) ∨
      ∃ e, answer = .error (.outside e.toOutside) ∧ Refused os p address bindAny ports s e := by
  intro first ports
  have hports : ports = portsFrom
      (trialsFrom first.value p.autoIncrement.isTrue count.value).toNat first.value :=
    candidates_eq (startOf_nonneg hpos) _ _
  rw [hports]
  rw [openSocket_whole hport hcount] at h
  exact course_or_refused_openFrom hzone (startOf_nonneg hpos) h

/-- On a system that grants sockets, a search over whole ports takes the course through its
candidates. -/
theorem course_openSocket {port count requested : Whole} {answer : Except Fault Socket}
    (hcreate : ∀ id state, (os.create id address.version state).1 = .ok ())
    (hzone : ∀ z, bindZone address bindAny = some z → z.IsReadable)
    (hport : p.port = .whole port) (hcount : p.portCount = .whole count) (hpos : 0 ≤ port.value)
    (h : p.openSocket os address (.whole requested) bindAny s = (answer, s')) :
    ∃ result, Course os p address bindAny (candidates (startOf requested port).value
        p.autoIncrement.isTrue count.value) s s' result ∧
      match result with
      | .ok socket => answer = .ok socket
      | .error last => answer = .error (p.exhausted address (.whole (startOf requested port))
          (trialsFrom (startOf requested port).value p.autoIncrement.isTrue count.value) last) :=
  (course_or_refused hzone hport hcount hpos h).resolve_right
    fun ⟨e, _, hrefused⟩ => not_refused hcreate _ e hrefused

/-! ### Exactness -/

theorem create_v4 (bits : BitVec 32) (id : Nat) (state : PortTable) :
    (PortTable.system.create id (Inet.v4 bits).version state).1 = .ok () := by
  have hversion : ¬ (state.withoutV6 = true ∧ Version.v4 = .v6) := fun h => nomatch h.2
  exact congrArg Prod.fst (if_neg hversion)

theorem isReadable_v4 (bits : BitVec 32) (bindAny : Bool) :
    ∀ z, bindZone (.v4 bits) bindAny = some z → z.IsReadable := by
  intro z hz
  cases bindAny <;> cases hz

/-- A host on which the port 5701 is taken. -/
def busyHost : PortTable := { PortTable.empty with busy := [5701] }

/-- A search over whole ports is exact, on every system that grants sockets and for every address
whose zone, if it is bound to, is readable. It tries the candidates in their order, each with a
socket of its own that is bound to the address or to the one that stands for all of its version; it
answers with the first that the system lets it have, tries none after it, and closes the sockets of
those before it. It fails exactly when all candidates fail. The fault then says that no port could
be had, and why the last one could not, as long as the last port that it names has no more digits
than can be written; otherwise the fault is about that number alone. -/
theorem openSocket_exact {port count requested : Whole} {autoIncrement reuseAddress : Value}
    {backlog : Int} {answer : Except Fault Socket}
    (hmake : make port.toValue count.toValue autoIncrement reuseAddress backlog = .ok p)
    (hcreate : ∀ id state, (os.create id address.version state).1 = .ok ())
    (hzone : ∀ z, bindZone address bindAny = some z → z.IsReadable)
    (h : p.openSocket os address (.whole requested) bindAny s = (answer, s')) :
    let first := (startOf requested port).value
    let goesOn := autoIncrement.isTrue
    let ports := candidates first goesOn count.value
    Inet.read? (bindHost address bindAny) =
        some (if bindAny then .ofNumber address.version 0 else address.bare) ∧
      ((∃ f, answer = .error f) ↔
        ∃ errors s₁, AllFail os p address bindAny ports s errors s₁) ∧
      ∃ result, Course os p address bindAny ports s s' result ∧
        match result with
        | .ok socket => answer = .ok socket
        | .error last => ∃ f, answer = .error f ∧
          ((lastNamed first goesOn count.value).toNat < 10 ^ Text.numeralLimit →
            IsBindFault last f) ∧
          (10 ^ Text.numeralLimit ≤ (lastNamed first goesOn count.value).toNat →
            f = .overlongNumber) := by
  intro first goesOn ports
  obtain ⟨hp, hport, hcount⟩ := eq_of_make hmake
  obtain ⟨result, hcourse, hanswer⟩ :=
    course_openSocket hcreate hzone (by rw [hp]) (by rw [hp]) hport h
  have hincrement : p.autoIncrement.isTrue = goesOn := by rw [hp]
  rw [hincrement] at hcourse hanswer
  refine ⟨read?_bindHost address bindAny, ?_, result, hcourse, ?_⟩
  · cases hcourse with
    | found split failed opened =>
      have hok : answer = .ok _ := hanswer
      constructor
      · rintro ⟨f, hf⟩
        rw [hok] at hf
        cases hf
      · rintro ⟨errors, s₁, hall⟩
        have hsplit : ports = _ := split
        rw [hsplit] at hall
        exact absurd opened (failed.not_opens hall rfl rfl)
    | @exhausted errors failed => exact iff_of_true ⟨_, hanswer⟩ ⟨errors, s', failed⟩
  · cases result with
    | ok socket => exact hanswer
    | error last =>
      exact ⟨_, hanswer, isBindFault_exhausted address last (startOf_nonneg hport)
        (one_le_trialsFrom hcount first goesOn)⟩

/-- On a host where the port 5701 is taken, the default search fails there and has the port 5702. -/
theorem openSocket_exact_busy :
    ∃ s', Course PortTable.system PortSearch.default (.v4 0x0a000004) false
      (candidates 5701 true 100) (.start busyHost) s' (.ok ⟨1, .v4 "10.0.0.4".toList 5702⟩) := by
  have hrun : PortSearch.default.openSocket PortTable.system (.v4 0x0a000004)
      (.whole (.number 0)) false (.start busyHost) =
        (.ok ⟨1, .v4 "10.0.0.4".toList 5702⟩, (PortSearch.default.openSocket PortTable.system
          (.v4 0x0a000004) (.whole (.number 0)) false (.start busyHost)).2) := rfl
  have hmake : make (Whole.number 5701).toValue (Whole.number 100).toValue (.flag true)
      (.flag true) 100 = .ok PortSearch.default := rfl
  obtain ⟨-, -, result, hcourse, hanswer⟩ :=
    openSocket_exact hmake (create_v4 _) (isReadable_v4 _ _) hrun
  cases result with
  | error last =>
    obtain ⟨f, hf, -⟩ := hanswer
    cases hf
  | ok socket =>
    cases hanswer
    exact ⟨_, hcourse⟩

section Overlong

variable {count : Whole}

/-- A search from the highest port on, over a number of ports. -/
def fromHighest (count : Whole) : PortSearch :=
  ⟨highest, .whole count, .flag true, .flag true, defaultBacklog⟩

theorem make_fromHighest (hcount : 1 ≤ count.value) :
    make (.whole maxPort) count.toValue (.flag true) (.flag true) defaultBacklog =
      .ok (fromHighest count) := by
  have hport : comparable (.whole maxPort) = .ok highest := rfl
  have hrange : (highest.isBelow 0 || highest.isAbove maxPort) = false := by decide
  have hbelow : (Number.whole count).isBelow 1 = false := decide_eq_false (Int.not_lt.2 hcount)
  simp only [make, hport, hrange, comparable_toValue, hbelow, Bool.false_eq_true, if_false]
  rfl

/-- On a host where no port can be had, a search over too many ports does not say so. -/
theorem openSocket_fromHighest (hcount : 1 ≤ count.value)
    (hlong : 10 ^ Text.numeralLimit ≤ (maxPort + count.value - 1).toNat) :
    ∃ s' errors, (fromHighest count).openSocket PortTable.system (.v4 0x0a000004)
        (.whole (.number 0)) true (.start barren) = (.error .overlongNumber, s') ∧
      AllFail PortTable.system (fromHighest count) (.v4 0x0a000004) true
        (candidates maxPort true count.value) (.start barren) errors s' := by
  obtain ⟨n, hn⟩ : ∃ n, count.value.toNat = n + 1 := ⟨count.value.toNat - 1, by omega⟩
  obtain ⟨s', hsearch, -⟩ := search_barren (fromHighest count) n
  have hfault : (fromHighest count).exhausted (.v4 0x0a000004) highest count.value
      (some unassignable) = .overlongNumber :=
    (isBindFault_exhausted (.v4 0x0a000004) (some unassignable) (by decide) hcount).2 hlong
  have hopen : openFrom PortTable.system (fromHighest count) (.v4 0x0a000004) highest count.value
      true (.start barren) = (.error .overlongNumber, s') := by
    have hsearch : searchFrom PortTable.system (fromHighest count) (Inet.v4 0x0a000004).version
        (bindHost (.v4 0x0a000004) true) (bindZone (.v4 0x0a000004) true) highest (n + 1)
          (.start barren) = (.exhausted (some unassignable), s') := hsearch
    have hzero : highest.isZero = false := rfl
    simp only [openFrom, hzero, Bool.false_eq_true, if_false, hn, hsearch, hfault]
  obtain ⟨result, hcourse, hanswer⟩ :=
    course_openFrom (isReadable_v4 0x0a000004 true) (create_v4 0x0a000004) (by decide) hopen
  rw [candidates_eq (by decide)]
  cases hcourse with
  | found split failed opened => cases hanswer
  | @exhausted errors failed => exact ⟨s', errors, hopen, failed⟩

end Overlong

/-- All candidates fail, and the fault does not say that no port could be had. -/
theorem not_isBindFault_overlong :
    ∃ p f s' errors, make (.whole maxPort) (.whole (10 ^ Text.numeralLimit : Nat)) (.flag true)
        (.flag true) defaultBacklog = .ok p ∧
      p.openSocket PortTable.system (.v4 0x0a000004) (.whole (.number 0)) true (.start barren) =
        (.error f, s') ∧
      AllFail PortTable.system p (.v4 0x0a000004) true
        (candidates maxPort true (10 ^ Text.numeralLimit : Nat)) (.start barren) errors s' ∧
      ∀ last, ¬ IsBindFault last f := by
  have hpos : 1 ≤ 10 ^ Text.numeralLimit := Nat.one_le_pow _ _ (by decide)
  obtain ⟨bound, hbound⟩ : ∃ bound, bound = 10 ^ Text.numeralLimit := ⟨_, rfl⟩
  rw [← hbound] at hpos ⊢
  have hlong : 10 ^ Text.numeralLimit ≤ (maxPort + (Whole.number bound).value - 1).toNat := by
    rw [← hbound]
    show bound ≤ (65535 + (bound : Int) - 1).toNat
    omega
  have hcount : 1 ≤ (Whole.number bound).value := by
    show (1 : Int) ≤ bound
    omega
  obtain ⟨s', errors, hopen, hall⟩ := openSocket_fromHighest hcount hlong
  exact ⟨_, _, s', errors, make_fromHighest hcount, hopen, hall, fun last h => nomatch h.1⟩

end PortSearch

end MemberAddress
