import MemberAddress.Proofs.Candidates

/-!
# Sockets that are refused

Whatever call the operating system refuses, a search for a port should answer with a listening
socket or say that no port could be had. It does so for every call on a socket, but the error of a
socket that is not created comes out as it is.

* `PortSearch.AllFail.meet` says that the system decides where a search stops;
* `PortSearch.Reports` are the answers that a search owes;
* `PortSearch.reports_iff` says when a search over whole ports gives them, and what it answers
  otherwise.
-/

namespace MemberAddress

namespace PortSearch

variable {σ : Type} {os : SocketSystem σ} {p : PortSearch} {address : Inet} {bindAny : Bool}
  {port : Int} {s s' : Session σ} {ports : List Int} {e : SystemError}

/-! ### Where a search stops -/

section Stop

variable {before before' after after' : List Int} {port' : Int} {s₁ t t₁ : Session σ}
  {errors errors' : List SystemError}

/-- Candidates that fail in one state do so in one way. -/
theorem AllFail.unique (h : AllFail os p address bindAny ports s errors s₁)
    (h' : AllFail os p address bindAny ports t errors' t₁) (hstate : t.state = s.state)
    (hsockets : t.sockets = s.sockets) : t₁.state = s₁.state ∧ t₁.sockets = s₁.sockets := by
  induction h generalizing t errors' with
  | nil same =>
    cases h' with
    | nil same' =>
      rw [same'.state, same.state, same'.sockets, same.sockets]
      exact ⟨hstate, hsockets⟩
  | cons head tail ih =>
    cases h' with
    | cons head' tail' =>
      obtain ⟨hstate₁, hsockets₁⟩ := head.unique head' hstate hsockets
      exact ih tail' hstate₁ hsockets₁

/-- A search that stops at a candidate does not get beyond it. -/
theorem AllFail.length_le (hsplit : before ++ port :: after = before' ++ port' :: after')
    (h : AllFail os p address bindAny before s errors s₁)
    (h' : AllFail os p address bindAny before' s errors' t₁)
    (hstop : ¬ RefusesCall os p address bindAny port s₁) : before'.length ≤ before.length := by
  by_contra hlong
  have hprefix : before ++ [port] <+: before' ++ port' :: after' :=
    ⟨after, by rw [← hsplit, List.append_assoc, List.singleton_append]⟩
  have hle : (before ++ [port]).length ≤ before'.length := by
    rw [List.length_append, List.length_singleton]
    omega
  obtain ⟨more, hmore⟩ := List.prefix_of_prefix_length_le hprefix (List.prefix_append _ _) hle
  rw [← hmore, List.append_assoc, List.singleton_append] at h'
  exact hstop (h.refusesCall h' rfl rfl)

/-- Two candidates at which a search stops, each after all before it have failed, are met in the
same state. -/
theorem AllFail.meet (hsplit : before ++ port :: after = before' ++ port' :: after')
    (h : AllFail os p address bindAny before s errors s₁)
    (h' : AllFail os p address bindAny before' s errors' t₁)
    (hstop : ¬ RefusesCall os p address bindAny port s₁)
    (hstop' : ¬ RefusesCall os p address bindAny port' t₁) :
    t₁.state = s₁.state ∧ t₁.sockets = s₁.sockets := by
  have hlength : before.length = before'.length :=
    (h'.length_le hsplit.symm h hstop').antisymm (h.length_le hsplit h' hstop)
  obtain ⟨rfl, -⟩ := List.append_inj hsplit hlength
  exact h.unique h' rfl rfl

end Stop

/-- A refusal ends a search with one error. -/
theorem Refused.unique {e' : SystemError} (h : Refused os p address bindAny ports s e)
    (h' : Refused os p address bindAny ports s e') : e' = e := by
  obtain ⟨before, port, after, errors, s₁, rfl, hfailed, hrefused⟩ := h
  obtain ⟨before', port', after', errors', t₁, hsplit, hfailed', hrefused'⟩ := h'
  obtain ⟨hstate, hsockets⟩ := hfailed.meet hsplit hfailed' (not_refusesCall hrefused)
    (not_refusesCall hrefused')
  rw [hstate, hsockets, hrefused] at hrefused'
  cases hrefused'
  rfl

/-- A search that a refusal ends has no candidate, and not all of them fail. -/
theorem Refused.not_course {result : Except (Option SystemError) Socket}
    (h : Refused os p address bindAny ports s e) :
    ¬ Course os p address bindAny ports s s' result := by
  obtain ⟨before, port, after, errors, s₁, rfl, hfailed, hrefused⟩ := h
  intro hcourse
  cases hcourse with
  | found split failed opened =>
    obtain ⟨hstate, hsockets⟩ := hfailed.meet split failed (not_refusesCall hrefused)
      opened.not_refusesCall
    obtain ⟨created, hc, -⟩ := opened.granted
    rw [hstate, hsockets] at hc
    rw [hc] at hrefused
    cases hrefused
  | exhausted failed =>
    exact not_refusesCall hrefused (hfailed.refusesCall failed rfl rfl)

/-! ### What a search answers -/

/-- What a search owes: a socket with one of the candidates, on which all calls were granted, or the
fault that no port could be had. -/
def Reports (os : SocketSystem σ) (p : PortSearch) (address : Inet) (bindAny : Bool)
    (ports : List Int) (s' : Session σ) : Except Fault Socket → Prop
  | .ok socket => ∃ port ∈ ports, ∃ s₁, Opens os p address bindAny port s₁ socket s'
  | .error f => f.errorClass? = some .socketBind

/-- The fault of a search that found no port says so exactly when the numbers in it can be
written. -/
theorem errorClass?_exhausted (p : PortSearch) (address : Inet) {first : Whole} {trials : Int}
    (last : Option SystemError) (hfirst : 0 ≤ first.value) (htrials : 1 ≤ trials) :
    (p.exhausted address (.whole first) trials last).errorClass? = some .socketBind ↔
      (first.value + trials - 1).toNat < 10 ^ Text.numeralLimit := by
  obtain ⟨hshort, hlong⟩ := isBindFault_exhausted (p := p) address last hfirst htrials
  refine ⟨fun hclass => ?_, fun hs => (hshort hs).1⟩
  by_contra hn
  rw [hlong (Nat.not_lt.1 hn)] at hclass
  cases hclass

/-- A search over whole ports, for an address whose zone, if it is bound to, is readable, answers
with a listening socket or says that no port could be had, whatever calls the system refuses on
whatever sockets, with two exceptions. The system must not refuse the socket itself for a candidate,
after all before it have failed: its error is then the answer. And when all candidates fail, the
last port to be named must not have more digits than can be written. -/
theorem reports_iff {port count requested : Whole} {autoIncrement reuseAddress : Value}
    {backlog : Int} {answer : Except Fault Socket}
    (hmake : make port.toValue count.toValue autoIncrement reuseAddress backlog = .ok p)
    (hzone : ∀ z, bindZone address bindAny = some z → z.IsReadable)
    (h : p.openSocket os address (.whole requested) bindAny s = (answer, s')) :
    let first := (startOf requested port).value
    let goesOn := autoIncrement.isTrue
    let ports := candidates first goesOn count.value
    let allFail := ∃ errors s₁, AllFail os p address bindAny ports s errors s₁
    let short := (lastNamed first goesOn count.value).toNat < 10 ^ Text.numeralLimit
    (Reports os p address bindAny ports s' answer ↔
        (∀ e, ¬ Refused os p address bindAny ports s e) ∧ (allFail → short)) ∧
      (∀ e, Refused os p address bindAny ports s e → answer = .error (.outside e.toOutside)) ∧
      (allFail → ¬ short → answer = .error .overlongNumber) := by
  intro first goesOn ports allFail short
  obtain ⟨hp, hport, hcount⟩ := eq_of_make hmake
  have hends := course_or_refused hzone (by rw [hp]) (by rw [hp]) hport h
  have hincrement : p.autoIncrement.isTrue = goesOn := by rw [hp]
  rw [hincrement] at hends
  rcases hends with ⟨result, hcourse, hanswer⟩ | ⟨e, rfl, hrefused⟩
  · have hgranted : ∀ e, ¬ Refused os p address bindAny ports s e :=
      fun e hrefused => hrefused.not_course hcourse
    cases hcourse with
    | @found before after port' errors s₁ socket split failed opened =>
      obtain rfl : answer = .ok socket := hanswer
      have hsplit : ports = before ++ port' :: after := split
      have hnot : ¬ allFail := by
        rintro ⟨errors', t₁, hall⟩
        rw [hsplit] at hall
        exact failed.not_opens hall rfl rfl opened
      have hmem : port' ∈ ports := by
        rw [hsplit]
        exact List.mem_append_right _ (List.mem_cons_self ..)
      exact ⟨iff_of_true ⟨port', hmem, s₁, opened⟩ ⟨hgranted, fun hall => absurd hall hnot⟩,
        fun e hrefused => absurd hrefused (hgranted e), fun hall => absurd hall hnot⟩
    | @exhausted errors failed =>
      obtain rfl : answer = .error _ := hanswer
      have hall : allFail := ⟨errors, s', failed⟩
      have hstart : 0 ≤ (startOf requested port).value := startOf_nonneg hport
      have htrials : 1 ≤ trialsFrom first goesOn count.value := one_le_trialsFrom hcount _ _
      have hclass := errorClass?_exhausted p address errors.getLast? hstart htrials
      refine ⟨hclass.trans ⟨fun hs => ⟨hgranted, fun _ => hs⟩, fun ⟨_, hs⟩ => hs hall⟩,
        fun e hrefused => absurd hrefused (hgranted e), fun _ hn => ?_⟩
      rw [(isBindFault_exhausted address errors.getLast? hstart htrials).2 (Nat.not_lt.1 hn)]
  · have hnot : ¬ allFail :=
      fun ⟨errors, s₁, hall⟩ => hrefused.not_course (.exhausted hall)
    refine ⟨iff_of_false (fun hreports => nomatch hreports)
      (fun ⟨hgranted, _⟩ => hgranted e hrefused), fun e' hrefused' => ?_,
      fun hall => absurd hall hnot⟩
    rw [hrefused.unique hrefused']

/-- An interface that the host does not have. -/
def absentZone : Zone := ⟨"eth9".toList, by decide, by decide, by decide⟩

/-- For an address in a zone that the host does not know, the index is refused, and the search says
that no port could be had. -/
theorem reports_iff_absentZone :
    ∃ f s', fixedPort.openSocket PortTable.system
        (.v6 0xfe800000000000000000000000000001 (some absentZone)) (.whole (.number 0)) false
        (.start .empty) = (.error f, s') ∧
      f.errorClass? = some .socketBind := by
  have hmake : make (Whole.number 5701).toValue (Whole.number 100).toValue (.flag false)
      (.flag true) 100 = .ok fixedPort := rfl
  have hzone : ∀ z, bindZone (.v6 0xfe800000000000000000000000000001 (some absentZone)) false =
      some z → z.IsReadable := by
    rintro z hz
    obtain rfl : absentZone = z := Option.some.inj hz
    decide
  obtain ⟨f, s', hrun⟩ : ∃ f s', fixedPort.openSocket PortTable.system
      (.v6 0xfe800000000000000000000000000001 (some absentZone)) (.whole (.number 0)) false
      (.start .empty) = (.error f, s') := ⟨_, _, rfl⟩
  obtain ⟨hreports, -⟩ := reports_iff hmake hzone hrun
  refine ⟨f, s', hrun, hreports.2 ⟨?_, fun _ => ?_⟩⟩
  · -- the only candidate is met on the host as it was
    rintro e ⟨before, port, after, errors, s₁, hsplit, hfailed, hrefused⟩
    cases before with
    | nil =>
      cases hfailed with
      | nil same =>
        rw [same.state, same.sockets] at hrefused
        cases hrefused
    | cons first before =>
      have hone : candidates (startOf (.number 0) (.number 5701)).value (Value.flag false).isTrue
          (Whole.number 100).value = [5701] := by decide
      rw [hone] at hsplit
      simp at hsplit
  · have hfour : (5701 : Nat) < 10 ^ 4 := by decide
    exact hfour.trans_le (Nat.pow_le_pow_right (by decide) (by decide))

/-- A host without the groups of version six. -/
def octetsOnly : PortTable := { PortTable.empty with withoutV6 := true }

/-- A host without groups refuses the socket for `::1`, and its error is the answer. -/
theorem not_reports_octetsOnly :
    ∃ f s', make (.whole 5701) (.whole 100) (.flag false) (.flag true) 100 = .ok fixedPort ∧
      fixedPort.openSocket PortTable.system (.v6 1 none) (.whole (.number 0)) false
        (.start octetsOnly) = (.error f, s') ∧
      ¬ Reports PortTable.system fixedPort (.v6 1 none) false (candidates 5701 false 100) s'
        (.error f) :=
  ⟨_, _, rfl, rfl, fun hreports => nomatch hreports⟩

end PortSearch

end MemberAddress
