import FoloXray.PacketBridge.Invariant

/-! # Which schedules let every Stop return

The pump sends one value on its done channel, and any number of Stops may have captured
that channel. A second capture strands one of the two receivers. When each Stop captures a
bridge that no other Stop has cancelled yet, a waiting Stop always finds its value or a
pump that can still send it.
-/

namespace FoloXray.PacketBridge
open Wrapper Foundation

/-- The bridge whose done value a Stop call still has to receive. -/
def awaits : StopPhase → Option ℕ
  | .closing i _ => some i
  | .receiving i _ => some i
  | _ => none

/-- The Stop is blocked on an empty done channel whose pump has already sent or exited. -/
def stranded (s : State) (j : ℕ) : Bool :=
  match s.stop j with
  | .receiving _ d => s.channel d == none && hasSent (s.pump d)
  | _ => false

def capturedBridge (s : State) : Action → Option ℕ
  | .stopLocked _ => s.bridge.socket
  | _ => none

/-- A Stop enters its first critical section while the registered bridge, if any, has not been
cancelled by another Stop. -/
def CapturesFresh (s : State) (a : Action) : Prop :=
  ∀ i ∈ capturedBridge s a, s.cancelled i = false

instance (s : State) (a : Action) : Decidable (CapturesFresh s a) :=
  inferInstanceAs (Decidable (∀ i ∈ capturedBridge s a, s.cancelled i = false))

theorem Wired.cancelled_of_awaits {s : State} {j i : ℕ} (hw : Wired s)
    (h : awaits (s.stop j) = some i) : s.cancelled i = true := by
  have hc := hw.captured j
  cases hj : s.stop j with
  | closing k d =>
    rw [hj] at h hc
    obtain rfl : k = i := Option.some.inj h
    exact hc.2.1
  | receiving k d =>
    rw [hj] at h hc
    obtain rfl : k = i := Option.some.inj h
    exact hc.2.1
  | ready => rw [hj] at h; cases h
  | clearing k => rw [hj] at h; cases h
  | returned c => rw [hj] at h; cases h

/-- The pump has sent its value and a Stop has taken it. -/
def Drained (s : State) (i : ℕ) : Prop :=
  hasSent (s.pump i) = true ∧ s.channel i = none

/-- The step moved no Stop, cancelled nothing and drained no channel. -/
structure Quiet (s t : State) : Prop where
  stop : t.stop = s.stop
  cancelled : t.cancelled = s.cancelled
  drained : ∀ i, Drained t i ↔ Drained s i

theorem hasSent_update {pump : ℕ → PumpPhase} {i k : ℕ} {p : PumpPhase}
    (hi : hasSent (pump i) = hasSent p) :
    hasSent (Function.update pump i p k) = hasSent (pump k) := by
  by_cases hk : k = i
  · rw [hk, Function.update_self, hi]
  · rw [Function.update_of_ne hk]

theorem Quiet.of_pump {s t : State} {i : ℕ} {p : PumpPhase}
    (hpump : t.pump = Function.update s.pump i p) (hi : hasSent (s.pump i) = hasSent p)
    (hstop : t.stop = s.stop) (hcancelled : t.cancelled = s.cancelled)
    (hchannel : t.channel = s.channel) : Quiet s t := by
  refine ⟨hstop, hcancelled, fun k => ?_⟩
  rw [Drained, Drained, hpump, hasSent_update hi, hchannel]

theorem EchoStep.quiet {s t : State} {i : ℕ} (h : EchoStep s t i) : Quiet s t := by
  obtain ⟨p, hp, hpump⟩ := h.next
  refine .of_pump hpump ?_ h.stop h.cancelled h.channel
  rw [inEcho_not_hasSent h.active]
  rcases hp with hp | ⟨err, rfl⟩
  · exact (inEcho_not_hasSent hp).symm
  · rfl

theorem pumpSend_quiet {s t : State} {i : ℕ} (h : pumpSend s i = some t) : Quiet s t := by
  obtain ⟨err, hp, -, rfl⟩ := pumpSend_some h
  refine ⟨rfl, rfl, fun k => ?_⟩
  by_cases hki : k = i
  · subst hki
    simp [Drained, setPump, hp, hasSent]
  · simp [Drained, setPump, hki]

def ofStop : Action → Bool
  | .stopLocked _ | .stopClose _ | .stopReceive _ | .stopClear _ => true
  | _ => false

theorem step_quiet {s t : State} {a : Action} (hw : Wired s) (ha : ofStop a = false)
    (h : step s a = some t) : Quiet s t := by
  cases a with
  | startOpen i accepted =>
    obtain ⟨-, rfl⟩ := startOpen_some h
    exact ⟨rfl, rfl, fun _ => Iff.rfl⟩
  | startLocked i =>
    obtain ⟨-, rfl⟩ | ⟨-, rfl⟩ | ⟨-, -, rfl⟩ := startLocked_some h
    · exact ⟨rfl, rfl, fun _ => Iff.rfl⟩
    · exact ⟨rfl, rfl, fun _ => Iff.rfl⟩
    · exact ⟨rfl, rfl, fun _ => Iff.rfl⟩
  | startTail i =>
    obtain ⟨-, rfl⟩ | ⟨hi, rfl⟩ := startTail_some h
    · exact ⟨rfl, rfl, fun _ => Iff.rfl⟩
    · exact .of_pump (p := .select) rfl (by rw [hw.spawning i hi]; rfl) rfl rfl rfl
  | stopLocked j => cases ha
  | stopClose j => cases ha
  | stopReceive j => cases ha
  | stopClear j => cases ha
  | pumpSelect i => exact (pumpSelect_some h).quiet
  | pumpRead i packet => exact (pumpRead_some h).quiet
  | pumpCountIn i => exact (pumpCountIn_some h).quiet
  | pumpWrite i written => exact (pumpWrite_some h).quiet
  | pumpCountOut i => exact (pumpCountOut_some h).quiet
  | pumpClose i =>
    obtain ⟨err, hp, rfl⟩ := pumpClose_some h
    exact .of_pump (p := .sending err) rfl (by rw [hp]; rfl) rfl rfl rfl
  | pumpSend i => exact pumpSend_quiet h
  | pumpClear i =>
    obtain ⟨err, hp, hcases⟩ := pumpClear_some h
    obtain ⟨-, rfl⟩ | ⟨-, rfl⟩ := hcases
    · exact .of_pump (p := .exited) rfl (by rw [hp]; rfl) rfl rfl rfl
    · exact .of_pump (p := .exited) rfl (by rw [hp]; rfl) rfl rfl rfl

/-- What the four Stop steps do to the set of awaited, cancelled and drained bridges. -/
theorem stop_step_effect {s t : State} {a : Action} (hw : Wired s) (ha : ofStop a = true)
    (h : step s a = some t) :
    (∀ k, awaits (t.stop k) = awaits (s.stop k)) ∧ t.cancelled = s.cancelled ∧
      (∀ i, Drained t i ↔ Drained s i) ∨
    (∃ j i, a = .stopLocked j ∧ s.bridge.socket = some i ∧
      t.cancelled = Function.update s.cancelled i true ∧
      awaits (s.stop j) = none ∧ awaits (t.stop j) = some i ∧
      (∀ k, k ≠ j → t.stop k = s.stop k) ∧ ∀ i, Drained t i ↔ Drained s i) ∨
    (∃ j i, awaits (s.stop j) = some i ∧ awaits (t.stop j) = none ∧
      (∀ k, k ≠ j → t.stop k = s.stop k) ∧ t.cancelled = s.cancelled ∧ Drained t i ∧
      ∀ k, k ≠ i → (Drained t k ↔ Drained s k)) := by
  have hsame {p : StopPhase} {j : ℕ} (hp : awaits p = awaits (s.stop j)) (k : ℕ) :
      awaits (Function.update s.stop j p k) = awaits (s.stop k) := by
    by_cases hk : k = j
    · rw [hk, Function.update_self, hp]
    · rw [Function.update_of_ne hk]
  cases a with
  | stopLocked j =>
    obtain ⟨hj, -, rfl⟩ | ⟨i, c, hj, hsocket, hcancel, rfl⟩ := stopLocked_some h
    · exact .inl ⟨hsame (by rw [hj]; rfl), rfl, fun _ => Iff.rfl⟩
    · obtain rfl : c = i :=
        Option.some.inj (hcancel.symm.trans (hw.registered i hsocket).1.cancel)
      exact .inr (.inl ⟨j, c, rfl, hsocket, rfl, by rw [hj]; rfl, by simp [awaits],
        fun k hk => Function.update_of_ne hk .., fun _ => Iff.rfl⟩)
  | stopClose j =>
    obtain ⟨i, d, hj, rfl⟩ := stopClose_some h
    obtain ⟨rfl, -, -⟩ := hw.closing j i d hj
    exact .inl ⟨hsame (by rw [hj]; rfl), rfl, fun _ => Iff.rfl⟩
  | stopReceive j =>
    obtain ⟨i, d, hj, hfull, rfl⟩ := stopReceive_some h
    obtain ⟨rfl, -, -, -⟩ := hw.receiving j i d hj
    refine .inr (.inr ⟨j, d, by rw [hj]; rfl, by simp [awaits],
      fun k hk => Function.update_of_ne hk .., rfl, ⟨hw.channel d hfull, by simp⟩, ?_⟩)
    intro k hk
    simp [Drained, hk]
  | stopClear j =>
    obtain ⟨i, hj, rfl⟩ := stopClear_some h
    exact .inl ⟨hsame (by rw [hj]; rfl), rfl, fun _ => Iff.rfl⟩
  | _ => cases ha

/-- A bridge is cancelled exactly by a Stop that still waits for its value or has taken it. -/
structure Answered (s : State) : Prop where
  cancelled : ∀ i, s.cancelled i = true → (∃ j, awaits (s.stop j) = some i) ∨ Drained s i
  drained : ∀ i, Drained s i → s.cancelled i = true

theorem answered_initial : Answered initial := by
  constructor
  · intro i hi
    cases hi
  · rintro i ⟨hi, -⟩
    cases hi

theorem Answered.step {s t : State} {a : Action} (ha : Answered s) (hw : Wired s)
    (h : step s a = some t) : Answered t := by
  cases hstop : ofStop a with
  | false =>
    have hq := step_quiet hw hstop h
    constructor
    · intro i hi
      rw [hq.stop, hq.drained]
      exact ha.cancelled i (hq.cancelled ▸ hi)
    · intro i hi
      rw [hq.cancelled]
      exact ha.drained i ((hq.drained i).mp hi)
  | true =>
    obtain ⟨hawait, hcancelled, hdrained⟩ |
      ⟨j, i, -, -, hcancelled, hbefore, hafter, hothers, hdrained⟩ |
      ⟨j, i, hbefore, hafter, hothers, hcancelled, hdone, hdrained⟩ := stop_step_effect hw hstop h
    · constructor
      · intro k hk
        simp only [hawait, hdrained]
        exact ha.cancelled k (hcancelled ▸ hk)
      · intro k hk
        rw [hcancelled]
        exact ha.drained k ((hdrained k).mp hk)
    · constructor
      · intro k hk
        by_cases hki : k = i
        · subst hki
          exact .inl ⟨j, hafter⟩
        · rw [hcancelled, Function.update_of_ne hki] at hk
          rw [hdrained]
          refine (ha.cancelled k hk).imp_left ?_
          rintro ⟨l, hl⟩
          have hlj : l ≠ j := by
            rintro rfl
            rw [hbefore] at hl
            cases hl
          exact ⟨l, by rw [hothers l hlj, hl]⟩
      · intro k hk
        rw [hcancelled]
        by_cases hki : k = i
        · rw [hki, Function.update_self]
        · rw [Function.update_of_ne hki]
          exact ha.drained k ((hdrained k).mp hk)
    · constructor
      · intro k hk
        by_cases hki : k = i
        · subst hki
          exact .inr hdone
        · rw [hdrained k hki]
          refine (ha.cancelled k (hcancelled ▸ hk)).imp_left ?_
          rintro ⟨l, hl⟩
          have hlj : l ≠ j := by
            rintro rfl
            exact hki (Option.some.inj (hl.symm.trans hbefore))
          exact ⟨l, by rw [hothers l hlj, hl]⟩
      · intro k hk
        rw [hcancelled]
        by_cases hki : k = i
        · subst hki
          exact hw.cancelled_of_awaits hbefore
        · exact ha.drained k ((hdrained k hki).mp hk)

theorem answered_of_run {s : State} {as : List Action} (h : run step initial as = some s) :
    Answered s :=
  (run_invariant (P := fun s => Wired s ∧ Answered s)
    (fun _ _ _ hs h => ⟨hs.1.step h, hs.2.step hs.1 h⟩) ⟨wired_initial, answered_initial⟩ h).2

/-- Each done value has at most one waiting Stop, and none once it is taken. -/
structure Sole (s : State) : Prop where
  unique : ∀ j k i, awaits (s.stop j) = some i → awaits (s.stop k) = some i → j = k
  untaken : ∀ j i, awaits (s.stop j) = some i → ¬ Drained s i

theorem Sole.step {s t : State} {a : Action} (hs : Sole s) (hw : Wired s) (ha : Answered s)
    (hfresh : CapturesFresh s a) (h : step s a = some t) : Sole t := by
  cases hstop : ofStop a with
  | false =>
    have hq := step_quiet hw hstop h
    constructor
    · rw [hq.stop]
      exact hs.unique
    · intro j i hj
      rw [hq.stop] at hj
      rw [hq.drained]
      exact hs.untaken j i hj
  | true =>
    obtain ⟨hawait, hcancelled, hdrained⟩ |
      ⟨j, i, rfl, hsocket, hcancelled, hbefore, hafter, hothers, hdrained⟩ |
      ⟨j, i, hbefore, hafter, hothers, hcancelled, hdone, hdrained⟩ := stop_step_effect hw hstop h
    · constructor
      · intro j k i hj hk
        rw [hawait] at hj hk
        exact hs.unique j k i hj hk
      · intro j i hj
        rw [hawait] at hj
        rw [hdrained]
        exact hs.untaken j i hj
    · have hnew : s.cancelled i = false := hfresh i hsocket
      have hold {k l : ℕ} (hk : awaits (t.stop k) = some l) (hkj : k ≠ j) :
          awaits (s.stop k) = some l ∧ l ≠ i := by
        rw [hothers k hkj] at hk
        refine ⟨hk, ?_⟩
        rintro rfl
        rw [hw.cancelled_of_awaits hk] at hnew
        cases hnew
      constructor
      · intro k l m hk hl
        by_cases hkj : k = j <;> by_cases hlj : l = j
        · exact hkj.trans hlj.symm
        · rw [hkj, hafter] at hk
          exact absurd (Option.some.inj hk).symm (hold hl hlj).2
        · rw [hlj, hafter] at hl
          exact absurd (Option.some.inj hl).symm (hold hk hkj).2
        · exact hs.unique k l m (hold hk hkj).1 (hold hl hlj).1
      · intro k m hk
        rw [hdrained]
        by_cases hkj : k = j
        · rw [hkj, hafter] at hk
          obtain rfl : i = m := Option.some.inj hk
          intro hd
          rw [ha.drained i hd] at hnew
          cases hnew
        · exact hs.untaken k m (hold hk hkj).1
    · have hold {k l : ℕ} (hk : awaits (t.stop k) = some l) :
          k ≠ j ∧ awaits (s.stop k) = some l := by
        have hkj : k ≠ j := by
          rintro rfl
          rw [hafter] at hk
          cases hk
        exact ⟨hkj, by rw [← hothers k hkj, hk]⟩
      constructor
      · exact fun k l m hk hl => hs.unique k l m (hold hk).2 (hold hl).2
      · intro k m hk
        obtain ⟨hkj, hk⟩ := hold hk
        have hmi : m ≠ i := by
          rintro rfl
          exact hkj (hs.unique k j m hk hbefore)
        rw [hdrained m hmi]
        exact hs.untaken k m hk

theorem sole_of_run {s : State} {as : List Action} (hrun : run step initial as = some s)
    (hfresh : Meets step CapturesFresh initial as) : Sole s := by
  have hinit : Sole initial := by
    constructor
    · intro j k i hj
      cases hj
    · intro j i hj
      cases hj
  exact (run_invariant_of_meets (P := fun s => Wired s ∧ Answered s ∧ Sole s)
    (fun _ _ _ hs hC h => ⟨hs.1.step h, hs.2.1.step hs.1 h, hs.2.2.step hs.1 hs.2.1 hC h⟩)
    ⟨wired_initial, answered_initial, hinit⟩ hfresh hrun).2.2

/-- The pump can get to the return of `Echo` without any other party moving. -/
def EchoReturns (s : State) (i : ℕ) : Prop :=
  ∃ t err, Reaches step s t ∧ t.pump i = .closing err ∧ t.stop = s.stop ∧ t.channel = s.channel

theorem select_returns {s : State} {i : ℕ} (hp : s.pump i = .select)
    (hcancelled : s.cancelled i = true) : EchoReturns s i :=
  ⟨setPump s i (.closing .canceled), .canceled,
    .single (a := .pumpSelect i) (by simp [step, pumpSelect, hp, hcancelled]),
    Function.update_self .., rfl, rfl⟩

theorem writing_returns {s : State} {i n : ℕ} (hp : s.pump i = .writing n) : EchoReturns s i :=
  ⟨setPump s i (.closing .write), .write,
    .single (a := .pumpWrite i false) (by simp [step, pumpWrite, hp]),
    Function.update_self .., rfl, rfl⟩

theorem EchoReturns.head {s t : State} {i : ℕ} {a : Action} (h : step s a = some t)
    (hstop : t.stop = s.stop) (hchannel : t.channel = s.channel) (ht : EchoReturns t i) :
    EchoReturns s i := by
  obtain ⟨u, err, hreach, hp, hu, hc⟩ := ht
  exact ⟨u, err, .head h hreach, hp, hu.trans hstop, hc.trans hchannel⟩

/-- From inside `Echo` a cancelled pump can always get to the return of `Echo`. -/
theorem echo_returns {s : State} {i : ℕ} (hecho : inEcho (s.pump i) = true)
    (hcancelled : s.cancelled i = true) : EchoReturns s i := by
  cases hp : s.pump i with
  | select => exact select_returns hp hcancelled
  | reading =>
    exact ⟨setPump s i (.closing .read), .read,
      .single (a := .pumpRead i none) (by simp [step, pumpRead, hp]),
      Function.update_self .., rfl, rfl⟩
  | countIn n =>
    have hcount : step s (.pumpCountIn i) = some { setPump s i (.writing n) with
        bridge := s.bridge.countIn n } := by
      simp [step, pumpCountIn, hp]
    exact .head hcount rfl rfl (writing_returns (n := n) (Function.update_self ..))
  | writing n => exact writing_returns hp
  | countOut n =>
    have hcount : step s (.pumpCountOut i) = some { setPump s i .select with
        bridge := s.bridge.countOut n } := by
      simp [step, pumpCountOut, hp]
    exact .head hcount rfl rfl (select_returns (Function.update_self ..) hcancelled)
  | _ => rw [hp] at hecho; cases hecho

/-- The done value of bridge `i` can be made available without any Stop moving. -/
def CanSend (s : State) (i : ℕ) : Prop :=
  ∃ t, Reaches step s t ∧ t.channel i ≠ none ∧ t.stop = s.stop

theorem sending_canSend {s : State} {i : ℕ} {err : EchoError} (hp : s.pump i = .sending err)
    (hempty : s.channel i = none) : CanSend s i :=
  ⟨{ setPump s i (.clearing err) with channel := Function.update s.channel i (some err) },
    .single (a := .pumpSend i) (by simp [step, pumpSend, hp, hempty]), by simp, rfl⟩

theorem closing_canSend {s : State} {i : ℕ} {err : EchoError} (hp : s.pump i = .closing err)
    (hempty : s.channel i = none) : CanSend s i := by
  have hclose : step s (.pumpClose i) = some { setPump s i (.sending err) with
      closed := Function.update s.closed i true } := by
    simp [step, pumpClose, hp]
  obtain ⟨t, hreach, hfull, hstop⟩ := sending_canSend
    (s := { setPump s i (.sending err) with closed := Function.update s.closed i true })
    (Function.update_self ..) hempty
  exact ⟨t, .head hclose hreach, hfull, hstop⟩

theorem echo_canSend {s : State} {i : ℕ} (hecho : inEcho (s.pump i) = true)
    (hcancelled : s.cancelled i = true) (hempty : s.channel i = none) : CanSend s i := by
  obtain ⟨t, err, hreach, hp, hstop, hchannel⟩ := echo_returns hecho hcancelled
  obtain ⟨u, hreach', hfull, hstop'⟩ := closing_canSend hp (by rw [hchannel, hempty])
  exact ⟨u, hreach.trans hreach', hfull, hstop'.trans hstop⟩

/-- A cancelled and issued bridge whose value has not been taken can still deliver it. -/
theorem canSend_of_wired {s : State} {i : ℕ} (hw : Wired s) (hissued : Issued s i)
    (hcancelled : s.cancelled i = true) (hdrained : ¬ Drained s i) : CanSend s i := by
  by_cases hempty : s.channel i = none
  · cases hp : s.pump i with
    | absent =>
      have hspawn : s.start i = .spawning := by
        refine hissued.resolve_right fun hret => ?_
        exact (hw.spawned i).mpr hret hp
      have htail : step s (.startTail i) = some { s with
          pump := Function.update s.pump i .select
          start := Function.update s.start i (.returned .ok) } := by
        simp [step, startTail, hspawn]
      obtain ⟨t, hreach, hfull, hstop⟩ := echo_canSend (i := i)
        (s := { s with
          pump := Function.update s.pump i .select
          start := Function.update s.start i (.returned .ok) })
        (by simp [inEcho]) hcancelled hempty
      exact ⟨t, .head htail hreach, hfull, hstop⟩
    | closing err => exact closing_canSend hp hempty
    | sending err => exact sending_canSend hp hempty
    | clearing err => exact absurd ⟨by rw [hp]; rfl, hempty⟩ hdrained
    | exited => exact absurd ⟨by rw [hp]; rfl, hempty⟩ hdrained
    | _ => exact echo_canSend (by rw [hp]; rfl) hcancelled hempty
  · exact ⟨s, .refl s, hempty, rfl⟩

/-- Some continuation of the run returns the Stop call with status OK. -/
def CanReturn (s : State) (j : ℕ) : Prop :=
  ∃ t, Reaches step s t ∧ t.stop j = .returned .ok

theorem clearing_canReturn {s : State} {j i : ℕ} (hj : s.stop j = .clearing i) :
    CanReturn s j :=
  ⟨{ s with
      bridge := { s.bridge.unregister with error := clearErrorLocked }
      stop := Function.update s.stop j (.returned .ok) },
    .single (a := .stopClear j) (by simp [step, stopClear, hj]), Function.update_self ..⟩

theorem full_canReturn {s : State} {j i d : ℕ} (hj : s.stop j = .receiving i d)
    (hfull : s.channel d ≠ none) : CanReturn s j := by
  obtain ⟨err, herr⟩ := Option.ne_none_iff_exists'.mp hfull
  have hreceive : step s (.stopReceive j) = some { s with
      channel := Function.update s.channel d none
      stop := Function.update s.stop j (.clearing i) } := by
    simp [step, stopReceive, hj, herr]
  obtain ⟨t, hreach, ht⟩ := clearing_canReturn (j := j) (i := i)
    (s := { s with
      channel := Function.update s.channel d none
      stop := Function.update s.stop j (.clearing i) }) (Function.update_self ..)
  exact ⟨t, .head hreceive hreach, ht⟩

theorem receiving_canReturn {s : State} {j i d : ℕ} (hw : Wired s)
    (hj : s.stop j = .receiving i d) (hdrained : ¬ Drained s i) : CanReturn s j := by
  obtain ⟨rfl, hcancelled, -, hissued⟩ := hw.receiving j i d hj
  obtain ⟨t, hreach, hfull, hstop⟩ := canSend_of_wired hw hissued hcancelled hdrained
  obtain ⟨u, hreach', hu⟩ := full_canReturn (by rw [hstop]; exact hj) hfull
  exact ⟨u, hreach.trans hreach', hu⟩

theorem closing_canReturn {s : State} {j i : ℕ} {d : Option ℕ} (hw : Wired s)
    (hj : s.stop j = .closing i d) (hdrained : ¬ Drained s i) : CanReturn s j := by
  obtain ⟨rfl, -, -⟩ := hw.closing j i d hj
  have hclose : step s (.stopClose j) = some { s with
      closed := Function.update s.closed i true
      stop := Function.update s.stop j (.receiving i i) } := by
    simp [step, stopClose, hj]
  obtain ⟨t, hreach, ht⟩ := receiving_canReturn (j := j) (i := i) (d := i) (hw.step hclose)
    (Function.update_self ..) hdrained
  exact ⟨t, .head hclose hreach, ht⟩

theorem Sole.canReturn {s : State} {j : ℕ} (hs : Sole s) (hw : Wired s)
    (hj : ∃ i, awaits (s.stop j) = some i ∨ s.stop j = .clearing i) : CanReturn s j := by
  cases hstop : s.stop j with
  | closing i d => exact closing_canReturn hw hstop (hs.untaken j i (by rw [hstop]; rfl))
  | receiving i d => exact receiving_canReturn hw hstop (hs.untaken j i (by rw [hstop]; rfl))
  | clearing i => exact clearing_canReturn hstop
  | ready => rw [hstop] at hj; simp [awaits] at hj
  | returned c => rw [hstop] at hj; simp [awaits] at hj

theorem Sole.not_stranded {s : State} {j : ℕ} (hs : Sole s) (hw : Wired s) :
    stranded s j = false := by
  cases hstop : s.stop j with
  | receiving i d =>
    obtain ⟨rfl, -, -, -⟩ := hw.receiving j i d hstop
    have huntaken := hs.untaken j d (by rw [hstop]; rfl)
    by_contra hne
    simp only [stranded, hstop, Bool.not_eq_false, Bool.and_eq_true, beq_iff_eq] at hne
    exact huntaken ⟨hne.2, hne.1⟩
  | _ => simp [stranded, hstop]

/-- With the done value taken, a Stop that captured the bridge strands as soon as it has closed
the socket. -/
theorem drained_strands {s : State} {j i : ℕ} (hj : s.stop j = .closing i (some i))
    (hd : Drained s i) : ∃ t, Reaches step s t ∧ stranded t j = true := by
  refine ⟨{ s with
      closed := Function.update s.closed i true
      stop := Function.update s.stop j (.receiving i i) },
    .single (a := .stopClose j) (by simp [step, stopClose, hj]), ?_⟩
  simp [stranded, hd.1, hd.2]

/-- Another waiting Stop can take the value, whichever of its two waiting phases it is in. -/
theorem awaiting_reaches_drained {s : State} {i k : ℕ} (hw : Wired s)
    (hk : awaits (s.stop k) = some i) (hd : ¬ Drained s i) :
    ∃ t, Reaches step s t ∧ Drained t i ∧ ∀ j, j ≠ k → t.stop j = s.stop j := by
  have hreceiving {s : State} (hw : Wired s) (hk : s.stop k = .receiving i i)
      (hd : ¬ Drained s i) :
      ∃ t, Reaches step s t ∧ Drained t i ∧ ∀ j, j ≠ k → t.stop j = s.stop j := by
    obtain ⟨-, hcancelled, -, hissued⟩ := hw.receiving k i i hk
    obtain ⟨t, hreach, hfull, hstop⟩ := canSend_of_wired hw hissued hcancelled hd
    have hwt : Wired t := by
      obtain ⟨as, has⟩ := hreach
      exact run_invariant (fun _ _ _ hw h => hw.step h) hw has
    obtain ⟨err, herr⟩ := Option.ne_none_iff_exists'.mp hfull
    refine ⟨{ t with
        channel := Function.update t.channel i none
        stop := Function.update t.stop k (.clearing i) },
      hreach.trans (.single (a := .stopReceive k) ?_), ⟨hwt.channel i hfull, by simp⟩, ?_⟩
    · simp [step, stopReceive, hstop, hk, herr]
    · intro j hj
      rw [← hstop]
      exact Function.update_of_ne hj ..
  cases hstop : s.stop k with
  | closing l d =>
    rw [hstop] at hk
    obtain rfl : l = i := Option.some.inj hk
    obtain ⟨rfl, -, -⟩ := hw.closing k l d hstop
    have hclose : step s (.stopClose k) = some { s with
        closed := Function.update s.closed l true
        stop := Function.update s.stop k (.receiving l l) } := by
      simp [step, stopClose, hstop]
    obtain ⟨t, hreach, hdt, hothers⟩ :=
      hreceiving (hw.step hclose) (Function.update_self ..) hd
    refine ⟨t, .head hclose hreach, hdt, fun j hj => ?_⟩
    rw [hothers j hj]
    exact Function.update_of_ne hj ..
  | receiving l d =>
    rw [hstop] at hk
    obtain rfl : l = i := Option.some.inj hk
    obtain ⟨rfl, -, -, -⟩ := hw.receiving k l d hstop
    exact hreceiving hw hstop hd
  | _ => rw [hstop] at hk; cases hk

/-- Capturing a bridge that another Stop has cancelled leads to a stranded receiver. -/
theorem second_capture_strands {s : State} {j i : ℕ} (hw : Wired s) (ha : Answered s)
    (hj : s.stop j = .ready) (hsocket : s.bridge.socket = some i)
    (hcancelled : s.cancelled i = true) :
    ∃ t u, step s (.stopLocked j) = some t ∧ Reaches step t u ∧ stranded u j = true := by
  obtain ⟨hr, -⟩ := hw.registered i hsocket
  have hlock : step s (.stopLocked j) = some { s with
      cancelled := Function.update s.cancelled i true
      stop := Function.update s.stop j (.closing i (some i)) } := by
    simp [step, stopLocked, hj, hsocket, hr.cancel, hr.done]
  by_cases hd : Drained s i
  · obtain ⟨u, hreach, hu⟩ := drained_strands (j := j) (i := i)
      (s := { s with
        cancelled := Function.update s.cancelled i true
        stop := Function.update s.stop j (.closing i (some i)) }) (Function.update_self ..) hd
    exact ⟨_, u, hlock, hreach, hu⟩
  · obtain ⟨k, hk⟩ := (ha.cancelled i hcancelled).resolve_right hd
    have hkj : j ≠ k := by
      rintro rfl
      rw [hj] at hk
      cases hk
    obtain ⟨t, hreach, hdt, hothers⟩ := awaiting_reaches_drained (k := k) (hw.step hlock)
      (by simpa [hkj.symm] using hk) hd
    obtain ⟨u, hreach', hu⟩ := drained_strands (j := j)
      (by rw [hothers j hkj]; exact Function.update_self ..) hdt
    exact ⟨_, u, hlock, hreach.trans hreach', hu⟩

/-- In every run whose Stops capture only bridges that no other Stop has cancelled, no Stop is
stranded on its done channel and each one that captured a bridge can still return. The
condition is exact: capturing a cancelled bridge leads to a stranded Stop. -/
theorem stop_never_stranded {as : List Action} {s : State}
    (hrun : run step initial as = some s) :
    (Meets step CapturesFresh initial as → ∀ j, stranded s j = false ∧
      ((∃ i, awaits (s.stop j) = some i ∨ s.stop j = .clearing i) →
        ∃ t, Reaches step s t ∧ t.stop j = .returned .ok)) ∧
    (∀ j, s.stop j = .ready → ¬ CapturesFresh s (.stopLocked j) →
      ∃ t u, step s (.stopLocked j) = some t ∧ Reaches step t u ∧ stranded u j = true) := by
  have hw := wired_of_run hrun
  constructor
  · intro hfresh j
    have hs := sole_of_run hrun hfresh
    exact ⟨hs.not_stranded hw, hs.canReturn hw⟩
  · intro j hj hnot
    simp only [CapturesFresh, capturedBridge, Option.mem_def, not_forall,
      Bool.not_eq_false] at hnot
    obtain ⟨i, hsocket, hcancelled⟩ := hnot
    exact second_capture_strands hw (answered_of_run hrun) hj hsocket hcancelled

def waitingRun : List Action :=
  [.startOpen 0 true, .startLocked 0, .startTail 0, .pumpSelect 0, .stopLocked 0, .stopClose 0]

theorem stop_never_stranded_waiting :
    ∃ t, Reaches step ((run step initial waitingRun).get (by decide)) t ∧
      t.stop 0 = .returned .ok :=
  (((stop_never_stranded (Option.some_get (by decide)).symm).1 (by decide) 0).2
    ⟨0, by decide⟩)

/-- Two Stops capture the same bridge; the first takes the only done value. -/
def doubleStopRun : List Action :=
  [.startOpen 0 true, .startLocked 0, .startTail 0, .stopLocked 0, .stopLocked 1, .stopClose 0,
    .stopClose 1, .pumpSelect 0, .pumpClose 0, .pumpSend 0, .stopReceive 0, .pumpClear 0]

theorem double_stop_stranded :
    ¬ ∀ as s, run step initial as = some s → ∀ j, stranded s j = false := by
  intro h
  have hfree := h doubleStopRun _ (Option.some_get (by decide)).symm 1
  exact absurd hfree (by decide)

end FoloXray.PacketBridge
