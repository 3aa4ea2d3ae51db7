import Mathlib.Algebra.Order.Group.Defs
import Mathlib.Algebra.Order.Group.Basic
import Mathlib.Data.List.Perm.Basic
import Mathlib.Tactic.Abel

/-!
# Shared probes

A probe costs much, so its last value is kept for a while, and whoever asks while an evaluation is
under way shares it. Whatever the order in which callers ask and evaluations settle, no two
evaluations overlap, a later one starts only when the value before has aged, and every caller gets
a value that is young enough, or that of the evaluation it waited for.

## Main definitions

* `SharedProbe`: the kept value and the evaluation under way;
* `SharedProbe.step`: what a call, a settled evaluation and its end do, and what is logged of it;
* `SharedProbe.Reached`: the states that are reached under a clock that does not go back.

## Main results

* `Reached.invariant`: what holds of every state and of its log;
* `ProbeInvariant.load`: how many evaluations there are in a time.
-/

namespace Interaction

/-! ## The probe -/

section Definitions

variable (ι σ ε τ : Type)

/-- A value that is kept: the evaluation it is of, and when it came. -/
structure KeptValue where
  turn : ℕ
  value : ε
  time : τ

/-- An evaluation under way. -/
structure Flight where
  turn : ℕ
  /-- What it came to, when it has settled. -/
  outcome : Option (Except σ ε)
  /-- Who waits for it, and since when. -/
  waiting : List (ι × τ)

/-- A shared probe. -/
structure SharedProbe where
  /-- The evaluations that were started. -/
  turns : ℕ
  kept : Option (KeptValue ε τ)
  flight : Option (Flight ι σ ε τ)

/-- What happens to a probe. -/
inductive ProbeEvent
  | called (i : ι) (now : τ)
  | settled (outcome : Except σ ε) (now : τ)
  /-- The settled evaluation is let go, and those who wait for it are answered. -/
  | cleared (now : τ)

/-- What is logged of a probe. -/
inductive ProbeEntry
  | called (i : ι) (now : τ)
  | started (turn : ℕ) (now : τ)
  | settled (turn : ℕ) (outcome : Except σ ε) (now : τ)
  | cleared (turn : ℕ) (now : τ)
  /-- The answer to a call at `asked`, from an evaluation. -/
  | answered (i : ι) (asked : τ) (turn : ℕ) (outcome : Except σ ε)

end Definitions

variable {ι σ ε τ : Type}

/-- When an event happens. -/
def ProbeEvent.time : ProbeEvent ι σ ε τ → τ
  | .called _ now => now
  | .settled _ now => now
  | .cleared now => now

namespace SharedProbe

/-- Nothing is kept, and nothing is under way. -/
def initial : SharedProbe ι σ ε τ := ⟨0, none, none⟩

section Step

variable [AddCommGroup τ] [LinearOrder τ] (ttl : τ)

/-- The kept value, while it is young enough. -/
def young (probe : SharedProbe ι σ ε τ) (now : τ) : Option (KeptValue ε τ) :=
  probe.kept.filter fun kept => now - kept.time < ttl

/-- Someone asks. -/
def call (probe : SharedProbe ι σ ε τ) (i : ι) (now : τ) :
    SharedProbe ι σ ε τ × List (ProbeEntry ι σ ε τ) :=
  match probe.young ttl now with
  | some kept => (probe, [.called i now, .answered i now kept.turn (.ok kept.value)])
  | none =>
    match probe.flight with
    | some flight =>
      ({ probe with flight := some { flight with waiting := flight.waiting ++ [(i, now)] } },
        [.called i now])
    | none =>
      ({ probe with turns := probe.turns + 1, flight := some ⟨probe.turns, none, [(i, now)]⟩ },
        [.called i now, .started probe.turns now])

/-- The value of an evaluation is kept; what failed leaves the one before. -/
def keep (probe : SharedProbe ι σ ε τ) (turn : ℕ) (outcome : Except σ ε) (now : τ) :
    Option (KeptValue ε τ) :=
  match outcome with
  | .ok value => some ⟨turn, value, now⟩
  | .error _ => probe.kept

/-- A step of the probe. -/
def step (probe : SharedProbe ι σ ε τ) :
    ProbeEvent ι σ ε τ → Option (SharedProbe ι σ ε τ × List (ProbeEntry ι σ ε τ))
  | .called i now => some (probe.call ttl i now)
  | .settled outcome now =>
    match probe.flight with
    | some ⟨turn, none, waiting⟩ =>
      some ({ probe with
          kept := probe.keep turn outcome now
          flight := some ⟨turn, some outcome, waiting⟩ },
        [.settled turn outcome now])
    | _ => none
  | .cleared now =>
    match probe.flight with
    | some ⟨turn, some outcome, waiting⟩ =>
      some ({ probe with flight := none },
        .cleared turn now :: waiting.map fun caller => .answered caller.1 caller.2 turn outcome)
    | _ => none

/-- The probe is reached, with its log, at a time. -/
inductive Reached : SharedProbe ι σ ε τ → List (ProbeEntry ι σ ε τ) → τ → Prop
  | initial (now : τ) : Reached initial [] now
  | step {probe next : SharedProbe ι σ ε τ} {log entries : List (ProbeEntry ι σ ε τ)} {now : τ}
      {event : ProbeEvent ι σ ε τ} (before : Reached probe log now) (later : now ≤ event.time)
      (stepped : probe.step ttl event = some (next, entries)) :
      Reached next (log ++ entries) event.time

/-- The steps of events, one after the other. -/
def run (probe : SharedProbe ι σ ε τ) :
    List (ProbeEvent ι σ ε τ) → Option (SharedProbe ι σ ε τ × List (ProbeEntry ι σ ε τ))
  | [] => some (probe, [])
  | event :: events => do
    let (next, entries) ← probe.step ttl event
    let (last, more) ← next.run events
    return (last, entries ++ more)

variable {ttl}

/-- What a run of events reaches, when the clock does not go back. -/
theorem Reached.run {probe last : SharedProbe ι σ ε τ} {log more : List (ProbeEntry ι σ ε τ)}
    {now : τ} {events : List (ProbeEvent ι σ ε τ)} (h : Reached ttl probe log now)
    (hclock : (now :: events.map ProbeEvent.time).Pairwise (· ≤ ·))
    (hrun : probe.run ttl events = some (last, more)) :
    Reached ttl last (log ++ more) ((events.map ProbeEvent.time).getLastD now) := by
  induction events generalizing probe log more now with
  | nil =>
    cases hrun
    rw [List.append_nil]
    exact h
  | cons event events ih =>
    obtain ⟨⟨next, entries⟩, hstep, hrun⟩ := Option.bind_eq_some_iff.mp hrun
    obtain ⟨⟨reached, rest⟩, hrest, hlast⟩ := Option.bind_eq_some_iff.mp hrun
    cases hlast
    have hnext := h.step ((List.pairwise_cons.mp hclock).1 _ List.mem_cons_self) hstep
    rw [← List.append_assoc, List.map_cons, List.getLastD_cons]
    exact ih hnext (List.pairwise_cons.mp hclock).2 hrest

/-- A step logs that an evaluation settles when it does. -/
theorem settled_of_step {probe next : SharedProbe ι σ ε τ} {entries : List (ProbeEntry ι σ ε τ)}
    {event : ProbeEvent ι σ ε τ} (h : probe.step ttl event = some (next, entries)) {turn : ℕ}
    {outcome : Except σ ε} {time : τ} (hmem : .settled turn outcome time ∈ entries) :
    event = .settled outcome time := by
  unfold step at h
  split at h
  · unfold call at h
    split at h
    · cases h
      simp at hmem
    · split at h
      · cases h
        simp at hmem
      · cases h
        simp at hmem
  · split at h
    · cases h
      cases List.mem_singleton.mp hmem
      rfl
    · cases h
  · split at h
    · cases h
      simp at hmem
    · cases h

/-- What settles in a run is an event of it. -/
theorem settled_of_run {probe last : SharedProbe ι σ ε τ} {log : List (ProbeEntry ι σ ε τ)}
    {events : List (ProbeEvent ι σ ε τ)} (h : probe.run ttl events = some (last, log)) {turn : ℕ}
    {outcome : Except σ ε} {time : τ} (hmem : .settled turn outcome time ∈ log) :
    .settled outcome time ∈ events := by
  induction events generalizing probe log with
  | nil =>
    cases h
    cases hmem
  | cons event events ih =>
    obtain ⟨⟨next, entries⟩, hstep, h⟩ := Option.bind_eq_some_iff.mp h
    obtain ⟨⟨reached, rest⟩, hrest, hlast⟩ := Option.bind_eq_some_iff.mp h
    cases hlast
    rcases List.mem_append.mp hmem with hmem | hmem
    · exact settled_of_step hstep hmem ▸ List.mem_cons_self
    · exact List.mem_cons_of_mem _ (ih hrest hmem)

end Step

end SharedProbe

/-! ## What holds of every log -/

section Log

/-- The calls of a log. -/
def callsOf (log : List (ProbeEntry ι σ ε τ)) : List (ι × τ) :=
  log.filterMap fun
    | .called i now => some (i, now)
    | _ => none

/-- The calls that a log answers. -/
def answeredOf (log : List (ProbeEntry ι σ ε τ)) : List (ι × τ) :=
  log.filterMap fun
    | .answered i asked _ _ => some (i, asked)
    | _ => none

/-- Who waits. -/
def SharedProbe.waiting (probe : SharedProbe ι σ ε τ) : List (ι × τ) :=
  (probe.flight.map Flight.waiting).getD []

variable [AddCommGroup τ] [LinearOrder τ]

/-- The states and logs that keep the promises of a probe. -/
structure ProbeInvariant (ttl : τ) (probe : SharedProbe ι σ ε τ)
    (log : List (ProbeEntry ι σ ε τ)) (now : τ) : Prop where
  /-- The evaluation under way is the last that was started. -/
  flight : ∀ flight, probe.flight = some flight → flight.turn + 1 = probe.turns ∧
    (∃ start ≤ now, .started flight.turn start ∈ log) ∧
    (∀ outcome, flight.outcome = some outcome → ∃ time, .settled flight.turn outcome time ∈ log) ∧
    ∀ caller ∈ flight.waiting, caller.2 ≤ now
  started : ∀ turn start, .started turn start ∈ log → turn < probe.turns
  settled : ∀ turn outcome time, .settled turn outcome time ∈ log →
    time ≤ now ∧ ∃ start ≤ time, .started turn start ∈ log
  /-- What is not under way was let go. -/
  landed : ∀ turn, turn < probe.turns →
    (∀ flight, probe.flight = some flight → flight.turn ≠ turn) →
    (∃ time ≤ now, .cleared turn time ∈ log) ∧ ∃ outcome time, .settled turn outcome time ∈ log
  /-- No two evaluations overlap. -/
  apart : ∀ turn later start, turn < later → .started later start ∈ log →
    (∃ time ≤ start, .cleared turn time ∈ log) ∧ ∃ outcome time, .settled turn outcome time ∈ log
  /-- The kept value is the last one that came. -/
  kept : ∀ kept, probe.kept = some kept → .settled kept.turn (.ok kept.value) kept.time ∈ log
  youngest : ∀ turn value time, .settled turn (.ok value) time ∈ log →
    ∃ kept, probe.kept = some kept ∧ time ≤ kept.time
  /-- An evaluation starts when the values before have aged. -/
  spaced : ∀ turn value time later start, turn < later → .settled turn (.ok value) time ∈ log →
    .started later start ∈ log → ttl ≤ start - time
  /-- An answer is young enough, or that of the evaluation that was waited for. -/
  fresh : ∀ i asked turn outcome, .answered i asked turn outcome ∈ log →
    ∃ time, .settled turn outcome time ∈ log ∧
      ((∃ value, outcome = .ok value) ∧ asked - time < ttl ∨
        ∃ cleared, .cleared turn cleared ∈ log ∧ asked ≤ cleared)
  /-- Every call is answered once, or waits. -/
  answered : (callsOf log).Perm (answeredOf log ++ probe.waiting)

end Log

/-! ## Steps -/

/-- A call or an answer says nothing of an evaluation. -/
def ProbeEntry.IsQuiet : ProbeEntry ι σ ε τ → Prop
  | .called _ _ => True
  | .answered _ _ _ _ => True
  | _ => False

/-- What a log says of evaluations is not changed by calls and answers. -/
theorem mem_append_quiet {log entries : List (ProbeEntry ι σ ε τ)}
    (hquiet : ∀ entry ∈ entries, entry.IsQuiet) {entry : ProbeEntry ι σ ε τ}
    (hentry : ¬ entry.IsQuiet) : entry ∈ log ++ entries ↔ entry ∈ log := by
  rw [List.mem_append, or_iff_left]
  exact fun hmem => hentry (hquiet entry hmem)

section Steps

variable [AddCommGroup τ] [LinearOrder τ] {ttl now : τ}
  {probe : SharedProbe ι σ ε τ} {log : List (ProbeEntry ι σ ε τ)}

/-- Time passes. -/
theorem ProbeInvariant.later (h : ProbeInvariant ttl probe log now) {next : τ} (hle : now ≤ next) :
    ProbeInvariant ttl probe log next where
  flight flight hflight := by
    obtain ⟨hturn, ⟨start, hstart, hmem⟩, houtcome, hwaiting⟩ := h.flight flight hflight
    exact ⟨hturn, ⟨start, hstart.trans hle, hmem⟩, houtcome,
      fun caller hcaller => (hwaiting caller hcaller).trans hle⟩
  started := h.started
  settled turn outcome time hmem :=
    ⟨(h.settled turn outcome time hmem).1.trans hle, (h.settled turn outcome time hmem).2⟩
  landed turn hturn hnot := by
    obtain ⟨⟨time, htime, hmem⟩, hsettled⟩ := h.landed turn hturn hnot
    exact ⟨⟨time, htime.trans hle, hmem⟩, hsettled⟩
  apart := h.apart
  kept := h.kept
  youngest := h.youngest
  spaced := h.spaced
  fresh := h.fresh
  answered := h.answered

/-- Nothing has happened yet. -/
theorem probeInvariant_initial : ProbeInvariant ttl (.initial : SharedProbe ι σ ε τ) [] now where
  flight _ h := by cases h
  started _ _ h := by cases h
  settled _ _ _ h := by cases h
  landed _ h := by cases h
  apart _ _ _ _ h := by cases h
  kept _ h := by cases h
  youngest _ _ _ h := by cases h
  spaced _ _ _ _ _ _ h := by cases h
  fresh _ _ _ _ h := by cases h
  answered := .nil

/-- What a young value is. -/
theorem young_eq_some {kept : KeptValue ε τ} (h : probe.young ttl now = some kept) :
    probe.kept = some kept ∧ now - kept.time < ttl := by
  unfold SharedProbe.young at h
  obtain ⟨hkept, hyoung⟩ := Option.filter_eq_some_iff.mp h
  exact ⟨hkept, by simpa using hyoung⟩

/-- Without a young value, the kept one has aged. -/
theorem aged_of_young_eq_none (h : probe.young ttl now = none) {kept : KeptValue ε τ}
    (hkept : probe.kept = some kept) : ttl ≤ now - kept.time := by
  unfold SharedProbe.young at h
  rw [hkept, Option.filter_eq_none_iff] at h
  simpa using h kept rfl

/-- Calls and answers keep the promises, where the answers are fresh and only who waits changes. -/
theorem ProbeInvariant.quiet (h : ProbeInvariant ttl probe log now)
    {next : SharedProbe ι σ ε τ} {entries : List (ProbeEntry ι σ ε τ)}
    (hturns : next.turns = probe.turns) (hkept : next.kept = probe.kept)
    (hflight : next.flight = probe.flight ∨ ∃ flight waiting, probe.flight = some flight ∧
      next.flight = some { flight with waiting := waiting } ∧ ∀ caller ∈ waiting, caller.2 ≤ now)
    (hquiet : ∀ entry ∈ entries, entry.IsQuiet)
    (hfresh : ∀ i asked turn outcome, .answered i asked turn outcome ∈ entries →
      ∃ time, .settled turn outcome time ∈ log ∧
        ((∃ value, outcome = .ok value) ∧ asked - time < ttl ∨
          ∃ cleared, .cleared turn cleared ∈ log ∧ asked ≤ cleared))
    (hanswered : (callsOf (log ++ entries)).Perm (answeredOf (log ++ entries) ++ next.waiting)) :
    ProbeInvariant ttl next (log ++ entries) now := by
  have hstarted : ∀ turn time, .started turn time ∈ log ++ entries ↔ .started turn time ∈ log :=
    fun turn time => mem_append_quiet hquiet not_false
  have hsettled : ∀ turn outcome time,
      .settled turn outcome time ∈ log ++ entries ↔ .settled turn outcome time ∈ log :=
    fun turn outcome time => mem_append_quiet hquiet not_false
  have hcleared : ∀ turn time, .cleared turn time ∈ log ++ entries ↔ .cleared turn time ∈ log :=
    fun turn time => mem_append_quiet hquiet not_false
  refine ⟨?_, ?_, ?_, ?_, ?_, ?_, ?_, ?_, ?_, hanswered⟩
  all_goals simp only [hstarted, hsettled, hcleared, hturns, hkept]
  · rcases hflight with hsame | ⟨flight, waiting, hold, hnew, hwaiting⟩
    · exact hsame ▸ h.flight
    · intro other hother
      obtain rfl := Option.some.inj (hnew.symm.trans hother)
      obtain ⟨hturn, hstart, houtcome, -⟩ := h.flight flight hold
      exact ⟨hturn, hstart, houtcome, hwaiting⟩
  · exact h.started
  · exact h.settled
  · intro turn hturn hnot
    refine h.landed turn hturn fun flight hold => ?_
    rcases hflight with hsame | ⟨other, waiting, hother, hnew, -⟩
    · exact hnot flight (hsame.trans hold)
    · obtain rfl := Option.some.inj (hold.symm.trans hother)
      have hturn := hnot _ hnew
      exact hturn
  · exact h.apart
  · exact h.kept
  · exact h.youngest
  · exact h.spaced
  · intro i asked turn outcome hmem
    rcases List.mem_append.mp hmem with hmem | hmem
    · exact h.fresh i asked turn outcome hmem
    · exact hfresh i asked turn outcome hmem

/-- A call that finds a young value is answered with it. -/
theorem ProbeInvariant.answerYoung (h : ProbeInvariant ttl probe log now) (i : ι)
    {kept : KeptValue ε τ} (hyoung : probe.young ttl now = some kept) :
    ProbeInvariant ttl probe
      (log ++ [.called i now, .answered i now kept.turn (.ok kept.value)]) now := by
  obtain ⟨hkept, hage⟩ := young_eq_some hyoung
  refine h.quiet rfl rfl (.inl rfl) ?_ ?_ ?_
  · intro entry hentry
    rcases List.mem_pair.mp hentry with rfl | rfl
    · trivial
    · trivial
  · intro j asked turn outcome hmem
    rcases List.mem_pair.mp hmem with heq | heq
    · cases heq
    · cases heq
      exact ⟨kept.time, h.kept kept hkept, .inl ⟨⟨kept.value, rfl⟩, hage⟩⟩
  · unfold callsOf answeredOf
    rw [List.filterMap_append, List.filterMap_append]
    show (callsOf log ++ [(i, now)]).Perm (answeredOf log ++ [(i, now)] ++ probe.waiting)
    refine (h.answered.append_right _).trans ?_
    rw [List.append_assoc, List.append_assoc]
    exact List.Perm.append_left _ List.perm_append_comm

/-- A call that finds an evaluation under way waits for it. -/
theorem ProbeInvariant.wait (h : ProbeInvariant ttl probe log now) (i : ι)
    {flight : Flight ι σ ε τ} (hflight : probe.flight = some flight) :
    ProbeInvariant ttl
      { probe with flight := some { flight with waiting := flight.waiting ++ [(i, now)] } }
      (log ++ [.called i now]) now := by
  obtain ⟨-, -, -, hwaiting⟩ := h.flight flight hflight
  refine h.quiet rfl rfl (.inr ⟨flight, _, hflight, rfl, ?_⟩) ?_ ?_ ?_
  · intro caller hcaller
    rcases List.mem_append.mp hcaller with hcaller | hcaller
    · exact hwaiting caller hcaller
    · rw [List.mem_singleton.mp hcaller]
  · intro entry hentry
    rw [List.mem_singleton.mp hentry]
    trivial
  · intro j asked turn outcome hmem
    cases List.mem_singleton.mp hmem
  · have hbefore := h.answered
    unfold SharedProbe.waiting at hbefore
    rw [hflight] at hbefore
    unfold callsOf answeredOf
    rw [List.filterMap_append, List.filterMap_append]
    show (callsOf log ++ [(i, now)]).Perm
      (answeredOf log ++ [] ++ (flight.waiting ++ [(i, now)]))
    rw [List.append_nil, ← List.append_assoc]
    exact hbefore.append_right _

/-- An evaluation under way settles. -/
theorem ProbeInvariant.settle (h : ProbeInvariant ttl probe log now) {turn : ℕ}
    {waiting : List (ι × τ)} (hflight : probe.flight = some ⟨turn, none, waiting⟩)
    (outcome : Except σ ε) :
    ProbeInvariant ttl
      { probe with
        kept := probe.keep turn outcome now
        flight := some ⟨turn, some outcome, waiting⟩ }
      (log ++ [.settled turn outcome now]) now := by
  obtain ⟨hturn, ⟨start, hstart, hstartMem⟩, -, hwaiting⟩ := h.flight _ hflight
  have hsettled : ∀ other result time,
      .settled other result time ∈ log ++ [.settled turn outcome now] ↔
        .settled other result time ∈ log ∨ other = turn ∧ result = outcome ∧ time = now := by simp
  have hstarted : ∀ other time, .started other time ∈ log ++ [.settled turn outcome now] ↔
      .started other time ∈ log := by simp
  have hcleared : ∀ other time, .cleared other time ∈ log ++ [.settled turn outcome now] ↔
      .cleared other time ∈ log := by simp
  have hanswered : (callsOf (log ++ [.settled turn outcome now])).Perm
      (answeredOf (log ++ [.settled turn outcome now]) ++ waiting) := by
    have hbefore := h.answered
    unfold SharedProbe.waiting at hbefore
    rw [hflight] at hbefore
    unfold callsOf answeredOf
    rw [List.filterMap_append, List.filterMap_append]
    show (callsOf log ++ []).Perm (answeredOf log ++ [] ++ waiting)
    rw [List.append_nil, List.append_nil]
    exact hbefore
  refine ⟨?_, ?_, ?_, ?_, ?_, ?_, ?_, ?_, ?_, hanswered⟩
  all_goals simp only [hstarted, hsettled, hcleared]
  · rintro flight ⟨⟩
    refine ⟨hturn, ⟨start, hstart, hstartMem⟩, ?_, hwaiting⟩
    rintro result ⟨⟩
    exact ⟨now, .inr ⟨rfl, rfl, rfl⟩⟩
  · exact h.started
  · rintro other result time (hmem | ⟨rfl, rfl, rfl⟩)
    · exact h.settled other result time hmem
    · exact ⟨le_rfl, start, hstart, hstartMem⟩
  · intro other hother hnot
    obtain ⟨hcleared, result, time, hmem⟩ := h.landed other hother fun flight hsome => by
      obtain rfl := Option.some.inj (hflight.symm.trans hsome)
      have hother := hnot _ rfl
      exact hother
    exact ⟨hcleared, result, time, .inl hmem⟩
  · intro other later time hlt hmem
    obtain ⟨hcleared, result, settledAt, hsettledMem⟩ := h.apart other later time hlt hmem
    exact ⟨hcleared, result, settledAt, .inl hsettledMem⟩
  · intro kept hkept
    cases outcome with
    | ok value =>
      obtain rfl := Option.some.inj hkept
      exact .inr ⟨rfl, rfl, rfl⟩
    | error e => exact .inl (h.kept kept hkept)
  · rintro other value time (hmem | ⟨rfl, rfl, rfl⟩)
    · obtain ⟨kept, hkept, hle⟩ := h.youngest other value time hmem
      cases outcome with
      | ok fresh => exact ⟨_, rfl, (h.settled _ _ _ hmem).1⟩
      | error e => exact ⟨kept, hkept, hle⟩
    · exact ⟨_, rfl, le_rfl⟩
  · rintro other value time later laterStart hlt (hmem | ⟨rfl, rfl, rfl⟩) hlater
    · exact h.spaced other value time later laterStart hlt hmem hlater
    · -- the evaluation that settles is the last that was started
      have hlast := h.started later laterStart hlater
      dsimp only at hturn
      omega
  · intro i asked other result hmem
    obtain ⟨time, hsettledMem, hfresh⟩ := h.fresh i asked other result (by simpa using hmem)
    exact ⟨time, .inl hsettledMem, hfresh⟩

/-- A settled evaluation is let go, and those who wait for it are answered. -/
theorem ProbeInvariant.clear (h : ProbeInvariant ttl probe log now) {turn : ℕ}
    {outcome : Except σ ε} {waiting : List (ι × τ)}
    (hflight : probe.flight = some ⟨turn, some outcome, waiting⟩) :
    ProbeInvariant ttl { probe with flight := none }
      (log ++ .cleared turn now :: waiting.map fun caller =>
        .answered caller.1 caller.2 turn outcome) now := by
  obtain ⟨hturn, -, houtcome, hwaiting⟩ := h.flight _ hflight
  obtain ⟨time, hsettledMem⟩ := houtcome outcome rfl
  set entries : List (ProbeEntry ι σ ε τ) := .cleared turn now :: waiting.map fun caller =>
    .answered caller.1 caller.2 turn outcome with hentries
  have hsettled : ∀ other result at', .settled other result at' ∈ log ++ entries ↔
      .settled other result at' ∈ log := by simp [hentries]
  have hstarted : ∀ other at', .started other at' ∈ log ++ entries ↔ .started other at' ∈ log := by
    simp [hentries]
  have hcleared : ∀ other at', .cleared other at' ∈ log ++ entries ↔
      .cleared other at' ∈ log ∨ other = turn ∧ at' = now := by simp [hentries]
  have hanswered : (callsOf (log ++ entries)).Perm (answeredOf (log ++ entries) ++ []) := by
    have hcalls : callsOf entries = [] := by
      rw [callsOf, List.filterMap_eq_nil_iff]
      intro entry hentry
      rcases List.mem_cons.mp hentry with rfl | hentry
      · rfl
      · obtain ⟨caller, -, rfl⟩ := List.mem_map.mp hentry
        rfl
    have hanswers : answeredOf entries = waiting := by
      rw [answeredOf, hentries, List.filterMap_cons_none rfl, List.filterMap_map]
      exact List.filterMap_some
    have hbefore := h.answered
    unfold SharedProbe.waiting at hbefore
    rw [hflight] at hbefore
    unfold callsOf at hcalls
    unfold answeredOf at hanswers
    unfold callsOf answeredOf
    rw [List.filterMap_append, List.filterMap_append, hcalls, hanswers, List.append_nil,
      List.append_nil]
    exact hbefore
  refine ⟨?_, ?_, ?_, ?_, ?_, ?_, ?_, ?_, ?_, hanswered⟩
  all_goals simp only [hstarted, hsettled, hcleared]
  · rintro flight ⟨⟩
  · exact h.started
  · exact h.settled
  · intro other hother _
    by_cases heq : other = turn
    · subst heq
      exact ⟨⟨now, le_rfl, .inr ⟨rfl, rfl⟩⟩, outcome, time, hsettledMem⟩
    · obtain ⟨⟨clearedAt, hle, hmem⟩, hsettledOther⟩ := h.landed other hother fun flight hsome => by
        obtain rfl := Option.some.inj (hflight.symm.trans hsome)
        exact fun hsame => heq hsame.symm
      exact ⟨⟨clearedAt, hle, .inl hmem⟩, hsettledOther⟩
  · intro other later start hlt hmem
    obtain ⟨⟨clearedAt, hle, hclearedMem⟩, hsettledOther⟩ := h.apart other later start hlt hmem
    exact ⟨⟨clearedAt, hle, .inl hclearedMem⟩, hsettledOther⟩
  · exact h.kept
  · exact h.youngest
  · exact h.spaced
  · intro i asked other result hmem
    rcases List.mem_append.mp hmem with hmem | hmem
    · obtain ⟨settledAt, hmem, hfresh | ⟨clearedAt, hclearedMem, hle⟩⟩ :=
        h.fresh i asked other result hmem
      · exact ⟨settledAt, hmem, .inl hfresh⟩
      · exact ⟨settledAt, hmem, .inr ⟨clearedAt, .inl hclearedMem, hle⟩⟩
    · rcases List.mem_cons.mp hmem with heq | hmem
      · cases heq
      · -- who waited asked before the evaluation was let go
        obtain ⟨caller, hcaller, heq⟩ := List.mem_map.mp hmem
        cases heq
        exact ⟨time, hsettledMem, .inr ⟨now, .inr ⟨rfl, rfl⟩, hwaiting caller hcaller⟩⟩

variable [IsOrderedAddMonoid τ]

/-- A call that finds neither starts an evaluation. -/
theorem ProbeInvariant.start (h : ProbeInvariant ttl probe log now) (i : ι)
    (hyoung : probe.young ttl now = none) (hflight : probe.flight = none) :
    ProbeInvariant ttl
      { probe with turns := probe.turns + 1, flight := some ⟨probe.turns, none, [(i, now)]⟩ }
      (log ++ [.called i now, .started probe.turns now]) now := by
  have hlanded : ∀ turn < probe.turns, (∃ time ≤ now, .cleared turn time ∈ log) ∧
      ∃ outcome time, .settled turn outcome time ∈ log :=
    fun turn hturn => h.landed turn hturn fun flight hsome => by rw [hflight] at hsome; cases hsome
  have hsettled : ∀ turn outcome time,
      .settled turn outcome time ∈ log ++ [.called i now, .started probe.turns now] ↔
        .settled turn outcome time ∈ log := by simp
  have hstarted : ∀ turn time,
      .started turn time ∈ log ++ [.called i now, .started probe.turns now] ↔
        .started turn time ∈ log ∨ turn = probe.turns ∧ time = now := by simp
  have hcleared : ∀ turn time,
      .cleared turn time ∈ log ++ [.called i now, .started probe.turns now] ↔
        .cleared turn time ∈ log := by simp
  have hanswered : (callsOf (log ++ [.called i now, .started probe.turns now])).Perm
      (answeredOf (log ++ [.called i now, .started probe.turns now]) ++ [(i, now)]) := by
    have hbefore := h.answered
    unfold SharedProbe.waiting at hbefore
    rw [hflight] at hbefore
    unfold callsOf answeredOf
    rw [List.filterMap_append, List.filterMap_append]
    show (callsOf log ++ [(i, now)]).Perm (answeredOf log ++ [] ++ [(i, now)])
    rw [List.append_nil]
    exact (hbefore.trans (List.append_nil _ ▸ .refl _)).append_right _
  refine ⟨?_, ?_, ?_, ?_, ?_, ?_, ?_, ?_, ?_, hanswered⟩
  all_goals simp only [hstarted, hsettled, hcleared]
  · rintro flight ⟨⟩
    refine ⟨rfl, ⟨now, le_rfl, .inr ⟨rfl, rfl⟩⟩, by rintro _ ⟨⟩, fun caller hcaller => ?_⟩
    rw [List.mem_singleton.mp hcaller]
  · rintro turn start (hmem | ⟨rfl, -⟩)
    · exact (h.started turn start hmem).trans (Nat.lt_succ_self _)
    · exact Nat.lt_succ_self _
  · intro turn outcome time hmem
    obtain ⟨hle, start, hstart, hmem⟩ := h.settled turn outcome time hmem
    exact ⟨hle, start, hstart, .inl hmem⟩
  · intro turn hturn hnot
    refine hlanded turn (lt_of_le_of_ne (Nat.lt_succ_iff.mp hturn) ?_)
    exact fun heq => hnot _ rfl heq.symm
  · rintro turn later start hlt (hmem | ⟨rfl, rfl⟩)
    · exact h.apart turn later start hlt hmem
    · exact hlanded turn hlt
  · exact h.kept
  · exact h.youngest
  · rintro turn value time later start hlt hmem (hstart | ⟨rfl, rfl⟩)
    · exact h.spaced turn value time later start hlt hmem hstart
    · -- the kept value is younger than any other, and it has aged
      obtain ⟨kept, hkept, hle⟩ := h.youngest turn value time hmem
      exact (aged_of_young_eq_none hyoung hkept).trans (sub_le_sub_left hle _)
  · intro j asked turn outcome hmem
    refine h.fresh j asked turn outcome ?_
    simpa using hmem

/-- A step keeps the promises. -/
theorem ProbeInvariant.step (h : ProbeInvariant ttl probe log now)
    {next : SharedProbe ι σ ε τ} {entries : List (ProbeEntry ι σ ε τ)}
    {event : ProbeEvent ι σ ε τ} (hle : now ≤ event.time)
    (hstep : probe.step ttl event = some (next, entries)) :
    ProbeInvariant ttl next (log ++ entries) event.time := by
  replace h := h.later hle
  unfold SharedProbe.step at hstep
  split at hstep
  · rename_i i now
    unfold SharedProbe.call at hstep
    split at hstep
    · rename_i kept hyoung
      cases hstep
      exact h.answerYoung i hyoung
    · rename_i hyoung
      split at hstep
      · rename_i flight hflight
        cases hstep
        exact h.wait i hflight
      · rename_i hflight
        cases hstep
        exact h.start i hyoung hflight
  · split at hstep
    · rename_i hflight
      cases hstep
      exact h.settle hflight _
    · cases hstep
  · split at hstep
    · rename_i hflight
      cases hstep
      exact h.clear hflight
    · cases hstep

/-- **Every state that is reached keeps the promises.** -/
theorem SharedProbe.Reached.invariant (h : SharedProbe.Reached ttl probe log now) :
    ProbeInvariant ttl probe log now := by
  induction h with
  | initial => exact probeInvariant_initial
  | step _ hle hstep ih => exact ih.step hle hstep

/-- **The evaluations in a time.** Where every evaluation that has settled gave a value, the
evaluations are apart by the time that a value is kept, however many callers there are. -/
theorem ProbeInvariant.load (h : ProbeInvariant ttl probe log now)
    (hvalues : ∀ turn outcome time, .settled turn outcome time ∈ log → ∃ value, outcome = .ok value)
    {turn : ℕ} {start : τ} (hstart : .started turn start ∈ log) :
    ∃ first, .started 0 first ∈ log ∧ turn • ttl ≤ start - first := by
  induction turn generalizing start with
  | zero => exact ⟨start, hstart, by simp⟩
  | succ turn ih =>
    obtain ⟨-, outcome, time, hsettled⟩ := h.apart turn _ start (Nat.lt_succ_self _) hstart
    obtain ⟨value, rfl⟩ := hvalues turn outcome time hsettled
    obtain ⟨-, before, hbefore, hbeforeMem⟩ := h.settled turn _ time hsettled
    obtain ⟨first, hfirst, hload⟩ := ih hbeforeMem
    refine ⟨first, hfirst, ?_⟩
    have hspaced := h.spaced turn value time _ start (Nat.lt_succ_self _) hsettled hstart
    calc (turn + 1) • ttl = turn • ttl + ttl := succ_nsmul ttl turn
      _ ≤ (before - first) + (start - time) := add_le_add hload hspaced
      _ ≤ (time - first) + (start - time) :=
        add_le_add_left (sub_le_sub_right hbefore first) _
      _ = start - first := by abel

end Steps

end Interaction
