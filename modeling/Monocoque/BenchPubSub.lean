import Mathlib.Data.Nat.Find
/-!
# BenchPubSub — the bulk transfer of `bench_pub_sub_throughput`

The benchmark publishes `num_messages` messages with `pub.send(msg, zmq.NOBLOCK)` and then runs

    while received < num_messages:
        try: sub.recv(zmq.NOBLOCK); received += 1
        except zmq.Again: time.sleep(0.001)

An empty poll sleeps and polls again, with no bound on how often.  `recvLoop` is that loop over a
sequence of poll outcomes, run for at most `fuel` polls; `recvLoop_exits_iff` says exactly when and where
it stops: right after the poll that brings the successful polls to `num_messages`, and never if the
sequence has fewer successes.

`Transfer` is the system around the loop, and refines it: a poll event is one iteration of the loop and
a delivery leaves the loop where it is, so the loop fed the outcomes of a run's polls ends as the run
does (`run_refines_recvLoop`).  The system is the publisher's sends, each handed to the pipe or dropped,
the pipe, the subscriber's queue and the loop's counter.  Here any send may be dropped, which allows
more runs than ZeroMQ does and so is sound for what holds of every run; `PubSubCapacity` fixes the drops
by the buffers' high-water marks.  Every message sent is dropped, in the pipe, queued or received,
exactly once (`Conserved`, kept by every step), so in any run in which one send was dropped the loop's
guard `received < num_messages` holds forever (`run_received_lt`).

The figures the function returns afterwards are float divisions by measured durations and are not
modelled.
-/
namespace Monocoque
namespace Interop

/-- What one `sub.recv(zmq.NOBLOCK)` does. -/
inductive Poll
  /-- A message was waiting and is returned. -/
  | message
  /-- `zmq.Again`: none was. -/
  | again
  deriving DecidableEq, Repr

/-- The successful polls among the first `k`. -/
def delivered (polls : Nat → Poll) : Nat → Nat
  | 0 => 0
  | k + 1 => delivered polls k + if polls k = .message then 1 else 0

/-- The receive loop from poll `k` on, with `received` messages so far, for at most `fuel` polls:
`some k'` when the guard fails after `k'` polls, `none` when it still holds as the fuel runs out. -/
def recvLoop (numMessages : Nat) (polls : Nat → Poll) : (fuel received k : Nat) → Option Nat
  | 0, received, k => if received < numMessages then none else some k
  | fuel + 1, received, k =>
    if received < numMessages then
      match polls k with
      | .message => recvLoop numMessages polls fuel (received + 1) (k + 1)
      | .again => recvLoop numMessages polls fuel received (k + 1)
    else some k

section Loop

variable (numMessages : Nat) (polls : Nat → Poll)

/-- One iteration, with the counter equal to the successful polls so far. -/
theorem recvLoop_succ (fuel k : Nat) :
    recvLoop numMessages polls (fuel + 1) (delivered polls k) k =
      if delivered polls k < numMessages then
        recvLoop numMessages polls fuel (delivered polls (k + 1)) (k + 1)
      else some k := by
  simp only [recvLoop, delivered]
  split
  · cases polls k <;> rfl
  · rfl

/-- A loop whose guard already fails stops where it is. -/
theorem some_eq_iff_stop {k k' b : Nat} (hk : ¬ delivered polls k < numMessages) (hb : k ≤ b) :
    some k = some k' ↔ k ≤ k' ∧ k' ≤ b ∧ numMessages ≤ delivered polls k' ∧
      ∀ j, k ≤ j → j < k' → delivered polls j < numMessages := by
  rw [Option.some.injEq]
  constructor
  · rintro rfl; exact ⟨le_rfl, by omega, by omega, fun j h1 h2 => by omega⟩
  · rintro ⟨h1, -, -, h4⟩
    by_contra hne
    exact hk (h4 k le_rfl (by omega))

/-- **Where the loop stops**: after the first poll `k'` at which the successful polls reach
`num_messages`, provided the fuel lasts that long. -/
theorem recvLoop_eq_some : ∀ (fuel k k' : Nat),
    recvLoop numMessages polls fuel (delivered polls k) k = some k' ↔
      k ≤ k' ∧ k' ≤ k + fuel ∧ numMessages ≤ delivered polls k' ∧
        ∀ j, k ≤ j → j < k' → delivered polls j < numMessages
  | 0, k, k' => by
    simp only [recvLoop]
    split
    · simp only [reduceCtorEq, false_iff]
      rintro ⟨h1, h2, h3, -⟩
      obtain rfl : k' = k := by omega
      omega
    · exact some_eq_iff_stop numMessages polls ‹_› (Nat.le_add_right k 0)
  | fuel + 1, k, k' => by
    rw [recvLoop_succ, ← Nat.add_assoc, Nat.add_right_comm]
    split
    · rename_i hk
      rw [recvLoop_eq_some fuel (k + 1) k']
      constructor
      · rintro ⟨h1, h2, h3, h4⟩
        refine ⟨by omega, h2, h3, fun j hj hjk => ?_⟩
        rcases Nat.eq_or_lt_of_le hj with rfl | hj
        · exact hk
        · exact h4 j hj hjk
      · rintro ⟨h1, h2, h3, h4⟩
        have : k ≠ k' := by rintro rfl; omega
        exact ⟨by omega, h2, h3, fun j hj hjk => h4 j (by omega) hjk⟩
    · exact some_eq_iff_stop numMessages polls ‹_› (by omega)

theorem recvLoop_from_start (fuel k : Nat) :
    recvLoop numMessages polls fuel 0 0 = some k ↔
      k ≤ fuel ∧ numMessages ≤ delivered polls k ∧ ∀ j < k, delivered polls j < numMessages := by
  have h := recvLoop_eq_some numMessages polls fuel 0 k
  simp only [delivered, Nat.zero_le, true_and, Nat.zero_add, true_implies] at h
  exact h

/-- **The loop exits after `k` polls exactly when the `k`-th poll is the one that brings the successful
polls to `num_messages`.** -/
theorem recvLoop_exits_iff (k : Nat) :
    (∃ fuel, recvLoop numMessages polls fuel 0 0 = some k) ↔
      numMessages ≤ delivered polls k ∧ ∀ j < k, delivered polls j < numMessages := by
  simp only [recvLoop_from_start]
  exact ⟨fun ⟨_, _, h⟩ => h, fun h => ⟨k, le_rfl, h⟩⟩

/-- **The loop terminates exactly when at least `num_messages` polls succeed**; with fewer deliveries
it polls forever. -/
theorem recvLoop_terminates_iff :
    (∃ fuel k, recvLoop numMessages polls fuel 0 0 = some k) ↔
      ∃ k, numMessages ≤ delivered polls k := by
  simp only [recvLoop_from_start]
  constructor
  · rintro ⟨_, k, _, hk, _⟩
    exact ⟨k, hk⟩
  · intro h
    classical
    exact ⟨Nat.find h, Nat.find h, le_rfl, Nat.find_spec h,
      fun j hj => Nat.lt_of_not_le (Nat.find_min h hj)⟩

/-- **One dropped message and the loop spins**: one message published, none ever delivered, and no
number of polls ends the loop. -/
theorem recvLoop_spins_after_drop :
    (∀ k, delivered (fun _ => Poll.again) k = 0) ∧
      ¬ ∃ fuel k, recvLoop 1 (fun _ => Poll.again) fuel 0 0 = some k := by
  have h0 : ∀ k, delivered (fun _ => Poll.again) k = 0 := by
    intro k; induction k with
    | zero => rfl
    | succ k ih => simp [delivered, ih]
  refine ⟨h0, fun ⟨fuel, k, hk⟩ => ?_⟩
  have := ((recvLoop_from_start 1 _ fuel k).1 hk).2.1
  rw [h0] at this; omega

end Loop

/-! ## The system around the loop -/

/-- The publisher, the pipe and the subscriber, counted in messages (every message is the same
`b"X" * message_size`). -/
structure Transfer where
  /-- `pub.send` calls made. -/
  sent : Nat
  /-- Sends dropped at the publisher's high-water mark. -/
  dropped : Nat
  /-- Messages in the pipe. -/
  inFlight : Nat
  /-- Messages at the subscriber, ready for `recv`. -/
  queued : Nat
  /-- The receive loop's counter. -/
  received : Nat
  deriving DecidableEq, Repr

/-- Nothing sent, nothing received. -/
def Transfer.init : Transfer := ⟨0, 0, 0, 0, 0⟩

/-- What can happen next. -/
inductive Event
  /-- One `pub.send(msg, zmq.NOBLOCK)`: into the pipe, or dropped when the pipe is full. -/
  | send (drop : Bool)
  /-- The pipe hands one message to the subscriber. -/
  | deliver
  /-- One `sub.recv(zmq.NOBLOCK)` of the receive loop. -/
  | poll
  deriving DecidableEq, Repr

/-- The outcome of a poll in a state. -/
def Transfer.poll (s : Transfer) : Poll := if 0 < s.queued then .message else .again

/-- One event, `none` when it cannot happen: sends come first, `num_messages` of them, and the receive
loop polls only after them and while `received < num_messages`. -/
def step (numMessages : Nat) (s : Transfer) : Event → Option Transfer
  | .send drop =>
    if s.sent < numMessages then
      some { s with sent := s.sent + 1, dropped := s.dropped + (if drop then 1 else 0),
                    inFlight := s.inFlight + (if drop then 0 else 1) }
    else none
  | .deliver => if 0 < s.inFlight then some { s with inFlight := s.inFlight - 1, queued := s.queued + 1 } else none
  | .poll =>
    if s.sent = numMessages ∧ s.received < numMessages then
      match s.poll with
      | .message => some { s with queued := s.queued - 1, received := s.received + 1 }
      | .again => some s
    else none

/-- A sequence of events, `none` as soon as one cannot happen. -/
def run (numMessages : Nat) : Transfer → List Event → Option Transfer
  | s, [] => some s
  | s, e :: es => (step numMessages s e).bind fun s' => run numMessages s' es

/-- **Every message sent is dropped, in the pipe, queued or received, exactly once**, and no more than
`num_messages` are sent. -/
structure Conserved (numMessages : Nat) (s : Transfer) : Prop where
  accounted : s.dropped + s.inFlight + s.queued + s.received = s.sent
  bounded : s.sent ≤ numMessages

theorem step_conserved {numMessages : Nat} {s s' : Transfer} {e : Event}
    (h : step numMessages s e = some s') (hs : Conserved numMessages s) :
    Conserved numMessages s' ∧ s.dropped ≤ s'.dropped := by
  obtain ⟨ha, hb⟩ := hs
  cases e with
  | send drop =>
    simp only [step] at h; split at h
    · cases h; cases drop <;> simp only [Bool.false_eq_true, ↓reduceIte] <;>
        exact ⟨⟨by dsimp only; omega, by dsimp only; omega⟩, Nat.le_add_right _ _⟩
    · cases h
  | deliver =>
    simp only [step] at h; split at h
    · cases h; exact ⟨⟨by dsimp only; omega, hb⟩, le_rfl⟩
    · cases h
  | poll =>
    simp only [step, Transfer.poll] at h; split at h
    · split at h
      · rename_i hq; split at hq
        · cases h; exact ⟨⟨by dsimp only; omega, hb⟩, le_rfl⟩
        · cases hq
      · cases h; exact ⟨⟨ha, hb⟩, le_rfl⟩
    · cases h

theorem run_conserved {numMessages : Nat} :
    ∀ {s s' : Transfer} {es : List Event}, run numMessages s es = some s' → Conserved numMessages s →
      Conserved numMessages s' ∧ s.dropped ≤ s'.dropped
  | s, s', [], h, hs => by cases h; exact ⟨hs, le_rfl⟩
  | s, s', e :: es, h, hs => by
    obtain ⟨t, ht, hrun⟩ := Option.bind_eq_some.1 h
    obtain ⟨htc, htd⟩ := step_conserved ht hs
    obtain ⟨hc, hd⟩ := run_conserved hrun htc
    exact ⟨hc, Nat.le_trans htd hd⟩

/-- **After a dropped send the loop never exits**: in every state reachable from one where a message
was dropped, the guard `received < num_messages` still holds. -/
theorem run_received_lt {numMessages : Nat} {s s' : Transfer} {es es' : List Event}
    (h : run numMessages Transfer.init es = some s) (hdrop : 0 < s.dropped)
    (h' : run numMessages s es' = some s') : s'.received < numMessages := by
  obtain ⟨hs, -⟩ := run_conserved h ⟨rfl, Nat.zero_le _⟩
  obtain ⟨⟨ha, hb⟩, hd⟩ := run_conserved h' hs
  omega

theorem run_received_lt_oneDropped :
    run 1 Transfer.init [.send true] = some ⟨1, 1, 0, 0, 0⟩ ∧ 0 < (⟨1, 1, 0, 0, 0⟩ : Transfer).dropped ∧
      run 1 ⟨1, 1, 0, 0, 0⟩ [.deliver, .poll, .poll] = none ∧
      run 1 ⟨1, 1, 0, 0, 0⟩ [.poll, .poll] = some ⟨1, 1, 0, 0, 0⟩ ∧
      (⟨1, 1, 0, 0, 0⟩ : Transfer).received < 1 :=
  have h : run 1 Transfer.init [.send true] = some ⟨1, 1, 0, 0, 0⟩ := by decide
  have h' : run 1 ⟨1, 1, 0, 0, 0⟩ [.poll, .poll] = some ⟨1, 1, 0, 0, 0⟩ := by decide
  ⟨h, by decide, by decide, h', run_received_lt h (by decide) h'⟩

/-! ## The system refines the loop -/

/-- The outcomes of the poll events of a run, in order, up to the first event that cannot happen. -/
def pollOutcomes (numMessages : Nat) : Transfer → List Event → List Poll
  | _, [] => []
  | s, e :: es =>
    match step numMessages s e with
    | none => []
    | some s' => (if e = .poll then [s.poll] else []) ++ pollOutcomes numMessages s' es

theorem run_refines_recvLoop_from {numMessages : Nat} (polls : Nat → Poll) :
    ∀ (es : List Event) (s s' : Transfer) (k : Nat), run numMessages s es = some s' → s.sent = numMessages →
      (∀ i < (pollOutcomes numMessages s es).length,
        polls (k + i) = (pollOutcomes numMessages s es).getD i .again) →
      recvLoop numMessages polls (pollOutcomes numMessages s es).length s.received k =
        if s'.received < numMessages then none else some (k + (pollOutcomes numMessages s es).length)
  | [], s, s', k, h, _, _ => by cases h; rfl
  | e :: es, s, s', k, h, hs, hp => by
    obtain ⟨t, ht, h⟩ := Option.bind_eq_some.1 h
    cases e with
    | send drop => simp only [step, hs, Nat.lt_irrefl, if_false] at ht; cases ht
    | deliver =>
      have hout : pollOutcomes numMessages s (.deliver :: es) = pollOutcomes numMessages t es := by
        simp only [pollOutcomes, ht]; rfl
      rw [hout] at hp ⊢
      simp only [step] at ht
      split at ht
      · cases ht; exact run_refines_recvLoop_from polls es _ s' k h hs hp
      · cases ht
    | poll =>
      have hout : pollOutcomes numMessages s (.poll :: es) = s.poll :: pollOutcomes numMessages t es := by
        simp only [pollOutcomes, ht, if_pos rfl]; rfl
      rw [hout] at hp ⊢
      have hk : polls k = s.poll := hp 0 (Nat.zero_lt_succ _)
      have hrest : ∀ i < (pollOutcomes numMessages t es).length,
          polls (k + 1 + i) = (pollOutcomes numMessages t es).getD i .again := fun i hi => by
        rw [Nat.add_assoc, Nat.add_comm 1 i]; exact hp (i + 1) (Nat.succ_lt_succ hi)
      simp only [step] at ht
      split at ht
      · rename_i hg
        rw [List.length_cons, recvLoop, if_pos hg.2, hk,
          show k + ((pollOutcomes numMessages t es).length + 1) = k + 1 + (pollOutcomes numMessages t es).length
            by omega]
        cases hq : s.poll with
        | message =>
          rw [hq] at ht; cases ht
          exact run_refines_recvLoop_from polls es _ s' (k + 1) h hs hrest
        | again =>
          rw [hq] at ht; cases ht
          exact run_refines_recvLoop_from polls es _ s' (k + 1) h hs hrest
      · cases ht

/-- **Every run of the system is a run of the receive loop**: once every send is made, the loop of
`bench_pub_sub_throughput`, fed the outcomes of the system's polls for as many iterations as the system
polled, ends as the system does: right after the last poll when `received` reached `num_messages`, and
still looping otherwise. -/
theorem run_refines_recvLoop {numMessages : Nat} {s s' : Transfer} {es : List Event}
    (h : run numMessages s es = some s') (hs : s.sent = numMessages) :
    recvLoop numMessages (fun i => (pollOutcomes numMessages s es).getD i .again)
        (pollOutcomes numMessages s es).length s.received 0 =
      if s'.received < numMessages then none else some (pollOutcomes numMessages s es).length := by
  have := run_refines_recvLoop_from (fun i => (pollOutcomes numMessages s es).getD i .again) es s s' 0 h hs
    fun i _ => by rw [Nat.zero_add]
  rwa [Nat.zero_add] at this

theorem run_refines_recvLoop_lateDelivery :
    run 1 ⟨1, 0, 1, 0, 0⟩ [.poll, .deliver, .poll] = some ⟨1, 0, 0, 0, 1⟩ ∧ (⟨1, 0, 1, 0, 0⟩ : Transfer).sent = 1 ∧
      recvLoop 1 (fun i => (pollOutcomes 1 ⟨1, 0, 1, 0, 0⟩ [.poll, .deliver, .poll]).getD i .again)
          (pollOutcomes 1 ⟨1, 0, 1, 0, 0⟩ [.poll, .deliver, .poll]).length (⟨1, 0, 1, 0, 0⟩ : Transfer).received 0 =
        if (⟨1, 0, 0, 0, 1⟩ : Transfer).received < 1 then none
        else some (pollOutcomes 1 ⟨1, 0, 1, 0, 0⟩ [.poll, .deliver, .poll]).length :=
  have h : run 1 ⟨1, 0, 1, 0, 0⟩ [.poll, .deliver, .poll] = some ⟨1, 0, 0, 0, 1⟩ := by decide
  ⟨h, rfl, run_refines_recvLoop h rfl⟩

end Interop
end Monocoque
