import Monocoque.BenchPubSub
/-!
# PubSubCapacity — what the buffers between the publisher and the receive loop can hold

`bench_pub_sub_throughput` makes all `num_messages` sends before its receive loop polls once, and a PUB
socket never blocks: a send that finds the pipe to the subscriber at its high-water mark is dropped.
`stepHwm` is `step` with the buffers bounded: the pipe holds at most `sndHwm` messages (the publisher's
high-water mark, with what the transport buffers counted in) and the subscriber's queue at most `rcvHwm`
(its receive high-water mark).  A send's drop flag is no longer a choice: it is dropped exactly when the
pipe is full, and a delivery waits for room in the queue.  Every bounded run is a run of `step` with the
same events (`runHwm_run`), so what `BenchPubSub` proves of all runs holds of these.

`runHwm_can_finish_iff` says when the receive loop can finish: exactly when `num_messages` fits into the
two buffers together.  Until the last send nothing is received, so at most `sndHwm + rcvHwm` sends get
through and every other one is dropped (`HwmInv`); for a larger `num_messages` the loop spins under
every schedule.
-/
namespace Monocoque
namespace Interop

/-- One event with bounded buffers: a send is dropped exactly when the pipe holds `sndHwm` messages, and
a delivery needs room in the subscriber's queue. -/
def stepHwm (sndHwm rcvHwm numMessages : Nat) (s : Transfer) : Event → Option Transfer
  | .send drop => if drop = decide (sndHwm ≤ s.inFlight) then step numMessages s (.send drop) else none
  | .deliver => if s.queued < rcvHwm then step numMessages s .deliver else none
  | .poll => step numMessages s .poll

/-- A sequence of events with bounded buffers, `none` as soon as one cannot happen. -/
def runHwm (sndHwm rcvHwm numMessages : Nat) : Transfer → List Event → Option Transfer
  | s, [] => some s
  | s, e :: es => (stepHwm sndHwm rcvHwm numMessages s e).bind fun s' => runHwm sndHwm rcvHwm numMessages s' es

section Bounded

variable {sndHwm rcvHwm numMessages : Nat}

/-! ## Bounded runs are runs -/

theorem stepHwm_step {s s' : Transfer} {e : Event} (h : stepHwm sndHwm rcvHwm numMessages s e = some s') :
    step numMessages s e = some s' := by
  cases e <;> simp only [stepHwm] at h <;> (try split at h) <;> first | exact h | cases h

/-- **Bounding the buffers only removes runs.** -/
theorem runHwm_run : ∀ {s s' : Transfer} {es : List Event},
    runHwm sndHwm rcvHwm numMessages s es = some s' → run numMessages s es = some s'
  | _, _, [], h => h
  | s, s', e :: es, h => by
    obtain ⟨t, ht, h⟩ := Option.bind_eq_some.1 h
    exact Option.bind_eq_some.2 ⟨t, stepHwm_step ht, runHwm_run h⟩

@[simp] theorem runHwm_append (s : Transfer) (a b : List Event) :
    runHwm sndHwm rcvHwm numMessages s (a ++ b) =
      (runHwm sndHwm rcvHwm numMessages s a).bind fun t => runHwm sndHwm rcvHwm numMessages t b := by
  induction a generalizing s with
  | nil => rfl
  | cons e a ih =>
    rw [List.cons_append, runHwm, runHwm, Option.bind_assoc]
    congr 1; funext t; exact ih t

/-! ## What one bounded step can do -/

/-- **The five things a bounded step can do**, with their guards. -/
theorem stepHwm_cases {s s' : Transfer} {e : Event} (h : stepHwm sndHwm rcvHwm numMessages s e = some s') :
    (s.sent < numMessages ∧ s.inFlight < sndHwm ∧
      s' = ⟨s.sent + 1, s.dropped, s.inFlight + 1, s.queued, s.received⟩) ∨
    (s.sent < numMessages ∧ sndHwm ≤ s.inFlight ∧
      s' = ⟨s.sent + 1, s.dropped + 1, s.inFlight, s.queued, s.received⟩) ∨
    (0 < s.inFlight ∧ s.queued < rcvHwm ∧
      s' = ⟨s.sent, s.dropped, s.inFlight - 1, s.queued + 1, s.received⟩) ∨
    (s.sent = numMessages ∧ s.received < numMessages ∧ 0 < s.queued ∧
      s' = ⟨s.sent, s.dropped, s.inFlight, s.queued - 1, s.received + 1⟩) ∨
    (s.sent = numMessages ∧ s' = s) := by
  cases e with
  | send drop =>
    simp only [stepHwm, step] at h
    split at h
    · rename_i hd
      split at h
      · rename_i hlt
        cases h
        cases drop
        · exact .inl ⟨hlt, Nat.lt_of_not_le (of_decide_eq_false hd.symm), rfl⟩
        · exact .inr (.inl ⟨hlt, of_decide_eq_true hd.symm, rfl⟩)
      · cases h
    · cases h
  | deliver =>
    simp only [stepHwm, step] at h
    split at h
    · split at h
      · cases h; exact .inr (.inr (.inl ⟨‹_›, ‹_›, rfl⟩))
      · cases h
    · cases h
  | poll =>
    simp only [stepHwm, step, Transfer.poll] at h
    split at h
    · rename_i hg
      split at h
      · rename_i hq
        split at hq
        · cases h; exact .inr (.inr (.inr (.inl ⟨hg.1, hg.2, ‹_›, rfl⟩)))
        · cases hq
      · cases h; exact .inr (.inr (.inr (.inr ⟨hg.1, rfl⟩)))
    · cases h

/-- **What every bounded run keeps**: every message accounted for, each buffer within its mark, nothing
received before the last send, and no more sends through than the two buffers hold. -/
structure HwmInv (sndHwm rcvHwm numMessages : Nat) (s : Transfer) : Prop where
  conserved : Conserved numMessages s
  inFlight_le : s.inFlight ≤ sndHwm
  queued_le : s.queued ≤ rcvHwm
  received_zero : s.sent < numMessages → s.received = 0
  sent_le : s.sent ≤ s.dropped + sndHwm + rcvHwm

theorem hwmInv_init : HwmInv sndHwm rcvHwm numMessages Transfer.init :=
  ⟨⟨rfl, Nat.zero_le _⟩, Nat.zero_le _, Nat.zero_le _, fun _ => rfl, Nat.zero_le _⟩

theorem stepHwm_inv {s s' : Transfer} {e : Event} (h : stepHwm sndHwm rcvHwm numMessages s e = some s')
    (hi : HwmInv sndHwm rcvHwm numMessages s) : HwmInv sndHwm rcvHwm numMessages s' := by
  obtain ⟨⟨ha, hb⟩, hf, hq, hr, hs⟩ := hi
  rcases stepHwm_cases h with ⟨h1, h2, rfl⟩ | ⟨h1, h2, rfl⟩ | ⟨h1, h2, rfl⟩ | ⟨h1, h2, h3, rfl⟩ | ⟨h1, rfl⟩
  · have := hr h1
    exact ⟨⟨by dsimp only; omega, by dsimp only; omega⟩, h2, hq, fun _ => this, by dsimp only; omega⟩
  · exact ⟨⟨by dsimp only; omega, by dsimp only; omega⟩, hf, hq, fun h => hr (by omega), by dsimp only; omega⟩
  · exact ⟨⟨by dsimp only; omega, hb⟩, by dsimp only; omega, by dsimp only; omega, hr, hs⟩
  · exact ⟨⟨by dsimp only; omega, hb⟩, hf, by dsimp only; omega, fun h => absurd h1 (Nat.ne_of_lt h), hs⟩
  · exact ⟨⟨ha, hb⟩, hf, hq, hr, hs⟩

theorem runHwm_inv : ∀ {s s' : Transfer} {es : List Event},
    runHwm sndHwm rcvHwm numMessages s es = some s' → HwmInv sndHwm rcvHwm numMessages s →
      HwmInv sndHwm rcvHwm numMessages s'
  | _, _, [], h, hi => by cases h; exact hi
  | s, s', e :: es, h, hi => by
    obtain ⟨t, ht, h⟩ := Option.bind_eq_some.1 h
    exact runHwm_inv h (stepHwm_inv ht hi)

/-! ## A schedule that finishes -/

section Schedule

variable {sent dropped inFlight queued received : Nat}

theorem stepHwm_send (hn : sent < numMessages) (hf : inFlight < sndHwm) :
    stepHwm sndHwm rcvHwm numMessages ⟨sent, dropped, inFlight, queued, received⟩ (.send false) =
      some ⟨sent + 1, dropped, inFlight + 1, queued, received⟩ := by
  simp [stepHwm, step, hn, hf]

theorem stepHwm_deliver (hf : 0 < inFlight) (hq : queued < rcvHwm) :
    stepHwm sndHwm rcvHwm numMessages ⟨sent, dropped, inFlight, queued, received⟩ .deliver =
      some ⟨sent, dropped, inFlight - 1, queued + 1, received⟩ := by
  simp [stepHwm, step, hf, hq]

theorem stepHwm_poll (hr : received < numMessages) (hq : 0 < queued) :
    stepHwm sndHwm rcvHwm numMessages ⟨numMessages, dropped, inFlight, queued, received⟩ .poll =
      some ⟨numMessages, dropped, inFlight, queued - 1, received + 1⟩ := by
  simp [stepHwm, step, hr, Transfer.poll, hq]

end Schedule

theorem runHwm_cons {s t : Transfer} {e : Event} (es : List Event)
    (h : stepHwm sndHwm rcvHwm numMessages s e = some t) :
    runHwm sndHwm rcvHwm numMessages s (e :: es) = runHwm sndHwm rcvHwm numMessages t es := by
  rw [runHwm, h, Option.some_bind]

/-- `k` sends, each followed by its delivery: the pipe stays empty and the queue grows. -/
theorem runHwm_sendDeliver (hs : 0 < sndHwm) : ∀ (k sent dropped queued received : Nat),
    sent + k ≤ numMessages → queued + k ≤ rcvHwm →
    runHwm sndHwm rcvHwm numMessages ⟨sent, dropped, 0, queued, received⟩
        (List.replicate k [.send false, .deliver]).flatten =
      some ⟨sent + k, dropped, 0, queued + k, received⟩
  | 0, _, _, _, _, _, _ => rfl
  | k + 1, sent, dropped, queued, received, hn, hq => by
    rw [List.replicate_succ, List.flatten_cons, List.cons_append, List.cons_append, List.nil_append,
      runHwm_cons _ (stepHwm_send (by omega) hs), runHwm_cons _ (stepHwm_deliver Nat.one_pos (by omega)),
      runHwm_sendDeliver hs k _ _ _ _ (by omega) (by omega)]
    congr 2 <;> omega

/-- `k` sends into a pipe with room for them. -/
theorem runHwm_sends : ∀ (k sent dropped inFlight queued received : Nat), sent + k ≤ numMessages →
    inFlight + k ≤ sndHwm →
    runHwm sndHwm rcvHwm numMessages ⟨sent, dropped, inFlight, queued, received⟩ (List.replicate k (.send false)) =
      some ⟨sent + k, dropped, inFlight + k, queued, received⟩
  | 0, _, _, _, _, _, _, _ => rfl
  | k + 1, sent, dropped, inFlight, queued, received, hn, hf => by
    rw [List.replicate_succ, runHwm_cons _ (stepHwm_send (by omega) (by omega)),
      runHwm_sends k _ _ _ _ _ (by omega) (by omega)]
    congr 2 <;> omega

/-- `k` polls, each finding a message, once every send is made. -/
theorem runHwm_polls : ∀ (k dropped inFlight queued received : Nat), received + k ≤ numMessages → k ≤ queued →
    runHwm sndHwm rcvHwm numMessages ⟨numMessages, dropped, inFlight, queued, received⟩ (List.replicate k .poll) =
      some ⟨numMessages, dropped, inFlight, queued - k, received + k⟩
  | 0, _, _, _, _, _, _ => rfl
  | k + 1, dropped, inFlight, queued, received, hr, hq => by
    rw [List.replicate_succ, runHwm_cons _ (stepHwm_poll (by omega) (by omega)),
      runHwm_polls k _ _ _ _ (by omega) (by omega)]
    congr 2 <;> omega

/-- `k` deliveries, each followed by the poll that takes it, once every send is made. -/
theorem runHwm_deliverPoll (hr : 0 < rcvHwm) : ∀ (k dropped inFlight received : Nat), received + k ≤ numMessages →
    k ≤ inFlight →
    runHwm sndHwm rcvHwm numMessages ⟨numMessages, dropped, inFlight, 0, received⟩
        (List.replicate k [.deliver, .poll]).flatten =
      some ⟨numMessages, dropped, inFlight - k, 0, received + k⟩
  | 0, _, _, _, _, _ => rfl
  | k + 1, dropped, inFlight, received, hn, hf => by
    rw [List.replicate_succ, List.flatten_cons, List.cons_append, List.cons_append, List.nil_append,
      runHwm_cons _ (stepHwm_deliver (by omega) hr), runHwm_cons _ (stepHwm_poll (by omega) Nat.one_pos),
      Nat.sub_self, runHwm_deliverPoll hr k _ _ _ (by omega) (by omega)]
    congr 2 <;> omega

/-- **The receive loop can finish exactly when `num_messages` fits into the buffers**: with a pipe of
`sndHwm` and a subscriber queue of `rcvHwm` messages, some schedule of sends, deliveries and polls from
the start brings `received` to `num_messages` if and only if `num_messages ≤ sndHwm + rcvHwm`.  Beyond
that, every schedule drops a send and the loop never exits. -/
theorem runHwm_can_finish_iff (hs : 0 < sndHwm) (hr : 0 < rcvHwm) :
    (∃ es s', runHwm sndHwm rcvHwm numMessages Transfer.init es = some s' ∧ numMessages ≤ s'.received) ↔
      numMessages ≤ sndHwm + rcvHwm := by
  constructor
  · rintro ⟨es, s', h, hfin⟩
    obtain ⟨⟨ha, hb⟩, -, -, -, hsent⟩ := runHwm_inv h hwmInv_init
    omega
  · intro hn
    obtain ⟨a, ha⟩ : ∃ a, a = min numMessages rcvHwm := ⟨_, rfl⟩
    refine ⟨(List.replicate a [.send false, .deliver]).flatten ++ List.replicate (numMessages - a) (.send false) ++
      List.replicate a .poll ++ (List.replicate (numMessages - a) [.deliver, .poll]).flatten,
      ⟨numMessages, 0, 0, 0, numMessages⟩, ?_, le_rfl⟩
    have hsent : 0 + a + (numMessages - a) = numMessages := by omega
    rw [runHwm_append, runHwm_append, runHwm_append, Transfer.init,
      runHwm_sendDeliver hs a 0 0 0 0 (by omega) (by omega), Option.some_bind,
      runHwm_sends _ _ _ _ _ _ (by omega) (by omega), Option.some_bind, hsent,
      runHwm_polls _ _ _ _ _ (by omega) (by omega), Option.some_bind, Nat.add_sub_cancel,
      runHwm_deliverPoll hr _ _ _ _ (by omega) (by omega)]
    congr 2; omega

/-- Three messages do not fit into a pipe and a queue of one message each. -/
theorem runHwm_can_finish_iff_threeMessages :
    0 < 1 ∧ 0 < 1 ∧
      ((∃ es s', runHwm 1 1 3 Transfer.init es = some s' ∧ 3 ≤ s'.received) ↔ 3 ≤ 1 + 1) :=
  ⟨Nat.one_pos, Nat.one_pos, runHwm_can_finish_iff Nat.one_pos Nat.one_pos⟩

end Bounded

end Interop
end Monocoque
