import Monocoque.BenchReqRep
/-!
# ReqRepTrace — every interleaving of REQ/REP calls is a run of whole rounds

`runOps_lockstep` says an accepted call keeps the pair in lockstep.  This module says what that leaves
of the interleavings.  From the idle pair the four states of `Lockstep` are met in one order only, so
the accepted call sequences are exactly the prefixes of whole rounds
`req.send(m); rep.recv(); rep.send(r); req.recv()` (`runOps_idle_accepted_iff`), the loop body of
`bench_req_rep_throughput` and nothing else.
-/
namespace Monocoque
namespace Interop

open Py

variable {α : Type}

/-! ## The four states and the one call each accepts -/

/-- REQ has sent `m`; REP has not received it. -/
def ReqRep.requested (m : α) : ReqRep α := ⟨true, false, [m], []⟩

/-- REP has received the request and owes the reply. -/
def ReqRep.serving : ReqRep α := ⟨true, true, [], []⟩

/-- REP has sent `r`; REQ has not received it. -/
def ReqRep.replied (r : α) : ReqRep α := ⟨true, false, [], [r]⟩

/-- One round of the protocol as calls: the request `p.1` and the reply `p.2`. -/
def roundOps (p : α × α) : List (Op α) := [.reqSend p.1, .repRecv, .repSend p.2, .reqRecv]

theorem exec_idle_eq_ok {op : Op α} {s : ReqRep α} :
    exec ReqRep.idle op = .ok s ↔ ∃ m, op = .reqSend m ∧ s = ReqRep.requested m := by
  cases op <;> simp [ReqRep.idle, ReqRep.requested]

theorem exec_requested_eq_ok {m : α} {op : Op α} {s : ReqRep α} :
    exec (ReqRep.requested m) op = .ok s ↔ op = .repRecv ∧ s = ReqRep.serving := by
  cases op <;> simp [ReqRep.requested, ReqRep.serving, and_assoc]

theorem exec_serving_eq_ok {op : Op α} {s : ReqRep α} :
    exec ReqRep.serving op = .ok s ↔ ∃ r, op = .repSend r ∧ s = ReqRep.replied r := by
  cases op <;> simp [ReqRep.serving, ReqRep.replied]

theorem exec_replied_eq_ok {r : α} {op : Op α} {s : ReqRep α} :
    exec (ReqRep.replied r) op = .ok s ↔ op = .reqRecv ∧ s = ReqRep.idle := by
  cases op <;> simp [ReqRep.replied, ReqRep.idle, and_assoc]

/-! ## Accepted sequences are prefixes of whole rounds -/

theorem runOps_cons_eq_ok {s t : ReqRep α} {op : Op α} {ops : List (Op α)} :
    runOps s (op :: ops) = .ok t ↔ ∃ s', exec s op = .ok s' ∧ runOps s' ops = .ok t := by
  rw [runOps]; exact bind_eq_ok

@[simp] theorem runOps_append (s : ReqRep α) (a b : List (Op α)) :
    runOps s (a ++ b) = runOps s a >>= fun t => runOps t b := by
  induction a generalizing s with
  | nil => rfl
  | cons op a ih =>
    rw [List.cons_append, runOps, runOps]
    cases exec s op with
    | error e => rfl
    | ok s' => exact ih s'

theorem runOps_rounds : ∀ rounds : List (α × α),
    runOps ReqRep.idle (rounds.flatMap roundOps) = .ok ReqRep.idle
  | [] => rfl
  | p :: rounds => by
    rw [List.flatMap_cons, runOps_append]
    exact runOps_rounds rounds

/-- **One round at a time**: a sequence accepted from the idle pair is empty, a round cut short, or a
whole round followed by a sequence accepted from the idle pair. -/
theorem runOps_idle_cases {ops : List (Op α)} {s : ReqRep α} (h : runOps ReqRep.idle ops = .ok s) :
    ops = [] ∨ (∃ p : α × α, ops <+: roundOps p) ∨
      ∃ p rest, ops = roundOps p ++ rest ∧ runOps ReqRep.idle rest = .ok s := by
  rcases ops with _ | ⟨o₁, ops⟩
  · exact .inl rfl
  obtain ⟨_, h₁, h⟩ := runOps_cons_eq_ok.1 h
  obtain ⟨m, rfl, rfl⟩ := exec_idle_eq_ok.1 h₁
  rcases ops with _ | ⟨o₂, ops⟩
  · exact .inr (.inl ⟨(m, m), [_, _, _], rfl⟩)
  obtain ⟨_, h₂, h⟩ := runOps_cons_eq_ok.1 h
  obtain ⟨rfl, rfl⟩ := exec_requested_eq_ok.1 h₂
  rcases ops with _ | ⟨o₃, ops⟩
  · exact .inr (.inl ⟨(m, m), [_, _], rfl⟩)
  obtain ⟨_, h₃, h⟩ := runOps_cons_eq_ok.1 h
  obtain ⟨r, rfl, rfl⟩ := exec_serving_eq_ok.1 h₃
  rcases ops with _ | ⟨o₄, rest⟩
  · exact .inr (.inl ⟨(m, r), [_], rfl⟩)
  obtain ⟨_, h₄, h⟩ := runOps_cons_eq_ok.1 h
  obtain ⟨rfl, rfl⟩ := exec_replied_eq_ok.1 h₄
  exact .inr (.inr ⟨(m, r), rest, rfl, h⟩)

theorem prefix_rounds_of_runOps {ops : List (Op α)} {s : ReqRep α} (h : runOps ReqRep.idle ops = .ok s) :
    ∃ rounds : List (α × α), ops <+: rounds.flatMap roundOps := by
  rcases runOps_idle_cases h with rfl | ⟨p, hp⟩ | ⟨p, rest, rfl, hrest⟩
  · exact ⟨[], List.nil_prefix⟩
  · exact ⟨[p], by simpa using hp⟩
  · obtain ⟨rounds, hr⟩ := prefix_rounds_of_runOps hrest
    exact ⟨p :: rounds, by rw [List.flatMap_cons]; exact (List.prefix_append_right_inj _).2 hr⟩
termination_by ops.length
decreasing_by simp_wf; subst_vars; simp only [roundOps, List.length_append, List.length_cons]; omega

theorem runOps_of_prefix_rounds {ops : List (Op α)} {rounds : List (α × α)}
    (h : ops <+: rounds.flatMap roundOps) : ∃ s, runOps ReqRep.idle ops = .ok s := by
  obtain ⟨t, ht⟩ := h
  have hr := runOps_rounds rounds
  rw [← ht, runOps_append] at hr
  obtain ⟨s, hs, -⟩ := bind_eq_ok.1 hr
  exact ⟨s, hs⟩

/-- **Strict alternation, whatever the interleaving**: from the idle pair a sequence of calls by the two
parties is accepted exactly when it is a prefix of whole rounds `req.send(m); rep.recv(); rep.send(r);
req.recv()`. -/
theorem runOps_idle_accepted_iff (ops : List (Op α)) :
    (∃ s, runOps ReqRep.idle ops = .ok s) ↔ ∃ rounds : List (α × α), ops <+: rounds.flatMap roundOps :=
  ⟨fun ⟨_, h⟩ => prefix_rounds_of_runOps h, fun ⟨_, h⟩ => runOps_of_prefix_rounds h⟩

end Interop
end Monocoque
