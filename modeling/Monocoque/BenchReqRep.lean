import Monocoque.PyFloat
/-!
# BenchReqRep — the lockstep of `bench_req_rep_throughput`

Each iteration of both loops of `bench_req_rep_throughput` (100 warm-up exchanges, then
`num_messages`) is `req.send(msg); rep.recv(); rep.send(msg); req.recv()`.  The sockets follow ZeroMQ's
REQ/REP contract: REQ alternates send and receive, REP alternates receive and send, a call out of turn
fails with `EFSM`, and a blocking `recv` with nothing to receive would hang.

`ReqRep` is the pair of sockets and the messages between them.  Whatever order the two parties call in,
an accepted call keeps them in lockstep, with at most one message in flight (`Lockstep`,
`runOps_lockstep`).  The benchmark's own calls never fail: every exchange returns to the idle pair with
`msg` delivered both ways (`exchange_idle`), for any message and any count (`benchReqRep_ok`).

The figures the function returns are float divisions by the measured `elapsed` and are not modelled.
-/
namespace Monocoque
namespace Interop

open Py

/-- Why a socket call fails. -/
inductive ZmqError
  /-- `EFSM`: the call is out of turn for the socket. -/
  | efsm
  /-- A blocking `recv` with nothing to receive: the benchmark would hang. -/
  | wouldBlock
  deriving DecidableEq, Repr

/-- A REQ socket connected to a REP socket, and the messages between them. -/
structure ReqRep (α : Type) where
  /-- REQ has sent a request and not yet received its reply. -/
  reqPending : Bool
  /-- REP has received a request and not yet replied. -/
  repPending : Bool
  /-- Requests on their way to REP. -/
  requests : List α
  /-- Replies on their way to REQ. -/
  replies : List α
  deriving DecidableEq, Repr

variable {α : Type}

/-- Both sockets fresh, nothing in flight. -/
def ReqRep.idle : ReqRep α := ⟨false, false, [], []⟩

/-- `req.send(m)`. -/
def reqSend (s : ReqRep α) (m : α) : Except ZmqError (ReqRep α) :=
  if s.reqPending then .error .efsm else .ok { s with reqPending := true, requests := s.requests ++ [m] }

/-- `rep.recv()`. -/
def repRecv (s : ReqRep α) : Except ZmqError (ReqRep α × α) :=
  if s.repPending then .error .efsm
  else match s.requests with
    | [] => .error .wouldBlock
    | m :: rest => .ok ({ s with repPending := true, requests := rest }, m)

/-- `rep.send(m)`. -/
def repSend (s : ReqRep α) (m : α) : Except ZmqError (ReqRep α) :=
  if s.repPending then .ok { s with repPending := false, replies := s.replies ++ [m] } else .error .efsm

/-- `req.recv()`. -/
def reqRecv (s : ReqRep α) : Except ZmqError (ReqRep α × α) :=
  if s.reqPending then
    match s.replies with
    | [] => .error .wouldBlock
    | m :: rest => .ok ({ s with reqPending := false, replies := rest }, m)
  else .error .efsm

/-! ## Any order of calls -/

/-- One socket call by either party. -/
inductive Op (α : Type)
  | reqSend (m : α)
  | repRecv
  | repSend (m : α)
  | reqRecv

/-- The state after one call; what a `recv` returned is dropped. -/
def exec (s : ReqRep α) : Op α → Except ZmqError (ReqRep α)
  | .reqSend m => reqSend s m
  | .repRecv => Prod.fst <$> repRecv s
  | .repSend m => repSend s m
  | .reqRecv => Prod.fst <$> reqRecv s

/-! ## What each accepted call does -/

@[simp] theorem exec_reqSend_eq_ok {s s' : ReqRep α} {m : α} :
    exec s (.reqSend m) = .ok s' ↔
      s.reqPending = false ∧ s' = { s with reqPending := true, requests := s.requests ++ [m] } := by
  unfold exec reqSend; cases s.reqPending <;> simp [eq_comm]

@[simp] theorem exec_repRecv_eq_ok {s s' : ReqRep α} :
    exec s .repRecv = .ok s' ↔ s.repPending = false ∧
      ∃ m rest, s.requests = m :: rest ∧ s' = { s with repPending := true, requests := rest } := by
  unfold exec repRecv; cases s.repPending <;> cases s.requests <;> simp [eq_comm, and_assoc]

@[simp] theorem exec_repSend_eq_ok {s s' : ReqRep α} {m : α} :
    exec s (.repSend m) = .ok s' ↔
      s.repPending = true ∧ s' = { s with repPending := false, replies := s.replies ++ [m] } := by
  unfold exec repSend; cases s.repPending <;> simp [eq_comm]

@[simp] theorem exec_reqRecv_eq_ok {s s' : ReqRep α} :
    exec s .reqRecv = .ok s' ↔ s.reqPending = true ∧
      ∃ m rest, s.replies = m :: rest ∧ s' = { s with reqPending := false, replies := rest } := by
  unfold exec reqRecv; cases s.reqPending <;> cases s.replies <;> simp [eq_comm, and_assoc]

/-- A sequence of calls, stopping at the first that fails. -/
def runOps (s : ReqRep α) : List (Op α) → Except ZmqError (ReqRep α)
  | [] => .ok s
  | op :: ops => exec s op >>= fun s' => runOps s' ops

/-- **The four states of a REQ/REP pair**: idle; a request in flight; REP owing the reply; a reply in
flight.  At most one message is ever in flight. -/
def Lockstep (s : ReqRep α) : Prop :=
  (s.reqPending = false ∧ s.repPending = false ∧ s.requests = [] ∧ s.replies = []) ∨
  (s.reqPending = true ∧ s.repPending = false ∧ s.requests.length = 1 ∧ s.replies = []) ∨
  (s.reqPending = true ∧ s.repPending = true ∧ s.requests = [] ∧ s.replies = []) ∨
  (s.reqPending = true ∧ s.repPending = false ∧ s.requests = [] ∧ s.replies.length = 1)

theorem exec_lockstep {s s' : ReqRep α} {op : Op α} (hs : Lockstep s) (h : exec s op = .ok s') :
    Lockstep s' := by
  unfold Lockstep at hs ⊢
  cases op with
  | reqSend m => obtain ⟨-, rfl⟩ := exec_reqSend_eq_ok.1 h; simp_all
  | repRecv => obtain ⟨-, m, rest, hq, rfl⟩ := exec_repRecv_eq_ok.1 h; simp_all
  | repSend m => obtain ⟨-, rfl⟩ := exec_repSend_eq_ok.1 h; simp_all
  | reqRecv => obtain ⟨-, m, rest, hq, rfl⟩ := exec_reqRecv_eq_ok.1 h; simp_all

/-- **Lockstep in every run**: from a pair in lockstep, whatever calls the two parties make in whatever
order, a run that is accepted ends in lockstep. -/
theorem runOps_lockstep : ∀ {s s' : ReqRep α} (ops : List (Op α)), Lockstep s → runOps s ops = .ok s' →
    Lockstep s'
  | _, _, [], hs, h => by cases h; exact hs
  | s, _, op :: ops, hs, h => by
    obtain ⟨t, ht, h⟩ := bind_eq_ok.1 h
    exact runOps_lockstep ops (exec_lockstep hs ht) h

theorem runOps_lockstep_request :
    Lockstep (ReqRep.idle : ReqRep Nat) ∧
      runOps ReqRep.idle [Op.reqSend 7, Op.repRecv] = .ok (⟨true, true, [], []⟩ : ReqRep Nat) ∧
      Lockstep (⟨true, true, [], []⟩ : ReqRep Nat) :=
  have h0 : Lockstep (ReqRep.idle : ReqRep Nat) := .inl ⟨rfl, rfl, rfl, rfl⟩
  have h : runOps ReqRep.idle [Op.reqSend 7, Op.repRecv] = .ok (⟨true, true, [], []⟩ : ReqRep Nat) := rfl
  ⟨h0, h, runOps_lockstep _ h0 h⟩

theorem lockstep_in_flight {s : ReqRep α} (h : Lockstep s) : s.requests.length + s.replies.length ≤ 1 := by
  rcases h with ⟨-, -, h1, h2⟩ | ⟨-, -, h1, h2⟩ | ⟨-, -, h1, h2⟩ | ⟨-, -, h1, h2⟩ <;> simp [h1, h2]

/-! ## The benchmark's calls -/

/-- One iteration of either loop: the state, and what `rep.recv()` and `req.recv()` returned. -/
def exchange (s : ReqRep α) (msg : α) : Except ZmqError (ReqRep α × α × α) := do
  let s ← reqSend s msg
  let (s, request) ← repRecv s
  let s ← repSend s msg
  let (s, reply) ← reqRecv s
  pure (s, request, reply)

/-- `for _ in range(n)` over exchanges of `msg`. -/
def exchanges (msg : α) : Nat → ReqRep α → Except ZmqError (ReqRep α)
  | 0, s => .ok s
  | n + 1, s => exchange s msg >>= fun r => exchanges msg n r.1

/-- The socket traffic of `bench_req_rep_throughput(message_size, num_messages)` with
`msg = b"X" * message_size`: the warm-up, then the measured loop. -/
def benchReqRep (msg : α) (numMessages : Nat) : Except ZmqError (ReqRep α) :=
  exchanges msg 100 ReqRep.idle >>= exchanges msg numMessages

/-- **One exchange from the idle pair**: REP receives `msg`, REQ receives the echoed `msg`, and the pair
is idle again. -/
theorem exchange_idle (msg : α) : exchange ReqRep.idle msg = .ok (ReqRep.idle, msg, msg) := rfl

theorem exchanges_idle (msg : α) : ∀ n, exchanges msg n ReqRep.idle = .ok ReqRep.idle
  | 0 => rfl
  | n + 1 => by rw [exchanges, exchange_idle]; exact exchanges_idle msg n

/-- **The benchmark never fails a call**: for any message and any count, both loops run to the end
and leave the pair idle. -/
theorem benchReqRep_ok (msg : α) (numMessages : Nat) : benchReqRep msg numMessages = .ok ReqRep.idle := by
  rw [benchReqRep, exchanges_idle]; exact exchanges_idle msg numMessages

end Interop
end Monocoque
