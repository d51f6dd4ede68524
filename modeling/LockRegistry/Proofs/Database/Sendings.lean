import LockRegistry.Database.Server
import LockRegistry.Proofs.Op.Polls
import LockRegistry.Proofs.Op.Propagation
import Mathlib.Data.List.Forall2

/-! The statements that an operation sends to a database which may answer anything. As long as the
answers can be read, they are the exchanges of a run of the operation. -/

namespace LockRegistry

namespace Database

structure Sending where
  call : Call
  answer : Except DatabaseError ResultSet

namespace Sending

def query (x : Sending) : Query := .ofCall x.call

def reply (x : Sending) : Except DatabaseError x.call.Reply := x.answer >>= fun r => r.reply x.call

def fault? (x : Sending) : Option DatabaseError :=
  match x.reply with
  | .ok _ => none
  | .error e => some e

inductive Reads : Sending → Exchange → Prop
  | intro {c : Call} {answer : Except DatabaseError ResultSet} {a : c.Reply}
      (h : reply ⟨c, answer⟩ = .ok a) : Reads ⟨c, answer⟩ ⟨c, a⟩

variable {x : Sending}

lemma fault?_of_reply {e : DatabaseError} (h : x.reply = .error e) : x.fault? = some e := by
  rw [fault?, h]

lemma reply_of_fault? (h : x.fault? = none) : ∃ a, x.reply = .ok a := by
  cases reply : x.reply with
  | ok a => exact ⟨a, rfl⟩
  | error e => cases h.symm.trans (fault?_of_reply reply)

lemma Reads.fault? {y : Exchange} (h : Reads x y) : x.fault? = none := by
  cases h with
  | intro h => rw [Sending.fault?, h]

lemma fault?_of_reads {l : List Sending} {m : List Exchange} (h : List.Forall₂ Reads l m) :
    ∀ x ∈ l, x.fault? = none := by
  induction h with
  | nil => exact List.forall_mem_nil _
  | cons h _ ih => exact List.forall_mem_cons.2 ⟨h.fault?, ih⟩

lemma exists_reads {l : List Sending} {m : List Exchange} (h : List.Forall₂ Reads l m)
    {y : Exchange} (hy : y ∈ m) : ∃ x ∈ l, Reads x y := by
  induction h with
  | nil => cases hy
  | @cons x _ _ _ h _ ih =>
    rcases List.mem_cons.1 hy with rfl | hy
    · exact ⟨x, List.mem_cons_self, h⟩
    · obtain ⟨x', mem, h⟩ := ih hy
      exact ⟨x', List.mem_cons_of_mem _ mem, h⟩

lemma exists_read {l : List Sending} {m : List Exchange} (h : List.Forall₂ Reads l m)
    (hx : x ∈ l) : ∃ y ∈ m, Reads x y := by
  induction h with
  | nil => cases hx
  | @cons _ y _ _ h _ ih =>
    rcases List.mem_cons.1 hx with rfl | hx
    · exact ⟨y, List.mem_cons_self, h⟩
    · obtain ⟨y', mem, h⟩ := ih hx
      exact ⟨y', List.mem_cons_of_mem _ mem, h⟩

lemma Reads.unique {y y' : Exchange} (h : Reads x y) (h' : Reads x y') : y = y' := by
  cases h with
  | intro h =>
    cases h' with
    | intro h' =>
      cases h.symm.trans h'
      rfl

end Sending

end Database

open Database (ResultSet Sending)

variable {σ α : Type}

inductive Op.Sends : Op α → List Sending → Except LockError α → Prop
  | done {x r} (h : action x = .done r) : Sends x [] r
  | quiet {x y l r} (h : x.action.Leads [] y) (rest : Sends y l r) : Sends x l r
  | call {x c next answer l r} (h : x.action = .call c next)
      (rest : Sends (next (Sending.reply ⟨c, answer⟩)) l r) : Sends x (⟨c, answer⟩ :: l) r

inductive Op.Opens : Op α → List Sending → Prop
  | start (x) : Opens x []
  | quiet {x y l} (h : x.action.Leads [] y) (rest : Opens y l) : Opens x l
  | call {x c next answer a l} (h : x.action = .call c next)
      (reply : Sending.reply ⟨c, answer⟩ = .ok a) (rest : Opens (next (.ok a)) l) :
      Opens x (⟨c, answer⟩ :: l)

namespace Op

variable {x : Op α} {l : List Sending} {r : Except LockError α}

lemma Sends.of_done {r' : Except LockError α} (h : x.Sends l r) (final : x.action = .done r') :
    l = [] ∧ r = r' := by
  cases h with
  | done h => exact ⟨rfl, Action.done.inj (h.symm.trans final)⟩
  | quiet h =>
    rw [final] at h
    cases h
  | call h => cases h.symm.trans final

lemma Opens.makes (h : x.Opens l) :
    ∃ m m' r, List.Forall₂ Sending.Reads l m ∧ x.Makes (m ++ m') r := by
  induction h with
  | start x =>
    obtain ⟨m, r, makes⟩ := x.exists_makes
    exact ⟨[], m, r, .nil, makes⟩
  | quiet h _ ih =>
    obtain ⟨m, m', r, reads, makes⟩ := ih
    exact ⟨m, m', r, reads, .step (x := []) h makes⟩
  | call h reply _ ih =>
    obtain ⟨m, m', r, reads, makes⟩ := ih
    exact ⟨_ :: m, m', r, .cons (.intro reply) reads, .call h _ makes⟩

lemma Opens.fine (h : x.Opens l) : ∀ y ∈ l, y.fault? = none := by
  obtain ⟨_, _, _, reads, -⟩ := h.makes
  exact Sending.fault?_of_reads reads

lemma Sends.answered {c : Call} {next : Except DatabaseError c.Reply → Op α}
    {answer : Except DatabaseError ResultSet} {reply : Except DatabaseError c.Reply}
    (h : x.action = .call c next) (read : Sending.reply ⟨c, answer⟩ = reply)
    (rest : (next reply).Sends l r) : x.Sends (⟨c, answer⟩ :: l) r :=
  .call h (read ▸ rest)

lemma Sends.makes (h : x.Sends l r) (fine : ∀ y ∈ l, y.fault? = none) :
    ∃ m, x.Makes m r ∧ List.Forall₂ Sending.Reads l m := by
  induction h with
  | done h => exact ⟨[], .done h, .nil⟩
  | quiet h _ ih =>
    obtain ⟨m, makes, reads⟩ := ih fine
    exact ⟨m, .step (x := []) h makes, reads⟩
  | @call x c next answer l r h _ ih =>
    obtain ⟨own, fine⟩ := List.forall_mem_cons.1 fine
    obtain ⟨m, makes, reads⟩ := ih fine
    obtain ⟨a, reply⟩ := Sending.reply_of_fault? own
    rw [reply] at makes
    exact ⟨⟨c, a⟩ :: m, .call h a makes, .cons (.intro reply) reads⟩

lemma Sends.makes_or_failed (h : x.Sends l r) (propagates : x.Propagates) :
    (∃ m, x.Makes m r ∧ List.Forall₂ Sending.Reads l m) ∨
      ∃ l' y e, l = l' ++ [y] ∧ (∀ z ∈ l', z.fault? = none) ∧ y.fault? = some e ∧
        r = .error (.database e) := by
  induction h with
  | done h => exact .inl ⟨[], .done h, .nil⟩
  | quiet h _ ih =>
    obtain ⟨t, shows, -⟩ := Action.leads_iff.1 h
    exact (ih (propagates.after shows)).imp_left fun ⟨m, makes, reads⟩ =>
      ⟨m, .step (x := []) h makes, reads⟩
  | @call x c next answer l r h rest ih =>
    cases reply : Sending.reply ⟨c, answer⟩ with
    | ok a =>
      rw [reply] at ih
      rcases ih (propagates.after (.of_call h a)) with
        ⟨m, makes, reads⟩ | ⟨l', z, e, rfl, fine, fault, rfl⟩
      · exact .inl ⟨_, .call h a makes, .cons (.intro reply) reads⟩
      · have own : Sending.fault? ⟨c, answer⟩ = none := (Sending.Reads.intro reply).fault?
        exact .inr ⟨_ :: l', z, e, rfl, List.forall_mem_cons.2 ⟨own, fine⟩, fault, rfl⟩
    | error e =>
      rw [reply] at rest
      obtain ⟨rfl, rfl⟩ := rest.of_done (propagates.failing h e)
      exact .inr ⟨[], _, e, rfl, List.forall_mem_nil _, Sending.fault?_of_reply reply, rfl⟩

end Op

namespace Database

structure Message where
  query : Query
  answer : Except DatabaseError ResultSet

def Sending.message (x : Sending) : Message := ⟨x.query, x.answer⟩

def Server.recording (s : Server σ) : Server (σ × List Message) where
  connect p options := s.connect p.1 options
  answer p now q :=
    let (answer, next) := s.answer p.1 now q
    (answer, next, p.2 ++ [⟨q, answer⟩])
  migrate p :=
    let (result, next) := s.migrate p.1
    (result, next, p.2)

namespace Client

def unrecorded (c : Client (σ × List Message)) : Client σ where
  server := c.server.1
  start := c.start
  elapsed := c.elapsed
  log := c.log

variable (s : Server σ) (c : Client (σ × List Message))

def sending (call : Call) : Sending := ⟨call, (s.answer c.server.1 c.now (.ofCall call)).1⟩

lemma ask_recording (call : Call) : (ask s.recording c call).1 = (sending s c call).reply := rfl

lemma record_ask (call : Call) :
    (ask s.recording c call).2.server.2 = c.server.2 ++ [(sending s c call).message] := rfl

lemma ask_unrecorded (call : Call) :
    ask s c.unrecorded call =
      ((ask s.recording c call).1, (ask s.recording c call).2.unrecorded) := rfl

lemma run_of_done {op : Op α} {r : Except LockError α} (final : op.action = .done r) (fuel : Nat)
    (c : Client σ) : run s fuel op c = (r, c) := by
  cases fuel with
  | zero => simp only [run, Op.result?, final, Option.getD_some]
  | succ fuel => simp only [run, final]

lemma run_unrecorded (fuel : Nat) (op : Op α) :
    run s fuel op c.unrecorded =
      ((run s.recording fuel op c).1, (run s.recording fuel op c).2.unrecorded) := by
  induction fuel generalizing op c with
  | zero => rfl
  | succ fuel ih =>
    cases ha : op.action with
    | done result => simp only [run, ha]
    | log e next =>
      simp only [run, ha]
      exact ih (c.say e) next
    | call call next =>
      simp only [run, ha, ask_unrecorded]
      exact ih (ask s.recording c call).2 (next _)
    | clock next =>
      simp only [run, ha]
      exact ih c (next c.clock)
    | token next =>
      simp only [run, ha]
      exact ih c (next false)
    | nap length next =>
      simp only [run, ha]
      exact ih { c with elapsed := c.elapsed + length } (next false)

lemma opens_of_run (fuel : Nat) (op : Op α) (propagates : op.Propagates) :
    ∃ l : List Sending,
      (run s.recording fuel op c).2.server.2 = c.server.2 ++ l.map Sending.message ∧
        (op.Sends l (run s.recording fuel op c).1 ∨
          (run s.recording fuel op c).1 = .error .cancelled ∧ op.Opens l) := by
  induction fuel generalizing op c with
  | zero =>
    refine ⟨[], by simp [run], ?_⟩
    cases ha : op.action with
    | done result => exact .inl (.done (by simp only [run, Op.result?, ha, Option.getD_some]))
    | _ => exact .inr ⟨by simp only [run, Op.result?, ha, Option.getD_none], .start op⟩
  | succ fuel ih =>
    -- a step without a statement leaves the record as it is
    have quiet {next : Op α} {c' : Client (σ × List Message)} (leads : op.action.Leads [] next)
        (kept : c'.server = c.server) :
        ∃ l : List Sending,
          (run s.recording fuel next c').2.server.2 = c.server.2 ++ l.map Sending.message ∧
            (op.Sends l (run s.recording fuel next c').1 ∨
              (run s.recording fuel next c').1 = .error .cancelled ∧ op.Opens l) := by
      obtain ⟨t, shows, -⟩ := Action.leads_iff.1 leads
      obtain ⟨l, record, h⟩ := ih c' next (propagates.after shows)
      exact ⟨l, kept ▸ record, h.imp (.quiet leads) (And.imp_right (.quiet leads))⟩
    cases ha : op.action with
    | done result =>
      simp only [run, ha]
      exact ⟨[], by simp, .inl (.done ha)⟩
    | log e next =>
      simp only [run, ha]
      exact quiet (ha ▸ .log e next) rfl
    | call call next =>
      simp only [run, ha]
      have read := ask_recording s c call
      have sent := record_ask s c call
      cases hr : ask s.recording c call with
      | mk reply c' =>
        rw [hr] at read sent
        change c'.server.2 = _ at sent
        cases reply with
        | ok a =>
          obtain ⟨l, record, h⟩ := ih c' (next (.ok a)) (propagates.after (.of_call ha a))
          refine ⟨sending s c call :: l, by simp [record, sent], h.imp ?_ ?_⟩
          · exact .answered ha read.symm
          · exact And.imp_right (.call ha read.symm)
        | error e =>
          have final := propagates.failing ha e
          rw [run_of_done s.recording final]
          exact ⟨[sending s c call], sent, .inl (.answered ha read.symm (.done final))⟩
    | clock next =>
      simp only [run, ha]
      exact quiet (ha ▸ .clock next _) rfl
    | token next =>
      simp only [run, ha]
      exact quiet (ha ▸ .token next _) rfl
    | nap length next =>
      simp only [run, ha]
      exact quiet (ha ▸ .nap length next _) rfl

lemma sends_of_run (fuel : Nat) (op : Op α) (propagates : op.Propagates) :
    ∃ l : List Sending,
      (run s.recording fuel op c).2.server.2 = c.server.2 ++ l.map Sending.message ∧
        (op.Sends l (run s.recording fuel op c).1 ∨
          (run s.recording fuel op c).1 = .error .cancelled ∧ ∀ x ∈ l, x.fault? = none) := by
  obtain ⟨l, record, h⟩ := opens_of_run s c fuel op propagates
  exact ⟨l, record, h.imp_right (And.imp_right Op.Opens.fine)⟩

end Client

end Database

end LockRegistry
