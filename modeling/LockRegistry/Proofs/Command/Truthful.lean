import LockRegistry.Program
import LockRegistry.Proofs.Command.Answers
import LockRegistry.Proofs.Locking.Courses
import LockRegistry.Proofs.Locking.Tenure
import LockRegistry.Proofs.Op.Rendered
import LockRegistry.Proofs.Operation
import LockRegistry.Regex.Runner

/-! The commands tell the truth about what they did to the store. -/

namespace LockRegistry

open Answer Database

namespace Plan

variable {cmd : Command}

def op? : Plan → Option (Op Answer)
  | refuse _ cause => some (.fail (.argument cause))
  | migrate => none
  | operate op _ => some op

inductive Uniform (cmd : Command) : (OutputFormat → Plan) → Prop
  | refuse (context : String) (cause : ArgumentError) : Uniform cmd fun _ => .refuse context cause
  | operate {α : Type} (x : Op α) (answer : OutputFormat → α → Answer)
      (judges : ∀ a, cmd.Judges (answer · a)) (interruptible : Bool) :
      Uniform cmd fun format => .operate (x >>= fun a => pure (answer format a)) interruptible

lemma uniform_withKey {key : RawKey} {f : OutputFormat → LockKey → Plan}
    (read : ∀ k, LockKey.ofRaw key.office key.project key.application = .ok k →
      Uniform cmd (f · k)) :
    Uniform cmd fun format => withKey key (f format) := by
  simp only [withKey]
  split
  · exact read _ ‹_›
  · exact .refuse _ _

lemma judges_of_map {α ε : Type} {answer : OutputFormat → α → Answer} {r : Except ε α}
    {printed : OutputFormat → Answer} (judges : ∀ a, cmd.Judges (answer · a))
    (h : (r.map fun a format => answer format a) = .ok printed) : cmd.Judges printed := by
  cases r with
  | error e => cases h
  | ok a =>
    cases h
    exact judges a

lemma Uniform.op? (uniform : Uniform cmd plan) :
    ∃ (α : Type) (x : Op α) (answer : OutputFormat → α → Answer),
      (∀ a, cmd.Judges (answer · a)) ∧
      ∀ format, (plan format).op? = some (answer format <$> x) := by
  cases uniform with
  | refuse context cause =>
    exact ⟨Empty, .fail (.argument cause), fun _ => Empty.elim, fun a => a.elim, fun _ => rfl⟩
  | operate x answer judges => exact ⟨_, x, answer, judges, fun _ => rfl⟩

lemma Uniform.exists_op (uniform : Uniform cmd plan) (format : OutputFormat) :
    ∃ op, (plan format).op? = some op := by
  obtain ⟨α, x, answer, -, ops⟩ := uniform.op?
  exact ⟨_, ops format⟩

lemma Uniform.perform (uniform : Uniform cmd plan) {σ : Type} (s : Server σ) (c : Client σ) :
    ∃ (r : Except ErrorChain (OutputFormat → Answer)) (c' : Client σ),
      (∀ format, (plan format).perform s format c = (r.map (· format), c')) ∧
      ∀ answer, r = .ok answer → cmd.Judges answer := by
  cases uniform with
  | refuse context cause =>
    exact ⟨.error [context, cause.message], c, fun _ => rfl, fun _ h => nomatch h⟩
  | operate x answer judges =>
    obtain ⟨r, c', performed⟩ : ∃ r c', c.perform s x = (r, c') := ⟨_, _, rfl⟩
    refine ⟨(r.mapError (·.chain)).map fun a format => answer format a, c', fun format => ?_, ?_⟩
    · have same : c.perform s (answer format <$> x) = (r.map (answer format), c') := by
        rw [Client.perform, Client.run_map, ← Client.perform, performed]
      change ((c.perform s (answer format <$> x)).1.mapError (·.chain),
        (c.perform s (answer format <$> x)).2) = _
      rw [same]
      cases r <;> rfl
    · exact fun _ h => judges_of_map judges h

variable [Regex.Engine]

lemma uniform_withFilter {filter : RawFilter} {f : OutputFormat → CatalogFilter → Plan}
    (read : ∀ x, Uniform cmd (f · x)) : Uniform cmd fun format => withFilter filter (f format) := by
  simp only [withFilter]
  split
  · exact read _
  · exact .refuse _ _

lemma uniform_ofCommand (i : Invocation) (other : cmd ≠ .migrate) :
    Uniform cmd fun format => ofCommand { i with format := format } cmd := by
  cases cmd with
  | migrate => exact absurd rfl other
  | acquire key revoke timeout =>
    simp only [ofCommand]
    exact uniform_withKey fun k read =>
      .operate (Locking.request i.config (acquireRequest i k revoke timeout) i.user i.freshId)
        (Answer.acquire · k) (judges_acquire revoke timeout read) true
  | release office lockId =>
    exact .operate (Locking.release office lockId) (Answer.release · office lockId)
      (judges_release office lockId) false
  | revoke key =>
    simp only [ofCommand]
    exact uniform_withKey fun k _ =>
      .operate (Locking.revoke k i.user) (Answer.revoke · k)
        (fun _ => judges_unasked fun _ _ => rfl) false
  | status key =>
    simp only [ofCommand]
    exact uniform_withKey fun k _ =>
      .operate (Locking.isLocked k) (Answer.status · k) (judges_status key k) false
  | locks filter zone =>
    simp only [ofCommand]
    exact uniform_withFilter fun f =>
      .operate (Locking.list f zone) Answer.locks (fun _ => judges_unasked fun _ _ => rfl) false
  | lockInfo office lockId =>
    exact .operate (Locking.find office lockId) (Answer.lockInfo · lockId)
      (judges_lockInfo office lockId) false
  | rights action =>
    cases action with
    | allow office grantee officeMask projectMask applicationMask =>
      exact .operate _ Answer.allowed (fun _ => judges_unasked fun _ _ => rfl) false
    | update office grantee officeMask projectMask applicationMask allowed =>
      exact .operate _ (fun format _ => Answer.updated format grantee allowed)
        (fun _ => judges_unasked fun _ _ => rfl) false
    | removeAll office grantee officeMask applicationMask =>
      exact .operate _ (Answer.removedAll · grantee) (fun _ => judges_unasked fun _ _ => rfl) false
    | check key grantee =>
      exact .operate _ (Answer.check · key grantee) (judges_check key grantee) false
    | list filter =>
      simp only [ofCommand, ofRights]
      exact uniform_withFilter fun f =>
        .operate (Authority.list f) Answer.grants (fun _ => judges_unasked fun _ _ => rfl) false

variable {plan : OutputFormat → Plan}

lemma Uniform.among (uniform : Uniform cmd plan) {ι : Type} [DecidableEq ι] (σ : Sessions ι Answer)
    (j : ι) (h : List (Turn ι)) :
    ∃ (r : Option (Except LockError (OutputFormat → Answer))) (store : Store),
      (∀ format op, (plan format).op? = some op →
        ((σ.seat j op).run h).store = store ∧
        ((σ.seat j op).run h).result? j = r.map (·.map (· format))) ∧
      ∀ answer, r = some (.ok answer) → cmd.Judges answer := by
  obtain ⟨α, x, answer, judges, ops⟩ := uniform.op?
  obtain ⟨x', σ', ran⟩ := σ.run_seat_map j x h
  refine ⟨x'.result?.map (·.map fun a format => answer format a), σ'.store, ?_, ?_⟩
  · intro format op asked
    obtain rfl := Option.some.inj ((ops format).symm.trans asked)
    rw [ran, Sessions.store_seat, Sessions.result?, Sessions.op_seat, Op.result?_map,
      Option.map_map]
    refine ⟨rfl, ?_⟩
    congr 1
    funext result
    cases result <;> rfl
  · intro answers h
    obtain ⟨result, -, same⟩ := Option.map_eq_some_iff.1 h
    exact judges_of_map judges same

end Plan

namespace Command

def Truthful (cmd : Command) (ending : OutputFormat → Ending) : Prop :=
  (∀ format, (ending format).output = "" ∧ (ending format).exitCode = 1) ∨
    ∃ exitCode json text, ∀ format,
      (ending format).output = (Answer.print format exitCode json text).output ∧
      (ending format).exitCode = exitCode ∧
      exitCode = cmd.outputStatus format (ending format).output

variable {cmd : Command}

lemma truthful_error (chain : ErrorChain) (line : CommandLine) (log : List LogEvent) :
    cmd.Truthful fun _ => .ended line (.error chain) log := .inl fun _ => ⟨rfl, rfl⟩

lemma Judges.truthful {answer : OutputFormat → Answer} (judges : cmd.Judges answer)
    (line : CommandLine) (log : List LogEvent) :
    cmd.Truthful fun format => .ended line (.ok (answer format)) log := by
  obtain ⟨exitCode, json, text, one⟩ := judges.one
  refine .inr ⟨exitCode, json, text, fun format => ⟨?_, ?_, ?_⟩⟩
  · exact congrArg Answer.output (one format)
  · exact congrArg Answer.exitCode (one format)
  · exact (congrArg Answer.exitCode (one format)).symm.trans (judges.told format)

def acquired (format : OutputFormat) (key : LockKey) (lockId : String) : String :=
  match format with
  | .text => "Acquired " ++ key.text ++ " as " ++ lockId ++ "\n"
  | .json =>
    "\x7b\n  \"outcome\": \"acquired\",\n  \"lock_id\": " ++ Json.quote lockId ++ "\n\x7d\n"

lemma output_acquire (format : OutputFormat) (key : LockKey) (lockId : String) :
    (Answer.acquire format key (.acquired lockId)).output = acquired format key lockId := by
  cases format with
  | text => rfl
  | json =>
    have fields : (Answer.acquire .json key (.acquired lockId)).output =
        (Json.obj [("outcome", .str "acquired"), ("lock_id", .str lockId)]).pretty ++ "\n" := rfl
    have start : Json.openBrace ++ "\n  " ++ Json.quote "outcome" ++ ": " ++
        Json.quote "acquired" ++ ",\n  " ++ Json.quote "lock_id" ++ ": " =
          "\x7b\n  \"outcome\": \"acquired\",\n  \"lock_id\": " := by decide
    have last : "\n" ++ (Json.closeBrace ++ "\n") = "\n\x7d\n" := by decide
    rw [fields, Json.pretty_two_fields, Json.prettyAt, Json.prettyAt, start, String.append_assoc,
      String.append_assoc, last]
    rfl

end Command

section Acquisitions

open Locking (newLock)

variable {ι : Type} [DecidableEq ι] {s : Store} {journal : List (Entry ι)} {j : ι}

variable [Regex.Engine]

namespace Locking.Requests

variable {r : LockRequest} {caller : Option String} {freshId a : String}
  {o : Except LockError AcquireOutcome}

lemma exists_inserts (h : Requests r caller freshId (exchanges j s journal) (.ok (.acquired a))) :
    a = freshId ∧ ∃ m now, journal[m]? = some ⟨j, now, .insertLock (newLock r freshId)⟩ ∧
      s.Inserts journal m j r.key freshId := by
  obtain ⟨-, row, mem, rfl⟩ := h.inserts
  obtain ⟨m, now, he, free, rfl⟩ := Store.exists_inserted mem
  exact ⟨rfl, m, now, he, .of_free (l := newLock r freshId) he free⟩

lemma acquires (h : Requests r caller freshId (exchanges j s journal) o) {m : Nat} {key : LockKey}
    {lockId : String} (inserts : s.Inserts journal m j key lockId) :
    o = .ok (.acquired lockId) ∧ ∃ row, s.lockAt journal (m + 1) key = some row ∧
      row.lockId = lockId ∧ row.session = r.session := by
  obtain ⟨a, rfl⟩ : ∃ a, o = .ok (.acquired a) := by
    by_contra lost
    exact Store.not_inserts (h.not_inserts fun a got => lost ⟨a, got⟩) inserts
  obtain ⟨rfl, m', now, he, inserts'⟩ := h.exists_inserts
  obtain rfl := inserts.unique h.inserts.1.le inserts'
  obtain ⟨now', l, he', rfl, rfl, -, held⟩ := inserts
  cases he.symm.trans he'
  exact ⟨rfl, _, held, rfl, rfl⟩

end Locking.Requests

namespace Plan

variable {i : Invocation} {key : RawKey} {revoke : Bool} {timeout : Option Int}
  {format : OutputFormat} {op : Op Answer} {σ : Sessions ι Answer} {h : List (Turn ι)}
  {result : Except LockError Answer}

lemma acquire_course
    (asked : (ofCommand { i with format := format } (.acquire key revoke timeout)).op? = some op)
    (ended : ((σ.seat j op).run h).result? j = some result) :
    (∃ e, result = .error e ∧ exchanges j σ.store ((σ.seat j op).journal h) = []) ∨
      ∃ k o, LockKey.ofRaw key.office key.project key.application = .ok k ∧
        result = o.map (Answer.acquire format k) ∧
        Locking.Requests (acquireRequest i k revoke timeout) i.user i.freshId
          (exchanges j σ.store ((σ.seat j op).journal h)) o := by
  have makes := Sessions.makes_of_result? ended
  rw [Sessions.op_seat, Sessions.store_seat] at makes
  simp only [ofCommand, withKey] at asked
  split at asked
  · cases asked
    obtain ⟨o, hm, rfl⟩ := Op.Makes.map makes
    exact .inr ⟨_, o, ‹_›, rfl, Locking.request_makes hm⟩
  · cases asked
    obtain ⟨nothing, rfl⟩ := Op.makes_fail.1 makes
    exact .inl ⟨_, rfl, nothing⟩

omit [Regex.Engine] in
lemma key_acquireRequest (i : Invocation) (k : LockKey) (revoke : Bool) (timeout : Option Int) :
    (acquireRequest i k revoke timeout).key = k := by
  cases revoke <;> rfl

omit [Regex.Engine] in
lemma session_acquireRequest (i : Invocation) (k : LockKey) (revoke : Bool)
    (timeout : Option Int) : (acquireRequest i k revoke timeout).session = sessionOf i := by
  cases revoke <;> rfl

lemma exitCode_acquire (line : CommandLine) (log : List LogEvent)
    (asked : (ofCommand { i with format := format } (.acquire key revoke timeout)).op? = some op)
    (ended : ((σ.seat j op).run h).result? j = some result) :
    (Ending.ended line (result.mapError (·.chain)) log).exitCode = 0 ↔
      ∃ k m lockId, LockKey.ofRaw key.office key.project key.application = .ok k ∧
        σ.store.Inserts ((σ.seat j op).journal h) m j k lockId := by
  rcases acquire_course asked ended with ⟨e, rfl, nothing⟩ | ⟨k, o, read, rfl, requests⟩
  · constructor
    · intro zero
      cases zero
    · rintro ⟨k, m, lockId, -, inserts⟩
      exact absurd inserts (Store.not_inserts (by rw [nothing]; rfl))
  · constructor
    · intro zero
      obtain ⟨a, rfl⟩ : ∃ a, o = .ok (.acquired a) := by
        match o, zero with
        | .ok (.acquired a), _ => exact ⟨a, rfl⟩
      obtain ⟨rfl, m, now, he, inserts⟩ := requests.exists_inserts
      exact ⟨k, m, _, read, key_acquireRequest i k revoke timeout ▸ inserts⟩
    · rintro ⟨k', m, lockId, -, inserts⟩
      obtain ⟨rfl, -⟩ := requests.acquires inserts
      rfl

lemma output_acquire_of_inserts (line : CommandLine) (log : List LogEvent)
    (asked : (ofCommand { i with format := format } (.acquire key revoke timeout)).op? = some op)
    (ended : ((σ.seat j op).run h).result? j = some result) {k : LockKey} {m : Nat}
    {lockId : String}
    (read : LockKey.ofRaw key.office key.project key.application = .ok k)
    (inserts : σ.store.Inserts ((σ.seat j op).journal h) m j k lockId) :
    (Ending.ended line (result.mapError (·.chain)) log).output =
        Command.acquired format k lockId ∧
      ∃ row, σ.store.lockAt ((σ.seat j op).journal h) (m + 1) k = some row ∧
        row.lockId = lockId ∧ row.session.sessionUser = i.user := by
  rcases acquire_course asked ended with ⟨e, rfl, nothing⟩ | ⟨k', o, read', rfl, requests⟩
  · exact absurd inserts (Store.not_inserts (by rw [nothing]; rfl))
  · obtain rfl := Except.ok.inj (read.symm.trans read')
    obtain ⟨rfl, row, held, named, same⟩ := requests.acquires inserts
    rw [session_acquireRequest] at same
    exact ⟨Command.output_acquire format k lockId, row, held, named,
      congrArg SessionInfo.sessionUser same⟩

end Plan

end Acquisitions

namespace Plan

attribute [local instance] Regex.runner

def deskCommand : Command := .acquire ⟨" osl", "quay", "Editor"⟩ false none

def deskInvocation : Invocation := { user := some "ann", freshId := "a1" }

def desk : Sessions Bool Answer := ⟨.empty, fun _ => .fail .cancelled⟩

def deskTurns : List (Turn Bool) := List.replicate 3 { session := true, now := .ofNanos 0 }

end Plan

end LockRegistry
