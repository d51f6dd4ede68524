import LockRegistry.Database.Script
import LockRegistry.Proofs.Database.Sendings
import LockRegistry.Proofs.Locking.Gate
import LockRegistry.Regex.Runner

/-! The statements of a request for a lock, over a server that may answer anything. -/

namespace LockRegistry

namespace Database

inductive Verb where
  | insert
  | update
  | delete
  | select
deriving DecidableEq, Repr

def Statement.verb : Statement → Verb
  | insert .. => .insert
  | update .. => .update
  | delete .. => .delete
  | select .. | selectExists .. | selectOne => .select

def verbs (l : List Sending) : List Verb := l.map (·.query.statement.verb)

end Database

open Database (Client Message Query Script Sending Server Verb verbs)

def Exchange.verb (x : Exchange) : Verb := (Query.ofCall x.call).statement.verb

lemma Database.verbs_of_reads {l : List Sending} {m : List Exchange}
    (h : List.Forall₂ Sending.Reads l m) : verbs l = m.map Exchange.verb := by
  induction h with
  | nil => rfl
  | cons h _ ih =>
    cases h with
    | intro => exact congrArg (_ :: ·) ih

namespace Locking

def callerName? (caller : Option String) : Option String :=
  (caller.map Text.trim).filter (· ≠ "")

inductive Watches (lock : NewLock) : List Exchange → Prop
  | held (n : Nat) : Watches lock (looks lock.key n ++ [⟨.lockExists lock.key, true⟩])
  | freed (n : Nat) {l : List Exchange} {o : AcquireOutcome} (again : Retries lock l o) :
      Watches lock (looks lock.key n ++ ⟨.lockExists lock.key, false⟩ :: l)

lemma verbs_looks (key : LockKey) (n : Nat) :
    (looks key n).map Exchange.verb = List.replicate n .select := by
  rw [looks, List.map_replicate]
  rfl

lemma Retries.verbs {o : AcquireOutcome} (h : Retries lock l o) :
    (l.map Exchange.verb).Sublist [.insert, .select] := by
  cases h with
  | acquired row => exact .cons_cons _ (List.nil_sublist _)
  | lost holder => exact .refl _

lemma Stamps.verbs (h : Stamps key user l) :
    (l.map Exchange.verb).Sublist [.select, .update] := by
  cases h with
  | free => exact .cons_cons _ (List.nil_sublist _)
  | found holder stamped => exact .refl _

lemma Watches.verbs (h : Watches lock w) :
    ∃ n, (w.map Exchange.verb).Sublist (List.replicate n .select ++ [.insert, .select]) := by
  have look (found : Bool) : Exchange.verb ⟨.lockExists lock.key, found⟩ = .select := rfl
  cases h with
  | held n =>
    have all : (looks lock.key n ++ [(⟨.lockExists lock.key, true⟩ : Exchange)]).map Exchange.verb =
        List.replicate (n + 1) .select := by
      simp [verbs_looks, look, List.replicate_succ']
    exact ⟨n + 1, all ▸ List.sublist_append_left _ _⟩
  | @freed n l o again =>
    have all : (looks lock.key n ++ (⟨.lockExists lock.key, false⟩ : Exchange) :: l).map
        Exchange.verb =
        List.replicate (n + 1) .select ++ l.map Exchange.verb := by
      simp [verbs_looks, look, List.replicate_succ']
    exact ⟨n + 1, all ▸ again.verbs.append_left _⟩

lemma Watches.awaits (h : Watches lock w) : ∃ o, Awaits lock w o := by
  cases h with
  | held n => exact ⟨_, .timedOut n 0⟩
  | freed n again => exact ⟨_, .released n again⟩

lemma callerName?_of_none (h : Authority.caller? caller = .ok none) :
    callerName? caller = none := by
  cases caller with
  | none => rfl
  | some raw =>
    by_cases blank : (Text.trim raw).isEmpty = true
    · simp [callerName?, String.isEmpty_iff.1 blank]
    · rw [Authority.caller?, if_neg blank] at h
      obtain ⟨_, -, ⟨⟩⟩ := map_eq_ok.1 h

lemma Awaits.watches (h : Awaits lock l o) :
    ∃ t, Watches lock (l ++ t) ∧ ∀ a, o = .ok a → t = [] := by
  cases h with
  | cancelled n => exact ⟨[⟨.lockExists lock.key, true⟩], .held n, nofun⟩
  | timedOut n => exact ⟨[], (List.append_nil _).symm ▸ .held n, fun _ _ => rfl⟩
  | released n again => exact ⟨[], (List.append_nil _).symm ▸ .freed n again, fun _ _ => rfl⟩

lemma callerName?_of_some (h : Authority.caller? caller = .ok (some user)) :
    callerName? caller = some user := by
  obtain ⟨full, raw, rfl, rfl⟩ := Authority.caller?_eq_some h
  simp [callerName?, full]

variable [Regex.Engine]

-- What a request says to the store if nothing cuts it short.
inductive Dialogue (r : LockRequest) (caller : Option String) (lockId : String) :
    List Exchange → Prop
  | acquired (row : Lock) :
      Dialogue r caller lockId [⟨.insertLock (newLock r lockId), some row⟩]
  | told (plain : r.revokeExisting = false) (holder : Option Lock) :
      Dialogue r caller lockId [⟨.insertLock (newLock r lockId), none⟩, ⟨.findLock r.key, holder⟩]
  | anonymous (revoke : r.revokeExisting = true) (unnamed : callerName? caller = none) :
      Dialogue r caller lockId [⟨.insertLock (newLock r lockId), none⟩]
  | asked (revoke : r.revokeExisting = true) {user : String}
      (named : callerName? caller = some user) (grants : List Grant) :
      Dialogue r caller lockId
        [⟨.insertLock (newLock r lockId), none⟩, ⟨.grantsOf user, grants⟩]
  | watched (revoke : r.revokeExisting = true) {user : String}
      (named : callerName? caller = some user) {grants : List Grant}
      (covered : ∃ g ∈ grants, g.covers r.key.office r.key.project r.key.application = .ok true)
      {s w : List Exchange} (stamp : Stamps r.key user s) (watch : Watches (newLock r lockId) w) :
      Dialogue r caller lockId
        (⟨.insertLock (newLock r lockId), none⟩ :: ⟨.grantsOf user, grants⟩ :: (s ++ w))

variable {config : LockConfig} {r : LockRequest} {lock : NewLock} {caller : Option String}
  {lockId user : String} {key : LockKey} {l m w : List Exchange}
  {o : Except LockError AcquireOutcome}

section Verbs

def longest (n : Nat) : List Verb :=
  [.insert, .select] ++ ([.select, .update] ++ (List.replicate n .select ++ [.insert, .select]))

lemma Dialogue.verbs (h : Dialogue r caller lockId w) :
    ∃ n, (w.map Exchange.verb).Sublist (longest n) := by
  have begins (n : Nat) : ([.insert, .select] : List Verb).Sublist (longest n) :=
    List.sublist_append_left _ _
  have first (n : Nat) : ([.insert] : List Verb).Sublist (longest n) :=
    .cons_cons _ (List.nil_sublist _)
  cases h with
  | acquired row => exact ⟨0, first 0⟩
  | told plain holder => exact ⟨0, begins 0⟩
  | anonymous revoke unnamed => exact ⟨0, first 0⟩
  | asked revoke named grants => exact ⟨0, begins 0⟩
  | watched revoke named covered stamp watch =>
    obtain ⟨n, watched⟩ := watch.verbs
    simp only [List.map_cons, List.map_append]
    exact ⟨n, .cons_cons _ (.cons_cons _ (stamp.verbs.append watched))⟩

structure Sparing (v : List Verb) : Prop where
  inserts : v.count .insert ≤ 2
  updates : v.count .update ≤ 1
  deletes : .delete ∉ v

omit [Regex.Engine] in
lemma sparing_longest (n : Nat) : Sparing (longest n) := by
  constructor <;> simp [longest, List.count_replicate]

omit [Regex.Engine] in
lemma Sparing.of_sublist {v v' : List Verb} (h : Sparing v') (sub : v.Sublist v') : Sparing v where
  inserts := (sub.count_le .insert).trans h.inserts
  updates := (sub.count_le .update).trans h.updates
  deletes mem := h.deletes (sub.subset mem)

lemma Dialogue.sparing (h : Dialogue r caller lockId w) : Sparing (w.map Exchange.verb) := by
  obtain ⟨n, sub⟩ := h.verbs
  exact (sparing_longest n).of_sublist sub

lemma Dialogue.attempts (h : Dialogue r caller lockId w) {x : Exchange} (hx : x ∈ w)
    (inserts : x.verb = .insert) : x.call = .insertLock (newLock r lockId) := by
  have differs {c : Call} (hc : x.call = c) (hv : (Query.ofCall c).statement.verb ≠ .insert) :
      False := hv (hc ▸ inserts)
  cases h with
  | acquired row | anonymous revoke unnamed =>
    rw [List.mem_singleton.1 hx]
  | told plain holder | asked revoke named grants =>
    simp only [List.mem_cons, List.not_mem_nil, or_false] at hx
    rcases hx with rfl | rfl
    · rfl
    · exact (differs rfl nofun).elim
  | watched revoke named covered stamp watch =>
    simp only [List.mem_cons, List.mem_append] at hx
    rcases hx with rfl | rfl | hx | hx
    · rfl
    · exact (differs rfl nofun).elim
    · rcases stamp.call hx with hc | ⟨holder, hc⟩ <;> exact (differs hc nofun).elim
    · obtain ⟨o, waits⟩ := watch.awaits
      rcases waits.call hx with hc | hc | hc
      · exact (differs hc nofun).elim
      · exact hc
      · exact (differs hc nofun).elim

end Verbs

section Courses

lemma Asks.dialogue {b : Except LockError Bool} (h : Asks r.key caller l b)
    (revoke : r.revokeExisting = true) :
    ∃ t, Dialogue r caller lockId (⟨.insertLock (newLock r lockId), none⟩ :: (l ++ t)) ∧
      ∀ a, b = .ok a → t = [] := by
  cases h with
  | refused =>
    cases named : callerName? caller with
    | none => exact ⟨[], .anonymous revoke named, nofun⟩
    | some user => exact ⟨[⟨.grantsOf user, []⟩], .asked revoke named [], nofun⟩
  | nobody hq unnamed =>
    obtain ⟨-, -, -, hc⟩ := Authority.Question.of_ofRaw hq
    exact ⟨[], .anonymous revoke (callerName?_of_none (hc.trans (congrArg _ unnamed))),
      fun _ _ => rfl⟩
  | answered hq named | unreadable hq named =>
    obtain ⟨-, -, -, hc⟩ := Authority.Question.of_ofRaw hq
    exact ⟨[], .asked revoke (callerName?_of_some (hc.trans (congrArg _ named))) _, fun _ _ => rfl⟩

lemma Requests.dialogue (h : Requests r caller lockId l o) (normal : r.key.Normal) :
    ∃ t, Dialogue r caller lockId (l ++ t) ∧ ∀ a, o = .ok a → t = [] := by
  cases h with
  | refused => exact ⟨_, .acquired ((newLock r lockId).toLock (.ofNanos 0)), nofun⟩
  | acquired row => exact ⟨[], .acquired row, fun _ _ => rfl⟩
  | held plain holder => exact ⟨[], .told plain holder, fun _ _ => rfl⟩
  | revoking revoke h =>
    cases h with
    | failed asks =>
      obtain ⟨t, d, -⟩ := asks.dialogue revoke
      exact ⟨t, d, nofun⟩
    | denied asks =>
      obtain ⟨t, d, ends⟩ := asks.dialogue revoke
      exact ⟨t, d, fun _ _ => ends false rfl⟩
    | unnamed asks name =>
      obtain ⟨t, d, -⟩ := asks.dialogue revoke
      exact ⟨t, d, nofun⟩
    | @allowed _ s w user _ asks name stamp wait =>
      obtain ⟨raw, grants, rfl, full, rfl, covered⟩ := asks.granted normal
      obtain rfl : user = Text.trim raw := Field.eq_casing_of_normalize name
      obtain ⟨t, watch, ends⟩ := wait.watches
      refine ⟨t, ?_, ends⟩
      have named : callerName? (some raw) = some (Text.trim raw) := by simp [callerName?, full]
      have d : Dialogue r (some raw) lockId _ := .watched revoke named covered stamp watch
      simpa only [List.cons_append, List.append_assoc, List.nil_append] using d

lemma Requests.acquired_iff (h : Requests r caller lockId l o) (a : String) :
    o = .ok (.acquired a) ↔
      ∃ row, ⟨.insertLock (newLock r lockId), some row⟩ ∈ l ∧ row.lockId = a := by
  constructor
  · rintro rfl
    exact h.inserts.2
  · rintro ⟨row, mem, rfl⟩
    have counted : 0 < l.countP Exchange.inserts := List.countP_pos_iff.2 ⟨_, mem, rfl⟩
    by_cases won : ∃ a, o = .ok (.acquired a)
    · obtain ⟨a, rfl⟩ := won
      obtain ⟨once, row', mem', rfl⟩ := h.inserts
      -- only one of the two attempts can have succeeded
      rw [List.countP_eq_length_filter, List.length_eq_one_iff] at once
      obtain ⟨x, hx⟩ := once
      have same (y : Exchange) (hy : y ∈ l) (inserts : y.inserts = true) : y = x :=
        List.mem_singleton.1 (hx ▸ List.mem_filter.2 ⟨hy, inserts⟩)
      cases (same _ mem rfl).trans (same _ mem' rfl).symm
      rfl
    · have nothing := h.not_inserts fun a ha => won ⟨a, ha⟩
      omega

end Courses

structure Follows (r : LockRequest) (caller : Option String) (lockId : String)
    (l : List Sending) : Prop where
  dialogue : ∃ m w, List.Forall₂ Sending.Reads l m ∧ m <+: w ∧ Dialogue r caller lockId w
  attempts : ∀ x ∈ l, x.query.statement.verb = .insert → x.query = .insertLock (newLock r lockId)
  sparing : Sparing (verbs l)

structure Settles (r : LockRequest) (caller : Option String) (lockId : String) (l : List Sending)
    (o : Except LockError AcquireOutcome) : Prop extends Follows r caller lockId l where
  whole : ∀ a, o = .ok a → ∃ m, List.Forall₂ Sending.Reads l m ∧ Dialogue r caller lockId m
  acquired : ∀ a, o = .ok (.acquired a) ↔
    ∃ x ∈ l, ∃ row, x.Reads ⟨.insertLock (newLock r lockId), some row⟩ ∧ row.lockId = a

section Statements

variable {sent : List Sending}

lemma follows_of_reads (reads : List.Forall₂ Sending.Reads sent m) (h : Dialogue r caller lockId w)
    (begins : m <+: w) : Follows r caller lockId sent where
  dialogue := ⟨m, w, reads, begins, h⟩
  attempts x hx inserts := by
    obtain ⟨y, hy, read⟩ := Sending.exists_read reads hx
    cases read with
    | intro read => exact congrArg Query.ofCall (h.attempts (begins.subset hy) inserts)
  sparing := Database.verbs_of_reads reads ▸ h.sparing.of_sublist (begins.map _).sublist

lemma follows_of_opens (h : (request config r caller lockId).Opens sent) (normal : r.key.Normal) :
    Follows r caller lockId sent := by
  obtain ⟨m, m', o, reads, makes⟩ := h.makes
  obtain ⟨t, d, -⟩ := (request_makes makes).dialogue normal
  rw [List.append_assoc] at d
  exact follows_of_reads reads d (List.prefix_append _ _)

lemma settles_of_sends (h : (request config r caller lockId).Sends sent o)
    (fine : ∀ x ∈ sent, x.fault? = none) (normal : r.key.Normal) :
    Settles r caller lockId sent o := by
  obtain ⟨m, makes, reads⟩ := h.makes fine
  have requests := request_makes makes
  obtain ⟨t, d, ends⟩ := requests.dialogue normal
  refine { follows_of_reads reads d (List.prefix_append _ _) with
    whole := ?_
    acquired := ?_ }
  · intro a ha
    rw [ends a ha, List.append_nil] at d
    exact ⟨m, reads, d⟩
  · intro a
    rw [requests.acquired_iff]
    constructor
    · rintro ⟨row, mem, rfl⟩
      obtain ⟨x, hx, read⟩ := Sending.exists_reads reads mem
      exact ⟨x, hx, row, read, rfl⟩
    · rintro ⟨x, hx, row, read, rfl⟩
      obtain ⟨y, hy, read'⟩ := Sending.exists_read reads hx
      exact ⟨row, read.unique read' ▸ hy, rfl⟩

end Statements

/-- Whatever the server answers and whenever the token fires, the statements of a request begin a
dialogue, and are all of one if the request has an outcome. -/
theorem acquisition_dialogue (config : LockConfig) (r : LockRequest) (caller : Option String)
    (lockId : String) (normal : r.key.Normal) :
    (∀ l, (request config r caller lockId).Opens l → Follows r caller lockId l) ∧
    (∀ l o, (request config r caller lockId).Sends l o → (∀ x ∈ l, x.fault? = none) →
      Settles r caller lockId l o) ∧
    ∀ {σ : Type} (s : Server σ) (c : Client (σ × List Message)),
      let out := c.perform s.recording (request config r caller lockId)
      c.unrecorded.perform s (request config r caller lockId) = (out.1, out.2.unrecorded) ∧
        ∃ l : List Sending, out.2.server.2 = c.server.2 ++ l.map Sending.message ∧
          ((request config r caller lockId).Sends l out.1 ∨
            out.1 = .error .cancelled ∧ (request config r caller lockId).Opens l) := by
  refine ⟨fun l h => follows_of_opens h normal, fun l o h fine => settles_of_sends h fine normal,
    fun s c => ⟨Client.run_unrecorded s c _ _, ?_⟩⟩
  exact Client.opens_of_run s c Client.stepLimit _ (propagates_request config r caller lockId)

end Locking

namespace Locking

attribute [local instance] Regex.runner

def takeoverRequest : LockRequest := .revoking { key := ⟨"OSL", "fence", "editor"⟩ } 60

def takeoverScript : Script where
  replies := [.rows none [],
    .rows none [[.value (.int 1), .value (.text "OSL"), .value (.text "*"), .value (.text "adm"),
      .value (.text "*"), .value (.text "*"), .value (.int 0), .value (.int 0)]],
    .rows none [[.value (.text "a"), .value (.text "OSL"), .value (.text "fence"),
      .value (.text "editor"), .value (.int 0), .value .null, .value .null, .value .null,
      .value .null, .value .null, .value .null]],
    .affected 1, .rows none [[.value (.bool true)]], .rows none [[.value (.bool false)]],
    .rows none [[.param 1, .param 2, .param 3, .param 4, .value (.int 0), .value .null,
      .value .null, .value .null, .value .null, .value .null, .value .null]]]

def takeoverClient : Client (Script × List Message) where
  server := (takeoverScript, [])
  start := .ofNanos 0

theorem acquisition_dialogue_takeover :
    let out := takeoverClient.perform Script.server.recording
      (request ⟨250, 10⟩ takeoverRequest (some "adm") "b")
    out.1 = .ok (.acquired "b") ∧ out.2.server.2.length = 7 ∧
      ∃ l : List Sending, out.2.server.2 = l.map Sending.message ∧
        Settles takeoverRequest (some "adm") "b" l out.1 := by
  have acquired : (takeoverClient.perform Script.server.recording
      (request ⟨250, 10⟩ takeoverRequest (some "adm") "b")).1 = .ok (.acquired "b") := by rfl
  obtain ⟨-, settles, runs⟩ :=
    acquisition_dialogue ⟨250, 10⟩ takeoverRequest (some "adm") "b" ⟨"osl", "fence", "editor", rfl⟩
  obtain ⟨-, l, record, sends | ⟨cancelled, -⟩⟩ := runs Script.server takeoverClient
  · have fine : ∀ x ∈ l, x.fault? = none := by
      rcases sends.makes_or_failed (propagates_request _ _ _ _) with
        ⟨m, -, reads⟩ | ⟨_, _, _, -, -, -, failed⟩
      · exact Sending.fault?_of_reads reads
      · cases acquired.symm.trans failed
    exact ⟨acquired, by rfl, l, record, settles l _ sends fine⟩
  · cases acquired.symm.trans cancelled

end Locking

end LockRegistry
