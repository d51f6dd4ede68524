import LockRegistry.Proofs.Authority.Grants
import LockRegistry.Proofs.Locking.Tenure
import LockRegistry.Regex.Runner

namespace LockRegistry

lemma prefix_of_append_eq {α : Type} {l l' p q : List α} {x : α} (h : l ++ l' = p ++ x :: q)
    (hx : x ∉ l) : l <+: p := by
  rcases List.append_eq_append_iff.1 h with ⟨m, rfl, -⟩ | ⟨m, rfl, hm⟩
  · exact List.prefix_append l m
  · cases m with
    | nil => simp
    | cons y m =>
      obtain ⟨rfl, -⟩ := List.cons.inj hm
      simp at hx

namespace Locking

variable [Regex.Engine] {key : LockKey} {caller : Option String} {l : List Exchange}

lemma Asks.granted (h : Asks key caller l (.ok true)) (normal : key.Normal) :
    ∃ raw grants, caller = some raw ∧ Text.trim raw ≠ "" ∧
      l = [⟨.grantsOf (Text.trim raw), grants⟩] ∧
      ∃ g ∈ grants, g.covers key.office key.project key.application = .ok true := by
  generalize hr : Except.ok true = o at h
  cases h with
  | @answered q hq u named grants found verdict =>
    obtain ⟨ho, hp, ha, hc⟩ := Authority.Question.of_ofRaw hq
    obtain ⟨⟨office, ho'⟩, ⟨project, hp'⟩, application, ha'⟩ := normal.fields
    obtain ⟨full, raw, rfl, rfl⟩ := Authority.caller?_eq_some (hc.trans (congrArg _ named))
    cases found with
    | none => cases hr
    | some g =>
      rw [Authority.Question.verdict, Field.eq_of_normalize_again ho' ho,
        Field.eq_of_normalize_again hp' hp, Field.eq_of_normalize_again ha' ha] at verdict
      exact ⟨raw, grants, rfl, full, rfl, g, Authority.firstCovering_eq_some verdict⟩
  | _ => cases hr

end Locking

namespace Sessions

variable [Regex.Engine] {ι : Type} [DecidableEq ι] (calls : ι → Operation) (h : List (Turn ι))

def Authorized (n : Nat) (i : ι) (raw : String) (key : LockKey) : Prop :=
  Text.trim raw ≠ "" ∧ ∃ m now, m < n ∧
    ((start calls).journal h)[m]? = some ⟨i, now, .grantsOf (Text.trim raw)⟩ ∧
    ∃ g ∈ (Store.empty.instant ((start calls).journal h) m).grants.values,
      g.Permits (Text.trim raw) key

inductive Gated (n : Nat) (e : Entry ι) (key : LockKey) (row : Lock) : Option Lock → Prop
  | kept : Gated n e key row (some row)
  | stamped {config : LockConfig} {r : LockRequest} {raw freshId : String}
      (own : calls e.session = .request config r (some raw) freshId) (on : r.key = key)
      (call : e.call = .markRevocation key row.lockId (Text.trim raw))
      (authorized : Authorized calls h n e.session raw key) :
      Gated n e key row (some (row.stamped (Text.trim raw) e.now))
  | released {office lockId : String} (own : calls e.session = .release office lockId)
      (named : Field.office.normalize office = .ok row.office ∧ Text.trim lockId = row.lockId)
      (call : e.call = .deleteLockNamed row.office row.lockId) : Gated n e key row none
  | revoked {raw : String} (own : calls e.session = .revoke key (some raw))
      (call : e.call = .deleteLock key) (authorized : Authorized calls h n e.session raw key) :
      Gated n e key row none

variable {calls h} {n : Nat} {e : Entry ι} {i : ι} {key : LockKey} {caller : Option String}

lemma authorized_of_asks {l : List Exchange} (asks : Locking.Asks key caller l (.ok true))
    (normal : key.Normal)
    (before : l ⊆ exchanges i .empty (((start calls).journal h).take n)) :
    ∃ raw, caller = some raw ∧ Authorized calls h n i raw key := by
  obtain ⟨raw, grants, rfl, full, rfl, g, hg, covers⟩ := asks.granted normal
  obtain ⟨m, e, hm, he, own, hx⟩ := entry_of_mem_exchanges (before (List.mem_singleton_self _))
  -- the grants are those of the store when they were read, which may have changed since
  obtain ⟨-, read⟩ := Entry.answered hx
  rw [read] at hg
  obtain ⟨mem, user⟩ := Store.mem_grantsOf.1 hg
  obtain ⟨⟨office, ho⟩, -⟩ := normal.fields
  have capital := Field.eq_casing_of_normalize ho
  obtain ⟨o, p, a⟩ := key
  subst capital
  have permits := (((sound_instant calls h m).of_mem mem).covers_iff _).1 covers
  exact ⟨raw, rfl, full, m, e.now, hm, Entry.eq_of_exchange own hx ▸ he, g, mem, user ▸ permits⟩

section Calls

variable {x : Exchange} {p l : List Exchange} {o : Except LockError Bool}

lemma not_mem_asks (asks : Locking.Asks key caller l o) (hx : ∀ user, x.call ≠ .grantsOf user) :
    x ∉ l := fun mem => by
  obtain ⟨user, hc⟩ := asks.call mem
  exact hx user hc

lemma asks_of_revoke {r : Except LockError Bool}
    (revokes : Locking.Revokes key caller (p ++ x :: l) r) (call : x.call = .deleteLock key) :
    ∃ asked, Locking.Asks key caller asked (.ok true) ∧ asked ⊆ p := by
  generalize hl : p ++ x :: l = m at revokes
  have differs (user : String) : x.call ≠ .grantsOf user := by
    rw [call]
    exact Call.noConfusion
  cases revokes with
  | failed asks | denied asks => exact absurd (hl ▸ by simp) (not_mem_asks asks differs)
  | allowed asks removed =>
    exact ⟨_, asks, (prefix_of_append_eq hl.symm (not_mem_asks asks differs)).subset⟩

lemma asks_of_request {r : LockRequest} {freshId holder user : String}
    {a : Except LockError AcquireOutcome}
    (requests : Locking.Requests r caller freshId (p ++ x :: l) a)
    (call : x.call = .markRevocation key holder user) :
    ∃ asked, Locking.Asks r.key caller asked (.ok true) ∧ asked ⊆ p := by
  generalize hl : p ++ x :: l = m at requests
  have mem : x ∈ m := hl ▸ by simp
  have differs (user : String) : x.call ≠ .grantsOf user := by
    rw [call]
    exact Call.noConfusion
  have other {y : Exchange} (hy : ∀ key holder user, y.call ≠ .markRevocation key holder user) :
      x ≠ y := by
    rintro rfl
    exact hy _ _ _ call
  cases requests with
  | refused => cases mem
  | acquired row => exact absurd (List.mem_singleton.1 mem) (other fun _ _ _ => Call.noConfusion)
  | held plain holder =>
    simp only [List.mem_cons, List.not_mem_nil, or_false] at mem
    rcases mem with mem | mem <;> exact absurd mem (other fun _ _ _ => Call.noConfusion)
  | revoking revoke holder =>
    have first := other (y := ⟨.insertLock (Locking.newLock r freshId), none⟩)
      fun _ _ _ => Call.noConfusion
    have rest := (List.mem_cons.1 mem).resolve_left first
    cases holder with
    | failed asks | denied asks | unnamed asks _ =>
      exact absurd rest (not_mem_asks asks differs)
    | allowed asks name stamp wait =>
      rw [List.append_assoc, ← List.cons_append] at hl
      have before := prefix_of_append_eq hl.symm fun hx =>
        (List.mem_cons.1 hx).elim first (not_mem_asks asks differs)
      exact ⟨_, asks, fun y hy => before.subset (List.mem_cons_of_mem _ hy)⟩

end Calls

lemma authorized_of_revoke (he : ((start calls).journal h)[n]? = some e) (normal : key.Normal)
    (own : calls e.session = .revoke key caller) (call : e.call = .deleteLock key) :
    ∃ raw, caller = some raw ∧ Authorized calls h n e.session raw key := by
  obtain ⟨l, r, hm⟩ := makes_at he
  rw [own] at hm
  obtain ⟨r', hm', -⟩ := Op.Makes.map hm
  obtain ⟨asked, asks, before⟩ := asks_of_revoke (Locking.revoke_makes hm') call
  exact authorized_of_asks asks normal before

lemma authorized_of_stamp (he : ((start calls).journal h)[n]? = some e) {r : LockRequest}
    (normal : r.key.Normal) {config : LockConfig} {freshId holder user : String}
    (own : calls e.session = .request config r caller freshId)
    (call : e.call = .markRevocation key holder user) :
    ∃ raw, caller = some raw ∧ Authorized calls h n e.session raw r.key := by
  obtain ⟨l, o, hm⟩ := makes_at he
  rw [own] at hm
  obtain ⟨o', hm', -⟩ := Op.Makes.map hm
  obtain ⟨asked, asks, before⟩ := asks_of_request (Locking.request_makes hm') call
  exact authorized_of_asks asks normal before

theorem gated (calls : ι → Operation) (h : List (Turn ι)) (n : Nat) (e : Entry ι)
    (he : ((start calls).journal h)[n]? = some e) (key : LockKey) (normal : key.Normal) (row : Lock)
    (held : Store.empty.lockAt ((start calls).journal h) n key = some row) :
    Gated calls h n e key row (Store.empty.lockAt ((start calls).journal h) (n + 1) key) := by
  have step := Store.lockAt_step (s := .empty) he key
  have may := mayCall_of_getElem? he
  rw [held] at step
  generalize hc : e.call = c at step may
  generalize Store.empty.lockAt ((start calls).journal h) (n + 1) key = row' at step
  cases step with
  | kept => exact .kept
  | stamped _ user =>
    obtain ⟨config, r, caller, freshId, own, rfl, name⟩ := may.stamp
    obtain ⟨raw, rfl, authorized⟩ := authorized_of_stamp he normal own hc
    obtain rfl : user = Text.trim raw := Field.eq_casing_of_normalize name
    exact .stamped own rfl hc authorized
  | revoked =>
    obtain ⟨caller, own⟩ := may.revoke
    obtain ⟨raw, rfl, authorized⟩ := authorized_of_revoke he normal own hc
    exact .revoked own hc authorized
  | released _ office lockId named =>
    simp only [Lock.isNamed, Bool.and_eq_true, beq_iff_eq] at named
    obtain ⟨rfl, rfl⟩ := named
    obtain ⟨office, lockId, own, names⟩ := may.release
    exact .released own names hc

end Sessions

namespace Sessions

attribute [local instance] Regex.runner

def disputedKey : LockKey := ⟨"OSL", "fence", "editor"⟩

def dispute : Nat → Operation
  | 0 => .allow "osl" "*" "f*" "*" "alice"
  | 1 => .request ⟨250, 10⟩ { key := disputedKey } none "a"
  | _ => .revoke disputedKey (some " alice ")

def disputeTurns : List (Turn Nat) :=
  [0, 0, 1, 1, 2, 2, 2].map fun i => { session := i, now := .ofNanos 0 }

theorem gated_dispute : Authorized dispute disputeTurns 3 2 " alice " disputedKey := by
  have step : Gated dispute disputeTurns 3 ⟨2, .ofNanos 0, .deleteLock disputedKey⟩ disputedKey
      (NewLock.toLock ⟨"a", disputedKey, {}⟩ (.ofNanos 0)) none :=
    gated dispute disputeTurns 3 _ rfl disputedKey ⟨"osl", "fence", "editor", rfl⟩ _ rfl
  cases step with
  | released own => cases own
  | revoked own _ authorized =>
    cases own
    exact authorized

end Sessions

end LockRegistry
