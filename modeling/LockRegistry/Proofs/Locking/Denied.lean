import LockRegistry.Proofs.Authority.Exact
import LockRegistry.Proofs.Authority.Ledger
import LockRegistry.Proofs.Locking.Readmission
import LockRegistry.Proofs.Store.Values
import LockRegistry.Regex.Runner

/-! Revocations for which there is no grant. They are denied, unless the question whether there is
one cannot be decided. -/

namespace LockRegistry

namespace Authority

lemma caller?_of_full {raw : String} (full : Text.trim raw ≠ "") :
    caller? (some raw) = (Field.user.normalize raw).map some :=
  if_neg (mt String.isEmpty_iff.1 full)

end Authority

variable [Regex.Engine] {ι α : Type} {s : Store} {key : LockKey} {caller : Option String}
  {t : Turn ι} {ts : List (Turn ι)} {e : ArgumentError}

-- No grant in the store gives the caller the right to revoke the lock on the key.
def Store.Uncovered (s : Store) (caller : Option String) (key : LockKey) : Prop :=
  ∀ raw ∈ caller, ∀ g ∈ s.grants.values, ¬ g.Permits (Text.trim raw) key

lemma Grant.Sound.covers_ne {g : Grant} (h : g.Sound) (capital : ∃ raw, key.office = Text.upper raw)
    (unpermitted : ¬ g.Permits g.user key) :
    g.covers key.office key.project key.application ≠ .ok true := by
  obtain ⟨office, project, application⟩ := key
  obtain ⟨raw, rfl⟩ := capital
  exact mt (h.covers_iff raw).1 unpermitted

namespace Authority

-- Why the right of a caller to revoke the lock on a key is not decided.
inductive Hindered (s : Store) (key : LockKey) : Option String → ArgumentError → Prop
  | outgrown {caller : Option String} {e : ArgumentError} (grown : key.outgrown? = some e) :
      Hindered s key caller e
  | unnamed {raw : String} {e : ArgumentError} (short : key.outgrown? = none)
      (full : Text.trim raw ≠ "") (refused : Field.user.normalize raw = .error e) :
      Hindered s key (some raw) e
  | unreadable {raw : String} {e : ArgumentError} {before after : List Grant} {g : Grant}
      (short : key.outgrown? = none) (full : Text.trim raw ≠ "") (named : Field.user.Takes raw)
      (grants : s.grantsOf (Text.trim raw) = before ++ g :: after)
      (passed : ∀ g' ∈ before, g'.covers key.office key.project key.application = .ok false)
      (stuck : g.covers key.office key.project key.application = .error e) :
      Hindered s key (some raw) e

section Grants

variable {office project application : String} {grants before : List Grant} {g : Grant}
  (after : List Grant)

lemma firstCovering_of_passed
    (passed : ∀ g ∈ before, g.covers office project application = .ok false) :
    firstCovering office project application (before ++ after) =
      firstCovering office project application after := by
  induction before with
  | nil => rfl
  | cons g before ih =>
    obtain ⟨first, passed⟩ := List.forall_mem_cons.1 passed
    rw [List.cons_append, firstCovering, first, ok_bind]
    exact ih passed

lemma firstCovering_of_stuck
    (passed : ∀ g ∈ before, g.covers office project application = .ok false)
    (stuck : g.covers office project application = .error e) :
    firstCovering office project application (before ++ g :: after) = .error e := by
  rw [firstCovering_of_passed _ passed, firstCovering, stuck]
  rfl

lemma passed_or_stuck (uncovered : ∀ g ∈ grants, g.covers office project application ≠ .ok true) :
    (∀ g ∈ grants, g.covers office project application = .ok false) ∨
      ∃ before g after e, grants = before ++ g :: after ∧
        (∀ g' ∈ before, g'.covers office project application = .ok false) ∧
        g.covers office project application = .error e := by
  induction grants with
  | nil => exact .inl (List.forall_mem_nil _)
  | cons g grants ih =>
    obtain ⟨first, uncovered⟩ := List.forall_mem_cons.1 uncovered
    cases covers : g.covers office project application with
    | error e => exact .inr ⟨[], g, grants, e, rfl, List.forall_mem_nil _, covers⟩
    | ok b =>
      cases b with
      | true => exact absurd covers first
      | false =>
        rcases ih uncovered with passed | ⟨before, g', after, e, rfl, passed, stuck⟩
        · exact .inl (List.forall_mem_cons.2 ⟨covers, passed⟩)
        · exact .inr ⟨g :: before, g', after, e, rfl, List.forall_mem_cons.2 ⟨covers, passed⟩,
            stuck⟩

end Grants

lemma ask_bind_ok {q : Question} (f : Bool → Op α)
    (denied : ∀ user ∈ q.caller, q.verdict (s.grantsOf user) = .ok none) :
    (q.ask >>= f).steps s (t :: ts) = (f false).steps s ts := by
  obtain ⟨office, project, application, caller⟩ := q
  cases caller with
  | none => rfl
  | some user =>
    have verdict := denied user rfl
    rw [Question.ask, Op.bind_assoc, Op.steps_ask_bind]
    change Op.steps (Op.check (Question.verdict _ (s.grantsOf user)) >>= _ >>= f) s ts = _
    rw [verdict]
    rfl

lemma ask_bind_error {q : Question} {user : String} (f : Bool → Op α) (named : q.caller = some user)
    (stuck : q.verdict (s.grantsOf user) = .error e) :
    (q.ask >>= f).steps s (t :: ts) = (.fail (.argument e), s) := by
  obtain ⟨office, project, application, _⟩ := q
  subst named
  rw [Question.ask, Op.bind_assoc, Op.steps_ask_bind]
  change Op.steps (Op.check (Question.verdict _ (s.grantsOf user)) >>= _ >>= f) s ts = _
  rw [stuck]
  exact Op.steps_done ..

lemma Hindered.mayRevoke_bind (h : Hindered s key caller e) (normal : key.Normal)
    (f : Bool → Op α) :
    (mayRevoke key.office caller key.project key.application >>= f).steps s (t :: ts) =
      (.fail (.argument e), s) := by
  rw [mayRevoke_parts normal]
  cases h with
  | outgrown grown =>
    rw [grown]
    exact Op.steps_done ..
  | unnamed short full refused =>
    rw [short, caller?_of_full full, refused]
    exact Op.steps_done ..
  | @unreadable _ _ _ after _ short full named grants passed stuck =>
    rw [short, caller?_of_full full, named.normalize]
    have verdict := firstCovering_of_stuck after passed stuck
    rw [← grants] at verdict
    exact ask_bind_error (q := ⟨key.office, key.project, key.application, some _⟩) f rfl verdict

lemma mayRevoke_bind (reachable : s.Reachable) (normal : key.Normal)
    (uncovered : s.Uncovered caller key) (free : ∀ e, ¬ Hindered s key caller e)
    (f : Bool → Op α) :
    (mayRevoke key.office caller key.project key.application >>= f).steps s (t :: ts) =
      (f false).steps s ts := by
  have short : key.outgrown? = none := Option.eq_none_iff_forall_ne_some.2 fun e grown =>
    free e (.outgrown grown)
  have given (raw : String) (called : caller = some raw) :
      Text.trim raw = "" ∨ ∃ u, Field.user.normalize raw = .ok u := by
    by_cases full : Text.trim raw = ""
    · exact .inl full
    · cases named : Field.user.normalize raw with
      | ok u => exact .inr ⟨u, rfl⟩
      | error e => exact absurd (.unnamed short full named) (called ▸ free e)
  obtain ⟨caller', accepted, own⟩ := caller?_of_accepted given
  rw [mayRevoke_parts normal, short, accepted]
  refine ask_bind_ok f fun user asked => ?_
  obtain ⟨full, raw, called, rfl⟩ := (own user).1 asked
  have named : Field.user.Takes raw := by
    obtain ⟨u, named⟩ := (given raw called).resolve_left full
    exact Field.takes_of_normalize named
  obtain ⟨⟨_, capital⟩, -⟩ := normal.fields
  have covers (g : Grant) (mem : g ∈ s.grantsOf (Text.trim raw)) :
      g.covers key.office key.project key.application ≠ .ok true := by
    obtain ⟨stored, user⟩ := Store.mem_grantsOf.1 mem
    refine (reachable.sound.of_mem stored).covers_ne ⟨_, Field.eq_casing_of_normalize capital⟩ ?_
    rw [user]
    exact uncovered raw called g stored
  rcases passed_or_stuck covers with passed | ⟨before, g, after, e, grants, passed, stuck⟩
  · have verdict := firstCovering_of_passed [] passed
    rwa [List.append_nil] at verdict
  · exact absurd (.unreadable short full named grants passed stuck) (called ▸ free e)

lemma not_hindered (byCount : Mask.CompilesByCount) (reachable : s.Reachable)
    (short : key.outgrown? = none)
    (given : ∀ raw ∈ caller, Text.trim raw = "" ∨ Field.user.Takes raw) :
    ¬ Hindered s key caller e := by
  intro h
  cases h with
  | outgrown grown => cases short.symm.trans grown
  | unnamed _ full refused =>
    cases ((given _ rfl).resolve_left full).normalize.symm.trans refused
  | @unreadable _ _ _ _ g _ _ _ grants _ stuck =>
    have mem : g ∈ s.grantsOf _ := grants ▸ List.mem_append_right _ List.mem_cons_self
    obtain ⟨b, read⟩ := (reachable.sound.of_mem (Store.mem_grantsOf.1 mem).1).covers byCount
    cases read.symm.trans stuck

end Authority

namespace Locking

variable {config : LockConfig} {r : LockRequest} {freshId : String}

structure BothEnd (s : Store) (key : LockKey) (caller : Option String)
    (requested : Except LockError AcquireOutcome) (revoked : Except LockError Bool) : Prop where
  request : ∀ config r freshId (ts : List (Turn Nat)), r.key = key → r.revokeExisting = true →
    0 ≤ r.revokeTimeoutSecs → 3 ≤ ts.length →
      (request config r caller freshId).steps s ts = (.done requested, s)
  revoke : ∀ ts : List (Turn Nat), 2 ≤ ts.length →
    (revoke key caller).steps s ts = (.done revoked, s)

lemma steps_request (held : s.locks.contains r.key = true) (revoking : r.revokeExisting = true)
    (later : 0 ≤ r.revokeTimeoutSecs) :
    ∃ timeout, (request config r caller freshId).steps s (t :: ts) =
      (revokeHolder config ⟨freshId, r.key, r.session⟩ caller timeout).steps s ts := by
  have checked : checkedTimeout r.revokeTimeoutSecs =
      .ok (r.revokeTimeoutSecs.toNat * 1000000000) := if_neg (Int.not_lt.2 later)
  have refused : s.apply t.now (.insertLock ⟨freshId, r.key, r.session⟩) = (none, s) :=
    Store.insertLock_of_held (l := ⟨freshId, r.key, r.session⟩) held t.now
  refine ⟨r.revokeTimeoutSecs.toNat * 1000000000, ?_⟩
  rw [request, checked, Op.check_ok_bind, Op.steps_ask_bind, refused, revoking]
  rfl

section Held

variable (normal : key.Normal) (held : s.locks.contains key = true)

include normal held

lemma ends_denied (reachable : s.Reachable) (uncovered : s.Uncovered caller key)
    (free : ∀ e, ¬ Authority.Hindered s key caller e) :
    BothEnd s key caller (.ok .revokeDenied) (.error (denied caller key)) where
  request config r freshId ts own revoking later long := by
    subst own
    match ts, long with
    | t :: t' :: t'' :: ts, _ =>
      obtain ⟨timeout, goes⟩ := steps_request held revoking later
      rw [goes, revokeHolder, Authority.mayRevoke_bind reachable normal uncovered free,
        if_neg Bool.false_ne_true, Op.steps_emit_bind]
      exact Op.steps_done ..
  revoke ts long := by
    match ts, long with
    | t :: t' :: ts, _ =>
      rw [revoke, Authority.mayRevoke_bind reachable normal uncovered free,
        if_neg Bool.false_ne_true, Op.steps_emit_bind]
      exact Op.steps_done ..

lemma ends_refused (hindered : Authority.Hindered s key caller e) :
    BothEnd s key caller (.error (.argument e)) (.error (.argument e)) where
  request config r freshId ts own revoking later long := by
    subst own
    match ts, long with
    | t :: t' :: ts, _ =>
      obtain ⟨timeout, goes⟩ := steps_request held revoking later
      rw [goes, revokeHolder, hindered.mayRevoke_bind normal]
      rfl
  revoke ts long := by
    match ts, long with
    | t :: ts, _ => rw [revoke, hindered.mayRevoke_bind normal]; rfl

-- Where masks compile by the number of their wildcards, only a key that has outgrown its limits
-- and a name that no user can have stand in the way of the denial.
theorem revocation_without_grant (reachable : s.Reachable) (uncovered : s.Uncovered caller key) :
    (∀ e, Authority.Hindered s key caller e →
      BothEnd s key caller (.error (.argument e)) (.error (.argument e))) ∧
    ((∀ e, ¬ Authority.Hindered s key caller e) →
      BothEnd s key caller (.ok .revokeDenied) (.error (denied caller key))) ∧
    (Mask.CompilesByCount → key.outgrown? = none →
      (∀ raw ∈ caller, Text.trim raw = "" ∨ Field.user.Takes raw) →
      ∀ e, ¬ Authority.Hindered s key caller e) :=
  ⟨fun _ => ends_refused normal held, ends_denied normal held reachable uncovered,
    fun byCount short given _ => Authority.not_hindered byCount reachable short given⟩

end Held

end Locking

end LockRegistry

namespace LockRegistry.Locking

attribute [local instance] Regex.runner

def pierKey : LockKey := ⟨"OSL", "pier", "editor"⟩

def pier : Nat → Operation
  | 0 => .request ⟨250, 10⟩ { key := pierKey } none (lockIdOfNat 1)
  | 1 => .allow "osl" "*" "*" "*" "lee"
  | _ => .allow "osl" "*" "fence" "*" "kim"

def pierTurn (i : Nat) : Turn Nat := { session := i, now := .ofNanos 0 }

def pierHeld : Store := ((Sessions.start pier).run [pierTurn 0, pierTurn 1, pierTurn 2]).store

lemma pierHeld_reachable : pierHeld.Reachable := ⟨_, _, rfl⟩

lemma pierHeld_uncovered {raw : String} (other : Text.trim raw ≠ "lee") :
    pierHeld.Uncovered (some raw) pierKey := by
  have stored : pierHeld.grants.values =
    [⟨2, "OSL", "*", "kim", "fence", "*", .ofNanos 0, .ofNanos 0⟩,
      ⟨1, "OSL", "*", "lee", "*", "*", .ofNanos 0, .ofNanos 0⟩] := rfl
  rintro _ ⟨⟩ g mem permits
  rw [stored, List.mem_cons, List.mem_singleton] at mem
  rcases mem with rfl | rfl
  · obtain ⟨mask, compiled, accepts⟩ := permits.projectMask
    cases compiled
    exact absurd accepts (by decide)
  · exact other permits.user.symm

lemma pierKey_normal : pierKey.Normal := ⟨"osl", "pier", "editor", rfl⟩

theorem revocation_without_grant_pier :
    BothEnd pierHeld pierKey (some " kim ") (.ok .revokeDenied)
        (.error (.revokeDenied " kim " "OSL/pier/editor")) ∧
      BothEnd pierHeld pierKey (some "k*") (.error (.argument (.wildcard "user_id" "k*")))
        (.error (.argument (.wildcard "user_id" "k*"))) := by
  obtain ⟨-, refused, free⟩ := revocation_without_grant pierKey_normal rfl pierHeld_reachable
    (pierHeld_uncovered (by decide : Text.trim " kim " ≠ "lee"))
  obtain ⟨invalid, -⟩ := revocation_without_grant pierKey_normal rfl pierHeld_reachable
    (pierHeld_uncovered (by decide : Text.trim "k*" ≠ "lee"))
  refine ⟨refused (free Mask.compilesByCount_runner rfl ?_), invalid _ (.unnamed rfl ?_ rfl)⟩
  · rintro _ ⟨⟩
    exact .inr (by decide)
  · decide

theorem not_always_denied : ¬ ∀ (s : Store) (key : LockKey) (caller : Option String),
    s.Reachable → key.Normal → s.locks.contains key = true → s.Uncovered caller key →
      BothEnd s key caller (.ok .revokeDenied) (.error (denied caller key)) := by
  intro always
  obtain ⟨-, revoke⟩ := always pierHeld pierKey (some "k*") pierHeld_reachable pierKey_normal rfl
    (pierHeld_uncovered (by decide))
  cases congrArg Prod.fst (revoke [pierTurn 3, pierTurn 3] (by decide))

end LockRegistry.Locking
