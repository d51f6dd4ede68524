import LockRegistry.Proofs.Authority.Exact
import LockRegistry.Proofs.Store.Values

namespace LockRegistry

namespace Store

variable [Regex.Engine] {s s' : Store}

structure Placed (s : Store) : Prop where
  locks : s.locks.KeyedBy Lock.key
  grants : s.grants.KeyedBy Grant.key
  sound : s.Sound

lemma placed_empty : empty.Placed where
  locks _ _ h := nomatch h
  grants _ _ h := nomatch h
  sound := sound_empty

lemma Placed.apply (h : s.Placed) {o : Operation} {c : Call} (hc : o.MayCall c) (now : Timestamp) :
    (s.apply now c).2.Placed where
  locks := by
    have keyed : s.Keyed := fun key l held => Lock.isFor_iff.2 (h.locks key l held)
    exact fun key l held => Lock.isFor_iff.1 (keyed.apply now c key l held)
  grants := by
    intro key g held
    have step := grantStep s now key c
    rw [held] at step
    generalize hr : s.grants.find? key = row at step
    cases step with
    | kept => exact h.grants key g hr
    | made new own => exact own
    | refreshed new own old => exact h.grants key old hr
  sound := h.sound.apply hc now

lemma Reachable.placed (h : s.Reachable) : s.Placed :=
  h.induction placed_empty fun _ _ now _ hc hs => hs.apply hc now

end Store

namespace Op

variable [Regex.Engine] {ι α : Type} (s s' : Store) (ts : List (Turn ι))

lemma steps_done_eq (r : Except LockError α) :
    ((done r).steps s' ts).1 = ((done r).steps s ts).1 := by
  rw [steps_done, steps_done]

lemma steps_log_done_eq (event : LogEvent) (r : Except LockError α) :
    ((log event (done r)).steps s' ts).1 = ((log event (done r)).steps s ts).1 := by
  cases ts with
  | nil => rfl
  | cons t ts => exact steps_done_eq s s' ts r

end Op

namespace Authority

variable [Regex.Engine] {office project application : String} {s s' : Store} {q : Question}
  {user : String}

lemma firstCovering_filter {keep : Grant → Bool} {grants : List Grant}
    (skipped : ∀ g ∈ grants, keep g = false → g.covers office project application = .ok false) :
    firstCovering office project application (grants.filter keep) =
      firstCovering office project application grants := by
  induction grants with
  | nil => rfl
  | cons g grants ih =>
    obtain ⟨first, rest⟩ := List.forall_mem_cons.1 skipped
    cases kept : keep g with
    | true => rw [List.filter_cons_of_pos kept, firstCovering, firstCovering, ih rest]
    | false =>
      rw [List.filter_cons_of_neg (by simp [kept]), ih rest, firstCovering, first kept]
      rfl

lemma covers_of_other_office {g : Grant} (hg : g.Sound) (capital : ∃ raw, office = Text.upper raw)
    (other : g.office ≠ office) : g.covers office project application = .ok false := by
  obtain ⟨raw, rfl⟩ := capital
  obtain ⟨own, hown⟩ := hg.office
  have differs : Text.sameAscii g.office (Text.upper raw) = false := by
    rw [← Bool.not_eq_true, hown, Text.sameAscii_upper, ← hown]
    exact other
  rw [Grant.covers, differs]
  rfl

def grantsIn (s : Store) (office user : String) : Table GrantKey Grant :=
  s.grants.filter fun _ g => g.office == office && g.user == user

lemma verdict_eq_grantsIn (placed : s.Placed) (capital : ∃ raw, q.office = Text.upper raw) :
    q.verdict (s.grantsOf user) = q.verdict (grantsIn s q.office user).values := by
  have same : (grantsIn s q.office user).values =
      (s.grantsOf user).filter (·.office == q.office) := by
    rw [grantsIn, Table.values_filter, Store.grantsOf, List.filter_filter]
  rw [same]
  refine (firstCovering_filter fun g hg other => ?_).symm
  have sound := placed.sound.of_mem (Store.mem_grantsOf.1 hg).1
  exact covers_of_other_office sound capital (by simpa using other)

lemma grantsIn_congr (placed : s.Placed) (placed' : s'.Placed)
    (same : ∀ key : GrantKey, key.office = office → key.user = user →
      s'.grants.find? key = s.grants.find? key) :
    grantsIn s' office user = grantsIn s office user := by
  refine Table.ext_find? fun key => ?_
  rw [grantsIn, grantsIn, Table.find?_filter, Table.find?_filter]
  by_cases own : key.office = office ∧ key.user = user
  · rw [same key own.1 own.2]
  -- on either store, a row under any other key is for another office or user
  · have none_of {t : Store} (ht : t.Placed) : (t.grants.find? key).filter
        (fun g => g.office == office && g.user == user) = none := by
      rw [Option.filter_eq_none_iff]
      rintro g held theirs
      obtain rfl := ht.grants key g held
      simp only [Bool.and_eq_true, beq_iff_eq] at theirs
      exact own theirs
    rw [none_of placed, none_of placed']

lemma Question.steps_ask_eq {ι : Type}
    (same : ∀ user, q.caller = some user →
      q.verdict (s'.grantsOf user) = q.verdict (s.grantsOf user)) (ts : List (Turn ι)) :
    (q.ask.steps s' ts).1 = (q.ask.steps s ts).1 := by
  unfold Question.ask
  cases caller : q.caller with
  | none => exact Op.steps_log_done_eq s s' ts ..
  | some user =>
    cases ts with
    | nil => rfl
    | cons t ts =>
      rw [Op.steps_ask_bind, Op.steps_ask_bind]
      simp only [Store.apply, same user caller]
      cases q.verdict (s.grantsOf user) with
      | error e => exact Op.steps_done_eq s s' ts _
      | ok found =>
        cases found with
        | none => exact Op.steps_done_eq s s' ts _
        | some grant => exact Op.steps_log_done_eq s s' ts ..

lemma steps_mayRevoke_eq {ι : Type} (placed : s.Placed) (placed' : s'.Placed)
    {caller : Option String}
    (same : ∀ o u raw, Field.office.normalize office = .ok o → caller = some raw →
      Field.user.normalize raw = .ok u → ∀ key : GrantKey, key.office = o → key.user = u →
        s'.grants.find? key = s.grants.find? key) (ts : List (Turn ι)) :
    ((mayRevoke office caller project application).steps s' ts).1 =
      ((mayRevoke office caller project application).steps s ts).1 := by
  rw [mayRevoke_eq]
  cases hq : Question.ofRaw office caller project application with
  | error e => exact Op.steps_done_eq s s' ts _
  | ok q =>
    rw [Op.check_ok_bind]
    obtain ⟨ho, -, -, hc⟩ := Question.of_ofRaw hq
    have capital : ∃ raw, q.office = Text.upper raw := ⟨_, Field.eq_casing_of_normalize ho⟩
    refine Question.steps_ask_eq (fun user named => ?_) ts
    rw [named] at hc
    obtain ⟨raw, rfl, -, hu⟩ := normalize_of_caller? hc
    rw [verdict_eq_grantsIn placed capital, verdict_eq_grantsIn placed' capital,
      grantsIn_congr placed placed' (same q.office user raw ho rfl hu)]

end Authority

end LockRegistry
