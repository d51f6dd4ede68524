import LockRegistry.Proofs.Authority.Grants
import LockRegistry.Regex.Runner

namespace LockRegistry.Authority

lemma caller?_of_accepted {user : Option String}
    (h : ∀ raw, user = some raw → Text.trim raw = "" ∨ ∃ u, Field.user.normalize raw = .ok u) :
    ∃ caller, caller? user = .ok caller ∧
      ∀ u, caller = some u ↔ u ≠ "" ∧ ∃ raw, user = some raw ∧ u = Text.trim raw := by
  cases user with
  | none => exact ⟨none, rfl, by simp⟩
  | some raw =>
    by_cases blank : (Text.trim raw).isEmpty = true
    · refine ⟨none, if_pos blank, fun u => ⟨fun h => (nomatch h), ?_⟩⟩
      rintro ⟨full, _, ⟨⟩, rfl⟩
      exact absurd (String.isEmpty_iff.1 blank) full
    · have full : Text.trim raw ≠ "" := fun e => blank (String.isEmpty_iff.2 e)
      obtain ⟨u, hu⟩ := (h raw rfl).resolve_left full
      have trimmed : u = Text.trim raw := Field.eq_casing_of_normalize hu
      refine ⟨some u, by rw [caller?, if_neg blank, hu]; rfl, fun u' => ⟨?_, ?_⟩⟩
      · rintro ⟨⟩
        exact ⟨trimmed ▸ full, raw, rfl, trimmed⟩
      · rintro ⟨-, _, ⟨⟩, rfl⟩
        exact congrArg some trimmed

variable [Regex.Engine] {ι : Type} {s : Store} {q : Question} {t t' : Turn ι} {ts : List (Turn ι)}

lemma Question.steps_ask_anonymous (anonymous : q.caller = none) (s : Store) :
    q.ask.steps s (t :: t' :: ts) = (.done (.ok false), s) := by
  rw [Question.ask, anonymous]
  exact Op.steps_done ..

lemma Question.steps_ask {user : String} {found : Option Grant} (named : q.caller = some user)
    (verdict : q.verdict (s.grantsOf user) = .ok found) :
    q.ask.steps s (t :: t' :: ts) = (.done (.ok found.isSome), s) := by
  rw [Question.ask, named, Op.steps_cons]
  change Op.steps (Op.check (q.verdict (s.grantsOf user)) >>= _) s (t' :: ts) = _
  rw [verdict]
  cases found <;> exact Op.steps_done ..

lemma steps_of_two {α : Type} {x : Op α} {r : Except LockError α}
    (h : ∀ (t t' : Turn ι) ts, x.steps s (t :: t' :: ts) = (.done r, s)) (ts : List (Turn ι))
    (long : 2 ≤ ts.length) : x.steps s ts = (.done r, s) := by
  match ts, long with
  | t :: t' :: ts, _ => exact h t t' ts

/-- The right to revoke is exactly a grant to the trimmed caller, in the capital office, with masks
that match the three parts of the key. -/
theorem mayRevoke_exact (byCount : Mask.CompilesByCount) (hs : s.Reachable)
    {office project application : String} {user : Option String}
    (ho : ∃ o, Field.office.normalize office = .ok o)
    (hp : ∃ p, Field.project.normalize project = .ok p)
    (ha : ∃ a, Field.application.normalize application = .ok a)
    (hu : ∀ raw, user = some raw → Text.trim raw = "" ∨ ∃ u, Field.user.normalize raw = .ok u) :
    ∃ b, (∀ ts : List (Turn ι), 2 ≤ ts.length →
        (mayRevoke office user project application).steps s ts = (.done (.ok b), s)) ∧
      (b = true ↔ ∃ raw, user = some raw ∧ Text.trim raw ≠ "" ∧ ∃ g ∈ s.grants.values,
        g.Permits (Text.trim raw)
          ⟨Text.upper (Text.trim office), Text.trim project,
            Text.lower (Text.trim application)⟩) := by
  obtain ⟨o, ho⟩ := ho
  obtain ⟨p, hp⟩ := hp
  obtain ⟨a, ha⟩ := ha
  obtain ⟨caller, hc, hcaller⟩ := caller?_of_accepted hu
  obtain rfl := Field.eq_casing_of_normalize ho
  obtain rfl := Field.eq_casing_of_normalize hp
  obtain rfl := Field.eq_casing_of_normalize ha
  have question : Question.ofRaw office user project application =
      .ok ⟨Field.office.casing (Text.trim office), Field.project.casing (Text.trim project),
        Field.application.casing (Text.trim application), caller⟩ := by
    simp only [Question.ofRaw, ho, hp, ha, hc, ok_bind]
    rfl
  rw [mayRevoke_eq, question, Op.check_ok_bind]
  cases caller with
  | none =>
    refine ⟨false, steps_of_two fun t t' ts => Question.steps_ask_anonymous rfl s, ?_⟩
    simp only [Bool.false_eq_true, false_iff]
    rintro ⟨raw, hr, full, -⟩
    cases (hcaller (Text.trim raw)).2 ⟨full, raw, hr, rfl⟩
  | some u =>
    obtain ⟨full, raw, rfl, rfl⟩ := (hcaller u).1 rfl
    -- the invariant rules out that a mask fails before a later grant covers the key
    have sound (g : Grant) (hg : g ∈ s.grantsOf (Text.trim raw)) : g.Sound :=
      hs.sound.of_mem (Store.mem_grantsOf.1 hg).1
    obtain ⟨found, hf, exact⟩ := firstCovering_total fun g hg => (sound g hg).covers byCount
    refine ⟨found.isSome, steps_of_two fun t t' ts => Question.steps_ask rfl hf, exact.trans ?_⟩
    constructor
    · rintro ⟨g, hg, covers⟩
      obtain ⟨mem, own⟩ := Store.mem_grantsOf.1 hg
      exact ⟨raw, rfl, full, g, mem, own ▸ ((sound g hg).covers_iff _).1 covers⟩
    · rintro ⟨_, ⟨⟩, -, g, mem, permits⟩
      have hg := Store.mem_grantsOf.2 ⟨mem, permits.user⟩
      exact ⟨g, hg, ((sound g hg).covers_iff _).2 (permits.user.symm ▸ permits)⟩

end LockRegistry.Authority

namespace LockRegistry.Authority

attribute [local instance] Regex.runner

def turn : Turn Nat := { session := 0, now := .ofNanos 0 }

def granted : Store :=
  ((Sessions.start fun _ : Nat => .allow "straße" "stra*" "fen?e" "*" " alice ").run
    [turn, turn]).store

def grant : Grant :=
  ⟨1, "STRASSE", "STRA*", "alice", "fen?e", "*", .ofNanos 0, .ofNanos 0⟩

theorem mayRevoke_granted : (mayRevoke "strasse" (some "alice") "fence" "editor").steps granted
    [turn, turn] = (.done (.ok true), granted) := by
  obtain ⟨b, answers, right⟩ := @mayRevoke_exact _ Nat granted Mask.compilesByCount_runner
    ⟨_, _, rfl⟩ "strasse" "fence" "editor" (some "alice") ⟨"STRASSE", rfl⟩ ⟨"fence", rfl⟩
    ⟨"editor", rfl⟩ (by rintro _ ⟨⟩; exact .inr ⟨"alice", rfl⟩)
  have stored : granted.grants.values = [grant] := rfl
  have office : Text.upper (Text.trim "strasse") = "STRASSE" := rfl
  have project : Text.trim "fence" = "fence" := rfl
  have application : Text.lower (Text.trim "editor") = "editor" := rfl
  have user : Text.trim "alice" = "alice" := rfl
  rw [stored, office, project, application] at right
  have matched : b = true := right.2 ⟨"alice", rfl, by decide, grant, List.mem_singleton_self _,
    user.symm, rfl, ⟨⟨"STRA*"⟩, rfl, by decide⟩, ⟨⟨"fen?e"⟩, rfl, by decide⟩,
    ⟨.any, rfl, by decide⟩⟩
  rw [answers [turn, turn] (by decide), matched]

end LockRegistry.Authority
