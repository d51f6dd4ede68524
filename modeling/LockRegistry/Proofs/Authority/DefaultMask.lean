import LockRegistry.Command.Plan
import LockRegistry.Proofs.Authority.Reselection
import LockRegistry.Proofs.Mask.Canonical
import LockRegistry.Proofs.Operation.Onward
import LockRegistry.Regex.Runner

/-! Grants that name no office mask. The office is kept as an identifier and once more as a mask,
and the mask matches the identifier whatever has become of its letters. -/

namespace LockRegistry

namespace Mask

open Text

variable {raw value : String}

lemma lower_trim_of_isStars (stars : isStars raw = true) : lower (trim raw) = trim raw := by
  have still : ∀ c ∈ (trim raw).toList, lowerLetter c = [c] := fun c hc => by
    rw [eq_of_beq (List.all_eq_true.1 stars c hc)]
    decide
  rw [lower, lowerFrom_eq_self still, String.ofList_toList]

variable [Regex.Engine]

lemma Takes.matches_trim (h : Takes raw) : Matches raw (trim raw) := by
  refine ⟨_, ofString_of_takes h, ?_⟩
  by_cases stars : isStars raw = true
  · rw [accepts_kept, program, if_pos stars, Option.all_none]
  · rw [kept, if_neg stars]
    exact accepts_self _

lemma matches_kept : Matches (kept raw) value ↔ Matches raw value := by
  rw [Matches, ofString_kept, Matches]

lemma ofString_lower_kept (raw : String) : ofString (lower (kept raw)) = ofString (lower raw) := by
  by_cases stars : isStars raw = true
  · have same : ofString (lower raw) = ofString raw :=
      ofString_congr ((trim_lower_comm raw).trans (lower_trim_of_isStars stars))
    rw [same, ← ofString_kept raw, kept, if_pos stars]
    rfl
  · rw [kept, if_neg stars]
    exact ofString_congr (by rw [trim_lower_comm, trim_lower_comm, trim_trim])

lemma matches_lower_kept : Matches (lower (kept raw)) value ↔ Matches (lower raw) value := by
  rw [Matches, ofString_lower_kept, Matches]

end Mask

def Store.Bears (s : Store) (g : Grant) : Prop :=
  ∃ g' ∈ s.grants.values, g'.key = g.key ∧ g'.officeMask = g.officeMask

namespace Authority

open Text

lemma caller?_of_takes {user : String} (h : Field.user.Takes user) :
    caller? (some user) = .ok (some (trim user)) := by
  rw [caller?, if_neg (by simpa using h.1), h.normalize]
  rfl

variable [Regex.Engine]

section Answers

variable {ι : Type} {s : Store} {g : Grant} {ts : List (Turn ι)} {key : LockKey}
  {office project application user : String}

lemma mayRevoke_of_permits (byCount : Mask.CompilesByCount) (sound : s.Sound)
    (hk : LockKey.ofRaw office project application = .ok key) (hu : Field.user.Takes user)
    (stored : g ∈ s.grants.values) (permits : g.Permits (trim user) key) (long : 2 ≤ ts.length) :
    (mayRevoke office (some user) project application).steps s ts = (.done (.ok true), s) := by
  obtain ⟨ho, hp, ha⟩ := LockKey.normalize_of_ofRaw hk
  let q : Question := ⟨key.office, key.project, key.application, some (trim user)⟩
  have question : Question.ofRaw office (some user) project application = .ok q := by
    simp only [Question.ofRaw, ho, hp, ha, caller?_of_takes hu, ok_bind]
    rfl
  obtain ⟨found, verdict, exact⟩ :=
    sound.verdict byCount ⟨_, Field.eq_casing_of_normalize ho⟩ (trim user)
  have answer (t t' : Turn ι) (ts : List (Turn ι)) :
      q.ask.steps s (t :: t' :: ts) = (.done (.ok found.isSome), s) :=
    Question.steps_ask rfl verdict
  rw [exact.2 ⟨g, stored, permits⟩] at answer
  rw [mayRevoke_eq, question, Op.check_ok_bind]
  exact steps_of_two answer ts long

end Answers

variable {s s' : Store} {g : Grant} {format : OutputFormat}
  {office user projectMask applicationMask : String} {covered covered' : String → String → Prop}

def Entitled (s : Store) (office user : String) (covered : String → String → Prop) : Prop :=
  ∀ office' user' project application key,
    LockKey.ofRaw office' project application = .ok key →
    Field.office.normalize office = .ok key.office →
    Field.user.normalize user' = Field.user.normalize user →
    covered (trim project) (lower (trim application)) →
    ∀ ts : List (Turn Nat), 2 ≤ ts.length →
      (mayRevoke office' (some user') project application).steps s ts = (.done (.ok true), s)

def Grants (s : Store) (format : OutputFormat) (office user projectMask applicationMask : String)
    (covered : String → String → Prop) : Prop :=
  ∃ op, Plan.ofRights format (.allow office user none projectMask applicationMask) =
      .operate op false ∧
    ∀ (t t' : Turn Nat) ts, ∃ g s',
      op.steps s (t :: t' :: ts) = (.done (.ok (Answer.allowed format g)), s') ∧
      s'.Reachable ∧ s'.Bears g ∧
      ∀ s'', s''.Reachable → s''.Bears g → Entitled s'' office user covered

lemma Entitled.imp (h : Entitled s office user covered)
    (less : ∀ p a, covered' p a → covered p a) : Entitled s office user covered' :=
  fun _ _ _ _ _ hk ho hu wanted => h _ _ _ _ _ hk ho hu (less _ _ wanted)

lemma Grants.imp (h : Grants s format office user projectMask applicationMask covered)
    (less : ∀ p a, covered' p a → covered p a) :
    Grants s format office user projectMask applicationMask covered' := by
  obtain ⟨op, planned, makes⟩ := h
  refine ⟨op, planned, fun t t' ts => ?_⟩
  obtain ⟨g, s', steps, reachable, bears, entitled⟩ := makes t t' ts
  exact ⟨g, s', steps, reachable, bears, fun s'' hs still => (entitled s'' hs still).imp less⟩

lemma Made.permits (byCount : Mask.CompilesByCount)
    (made : Made office office projectMask applicationMask user s' g) {g' : Grant}
    (own : g'.key = g.key) (mask : g'.officeMask = g.officeMask) {key : LockKey}
    (same : key.office = upper (trim office)) (project : Mask.Matches projectMask key.project)
    (application : Mask.Matches (lower applicationMask) key.application) :
    g'.Permits (trim user) key := by
  obtain ⟨ho, -, -, -, -⟩ := made.accepted
  obtain ⟨held, name, pm, am⟩ := GrantKey.mk.inj (own.trans made.key)
  have compiled : Mask.Takes (upper (trim office)) := by
    refine Mask.takes_of_plain byCount ?_
    rw [trim_upper (trim_trim office)]
    exact Field.hasWildcard_casing .office ho.2.1
  have itself := compiled.matches_trim
  rw [trim_upper (trim_trim office)] at itself
  refine ⟨name, held.trans same.symm, ?_, ?_, ?_⟩
  · rw [mask, made.officeMask, Mask.kept_of_takes ho, same]
    exact itself
  · rw [pm]
    exact Mask.matches_kept.2 project
  · rw [am]
    exact Mask.matches_lower_kept.2 application

lemma Made.entitled (byCount : Mask.CompilesByCount)
    (made : Made office office projectMask applicationMask user s' g) {s'' : Store}
    (hs : s''.Reachable) (bears : s''.Bears g) :
    Entitled s'' office user fun project application =>
      Mask.Matches projectMask project ∧ Mask.Matches (lower applicationMask) application := by
  intro office' user' project application key hk own caller wanted ts long
  obtain ⟨g', stored, sameKey, sameMask⟩ := bears
  obtain ⟨-, hu, -⟩ := made.accepted
  rw [hu.normalize] at caller
  have named : trim user = trim user' := Field.eq_casing_of_normalize caller
  obtain ⟨-, hp, ha⟩ := LockKey.normalize_of_ofRaw hk
  have permits : g'.Permits (trim user) key := by
    have capital := Field.eq_casing_of_normalize own
    refine made.permits byCount sameKey sameMask capital ?_ ?_
    · rw [Field.eq_casing_of_normalize hp]
      exact wanted.1
    · rw [Field.eq_casing_of_normalize ha]
      exact wanted.2
  rw [named] at permits
  exact mayRevoke_of_permits byCount hs.sound hk (Field.takes_of_normalize caller) stored permits
    long

lemma grants_of_takes (byCount : Mask.CompilesByCount) (hs : s.Reachable) (format : OutputFormat)
    (ho : Field.office.Takes office) (hu : Field.user.Takes user) (hp : Mask.Takes projectMask)
    (ha : Mask.Takes applicationMask) :
    Grants s format office user projectMask applicationMask fun project application =>
      Mask.Matches projectMask project ∧ Mask.Matches (lower applicationMask) application := by
  have key := GrantCall.ofRaw_of_takes ho hu hp ha
  have new := GrantCall.ofRaw_newGrant (Mask.takes_of_field ho)
    (.kept office user projectMask applicationMask)
  refine ⟨_, rfl, fun t t' ts => ?_⟩
  let made := s.upsertGrant t.now
    ⟨.kept office user projectMask applicationMask, upper (Mask.kept office)⟩
  -- the command makes the same call as a session would, so its store can be reached by sessions
  have steps : (Operation.allow office office projectMask applicationMask user).op.steps s
      (t :: t' :: ts) = (.done (.ok (.grant made.1)), made.2) := GrantCall.steps_allow key new
  have onward := hs.steps (.allow office office projectMask applicationMask user) (t :: t' :: ts)
  have grant := made_of_allow hs steps
  rw [steps] at onward
  refine ⟨made.1, made.2, ?_, onward, ⟨made.1, Table.mem_values_iff.2 ⟨_, grant.held⟩, rfl, rfl⟩,
    fun s'' hs'' bears => grant.entitled byCount hs'' bears⟩
  exact (GrantCall.steps_allow_bind key new _).trans (Op.steps_done ..)

lemma grants_literal (byCount : Mask.CompilesByCount) (hs : s.Reachable) (format : OutputFormat)
    (ho : Field.office.Takes office) (hu : Field.user.Takes user) {project application : String}
    (hp : hasWildcard (trim project) = false) (ha : hasWildcard (trim application) = false) :
    Grants s format office user project application fun p a =>
      p = trim project ∧ a = lower (trim application) := by
  have small : hasWildcard (trim (lower application)) = false := by
    rw [trim_lower_comm]
    exact Field.hasWildcard_casing .application ha
  have itself := (Mask.takes_of_plain byCount small).matches_trim
  rw [trim_lower_comm] at itself
  refine (grants_of_takes byCount hs format ho hu (Mask.takes_of_plain byCount hp)
    (Mask.takes_of_plain byCount ha)).imp ?_
  rintro _ _ ⟨rfl, rfl⟩
  exact ⟨(Mask.takes_of_plain byCount hp).matches_trim, itself⟩

/-- A command that grants a right and names no office mask entitles the user to revoke the locks of
the office whose project and application match the masks. -/
theorem default_office_mask (byCount : Mask.CompilesByCount) (hs : s.Reachable) {o u : String}
    (ho : Field.office.normalize office = .ok o) (hu : Field.user.normalize user = .ok u)
    (format : OutputFormat) :
    (∀ projectMask applicationMask pm am, Mask.ofString projectMask = .ok pm →
      Mask.ofString applicationMask = .ok am →
      Grants s format office user projectMask applicationMask fun project application =>
        Mask.Matches projectMask project ∧ Mask.Matches (lower applicationMask) application) ∧
    ∀ office' project application key, LockKey.ofRaw office' project application = .ok key →
      (Grants s format office user project application fun p a =>
        p = key.project ∧ a = key.application) ∧
      Grants s format office user key.project key.application fun p a =>
        p = key.project ∧ a = key.application := by
  have takesOffice := Field.takes_of_normalize ho
  have takesUser := Field.takes_of_normalize hu
  refine ⟨fun pm am _ _ hp ha => grants_of_takes byCount hs format takesOffice takesUser
    (Mask.takes_of_ofString hp) (Mask.takes_of_ofString ha),
    fun office' project application key hk => ⟨?_, ?_⟩⟩
  · obtain ⟨-, hp, ha⟩ := LockKey.takes_of_ofRaw hk
    rw [LockKey.eq_of_ofRaw hk]
    exact grants_literal byCount hs format takesOffice takesUser hp.2.1 ha.2.1
  · obtain ⟨-, hp, ha⟩ := LockKey.normalize_of_ofRaw hk
    have np := Field.isNormal_of_normalize hp
    have na := Field.isNormal_of_normalize ha
    have small : lower key.application = key.application := na.cased
    have literal := grants_literal byCount hs format takesOffice takesUser
      (np.trimmed.symm ▸ np.plain) (na.trimmed.symm ▸ na.plain)
    rwa [np.trimmed, na.trimmed, small] at literal

end Authority

namespace Authority

open Text

attribute [local instance] Regex.runner

theorem default_office_mask_sharp : ∃ op g s',
    Plan.ofRights .text (.allow "ß" "alice" none "fen?e" "EDIT*") = .operate op false ∧
      op.steps .empty [turn, turn] = (.done (.ok (Answer.allowed .text g)), s') ∧
      (mayRevoke "ss" (some " alice") "fence" "Editor").steps s' [turn, turn] =
        (.done (.ok true), s') := by
  have reachable : Store.empty.Reachable := ⟨fun _ => .listGrants {}, [], rfl⟩
  obtain ⟨op, planned, makes⟩ := (default_office_mask Mask.compilesByCount_runner reachable
    (show Field.office.normalize "ß" = .ok "SS" from rfl)
    (show Field.user.normalize "alice" = .ok "alice" from rfl) .text).1 "fen?e" "EDIT*" _ _ rfl rfl
  obtain ⟨g, s', steps, reachable', bears, entitled⟩ := makes turn turn []
  have project : Mask.Matches "fen?e" (trim "fence") := ⟨⟨"fen?e"⟩, rfl, by decide⟩
  have application : Mask.Matches (lower "EDIT*") (lower (trim "Editor")) :=
    ⟨⟨"edit*"⟩, rfl, by decide⟩
  have answered := entitled s' reachable' bears "ss" " alice" "fence" "Editor"
    ⟨"SS", "fence", "editor"⟩ rfl rfl rfl ⟨project, application⟩
  exact ⟨op, g, s', planned, steps, answered [turn, turn] (by decide)⟩

end Authority

end LockRegistry
